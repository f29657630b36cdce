/-!
# First-in first-out queues

A queue as two lists, with its content as one list.

## Main definitions

* `Fifo` — a queue.
* `Fifo.toList` — its content, the oldest element first.
* `Fifo.push`, `Fifo.pop?` — adding behind and taking in front.
-/

namespace Cityscape

/-- A queue: the elements to be taken next, and the newest elements in reverse. -/
structure Fifo (β : Type) where
  /-- The elements to be taken next. -/
  front : List β
  /-- The newest elements, the newest first. -/
  back : List β
  size : Nat
  size_eq : size = front.length + back.length

namespace Fifo

variable {β : Type}

/-- The content of a queue, the oldest element first. -/
def toList (q : Fifo β) : List β := q.front ++ q.back.reverse

def empty : Fifo β := ⟨[], [], 0, rfl⟩

def isEmpty (q : Fifo β) : Bool := q.size == 0

def push (q : Fifo β) (b : β) : Fifo β :=
  ⟨q.front, b :: q.back, q.size + 1, by simp [q.size_eq, Nat.add_assoc]⟩

/-- The oldest element and the queue without it. -/
def pop? (q : Fifo β) : Option (β × Fifo β) :=
  match q with
  | ⟨b :: front, back, size, h⟩ => some (b, ⟨front, back, size - 1, by simp at h; omega⟩)
  | ⟨[], back, _, _⟩ =>
    match back.reverse with
    | [] => none
    | b :: front => some (b, ⟨front, [], front.length, by simp⟩)

@[simp] theorem toList_empty : (empty : Fifo β).toList = [] := rfl

@[simp] theorem toList_push (q : Fifo β) (b : β) : (q.push b).toList = q.toList ++ [b] := by
  simp [toList, push]

@[simp] theorem length_toList (q : Fifo β) : q.toList.length = q.size := by
  simp [toList, q.size_eq]

theorem pop?_eq_none_iff (q : Fifo β) : q.pop? = none ↔ q.toList = [] := by
  obtain ⟨_ | ⟨b, front⟩, back, size, h⟩ := q
  · simp only [pop?, toList, List.nil_append]
    cases back.reverse <;> simp
  · simp [pop?, toList]

theorem toList_of_pop? {q r : Fifo β} {b : β} (h : q.pop? = some (b, r)) :
    q.toList = b :: r.toList := by
  obtain ⟨_ | ⟨c, front⟩, back, size, hs⟩ := q
  · simp only [pop?] at h
    cases hb : back.reverse with
    | nil => simp [hb] at h
    | cons c front =>
      simp only [hb, Option.some.injEq, Prod.mk.injEq] at h
      obtain ⟨rfl, rfl⟩ := h
      simp [toList, hb]
  · simp only [pop?, Option.some.injEq, Prod.mk.injEq] at h
    obtain ⟨rfl, rfl⟩ := h
    simp [toList]

end Fifo

end Cityscape
