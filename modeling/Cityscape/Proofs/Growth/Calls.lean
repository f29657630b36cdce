import Cityscape.Proofs.Growth.Runs
import Cityscape.Proofs.RoadMap.Index

/-!
# Calls of a growing network

A growing network can be asked for crossroads and roads one by one, and it can be asked to grow on
its own. Whatever it was asked for, its index mirrors the network.

## Main definitions

* `Call` — what a growing network can be asked for.
* `Growth.perform` — what a call does.
* `Growth.Visits` — the states between calls, and between the tasks of the calls that let it grow.

## Main statements

* `Growth.index_of_visits` — the index holds an entry for each crossroad and for each road and
  nothing else, in every state that is visited.
-/

namespace Cityscape

/-- What a growing network can be asked for. -/
inductive Call (α : Type)
  /-- A new crossroad. -/
  | addCrossroad (position : Vec2 α)
  /-- A road between two of its crossroads. -/
  | addRoad (start finish : CrossroadId) (highway : Bool)
  /-- A road that is fitted in. -/
  | build (plan : RoadPlan α) (start : CrossroadId)
  /-- A new crossroad on a road. -/
  | split (place : Vec2 α) (road : RoadId) (minimum : α)
  /-- A new network, grown from a centre. -/
  | generate (centre : Vec2 α) (direction : Option (Vec2 α))

namespace Growth

variable {α : Type} [Scalar α] [Trigonometry α] {g g' v : Growth α}

/-- The state after a call. -/
def perform (g : Growth α) : Call α → Except Fault (Growth α)
  | .addCrossroad position => return (g.addCrossroad position).2
  | .addRoad start finish highway => do return (← g.addRoad start finish highway).2
  | .build plan start => do return (← g.build plan start).2
  | .split place road minimum => do
    match ← g.map.splitRoad place road minimum with
    | some (_, map) => return { g with map }
    | none => return g
  | .generate centre direction => g.generate centre direction

/-- The states that calls lead through: those before, between and after the calls, and those that
growth passes in a call that lets the network grow. -/
def Visits (g : Growth α) (calls : List (Call α)) (v : Growth α) : Prop :=
  ∃ done rest reached, calls = done ++ rest ∧ done.foldlM perform g = .ok reached ∧
    (v = reached ∨ ∃ centre direction, rest.head? = some (.generate centre direction) ∧
      reached.Passes centre direction v)

theorem visits_refl (g : Growth α) (calls : List (Call α)) : g.Visits calls g :=
  ⟨[], calls, g, rfl, rfl, .inl rfl⟩

theorem visits_passes {centre : Vec2 α} {direction : Option (Vec2 α)} (calls : List (Call α))
    (h : g.Passes centre direction v) : g.Visits (.generate centre direction :: calls) v :=
  ⟨[], _, g, rfl, rfl, .inr ⟨centre, direction, rfl, h⟩⟩

theorem visits_cons {call : Call α} {calls : List (Call α)} (hcall : g.perform call = .ok g')
    (h : g'.Visits calls v) : g.Visits (call :: calls) v := by
  obtain ⟨done, rest, reached, rfl, hdone, hv⟩ := h
  refine ⟨call :: done, rest, reached, rfl, ?_, hv⟩
  rw [List.foldlM_cons, hcall]
  exact hdone

/-- A visited state is reached by some of the calls, or passed in the next one. -/
theorem Visits.take {calls : List (Call α)} (h : g.Visits calls v) :
    ∃ k ≤ calls.length, ∃ reached, (calls.take k).foldlM perform g = .ok reached ∧
      (v = reached ∨ ∃ centre direction, calls[k]? = some (.generate centre direction) ∧
        reached.Passes centre direction v) := by
  obtain ⟨done, rest, reached, rfl, hdone, hv⟩ := h
  refine ⟨done.length, by simp, reached, ?_, ?_⟩
  · rw [List.take_left]
    exact hdone
  · rwa [List.getElem?_append_right (Nat.le_refl _), Nat.sub_self, ← List.head?_eq_getElem?]

theorem Visits.cases {call : Call α} {calls : List (Call α)} (h : g.Visits (call :: calls) v) :
    v = g ∨ (∃ centre direction, call = .generate centre direction ∧
      g.Passes centre direction v) ∨ ∃ g', g.perform call = .ok g' ∧ g'.Visits calls v := by
  obtain ⟨done, rest, reached, hcalls, hdone, hv⟩ := h
  cases done with
  | nil =>
    cases hdone
    obtain rfl : call :: calls = rest := hcalls
    obtain hv | ⟨centre, direction, hhead, hpass⟩ := hv
    · exact .inl hv
    · exact .inr (.inl ⟨centre, direction, Option.some.inj hhead, hpass⟩)
  | cons first done =>
    obtain ⟨rfl, rfl⟩ := List.cons.inj hcalls
    rw [List.foldlM_cons] at hdone
    obtain ⟨g', hfirst, hdone⟩ := bind_eq_ok.1 hdone
    exact .inr (.inr ⟨g', hfirst, done, rest, reached, rfl, hdone, hv⟩)

/-! ## The index -/

theorem mirrors_of_step (hv : v.map.Mirrors) (hplaced : v.map.network.IsPlaced)
    (h : v.step = .ok g') : g'.map.Mirrors := by
  obtain ⟨hmap, -⟩ | ⟨plan, start, outcome, hbuild, -⟩ := step_cases h
  · rw [hmap]
    exact hv
  · exact hv.build hplaced hbuild

theorem mirrors_of_plant {centre : Vec2 α} {direction : Option (Vec2 α)}
    (h : g.plant centre direction = .ok v) : v.map.Mirrors := by
  rw [(plant_cases h).1]
  exact g.map.mirrors_clear.addCrossroad centre

/-- A call keeps the index of the network, as long as no midpoint of a road is anything but a pair
of numbers. -/
theorem mirrors_of_perform {call : Call α} (hg : g.map.Mirrors) (hplaced : g.map.network.IsPlaced)
    (hpasses : ∀ centre direction, call = .generate centre direction →
      ∀ v, g.Passes centre direction v → v.map.network.IsPlaced)
    (h : g.perform call = .ok g') : g'.map.Mirrors := by
  cases call with
  | addCrossroad position =>
    cases h
    exact hg.addCrossroad position
  | addRoad start finish highway =>
    obtain ⟨⟨id, added⟩, hadded, h⟩ := bind_eq_ok.1 h
    obtain ⟨⟨_, map⟩, hmap, hadded⟩ := bind_eq_ok.1 hadded
    cases hadded
    cases h
    exact hg.addRoad hmap
  | build plan start =>
    obtain ⟨⟨outcome, built⟩, hbuilt, h⟩ := bind_eq_ok.1 h
    obtain ⟨map, hmap, rfl⟩ := build_eq_ok hbuilt
    cases h
    exact hg.build hplaced hmap
  | split place road minimum =>
    obtain ⟨made, hmade, h⟩ := bind_eq_ok.1 h
    cases made with
    | none =>
      cases h
      exact hg
    | some made =>
      cases h
      exact hg.splitRoad hplaced hmade
  | generate centre direction =>
    exact holds_of_generate (P := fun v => v.map.Mirrors) (fun v hv => mirrors_of_plant hv)
      (fun v v' hpass hv hstep => mirrors_of_step hv (hpasses centre direction rfl v hpass) hstep)
      (fun v hv => hv) (fun v hv => hv) h

theorem mirrors_of_visits {calls : List (Call α)} (hg : g.map.Mirrors)
    (hplaced : ∀ v, g.Visits calls v → v.map.network.IsPlaced) (hv : g.Visits calls v) :
    v.map.Mirrors := by
  induction calls generalizing g with
  | nil =>
    obtain ⟨done, rest, reached, hcalls, hdone, hv⟩ := hv
    obtain ⟨rfl, rfl⟩ := List.append_eq_nil_iff.1 hcalls.symm
    cases hdone
    obtain rfl | ⟨centre, direction, hhead, -⟩ := hv
    · exact hg
    · cases hhead
  | cons call calls ih =>
    have hpasses (centre : Vec2 α) (direction : Option (Vec2 α))
        (hcall : call = .generate centre direction) (v : Growth α)
        (h : g.Passes centre direction v) : v.map.network.IsPlaced := by
      rw [hcall] at hplaced
      exact hplaced v (visits_passes calls h)
    obtain rfl | ⟨centre, direction, hcall, hpass⟩ | ⟨g', hcall, hv⟩ := hv.cases
    · exact hg
    · exact holds_of_passes (P := fun v => v.map.Mirrors) (fun v hv => mirrors_of_plant hv)
        (fun v v' h hv hstep => mirrors_of_step hv (hpasses centre direction hcall v h) hstep)
        (fun v hv => hv) hpass
    · have hg' := mirrors_of_perform hg (hplaced g (visits_refl g _)) hpasses hcall
      exact ih hg' (fun w hw => hplaced w (visits_cons hcall hw)) hv

/-- Whatever a network is asked for, its index holds an entry for each crossroad and for each road
and nothing else, as long as no midpoint of a road gets a coordinate that is not a number. -/
theorem index_of_visits {land : Land α} {bounds : Rect α} {settings : GrowthSettings α}
    {calls : List (Call α)}
    (hplaced : ∀ v, (start land bounds settings).Visits calls v → v.map.network.IsPlaced)
    {v : Growth α} (hv : (start land bounds settings).Visits calls v) :
    v.map.index.items.Perm v.map.network.entries :=
  (mirrors_of_visits (RoadMap.mirrors_empty _ _) hplaced hv).items

/-- In a single round with a single task, growth passes the state before it and the state after. -/
theorem Passes.eq_or_step {centre : Vec2 α} {direction : Option (Vec2 α)} {planted : Growth α}
    (h : g.Passes centre direction v) (hplanted : g.plant centre direction = .ok planted)
    (hlimit : g.roundLimit = 1) (hsize : planted.queue.size = 1) :
    v = planted ∨ planted.step = .ok v := by
  obtain ⟨begin, rounds, begun, count, hbegin, hrounds, hrun, hle, hv⟩ := h
  obtain rfl : planted = begin := Except.ok.inj (hplanted.symm.trans hbegin)
  obtain rfl : rounds = 0 := by omega
  obtain rfl : planted = begun := Except.ok.inj hrun
  have hcount : count = 0 ∨ count = 1 := by omega
  rcases hcount with rfl | rfl
  · exact .inl (Except.ok.inj hv).symm
  · right
    rwa [handleFirst_succ] at hv

/-- A road across a plain, split by a byway and then once more. -/
def roadworks : List (Call Float32) :=
  [.addCrossroad ⟨0, 3⟩, .addCrossroad ⟨4, 3⟩, .addRoad 0 1 true, .addCrossroad ⟨2, 1⟩,
    .build ⟨4, ⟨0, 1⟩, false⟩ 2, .split ⟨1, 3⟩ 0 0.5]

/-- The roadworks, and then a single round of growth. -/
theorem index_of_visits_roadworks :
    let g := onPlain { GrowthSettings.standard with rounds := 1, roadLength := 2 }
    let calls := roadworks ++ [.generate ⟨0, 2⟩ (some ⟨1, 0⟩)]
    (∀ v, g.Visits calls v → v.map.network.IsPlaced) ∧
      ∃ v, calls.foldlM perform g = .ok v ∧ v.map.index.items.Perm v.map.network.entries := by
  intro g calls
  have hbetween : ∀ k ∈ List.range 8, (match (calls.take k).foldlM perform g with
      | .ok v => decide v.map.network.IsPlaced
      | .error _ => true) = true := by decide +kernel
  have hgrowth : (do
      let g ← (calls.take 6).foldlM perform g
      let planted ← g.plant ⟨0, 2⟩ (some ⟨1, 0⟩)
      let v ← planted.step
      return (g.roundLimit, planted.queue.size, decide planted.map.network.IsPlaced,
        decide v.map.network.IsPlaced)) = .ok (1, 1, true, true) := by decide +kernel
  have hplaced : ∀ v, g.Visits calls v → v.map.network.IsPlaced := by
    intro v hv
    obtain ⟨k, hk, reached, hreached, rfl | ⟨centre, direction, hcall, hpass⟩⟩ := hv.take
    · have hcheck := hbetween k (List.mem_range.2 (Nat.lt_succ_of_le hk))
      rw [hreached] at hcheck
      exact of_decide_eq_true hcheck
    · have hgenerate : k = 6 ∧ centre = ⟨0, 2⟩ ∧ direction = some ⟨1, 0⟩ := by
        -- only the last of the calls lets the network grow
        rcases k with _ | _ | _ | _ | _ | _ | _ | k <;> cases hcall
        exact ⟨rfl, rfl, rfl⟩
      obtain ⟨rfl, rfl, rfl⟩ := hgenerate
      obtain ⟨first, hfirst, hgrowth⟩ := bind_eq_ok.1 hgrowth
      obtain ⟨planted, hplanted, hgrowth⟩ := bind_eq_ok.1 hgrowth
      obtain ⟨last, hlast, hgrowth⟩ := bind_eq_ok.1 hgrowth
      obtain rfl : reached = first := Except.ok.inj (hreached.symm.trans hfirst)
      have hchecks := Except.ok.inj hgrowth
      simp only [Prod.mk.injEq, decide_eq_true_eq] at hchecks
      obtain ⟨hlimit, hsize, hbefore, hafter⟩ := hchecks
      obtain rfl | hstep := hpass.eq_or_step hplanted hlimit hsize
      · exact hbefore
      · obtain rfl : last = v := Except.ok.inj (hlast.symm.trans hstep)
        exact hafter
  refine ⟨hplaced, ?_⟩
  have hok : (calls.foldlM perform g).isOk := by decide +kernel
  obtain ⟨v, hv⟩ := exists_eq_ok hok
  exact ⟨v, hv, index_of_visits hplaced ⟨calls, [], v, by simp, hv, .inl rfl⟩⟩

end Growth

end Cityscape
