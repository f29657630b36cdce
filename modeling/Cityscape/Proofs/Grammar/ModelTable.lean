import Mathlib
import Cityscape.Proofs.Grammar.Yields

/-!
# Tables of models

The names of the models and the parts that show them are two lists, and a part refers to its name by
a place in the first of them. The two stay in step: a name is entered with the first part that shows
it, and they are only ever emptied together. So the calls that placed the parts tell both lists, and
the parts are divided among the names of the table.

## Main definitions

* `Derivation.spawnModels` — calls that place models, one after the other.
* `Tabulates` — a table of names and a list of parts are those of calls that placed models.
* `ModelStep`, `Derivation.stepModels`, `ModelStep.left` — what is done to the models of a state,
  and the calls whose parts are left.

## Main statements

* `Tabulates.spawnModel` — a call keeps names and parts in step.
* `tabulates_stepModels` — names and parts are in step after any steps.
* `Tabulates.sum_count` — the parts are divided among the names.
-/

namespace Cityscape.Grammar

variable {α : Type}

/-! ## Distinct entries -/

theorem eraseDups_append_singleton (l : List String) (a : String) :
    (l ++ [a]).eraseDups = if a ∈ l then l.eraseDups else l.eraseDups ++ [a] := by
  rw [List.eraseDups_append]
  split
  next h => simp [List.removeAll, h]
  next h => simp [List.removeAll, h, List.eraseDups_cons]

theorem nodup_eraseDups (l : List String) : l.eraseDups.Nodup := by
  induction l using List.reverseRec with
  | nil => exact .nil
  | append_singleton l a ih =>
    rw [eraseDups_append_singleton]
    split
    · exact ih
    next h => exact ih.append (List.nodup_singleton a) (by simpa using h)

/-- The entries of a list are divided among the distinct ones. -/
theorem sum_count_eraseDups (l : List String) :
    (l.eraseDups.map fun a => l.count a).sum = l.length := by
  have hperm : l.eraseDups.Perm l.dedup :=
    (List.perm_ext_iff_of_nodup (nodup_eraseDups l) l.nodup_dedup).2 fun a => by
      rw [List.mem_eraseDups, List.mem_dedup]
  rw [(hperm.map _).sum_eq, List.sum_map_count_dedup_eq_length]

/-! ## Calls -/

/-- Places models by the names and shapes of calls, one after the other. -/
def Derivation.spawnModels (d : Derivation α) (calls : List (String × Shape α)) : Derivation α :=
  calls.foldl (fun d call => d.spawnModel call.1 call.2) d

/-- A table of names and a list of model parts are those of calls that placed models, each by a name
and a shape: the table has the names of the calls in the order of their first use, and each part has
the box of the shape and refers to the name of its call. -/
structure Tabulates (calls : List (String × Shape α)) (names : Array String)
    (parts : Array (ModelPart α)) : Prop where
  firstUse : names.toList = (calls.map (·.1)).eraseDups
  resolves : parts.toList.map (fun p => (names[p.model]?, p.part)) =
    calls.map fun call => (some call.1, call.2.box)

namespace Tabulates

variable {calls : List (String × Shape α)} {names : Array String} {parts : Array (ModelPart α)}
  {d : Derivation α}

theorem empty : Tabulates (α := α) [] #[] #[] := ⟨rfl, rfl⟩

theorem nodup (h : Tabulates calls names parts) : names.toList.Nodup :=
  h.firstUse ▸ nodup_eraseDups _

theorem mem_names_iff (h : Tabulates calls names parts) {name : String} :
    name ∈ names ↔ name ∈ calls.map (·.1) := by
  rw [← Array.mem_toList_iff, h.firstUse, List.mem_eraseDups]

theorem model_lt (h : Tabulates calls names parts) {p : ModelPart α} (hp : p ∈ parts) :
    p.model < names.size := by
  have hmem : (names[p.model]?, p.part) ∈ calls.map fun call => (some call.1, call.2.box) :=
    h.resolves ▸ List.mem_map.2 ⟨p, hp.val, rfl⟩
  obtain ⟨call, -, hcall⟩ := List.mem_map.1 hmem
  exact (Array.getElem?_eq_some_iff.1 (Prod.mk.inj hcall).1.symm).1

/-- No name of the table is without parts. -/
theorem exists_part (h : Tabulates calls names parts) {i : ℕ} (hi : i < names.size) :
    ∃ p ∈ parts, p.model = i := by
  obtain ⟨call, hcall, hname⟩ := List.mem_map.1 (h.mem_names_iff.1 (Array.getElem_mem hi))
  have hmem : (some call.1, call.2.box) ∈
      parts.toList.map fun p => (names[p.model]?, p.part) :=
    h.resolves ▸ List.mem_map.2 ⟨call, hcall, rfl⟩
  obtain ⟨p, hp, hpart⟩ := List.mem_map.1 hmem
  obtain ⟨hlt, hget⟩ := Array.getElem?_eq_some_iff.1 (Prod.mk.inj hpart).1
  exact ⟨p, Array.mem_toList_iff.1 hp, (h.nodup.getElem_inj_iff).1 (hget.trans hname)⟩

/-- A table that words of 32 bits can number loses nothing when the places are stored in such
words. -/
theorem toNat_toUInt32 (h : Tabulates calls names parts) (hsize : names.size ≤ 2 ^ 32)
    {p : ModelPart α} (hp : p ∈ parts) : p.model.toUInt32.toNat = p.model :=
  Nat.mod_eq_of_lt (Nat.lt_of_lt_of_le (h.model_lt hp) hsize)

theorem size_parts (h : Tabulates calls names parts) : parts.size = calls.length := by
  simpa using congrArg List.length h.resolves

theorem places (h : Tabulates calls d.modelNames d.parts) : d.Places (calls.map (·.1)) where
  nodup := h.nodup
  parts := by
    have hfirst := congrArg (List.map Prod.fst) h.resolves
    simpa [Function.comp_def] using hfirst

/-- A call enters its name if that is new, and adds one part. -/
theorem spawnModel (h : Tabulates calls d.modelNames d.parts) (name : String) (s : Shape α) :
    Tabulates (calls ++ [(name, s)]) (d.spawnModel name s).modelNames
      (d.spawnModel name s).parts := by
  have hfirst : ((calls ++ [(name, s)]).map (·.1)).eraseDups =
      if name ∈ d.modelNames then d.modelNames.toList else d.modelNames.toList ++ [name] := by
    rw [List.map_append, List.map_cons, List.map_nil, eraseDups_append_singleton, h.firstUse,
      if_congr h.mem_names_iff.symm rfl rfl]
  unfold Derivation.spawnModel
  split
  next model hmodel =>
    have hname := Derivation.getElem?_of_idxOf? hmodel
    constructor
    · rw [hfirst, if_pos (Array.mem_of_getElem? hname)]
    · simp [h.resolves, hname]
  next hnone =>
    constructor
    · rw [hfirst, if_neg (Array.idxOf?_eq_none_iff.1 hnone), Array.toList_push]
    · -- The places of the parts that there are still lead to the names they did.
      have hold : ∀ p ∈ d.parts.toList, ((d.modelNames.push name)[p.model]?, p.part) =
          (d.modelNames[p.model]?, p.part) := by
        intro p hp
        rw [Array.getElem?_push, if_neg (Nat.ne_of_lt (h.model_lt (Array.mem_toList_iff.1 hp)))]
      rw [Array.toList_push, List.map_append, List.map_congr_left hold, h.resolves]
      simp

theorem spawnModels (h : Tabulates calls d.modelNames d.parts)
    (calls' : List (String × Shape α)) :
    Tabulates (calls ++ calls') (d.spawnModels calls').modelNames (d.spawnModels calls').parts := by
  induction calls' generalizing calls d with
  | nil => simpa [Derivation.spawnModels] using h
  | cons call calls' ih =>
    rw [List.append_cons]
    exact ih (h.spawnModel call.1 call.2)

/-- The parts are divided among the names. -/
theorem sum_count (h : Tabulates calls names parts) :
    (names.toList.map fun name => (calls.map (·.1)).count name).sum = parts.size := by
  rw [h.firstUse, sum_count_eraseDups, List.length_map, h.size_parts]

end Tabulates

/-! ## Steps -/

/-- What is done to the models of a state. -/
inductive ModelStep (α : Type)
  | place (name : String) (shape : Shape α)
  /-- Names and parts are handed over. -/
  | take
  | clear

variable [Scalar α]

def Derivation.stepModels (d : Derivation α) : ModelStep α → Derivation α
  | .place name shape => d.spawnModel name shape
  | .take => d.takeModels.2
  | .clear => d.clear

omit [Scalar α] in
/-- The calls whose parts are left when steps follow on some calls: those after the last step that
took or cleared the models. -/
def ModelStep.left (calls : List (String × Shape α)) (steps : List (ModelStep α)) :
    List (String × Shape α) :=
  steps.foldl (fun calls step =>
    match step with
    | .place name shape => calls ++ [(name, shape)]
    | .take | .clear => []) calls

theorem Tabulates.stepModels {calls : List (String × Shape α)} {d : Derivation α}
    (h : Tabulates calls d.modelNames d.parts) (step : ModelStep α) :
    Tabulates (ModelStep.left calls [step]) (d.stepModels step).modelNames
      (d.stepModels step).parts := by
  cases step with
  | place name shape => exact h.spawnModel name shape
  | take | clear => exact .empty

/-- Names and parts are in step after any steps. -/
theorem tabulates_stepModels {calls : List (String × Shape α)} {d : Derivation α}
    (h : Tabulates calls d.modelNames d.parts) (steps : List (ModelStep α)) :
    Tabulates (ModelStep.left calls steps) (steps.foldl Derivation.stepModels d).modelNames
      (steps.foldl Derivation.stepModels d).parts := by
  induction steps generalizing calls d with
  | nil => exact h
  | cons step steps ih => exact ih (h.stepModels step)

end Cityscape.Grammar
