import Cityscape.Proofs.Growth.Crossings

/-!
# Growth and its index

Two maps of the same network may keep their entries in different buckets. What is built on them is
the same as long as the searches of a proposed road are definite: whatever they could find is in
sight, and no two things that the same search could find are equally far away. The first is not
always so: a road that is crossed is taken into account wherever its midpoint lies, if only the
index happens to return it.

## Main definitions

* `Agree` — two computations fail alike, or both succeed with results that are related.
* `Surroundings.Distinct`, `Surroundings.Definite` — nothing ties in a search of a road; besides,
  everything that could be found is in sight.

## Main statements

* `RoadMap.surroundings_congr` — definite searches find the same on any two maps of a network.
* `RoadMap.join_agree` — a road that fits the terrain is built alike.
* `Growth.build_agree` — a proposed road is built alike.
-/

namespace Cityscape

/-! ## Computations that agree -/

/-- Both computations fail in the same way, or both succeed and a relation holds between their
results. -/
inductive Agree {ε β γ : Type} (r : β → γ → Prop) : Except ε β → Except ε γ → Prop
  | error (e : ε) : Agree r (.error e) (.error e)
  | ok {b : β} {c : γ} (h : r b c) : Agree r (.ok b) (.ok c)

theorem Agree.refl {ε β : Type} {r : β → β → Prop} (hr : ∀ b, r b b) (x : Except ε β) :
    Agree r x x := by
  cases x with
  | error e => exact .error e
  | ok b => exact .ok (hr b)

theorem Agree.bind {ε β γ β' γ' : Type} {r : β → γ → Prop} {r' : β' → γ' → Prop}
    {x : Except ε β} {y : Except ε γ} (h : Agree r x y) {f : β → Except ε β'}
    {g : γ → Except ε γ'} (hfg : ∀ b c, r b c → Agree r' (f b) (g c)) :
    Agree r' (x >>= f) (y >>= g) := by
  cases h with
  | error e => exact .error e
  | ok h => exact hfg _ _ h

variable {α : Type} [Scalar α]

/-! ## Settings -/

namespace GrowthSettings

/-- The same settings but for the capacity of the index. -/
def withCapacity {α : Type} (settings : GrowthSettings α) (capacity : Nat) : GrowthSettings α :=
  { settings with capacity }

end GrowthSettings

namespace Land

variable (land : Land α) (settings : GrowthSettings α) (capacity : Nat) (plan : RoadPlan α)
  (start : Vec2 α)

theorem isBuildable_withCapacity (finish : Vec2 α) (highway : Bool) :
    land.isBuildable (settings.withCapacity capacity) start finish highway =
      land.isBuildable settings start finish highway := rfl

theorem shorten_withCapacity (limit length : α) (fuel : Nat) :
    shorten land (settings.withCapacity capacity) plan start limit fuel length =
      shorten land settings plan start limit fuel length := by
  induction fuel generalizing length with
  | zero => rfl
  | succ fuel ih => simp only [shorten, isBuildable_withCapacity, ih]

variable [Trigonometry α]

theorem swing_withCapacity (left angle : Nat) :
    swing land (settings.withCapacity capacity) plan start left angle =
      swing land settings plan start left angle := by
  induction left generalizing angle with
  | zero => rfl
  | succ left ih => simp only [swing, isBuildable_withCapacity, ih]

/-- How a plan is fitted into the terrain has nothing to do with the index. -/
theorem settle_withCapacity :
    land.settle (settings.withCapacity capacity) plan start = land.settle settings plan start := by
  simp only [settle, adjust, isBuildable_withCapacity, shorten_withCapacity, swing_withCapacity]
  rfl

end Land

/-! ## Changes of a map -/

namespace RoadMap

variable {m m' : RoadMap α}

/-- Two maps that are given together with equal values have the same network. -/
def Alike {β : Type} (x y : β × RoadMap α) : Prop := x.1 = y.1 ∧ x.2.network = y.2.network

theorem addCrossroad_alike (h : m.network = m'.network) (p : Vec2 α) :
    Alike (m.addCrossroad p) (m'.addCrossroad p) := by
  rw [addCrossroad_eq, addCrossroad_eq, h]
  exact ⟨rfl, rfl⟩

theorem addRoad_agree (h : m.network = m'.network) (start finish : CrossroadId) (highway : Bool) :
    Agree Alike (m.addRoad start finish highway) (m'.addRoad start finish highway) := by
  unfold addRoad
  rw [h]
  refine (Agree.refl (r := Eq) (fun _ => rfl) _).bind ?_
  rintro ⟨id, network⟩ _ rfl
  simp only
  split <;> exact .ok ⟨rfl, rfl⟩

theorem network_removeRoad_congr (h : m.network = m'.network) (id : RoadId) :
    (m.removeRoad id).network = (m'.removeRoad id).network := by
  unfold removeRoad
  rw [h]
  cases m'.network.removeRoad? id with
  | none => exact h
  | some removed => rfl

theorem splitRoad_agree (h : m.network = m'.network) (p : Vec2 α) (id : RoadId) (minimum : α) :
    Agree (Option.Rel Alike) (m.splitRoad p id minimum) (m'.splitRoad p id minimum) := by
  have hadded := addCrossroad_alike (network_removeRoad_congr h id) p
  unfold splitRoad
  rw [h]
  split
  next ends road _ _ =>
    split
    · exact .ok .none
    · split
      · exact .ok .none
      · generalize (m.removeRoad id).addCrossroad p = x at hadded
        generalize (m'.removeRoad id).addCrossroad p = y at hadded
        obtain ⟨c, m₁⟩ := x
        obtain ⟨c', m₁'⟩ := y
        obtain ⟨rfl, hnetwork⟩ := hadded
        refine (addRoad_agree hnetwork road.start c road.highway).bind ?_
        rintro ⟨first, m₂⟩ ⟨first', m₂'⟩ ⟨-, hnetwork⟩
        refine (addRoad_agree hnetwork c road.finish road.highway).bind ?_
        rintro ⟨second, m₃⟩ ⟨second', m₃'⟩ ⟨-, hnetwork⟩
        exact .ok (.some ⟨rfl, hnetwork⟩)
  · exact .ok .none

theorem makeEnd_agree (h : m.network = m'.network) (start : CrossroadId) (minimum : α)
    (e : Ending α) :
    Agree (Option.Rel fun x y => x.1 = y.1 ∧ Alike x.2 y.2) (m.makeEnd start minimum e)
      (m'.makeEnd start minimum e) := by
  cases e with
  | fresh p =>
    obtain ⟨hid, hnetwork⟩ := addCrossroad_alike h p
    exact .ok (.some ⟨hid, rfl, hnetwork⟩)
  | split p id =>
    refine (splitRoad_agree h p id minimum).bind ?_
    rintro _ _ (⟨⟨hid, hnetwork⟩⟩ | _)
    · exact .ok (.some ⟨hid, rfl, hnetwork⟩)
    · exact .ok .none
  | existing c =>
    simp only [makeEnd, h]
    split
    · exact .ok .none
    · exact .ok (.some ⟨rfl, rfl, h⟩)

end RoadMap

/-! ## Definite searches -/

namespace Surroundings

/-- One of the three searches can find what an entry leads to. -/
def Counts (network : RoadNetwork α) (start : CrossroadId) (proposed : Segment α) (radius : α)
    (x : MapItem α) : Prop :=
  (crossingOf network proposed x).isSome ∨ (roadOf network proposed radius x).isSome ∨
    (crossroadOf start proposed radius x).isSome

instance (network : RoadNetwork α) (start : CrossroadId) (proposed : Segment α) (radius : α)
    (x : MapItem α) : Decidable (Counts network start proposed radius x) :=
  inferInstanceAs (Decidable (_ ∨ _))

/-- No two things that the same search can find are equally far away. -/
structure Distinct (network : RoadNetwork α) (start : CrossroadId) (proposed : Segment α)
    (radius : α) : Prop where
  crossings : Untied (·.2.2) (network.entries.filterMap (crossingOf network proposed))
  roads : Untied (·.2) (network.entries.filterMap (roadOf network proposed radius))
  crossroads : Untied (·.2) (network.entries.filterMap (crossroadOf start proposed radius))

instance (network : RoadNetwork α) (start : CrossroadId) (proposed : Segment α) (radius : α) :
    Decidable (Distinct network start proposed radius) :=
  decidable_of_iff (_ ∧ _ ∧ _) ⟨fun h => ⟨h.1, h.2.1, h.2.2⟩, fun h => ⟨h.1, h.2, h.3⟩⟩

/-- Besides, everything that the searches can find is in sight. -/
structure Definite (network : RoadNetwork α) (start : CrossroadId) (proposed : Segment α)
    (radius reach : α) : Prop extends Distinct network start proposed radius where
  inSight : ∀ x ∈ network.entries, Counts network start proposed radius x →
    proposed.Sees reach (Positioned.position x)

instance (network : RoadNetwork α) (start : CrossroadId) (proposed : Segment α)
    (radius reach : α) : Decidable (Definite network start proposed radius reach) :=
  decidable_of_iff (_ ∧ _) ⟨fun h => ⟨h.1, h.2⟩, fun h => ⟨h.1, h.2⟩⟩

end Surroundings

namespace RoadMap

variable [Scalar.Total α] {m m' : RoadMap α} {start : CrossroadId} {proposed : Segment α}

/-- Definite searches find the same, whichever buckets the entries are kept in. -/
theorem surroundings_congr {radius reach : α} (h : m.network = m'.network) (hm : m.Mirrors)
    (hm' : m'.Mirrors)
    (hdefinite : Surroundings.Definite m.network start proposed radius reach) :
    m.surroundings start proposed radius reach = m'.surroundings start proposed radius reach := by
  cases harea : Rect.around proposed.finish reach with
  | error fault => simp [surroundings, harea, bind, Except.bind]
  | ok area =>
    obtain ⟨near, hnear⟩ : ∃ near, m.surroundings start proposed radius reach = .ok near :=
      ⟨_, by simp only [surroundings, harea]; rfl⟩
    obtain ⟨near', hnear'⟩ : ∃ near, m'.surroundings start proposed radius reach = .ok near :=
      ⟨_, by simp only [surroundings, harea]; rfl⟩
    obtain ⟨found, rfl, hsub, hall⟩ := surroundings_cases hm hnear
    obtain ⟨found', rfl, hsub', hall'⟩ := surroundings_cases hm' hnear'
    rw [← h] at hsub' hall' hnear'
    have hboth (x : MapItem α) (hx : x ∈ m.network.entries)
        (hcounts : Surroundings.Counts m.network start proposed radius x) :
        x ∈ found ∧ x ∈ found' := by
      have hsees := hdefinite.inSight x hx hcounts
      exact ⟨hall x hx hsees, hall' x hx hsees⟩
    rw [hnear, hnear', Surroundings.ofEntries, Surroundings.ofEntries,
      Surroundings.closest_eq hsub hsub' (fun x hx hc => hboth x hx (.inl hc)) hdefinite.crossings,
      Surroundings.closest_eq hsub hsub' (fun x hx hc => hboth x hx (.inr (.inl hc)))
        hdefinite.roads,
      Surroundings.closest_eq hsub hsub' (fun x hx hc => hboth x hx (.inr (.inr hc)))
        hdefinite.crossroads]

/-- A road that fits the terrain is built alike on any two maps of a network. -/
theorem join_agree (h : m.network = m'.network) (hm : m.Mirrors) (hm' : m'.Mirrors)
    {settings : GrowthSettings α} {plan : RoadPlan α}
    (hdefinite : Surroundings.Definite m.network start proposed
      (Scalar.round (plan.length * settings.reach)) plan.length) :
    Agree Alike (m.join settings plan start proposed) (m'.join settings plan start proposed) := by
  unfold join
  simp only [surroundings_congr h hm hm' hdefinite]
  refine (Agree.refl (r := Eq) (fun _ => rfl) _).bind ?_
  rintro near _ rfl
  rw [h]
  refine (makeEnd_agree h _ _ _).bind ?_
  rintro _ _ hmade
  cases hmade with
  | none => exact .ok ⟨rfl, h⟩
  | @some made made' hmade =>
    obtain ⟨finish, merged, m₁⟩ := made
    obtain ⟨finish', merged', m₁'⟩ := made'
    obtain ⟨rfl, rfl, hnetwork⟩ := hmade
    refine (addRoad_agree hnetwork start finish plan.highway).bind ?_
    rintro ⟨road, m₂⟩ ⟨road', m₂'⟩ ⟨rfl, hnetwork⟩
    exact .ok ⟨rfl, hnetwork⟩

end RoadMap

namespace Growth

open Surroundings

variable [Scalar.Total α] [Trigonometry α] {g g' : Growth α}

/-- On the same land, with the same settings and the same network, a proposed road is built alike
whichever buckets the two indices keep their entries in, when its searches are definite once it was
fitted into the terrain. -/
theorem build_agree (hland : g.land = g'.land)
    (hsettings : g.settings = g'.settings.withCapacity g.settings.capacity)
    (hnetwork : g.map.network = g'.map.network) (hm : g.map.Mirrors) (hm' : g'.map.Mirrors)
    (plan : RoadPlan α) (start : CrossroadId)
    (hdefinite : ∀ origin fitted, g.map.network.position? start = some origin →
      g.land.settle g.settings plan origin = .ok (some fitted) →
      Definite g.map.network start ⟨origin, Land.planEnd fitted origin⟩
        (Scalar.round (fitted.length * g.settings.reach)) fitted.length) :
    Agree (fun x y => x.1 = y.1 ∧ x.2.map.network = y.2.map.network) (g.build plan start)
      (g'.build plan start) := by
  have hmap : Agree RoadMap.Alike (g.map.build g.land g.settings plan start)
      (g'.map.build g'.land g'.settings plan start) := by
    unfold RoadMap.build
    rw [← hnetwork]
    cases horigin : g.map.network.position? start with
    | none => exact .ok ⟨rfl, hnetwork⟩
    | some origin =>
      have hsettle : g'.land.settle g'.settings plan origin =
          g.land.settle g.settings plan origin := by
        rw [← hland, hsettings, Land.settle_withCapacity]
      simp only [hsettle]
      cases hfitted : g.land.settle g.settings plan origin with
      | error fault => exact .error fault
      | ok settled =>
        cases settled with
        | none => exact .ok ⟨rfl, hnetwork⟩
        | some fitted =>
          have hjoin := RoadMap.join_agree hnetwork hm hm' (hdefinite origin fitted horigin hfitted)
          have hsame : g'.map.join g.settings fitted start ⟨origin, Land.planEnd fitted origin⟩ =
              g'.map.join g'.settings fitted start ⟨origin, Land.planEnd fitted origin⟩ := by
            rw [hsettings]
            rfl
          rw [hsame] at hjoin
          exact hjoin
  refine hmap.bind ?_
  rintro ⟨outcome, map⟩ ⟨outcome', map'⟩ ⟨rfl, hsame⟩
  exact .ok ⟨rfl, hsame⟩

/-- Both maps of a byway on the plain let a longer road across it split it. -/
theorem build_agree_roadOnPlain :
    let g := roadOnPlain 1 ⟨⟨1, 0⟩, ⟨1, 5⟩⟩ [⟨0.5, 1⟩]
    let g' := roadOnPlain 4 ⟨⟨1, 0⟩, ⟨1, 5⟩⟩ [⟨0.5, 1⟩]
    Agree (fun x y => x.1 = y.1 ∧ x.2.map.network = y.2.map.network)
      (g.build ⟨2, ⟨1, 0⟩, false⟩ 2) (g'.build ⟨2, ⟨1, 0⟩, false⟩ 2) := by
  intro g g'
  have hcomputed : (g.map.network.position? 2).all (fun origin =>
      (g.land.settle g.settings ⟨2, ⟨1, 0⟩, false⟩ origin).toOption.all (Option.all fun fitted =>
        decide (Definite g.map.network 2 ⟨origin, Land.planEnd fitted origin⟩
          (Scalar.round (fitted.length * g.settings.reach)) fitted.length))) = true := by
    decide +kernel
  refine @build_agree _ _ _ _ g g' rfl rfl rfl (RoadMap.mirrors_ofNetwork _ _ _)
    (RoadMap.mirrors_ofNetwork _ _ _) _ _ fun origin fitted horigin hfitted => ?_
  simp only [horigin, hfitted, Except.toOption, Option.all_some] at hcomputed
  exact of_decide_eq_true hcomputed

/-- A shorter road, which crosses the byway too far from the middle of the byway, splits it only if
the index happens to return it, although nothing ties in any search. -/
theorem build_differs_roadOnPlain :
    let g := roadOnPlain 1 ⟨⟨1, 0⟩, ⟨1, 5⟩⟩ [⟨0.5, 1⟩]
    let g' := roadOnPlain 4 ⟨⟨1, 0⟩, ⟨1, 5⟩⟩ [⟨0.5, 1⟩]
    let plan : RoadPlan Float32 := ⟨1, ⟨1, 0⟩, false⟩
    let finish := Land.planEnd plan ⟨0.5, 1⟩
    g.land = g'.land ∧ g.settings = g'.settings.withCapacity g.settings.capacity ∧
      g.map.network = g'.map.network ∧ g.map.Mirrors ∧ g'.map.Mirrors ∧
      g.land.isBuildable g.settings ⟨0.5, 1⟩ finish false = .ok true ∧
      Distinct g.map.network 2 ⟨⟨0.5, 1⟩, finish⟩ (Scalar.round (plan.length * g.settings.reach)) ∧
      ∃ outcome outcome' v v', g.build plan 2 = .ok (outcome, v) ∧
        g'.build plan 2 = .ok (outcome', v') ∧ outcome.verdict = .succeeded ∧
        outcome'.verdict = .merged := by
  intro g g' plan finish
  have hverdicts : (do
      let built ← g.build plan 2
      let built' ← g'.build plan 2
      return (built.1.verdict, built'.1.verdict)) = .ok (.succeeded, .merged) := by
    decide +kernel
  obtain ⟨⟨outcome, v⟩, hbuild, h⟩ := bind_eq_ok.1 hverdicts
  obtain ⟨⟨outcome', v'⟩, hbuild', h⟩ := bind_eq_ok.1 h
  obtain ⟨hverdict, hverdict'⟩ := Prod.mk.inj (Except.ok.inj h)
  refine ⟨rfl, rfl, rfl, RoadMap.mirrors_ofNetwork _ _ _, RoadMap.mirrors_ofNetwork _ _ _, ?_, ?_,
    outcome, outcome', v, v', hbuild, hbuild', hverdict, hverdict'⟩
  · decide +kernel
  · decide +kernel

end Growth

end Cityscape
