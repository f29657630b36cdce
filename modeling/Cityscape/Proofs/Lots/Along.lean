import Cityscape.Proofs.Lots.Placement
import Cityscape.Proofs.Scalar.Magnitude

/-!
# Lots along roads

A walk along a side of a road begins one gap behind the start of the road and goes on by a lot and
a gap at a time. So the lots it comes to begin before the end of the road and do not extend beyond
it; and unless a gap or a lot is negative they do not begin before the road does.

## Main definitions

* `LotSettings.IsForward` — no gap is negative, and no lot.
* `Placement.LiesAlong` — the lot of a building lies along a side of a live road.
* `Site.Lined` — all buildings of a site lie along roads.

## Main statements

* `Site.step_advance` — how far it is to the next place.
* `Placement.liesAlong_of_place` — all buildings that are put up lie along roads of the network.
-/

namespace Cityscape

open Placement

/-- No gap between lots is negative, and no lot is of negative width. -/
def LotSettings.IsForward {α : Type} [Scalar α] (settings : LotSettings α) : Prop :=
  0 ≤ settings.spacing ∧ ∀ spec ∈ settings.models, 0 ≤ (lotSize settings spec).x

namespace Placement

variable {α : Type} [Scalar α]

/-- How far the lot that was tried last extends is how far the lot of a model does, or what was
given when no lot was tried. -/
theorem choose_advance {p : Placement α} {o : Obstacles α} {spot : Spot α} {corner : Vec2 α}
    {distance advance last : α} {models : List (Nat × LotSpec α)}
    {found : Option (Nat × Footprint α)}
    (h : choose p o spot corner distance models advance = .ok (found, last)) :
    last = advance ∨ ∃ model ∈ models, last = (lotSize p.settings model.2).x := by
  induction models generalizing advance with
  | nil =>
    cases h
    exact .inl rfl
  | cons model rest ih =>
    obtain ⟨entry, spec⟩ := model
    have hfirst : ∃ model ∈ (entry, spec) :: rest,
        (lotSize p.settings spec).x = (lotSize p.settings model.2).x :=
      ⟨_, List.mem_cons_self, rfl⟩
    -- whatever is tried after this model, its lot has been tried
    have hnext (h : choose p o spot corner distance rest (lotSize p.settings spec).x =
        .ok (found, last)) :
        ∃ model ∈ (entry, spec) :: rest, last = (lotSize p.settings model.2).x := by
      obtain rfl | ⟨other, hmem, rfl⟩ := ih h
      · exact hfirst
      · exact ⟨other, List.mem_cons_of_mem _ hmem, rfl⟩
    right
    unfold choose at h
    simp only at h
    split at h
    · exact hnext h
    · obtain ⟨wet, -, h⟩ := bind_eq_ok.1 h
      split at h
      · exact hnext h
      · split at h
        · exact hnext h
        · cases h
          exact hfirst

end Placement

namespace Site

variable {α : Type} [Scalar α] [Trigonometry α] {s s' : Site α} {spot : Spot α}
  {distance next : α}

omit [Trigonometry α] in
theorem propose_advance {corner : Vec2 α} {found : Option (Nat × Footprint α)} {advance : α}
    {q : Placement α} (h : s.propose spot corner distance = .ok ((found, advance), q)) :
    q.settings = s.placement.settings ∧ (advance = s.placement.settings.spacing ∨
      ∃ spec ∈ s.placement.settings.models,
        advance = (lotSize s.placement.settings spec).x) := by
  obtain ⟨there, -, h⟩ := bind_eq_ok.1 h
  obtain ⟨⟨factor, q'⟩, hboost, h⟩ := bind_eq_ok.1 h
  obtain ⟨⟨found', advance'⟩, hchoose, h⟩ := bind_eq_ok.1 h
  cases h
  obtain ⟨-, -, hsettings⟩ := boost_frame hboost
  refine ⟨hsettings, ?_⟩
  rw [← hsettings]
  refine (choose_advance hchoose).imp_right ?_
  rintro ⟨model, hmem, rfl⟩
  obtain ⟨⟨spec, entry⟩, hspec, rfl⟩ := List.mem_map.1 (List.mem_of_mem_drop hmem)
  exact ⟨spec, (List.mem_zipIdx' hspec).2 ▸ List.getElem_mem _, rfl⟩

/-- The next place is a gap and a lot ahead, or two gaps when no lot was tried. -/
theorem step_advance (h : s.step spot distance = ((s', none), next)) :
    ∃ advance, next = distance + (advance + s.placement.settings.spacing) ∧
      (advance = s.placement.settings.spacing ∨ ∃ spec ∈ s.placement.settings.models,
        advance = (lotSize s.placement.settings spec).x) := by
  obtain ⟨found, advance, q, hpropose, hnext, -⟩ := step_cases h
  obtain ⟨hsettings, hadvance⟩ := propose_advance hpropose
  rw [hsettings] at hnext
  exact ⟨advance, hnext, hadvance⟩

end Site

/-! ## Walks in single precision -/

namespace Placement

variable [Trigonometry Float32] {settings : LotSettings Float32} {network : RoadNetwork Float32}

/-- The lot of a building lies along a side of a live road of a network: it is the lot of the model
of the building, it begins at some distance from one end of the road, before the other end, and does
not extend beyond that; and unless a gap or a lot is negative, all of it is between the two ends. -/
def LiesAlong (settings : LotSettings Float32) (network : RoadNetwork Float32)
    (b : PlacedBuilding Float32) : Prop :=
  ∃ spot distance spec, Borders settings network spot ∧ b.road = spot.road ∧
    b.origin = spot.corner distance ∧ settings.models[b.entry]? = some spec ∧
    b.footprint = lotAt settings spot distance spec ∧ distance < spot.length ∧
    ¬ spot.length < distance + (lotSize settings spec).x ∧
    (settings.IsForward → 0 ≤ distance ∧ distance + (lotSize settings spec).x ≤ spot.length)

end Placement

namespace Site

variable [Trigonometry Float32] {settings : LotSettings Float32} {network : RoadNetwork Float32}
  {s s' : Site Float32} {spot : Spot Float32} {distance next : Float32}

/-- All buildings of a site lie along roads of a network. -/
structure Lined (settings : LotSettings Float32) (network : RoadNetwork Float32)
    (s : Site Float32) : Prop where
  same : s.placement.settings = settings
  along : ∀ b ∈ s.placed, LiesAlong settings network b

/-- Unless a gap or a lot is negative, walks go on from what is not negative to what is not. -/
theorem forward_step (hforward : settings.IsForward) (hsame : s.placement.settings = settings)
    (hdistance : 0 ≤ distance) (h : s.step spot distance = ((s', none), next)) : 0 ≤ next := by
  obtain ⟨advance, rfl, hadvance⟩ := step_advance h
  rw [hsame] at hadvance ⊢
  have hnonneg : 0 ≤ advance := by
    obtain rfl | ⟨spec, hspec, rfl⟩ := hadvance
    · exact hforward.1
    · exact hforward.2 spec hspec
  exact Single.zero_le_add hdistance (Single.zero_le_add hnonneg hforward.1)

theorem Lined.step (h : Lined settings network s) (hspot : Borders settings network spot)
    (hdistance : settings.IsForward → 0 ≤ distance) (hlt : distance < spot.length)
    (hstep : s.step spot distance = ((s', none), next)) : Lined settings network s' := by
  obtain ⟨found, advance, q, hpropose, -, hput⟩ := step_cases hstep
  obtain ⟨there, factor, -, hboost, hstands⟩ := propose_spec hpropose
  obtain ⟨-, -, hsettings⟩ := boost_frame hboost
  rw [h.same] at hsettings hstands
  cases found with
  | none =>
    cases hput
    exact ⟨hsettings, h.along⟩
  | some lot =>
    obtain ⟨entry, f⟩ := lot
    obtain ⟨spec, hspec, hsuits, hf⟩ := (hstands entry f rfl).suits
    obtain ⟨b, hroad, horigin, rfl, rfl, -, -, -, hsame, -, hplaced⟩ := putBuilding_cases hput
    refine ⟨hsame.trans hsettings, fun c hc => ?_⟩
    rw [hplaced] at hc
    rcases Array.mem_push.1 hc with hold | rfl
    · exact h.along c hold
    · refine ⟨spot, distance, spec, hspot, hroad, horigin, hspec, hf, hlt, hsuits.fits, ?_⟩
      intro hforward
      have hsum := Single.zero_le_add (hdistance hforward)
        (hforward.2 spec (List.mem_of_getElem? hspec))
      -- both sides compare with something, so they are numbers and compare with each other
      exact ⟨hdistance hforward, Scalar.Total.le_of_not_lt
        (Scalar.Total.isNumber_of_le (Scalar.Ordered.le_of_lt hlt)).2
        (Scalar.Total.isNumber_of_le hsum).2 hsuits.fits⟩

theorem Lined.carried (settings : LotSettings Float32) (network : RoadNetwork Float32) :
    Carried settings network (Lined settings network) fun d => settings.IsForward → 0 ≤ d where
  same h := h.same
  begins hforward := hforward.1
  step h hspot hdistance hlt hstep :=
    ⟨h.step hspot hdistance hlt hstep,
      fun hforward => forward_step hforward h.same (hdistance hforward) hstep⟩

end Site

/-- All buildings that are put up along the roads of a network lie along them. -/
theorem Placement.liesAlong_of_place [Trigonometry Float32] {p : Placement Float32}
    {network : RoadNetwork Float32} {o : Obstacles Float32} {workshop : Workshop Float32}
    {s : Site Float32} (h : p.place network o workshop = (s, none)) :
    ∀ b ∈ s.placed, LiesAlong p.settings network b :=
  ((Site.Lined.carried p.settings network).place ⟨rfl, by simp⟩ h).along

end Cityscape
