import Cityscape.Proofs.Lots.Obstacles
import Cityscape.Proofs.RoadNetwork.Pairs
import Cityscape.Proofs.Scalar.Magnitude

/-!
# What blocks a lot

A lot is tested only against the entries that the index returns for its surroundings. The entries
are all that is known (`Obstacles.Knows`) and nothing else (`Obstacles.Backed`), so the test lies
between two scans of all roads and lots: it finds what collides and is indexed in the surroundings,
and whatever it finds collides.

## Main definitions

* `Obstacles.Backed` — every entry of the index stands for a road or for a reserved lot.
* `Segment.IsFinite`, `Footprint.IsFinite` — all ends or corners are finite.
* `Obstacles.ScanHits` — a scan of all roads and lots comes upon something that is in the way.

## Main statements

* `Obstacles.backed_ofNetwork`, `Obstacles.Backed.reserveAll` — nothing else enters the index.
* `Obstacles.isBlocked_reserveAll` — what blocks a lot among the roads of a network and the lots
  reserved so far.
-/

namespace Cityscape

open Scalar

/-! ## Finite roads and lots -/

def Segment.IsFinite (s : Segment Float32) : Prop := s.start.IsFinite ∧ s.finish.IsFinite

instance (s : Segment Float32) : Decidable s.IsFinite := inferInstanceAs (Decidable (_ ∧ _))

namespace Footprint

def IsFinite (f : Footprint Float32) : Prop := ∀ c ∈ f.corners, c.IsFinite

instance (f : Footprint Float32) : Decidable f.IsFinite :=
  inferInstanceAs (Decidable (∀ c ∈ f.corners, c.IsFinite))

open Single

/-- The centre of a lot between finite corners may be infinite, but its coordinates are numbers. -/
theorem IsFinite.isDefined_centre {f : Footprint Float32} (h : f.IsFinite) :
    IsDefined (parts f.centre.x) ∧ IsDefined (parts f.centre.y) := by
  obtain ⟨h0, h1, h2, h3⟩ : f.c0.IsFinite ∧ f.c1.IsFinite ∧ f.c2.IsFinite ∧ f.c3.IsFinite := by
    simpa [IsFinite, corners] using h
  have hfour : parts (4.0 : Float32) = .finite .positive 8388608 (-21) (by decide) := rfl
  have hmean {a b c d : Float32} (ha : Single.Finite a) (hb : Single.Finite b)
      (hc : Single.Finite c) (hd : Single.Finite d) :
      IsDefined (parts ((0 + a + b + c + d) / 4.0)) := by
    have hzero : IsDefined (parts 0) := trivial
    have hsum : IsDefined (parts (0 + a + b + c + d)) :=
      ((((hzero.add_finite ha).repack.add_finite hb).repack.add_finite hc).repack.add_finite
        hd).repack
    rw [parts_div, hfour]
    exact (hsum.div_finite _ _ _ _).repack
  exact ⟨hmean h0.1 h1.1 h2.1 h3.1, hmean h0.2 h1.2 h2.2 h3.2⟩

end Footprint

namespace Obstacles

/-! ## What the entries of the index stand for -/

section

variable {α : Type} [Scalar α]

/-- Every entry of the index stands for one of some roads, or for a reserved lot by the place and
the centre of that very lot. -/
structure Backed (roads : RoadId → Segment α → Prop) (o : Obstacles α) : Prop where
  road {id : RoadId} {s : Segment α} : .road id s ∈ o.index.items → roads id s
  lot {i : Nat} {c : Vec2 α} : .lot i c ∈ o.index.items →
    ∃ f, o.lots[i]? = some f ∧ c = f.centre

variable {o : Obstacles α} {roads : RoadId → Segment α → Prop}

theorem backed_empty (capacity : Nat) (bounds : Rect α) :
    Backed roads ⟨.empty capacity bounds, #[], 0⟩ where
  road h := absurd h List.not_mem_nil
  lot h := absurd h List.not_mem_nil

theorem Backed.addRoad (h : o.Backed roads) {network : RoadNetwork α}
    (hroads : ∀ id s, network.segment? id = some s → roads id s) (id : RoadId) :
    (o.addRoad network id).Backed roads := by
  unfold Obstacles.addRoad
  split
  next s hs =>
    constructor
    · intro j t hmem
      rcases (o.index.mem_items_insert _ _).1 hmem with hnew | hold
      · cases hnew
        exact hroads id s hs
      · exact h.road hold
    · intro i c hmem
      rcases (o.index.mem_items_insert _ _).1 hmem with hnew | hold
      · cases hnew
      · exact h.lot hold
  next => exact h

/-- The entries for a network stand for its roads. -/
theorem backed_ofNetwork (network : RoadNetwork α) (bounds : Rect α) (capacity : Nat) :
    (ofNetwork network bounds capacity).Backed fun id s => network.segment? id = some s := by
  have hall (ids : List (RoadId × Road α)) {o : Obstacles α}
      (h : o.Backed fun id s => network.segment? id = some s) :
      (ids.foldl (fun o x => o.addRoad network x.1) o).Backed fun id s =>
        network.segment? id = some s := by
    induction ids generalizing o with
    | nil => exact h
    | cons x ids ih => exact ih (h.addRoad (fun _ _ hs => hs) x.1)
  exact hall network.roads (backed_empty capacity bounds)

theorem Backed.reserve (h : o.Backed roads) (f : Footprint α) : (o.reserve f).Backed roads := by
  constructor
  · intro id s hmem
    rcases (o.index.mem_items_insert _ _).1 hmem with hnew | hold
    · cases hnew
    · exact h.road hold
  · intro i c hmem
    rcases (o.index.mem_items_insert _ _).1 hmem with hnew | hold
    · cases hnew
      exact ⟨f, Array.getElem?_push_size, rfl⟩
    · obtain ⟨g, hg, rfl⟩ := h.lot hold
      have hlt := (Array.getElem?_eq_some_iff.1 hg).1
      refine ⟨g, ?_, rfl⟩
      rw [Obstacles.reserve, Array.getElem?_push_lt hlt]
      exact congrArg some (Array.getElem?_eq_some_iff.1 hg).2

theorem Backed.reserveAll (h : o.Backed roads) (lots : List (Footprint α)) :
    (o.reserveAll lots).Backed roads := by
  induction lots generalizing o with
  | nil => exact h
  | cons f lots ih => exact ih (h.reserve f)

/-- Whatever blocks a lot, a scan of all roads and lots comes upon it. -/
theorem Backed.exists_of_isBlocked (h : o.Backed roads) {f : Footprint α} {host : RoadId}
    (hblocked : o.isBlocked f host = true) :
    (∃ id s, roads id s ∧ id ≠ host ∧ f.meets s = true) ∨
      ∃ (i : Nat) (g : Footprint α), o.lots[i]? = some g ∧ f.overlaps g = true := by
  obtain ⟨x, hx, hcollides⟩ := List.any_eq_true.1 hblocked
  have hmem : x ∈ o.index.items := (o.index.query_sublist_items _).mem hx
  cases x with
  | road id s =>
    obtain ⟨hne, hmeets⟩ : id ≠ host ∧ f.meets s = true := by simpa [collides] using hcollides
    exact .inl ⟨id, s, h.road hmem, hne, hmeets⟩
  | lot i c =>
    obtain ⟨g, hg, -⟩ := h.lot hmem
    exact .inr ⟨i, g, hg, by simpa [collides, hg] using hcollides⟩

end

/-! ## Roads of a network and lots reserved so far -/

variable (network : RoadNetwork Float32) (lots : List (Footprint Float32))

/-- A scan of all roads and lots, those whose middle or centre is near, comes upon another road than
`host` that a lot meets, or upon a lot that it overlaps. -/
def ScanHits (f : Footprint Float32) (host : RoadId) (near : Vec2 Float32 → Prop) : Prop :=
  (∃ id s, network.segment? id = some s ∧ id ≠ host ∧ near s.middle ∧ f.meets s = true) ∨
    ∃ g ∈ lots, near g.centre ∧ f.overlaps g = true

/-- After any reservations among the roads of a network, a lot is blocked when a scan of the
surroundings, which are as wide as the reach, comes upon something, and only when a scan of
everything does. The reach is at least half the length of every road, and at least the distance of
every corner of a reserved lot from the centre of its lot, as far as these lengths are numbers,
which they always are between finite places. And the lots in the index are the reserved ones, by
their places and centres. -/
theorem isBlocked_reserveAll (bounds : Rect Float32) (capacity : Nat) :
    let o := (ofNetwork network bounds capacity).reserveAll lots
    (∀ f host,
      (ScanHits network lots f host (f.bounds.inflate o.reach).Encloses →
        o.isBlocked f host = true) ∧
      (o.isBlocked f host = true → ScanHits network lots f host fun _ => True)) ∧
    (∀ id s, network.segment? id = some s →
      s.IsFinite ∨ IsNumber (s.start.distance s.finish / 2.0) →
        s.start.distance s.finish / 2.0 ≤ o.reach) ∧
    (∀ g ∈ lots, ∀ c ∈ g.corners, g.IsFinite ∨ IsNumber (c.distance g.centre) →
      c.distance g.centre ≤ o.reach) ∧
    o.lots.toList = lots ∧
    ∀ i c, .lot i c ∈ o.index.items ↔ ∃ g, lots[i]? = some g ∧ c = g.centre := by
  intro o
  have hknows : o.Knows fun id s => network.segment? id = some s :=
    (knows_ofNetwork network bounds capacity).reserveAll lots
  have hbacked : o.Backed fun id s => network.segment? id = some s :=
    (backed_ofNetwork network bounds capacity).reserveAll lots
  have hkept : o.lots.toList = lots := by
    rw [lots_reserveAll, lots_ofNetwork]
    rfl
  have hget (i : Nat) : o.lots[i]? = lots[i]? := by
    rw [← hkept, Array.getElem?_toList]
  have hplace {g : Footprint Float32} (hg : g ∈ lots) : ∃ i : Nat, o.lots[i]? = some g := by
    obtain ⟨i, hi⟩ := List.mem_iff_getElem?.1 hg
    exact ⟨i, (hget i).trans hi⟩
  refine ⟨fun f host => ⟨?_, ?_⟩, ?_, ?_, hkept, fun i c => ⟨fun hmem => ?_, ?_⟩⟩
  · intro hhit
    by_contra hfree
    have hfree := eq_false_of_ne_true hfree
    rcases hhit with ⟨id, s, hs, hne, hnear, hmeets⟩ | ⟨g, hg, hnear, hoverlaps⟩
    · cases hmeets.symm.trans (hknows.not_meets hfree hs hne hnear)
    · obtain ⟨i, hi⟩ := hplace hg
      cases hoverlaps.symm.trans (hknows.not_overlaps hfree hi hnear)
  · intro hblocked
    rcases hbacked.exists_of_isBlocked hblocked with
      ⟨id, s, hs, hne, hmeets⟩ | ⟨i, g, hg, hoverlaps⟩
    · exact .inl ⟨id, s, hs, hne, trivial, hmeets⟩
    · exact .inr ⟨g, List.mem_of_getElem? ((hget i).symm.trans hg), trivial, hoverlaps⟩
  · rintro id s hs (hfinite | hnumber)
    · exact hknows.road_reach hs (hfinite.1.isNumber_half_distance hfinite.2)
    · exact hknows.road_reach hs hnumber
  · intro g hg c hc hlength
    obtain ⟨i, hi⟩ := hplace hg
    refine hknows.lot_reach hi hc ?_
    rcases hlength with hfinite | hnumber
    · exact (hfinite c hc).isNumber_distance hfinite.isDefined_centre
    · exact hnumber
  · obtain ⟨g, hg, rfl⟩ := hbacked.lot hmem
    exact ⟨g, (hget i).symm.trans hg, rfl⟩
  · rintro ⟨g, hg, rfl⟩
    exact hknows.lot ((hget i).trans hg)

/-- Beside a road and a lot: one place overlaps the lot, one meets the road, which is not its own,
and one is free; half the road and the corners of the lot are within reach. -/
theorem isBlocked_reserveAll_besideRoad :
    let network : RoadNetwork Float32 := .ofRoad ⟨⟨1, 4⟩, ⟨4, 4⟩⟩ []
    let lot : Footprint Float32 := ⟨⟨1, 5⟩, ⟨3, 5⟩, ⟨3, 7⟩, ⟨1, 7⟩⟩
    let o := (ofNetwork network ⟨⟨0, 0⟩, ⟨8, 8⟩⟩ 1).reserveAll [lot]
    o.isBlocked ⟨⟨2, 5⟩, ⟨4, 5⟩, ⟨4, 7⟩, ⟨2, 7⟩⟩ 0 = true ∧
      o.isBlocked ⟨⟨2, 3⟩, ⟨3, 3⟩, ⟨3, 5⟩, ⟨2, 5⟩⟩ 1 = true ∧
      o.isBlocked ⟨⟨4, 5⟩, ⟨6, 5⟩, ⟨6, 7⟩, ⟨4, 7⟩⟩ 0 = false ∧
      (1.5 ≤ o.reach ∧ ∀ c ∈ lot.corners, c.distance lot.centre ≤ o.reach) ∧
      .lot 0 lot.centre ∈ o.index.items := by
  intro network lot o
  obtain ⟨htest, hroad, hlot, -, hindex⟩ :=
    isBlocked_reserveAll network [lot] ⟨⟨0, 0⟩, ⟨8, 8⟩⟩ 1
  have hends : network.segment? 0 = some ⟨⟨1, 4⟩, ⟨4, 4⟩⟩ := rfl
  have honly (id : RoadId) (s : Segment Float32) (hs : network.segment? id = some s) : id = 0 := by
    obtain ⟨x, hx, rfl⟩ := RoadNetwork.mem_roads_of_segment? hs
    have hids : ∀ x ∈ network.roads, x.1 = 0 := by decide +kernel
    exact hids x hx
  refine ⟨?_, ?_, ?_, ⟨?_, ?_⟩, ?_⟩
  · exact (htest _ 0).1 (.inr ⟨lot, List.mem_singleton_self lot, by decide +kernel⟩)
  · exact (htest _ 1).1 (.inl ⟨0, _, hends, Nat.zero_ne_one, by decide +kernel⟩)
  · by_contra hblocked
    rcases (htest _ 0).2 (eq_true_of_ne_false hblocked) with ⟨id, s, hs, hne, -⟩ | ⟨g, hg, -, hover⟩
    · exact hne (honly id s hs)
    · cases List.mem_singleton.1 hg
      exact absurd hover (by decide +kernel)
  · exact Ordered.le_trans (by decide +kernel) (hroad 0 _ hends (.inl (by decide +kernel)))
  · exact fun c hc => hlot lot (List.mem_singleton_self lot) c hc (.inl (by decide +kernel))
  · exact (hindex 0 _).2 ⟨lot, rfl, rfl⟩

end Obstacles

end Cityscape
