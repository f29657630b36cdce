import Cityscape.Proofs.Lots.Placement

/-!
# Buildings that are used again

For each model a limited number of buildings is derived, and all others are chosen among them. So
what the cache holds for a model are the first buildings that were put up for it, in their order,
and the workshop derived these and nothing else, however often it was asked to line roads.

## Main definitions

* `Placement.originals` — of some buildings, those that were derived when they were put up.
* `Workshop.Derives` — a workshop derives some buildings, one after the other.
* `Placement.Serves` — roads of networks are lined, one network after the other.

## Main statements

* `Site.building_cases` — a building is used again, or it is derived and kept.
* `Placement.countP_originals` — how many buildings of a model are derived.
* `Placement.stocked_of_serves` — what the cache holds, and what the workshop did.
-/

namespace Cityscape

variable {α : Type}

namespace Placement

/-! ## Originals -/

/-- A building of the model with a given number. -/
def ofEntry (entry : Nat) (b : PlacedBuilding α) : Bool := b.entry == entry

/-- Of some buildings that are put up after some earlier ones, those that are among the first ones
of their model, up to a limit. -/
def originals (limit : Nat) : List (PlacedBuilding α) → List (PlacedBuilding α) →
    List (PlacedBuilding α)
  | _, [] => []
  | earlier, b :: rest =>
    let later := originals limit (earlier ++ [b]) rest
    if earlier.countP (ofEntry b.entry) < limit then b :: later else later

variable {limit : Nat} {earlier placed : List (PlacedBuilding α)} {b : PlacedBuilding α}

theorem originals_append (limit : Nat) (earlier xs ys : List (PlacedBuilding α)) :
    originals limit earlier (xs ++ ys) =
      originals limit earlier xs ++ originals limit (earlier ++ xs) ys := by
  induction xs generalizing earlier with
  | nil => simp [originals]
  | cons b xs ih => grind [originals]

/-- A further building is an original as long as there are fewer of its model than the limit. -/
theorem originals_snoc (limit : Nat) (earlier placed : List (PlacedBuilding α))
    (b : PlacedBuilding α) : originals limit earlier (placed ++ [b]) =
      originals limit earlier placed ++
        if (earlier ++ placed).countP (ofEntry b.entry) < limit then [b] else [] := by
  rw [originals_append]
  simp [originals]

theorem originals_sublist : (originals limit earlier placed).Sublist placed := by
  induction placed generalizing earlier with
  | nil => exact .slnil
  | cons b rest ih =>
    unfold originals
    split
    · exact ih.cons_cons b
    · exact ih.cons b

/-- Of each model there are as many originals as buildings, up to the limit. -/
theorem countP_originals (limit : Nat) (placed : List (PlacedBuilding α)) (entry : Nat) :
    (originals limit [] placed).countP (ofEntry entry) =
      min limit (placed.countP (ofEntry entry)) := by
  induction placed using List.reverseRecOn with
  | nil => simp [originals]
  | append_singleton placed b ih =>
    rw [originals_snoc, List.nil_append, List.countP_append, List.countP_append, ih]
    by_cases hentry : b.entry = entry
    · subst hentry
      split <;> simp [ofEntry] at * <;> omega
    · have hother : ofEntry entry b = false := by simpa [ofEntry] using hentry
      split <;> simp [hother]

theorem countP_entry_succ (placed : List (PlacedBuilding α)) (n : Nat) :
    placed.countP (·.entry < n + 1) =
      placed.countP (·.entry < n) + placed.countP (ofEntry n) := by
  induction placed with
  | nil => rfl
  | cons b placed ih =>
    simp only [List.countP_cons, ih, ofEntry, decide_eq_true_eq, beq_iff_eq]
    split_ifs <;> omega

/-- Buildings of the first models are counted model by model. -/
theorem countP_entry_lt (placed : List (PlacedBuilding α)) (n : Nat) :
    placed.countP (·.entry < n) =
      ((List.range n).map fun entry => placed.countP (ofEntry entry)).sum := by
  induction n with
  | zero => simp
  | succ n ih =>
    rw [countP_entry_succ, ih, List.range_succ, List.map_append, List.sum_append]
    simp

end Placement

variable [Scalar α] [Trigonometry α]

/-! ## What the workshop does -/

namespace Workshop

/-- A workshop derives some buildings one after the other, each with the rule set of its model and
for the lot of its model, and does nothing else. -/
inductive Derives (settings : LotSettings α) : Workshop α → List (PlacedBuilding α) →
    Workshop α → Prop
  | nil (w : Workshop α) : Derives settings w [] w
  | snoc {w v v' : Workshop α} {derived : List (PlacedBuilding α)} {b : PlacedBuilding α}
      {spec : LotSpec α} (h : Derives settings w derived v)
      (hspec : settings.models[b.entry]? = some spec)
      (hgenerate : v.generate spec.ruleSet spec.lot = (.ok b.building, v')) :
      Derives settings w (derived ++ [b]) v'

end Workshop

namespace Placement

/-- A building that is put up is one of those that are cached for its model, which was derived with
the rule set of the model for its lot. -/
structure Uses (settings : LotSettings α) (cache : Array (Array (Building α)))
    (b : PlacedBuilding α) : Prop where
  cached : (cache.getD b.entry #[])[b.copy]? = some b.building
  derived : ∃ spec v v', settings.models[b.entry]? = some spec ∧ b.ruleSet = spec.ruleSet ∧
    Workshop.generate v spec.ruleSet spec.lot = (.ok b.building, v')

/-- The cache of some settings holds the originals of some buildings, for each model in their order,
and all these buildings use it. -/
structure Holds (settings : LotSettings α) (cache : Array (Array (Building α)))
    (placed : List (PlacedBuilding α)) : Prop where
  size : cache.size = settings.models.length
  toList (entry : Nat) : (cache.getD entry #[]).toList =
    ((originals (max settings.cacheSize 1) [] placed).filter (ofEntry entry)).map (·.building)
  uses {b : PlacedBuilding α} : b ∈ placed → Uses settings cache b

namespace Holds

variable {settings : LotSettings α} {cache : Array (Array (Building α))}
  {placed : List (PlacedBuilding α)} {b : PlacedBuilding α}

omit [Scalar α] [Trigonometry α] in
theorem getD_modify {entry i : Nat} (h : entry < cache.size) (x : Building α) :
    (cache.modify entry (·.push x)).getD i #[] =
      if i = entry then (cache.getD entry #[]).push x else cache.getD i #[] := by
  simp only [Array.getD_eq_getD_getElem?, Array.getElem?_modify]
  grind

/-- As many buildings are cached for a model as were put up for it, up to the limit. -/
theorem size_getD (h : Holds settings cache placed) (entry : Nat) :
    (cache.getD entry #[]).size =
      min (max settings.cacheSize 1) (placed.countP (ofEntry entry)) := by
  rw [← Array.length_toList, h.toList, List.length_map, ← List.countP_eq_length_filter,
    countP_originals]

/-- A model has as many cached buildings as it may have once as many were put up for it. -/
theorem full_iff (h : Holds settings cache placed) (entry : Nat) :
    max settings.cacheSize 1 ≤ (cache.getD entry #[]).size ↔
      max settings.cacheSize 1 ≤ placed.countP (ofEntry entry) := by
  rw [h.size_getD]
  omega

/-- A building that is used again, when its model has as many as it may have. -/
theorem reuse (h : Holds settings cache placed) {spec : LotSpec α}
    (hspec : settings.models[b.entry]? = some spec) (hrules : b.ruleSet = spec.ruleSet)
    (hfull : max settings.cacheSize 1 ≤ placed.countP (ofEntry b.entry))
    (hcached : (cache.getD b.entry #[])[b.copy]? = some b.building) :
    Holds settings cache (placed ++ [b]) := by
  refine ⟨h.size, fun entry => ?_, fun {c} hc => ?_⟩
  · rw [originals_snoc, List.nil_append, if_neg (by omega), List.append_nil]
    exact h.toList entry
  · obtain hc | hc := List.mem_append.1 hc
    · exact h.uses hc
    · obtain rfl := List.mem_singleton.1 hc
      -- it was an original before
      have hmem : c.building ∈ (cache.getD c.entry #[]).toList := by
        rw [List.mem_iff_getElem?]
        exact ⟨c.copy, by simpa using hcached⟩
      rw [h.toList, List.mem_map] at hmem
      obtain ⟨original, horiginal, hsame⟩ := hmem
      obtain ⟨horiginal, hentry⟩ := List.mem_filter.1 horiginal
      obtain ⟨spec', v, v', hspec', -, hgenerate⟩ :=
        (h.uses (originals_sublist.subset horiginal)).derived
      rw [show original.entry = c.entry by simpa [ofEntry] using hentry, hspec] at hspec'
      cases hspec'
      exact ⟨hcached, spec, v, v', hspec, hrules, hsame ▸ hgenerate⟩

/-- A building that is derived, when its model does not have as many as it may have. -/
theorem derive (h : Holds settings cache placed) {spec : LotSpec α} {v v' : Workshop α}
    (hspec : settings.models[b.entry]? = some spec) (hrules : b.ruleSet = spec.ruleSet)
    (hroom : placed.countP (ofEntry b.entry) < max settings.cacheSize 1)
    (hcopy : b.copy = (cache.getD b.entry #[]).size)
    (hgenerate : v.generate spec.ruleSet spec.lot = (.ok b.building, v')) :
    Holds settings (cache.modify b.entry (·.push b.building)) (placed ++ [b]) := by
  have hentry : b.entry < cache.size := by
    rw [h.size]
    exact (List.getElem?_eq_some_iff.1 hspec).1
  refine ⟨by rw [Array.size_modify, h.size], fun entry => ?_, fun {c} hc => ?_⟩
  · rw [originals_snoc, List.nil_append, if_pos hroom, List.filter_append, List.map_append,
      ← h.toList, getD_modify hentry]
    by_cases hsame : entry = b.entry
    · rw [if_pos hsame, hsame, Array.toList_push, List.filter_cons_of_pos (by simp [ofEntry])]
      rfl
    · rw [if_neg hsame, List.filter_cons_of_neg (by simpa [ofEntry] using Ne.symm hsame)]
      simp
  · obtain hc | hc := List.mem_append.1 hc
    · obtain ⟨hcached, hderived⟩ := h.uses hc
      refine ⟨?_, hderived⟩
      rw [getD_modify hentry]
      by_cases hsame : c.entry = b.entry
      · rw [if_pos hsame, ← hsame, Array.getElem?_push, hcached]
        have hlt := (Array.getElem?_eq_some_iff.1 hcached).1
        rw [if_neg (by omega)]
      · rwa [if_neg hsame]
    · obtain rfl := List.mem_singleton.1 hc
      refine ⟨?_, spec, v, v', hspec, hrules, hgenerate⟩
      rw [getD_modify hentry, if_pos rfl, hcopy, Array.getElem?_push_size]

end Holds

end Placement

/-! ## Lining roads -/

namespace Site

open Placement

variable {s s' : Site α}

/-- A building for a model is used again if the model has as many as it may have; otherwise it is
derived by the workshop, whose state changes only then, and kept. -/
theorem building_cases {entry copy : Nat} {spec : LotSpec α} {b : Building α}
    (h : s.building entry spec = (.ok (copy, b), s')) :
    (max s.placement.settings.cacheSize 1 ≤ (s.placement.cache.getD entry #[]).size ∧
      (s.placement.cache.getD entry #[])[copy]? = some b ∧ s'.workshop = s.workshop ∧
      s'.placement.cache = s.placement.cache) ∨
    (s.placement.cache.getD entry #[]).size < max s.placement.settings.cacheSize 1 ∧
      copy = (s.placement.cache.getD entry #[]).size ∧
      s.workshop.generate spec.ruleSet spec.lot = (.ok b, s'.workshop) ∧
      s'.placement.cache = s.placement.cache.modify entry (·.push b) := by
  unfold building at h
  simp only at h
  split at h
  next hfull =>
    split at h
    · cases h
    · split at h
      next hcached =>
        cases h
        exact .inl ⟨hfull, hcached, rfl, rfl⟩
      · cases h
  next hroom =>
    split at h
    · cases h
    next hgenerate =>
      cases h
      exact .inr ⟨by omega, rfl, hgenerate, rfl⟩

/-- What has come of a site since some buildings were put up earlier, by a placement with some
settings and a workshop in some state: the cache holds the originals among all buildings, and the
workshop derived those that were put up on this site. -/
structure Stocked (settings : LotSettings α) (earlier : List (PlacedBuilding α)) (w : Workshop α)
    (s : Site α) : Prop where
  same : s.placement.settings = settings
  holds : Holds settings s.placement.cache (earlier ++ s.placed.toList)
  derives : w.Derives settings (originals (max settings.cacheSize 1) earlier s.placed.toList)
    s.workshop

namespace Stocked

variable {settings : LotSettings α} {earlier : List (PlacedBuilding α)} {w : Workshop α}
  {spot : Spot α} {distance : α}

/-- One more building is used again or derived. -/
theorem of_building (h : s.Stocked settings earlier w) {b : PlacedBuilding α} {spec : LotSpec α}
    (hspec : settings.models[b.entry]? = some spec) (hrules : b.ruleSet = spec.ruleSet)
    (hbuilding : s.building b.entry spec = (.ok (b.copy, b.building), s')) (o : Obstacles α) :
    Stocked settings earlier w { s' with obstacles := o, placed := s'.placed.push b } := by
  obtain ⟨-, -, hsettings, -, hplaced⟩ := building_frame hbuilding
  have hsame := h.same
  have hplaces : (s'.placed.push b).toList = s.placed.toList ++ [b] := by
    rw [hplaced, Array.toList_push]
  obtain ⟨hfull, hcached, hworkshop, hcache⟩ | ⟨hroom, hcopy, hgenerate, hcache⟩ :=
    building_cases hbuilding
  · rw [hsame, h.holds.full_iff] at hfull
    refine ⟨hsettings.trans hsame, ?_, ?_⟩
    · rw [hplaces, ← List.append_assoc, hcache]
      exact h.holds.reuse hspec hrules hfull hcached
    · rw [hplaces, originals_snoc, if_neg (by omega), List.append_nil, hworkshop]
      exact h.derives
  · rw [hsame, ← Nat.not_le, h.holds.full_iff, Nat.not_le] at hroom
    refine ⟨hsettings.trans hsame, ?_, ?_⟩
    · rw [hplaces, ← List.append_assoc, hcache]
      exact h.holds.derive hspec hrules hroom hcopy hgenerate
    · rw [hplaces, originals_snoc, if_pos hroom]
      exact h.derives.snoc hspec hgenerate

theorem putBuilding (h : s.Stocked settings earlier w) {corner : Vec2 α} {entry : Nat}
    {f : Footprint α} (hput : s.putBuilding spot corner entry f = (s', none)) :
    s'.Stocked settings earlier w := by
  unfold Site.putBuilding at hput
  split at hput
  · cases hput
  next spec hspec =>
    rw [h.same] at hspec
    split at hput
    · cases hput
    next copy b built hbuilding =>
      cases hput
      exact h.of_building hspec rfl hbuilding _

/-- One place of a walk changes neither the cache nor the workshop, or puts up a building. -/
theorem step (h : s.Stocked settings earlier w) {next : α}
    (hstep : s.step spot distance = ((s', none), next)) : s'.Stocked settings earlier w := by
  obtain ⟨found, advance, q, hpropose, -, hput⟩ := step_cases hstep
  obtain ⟨there, factor, -, hboost, -⟩ := propose_spec hpropose
  have hdrawn : Stocked settings earlier w { s with placement := q } := by
    obtain ⟨stream, rfl⟩ := boost_stream hboost
    exact ⟨h.same, h.holds, h.derives⟩
  cases found with
  | none =>
    cases hput
    exact hdrawn
  | some lot => exact hdrawn.putBuilding hput

theorem carried (settings : LotSettings α) (network : RoadNetwork α)
    (earlier : List (PlacedBuilding α)) (w : Workshop α) :
    Carried settings network (Stocked settings earlier w) fun _ => True where
  same h := h.same
  begins := trivial
  step h _ _ _ hstep := ⟨h.step hstep, trivial⟩

end Stocked

end Site

/-! ## One network after the other -/

namespace Placement

/-- What a placement is asked to line, and what it is given to do so. -/
structure Order (α : Type) where
  network : RoadNetwork α
  obstacles : Obstacles α
  workshop : Workshop α

/-- A placement lines the roads of some networks, one after the other, and comes to the end of
each. -/
inductive Serves : Placement α → List (Order α × Site α) → Placement α → Prop
  | nil (p : Placement α) : Serves p [] p
  | snoc {p q : Placement α} {jobs : List (Order α × Site α)} {order : Order α} {s : Site α}
      (h : Serves p jobs q)
      (hplace : q.place order.network order.obstacles order.workshop = (s, none)) :
      Serves p (jobs ++ [(order, s)]) s.placement

/-- The buildings that were put up along all networks, in their order. -/
def allPlaced {α : Type} (jobs : List (Order α × Site α)) : List (PlacedBuilding α) :=
  jobs.flatMap (·.2.placed.toList)

/-- What is said of a placement after some jobs: as many buildings are cached for each model as were
put up for it, up to the number that may be derived; the cache holds the originals among all
buildings, which use it; and what the workshops derived during the jobs are these originals, one for
each cached building. -/
structure Stocked (settings : LotSettings α) (jobs : List (Order α × Site α)) (p : Placement α) :
    Prop where
  same : p.settings = settings
  cached : p.cached = (List.range settings.models.length).map fun entry =>
    min (max settings.cacheSize 1) ((allPlaced jobs).countP (ofEntry entry))
  holds : Holds settings p.cache (allPlaced jobs)
  derives : ∃ runs : List (List (PlacedBuilding α)),
    runs.flatten = originals (max settings.cacheSize 1) [] (allPlaced jobs) ∧
      runs.flatten.length = p.cached.sum ∧
      List.Forall₂ (fun job run => run.Sublist job.2.placed.toList ∧
        job.1.workshop.Derives settings run job.2.workshop) jobs runs

variable {heights densities : Grid α} {settings : LotSettings α}
  {jobs : List (Order α × Site α)} {p q : Placement α}

theorem Holds.cached (h : Holds settings p.cache (allPlaced jobs)) :
    p.cached = (List.range settings.models.length).map fun entry =>
      min (max settings.cacheSize 1) ((allPlaced jobs).countP (ofEntry entry)) := by
  have hsizes : p.cached = (List.range p.cache.size).map fun entry =>
      (p.cache.getD entry #[]).size := by
    refine List.ext_getElem (by simp [Placement.cached]) fun entry hleft hright => ?_
    have hlt : entry < p.cache.size := by simpa using hright
    simp [Placement.cached, hlt]
  rw [hsizes, h.size]
  simp only [h.size_getD]

/-- There are as many originals as cached buildings. -/
theorem Holds.length_originals (h : Holds settings p.cache (allPlaced jobs)) :
    (originals (max settings.cacheSize 1) [] (allPlaced jobs)).length = p.cached.sum := by
  have hentries : (originals (max settings.cacheSize 1) [] (allPlaced jobs)).countP
      (·.entry < settings.models.length) =
        (originals (max settings.cacheSize 1) [] (allPlaced jobs)).length := by
    refine List.countP_eq_length.2 fun b hb => decide_eq_true ?_
    obtain ⟨spec, v, v', hspec, -⟩ := (h.uses (originals_sublist.subset hb)).derived
    exact (List.getElem?_eq_some_iff.1 hspec).1
  rw [← hentries, countP_entry_lt, h.cached]
  simp only [countP_originals]

theorem stocked_start (heights densities : Grid α) (settings : LotSettings α) :
    Stocked settings [] (start heights densities settings) := by
  have hempty (entry : Nat) :
      ((start heights densities settings).cache.getD entry #[]).toList = [] := by
    simp only [start, Array.getD_eq_getD_getElem?, Array.getElem?_replicate]
    split <;> rfl
  have hholds : Holds settings (start heights densities settings).cache (allPlaced []) :=
    ⟨by simp [start], hempty, nofun⟩
  exact ⟨rfl, hholds.cached, hholds, [], rfl, hholds.length_originals, .nil⟩

theorem Stocked.snoc (h : Stocked settings jobs q) {order : Order α} {s : Site α}
    (hplace : q.place order.network order.obstacles order.workshop = (s, none)) :
    Stocked settings (jobs ++ [(order, s)]) s.placement := by
  obtain rfl := h.same
  have hbegins : Site.Stocked q.settings (allPlaced jobs) order.workshop
      ⟨q, order.obstacles, order.workshop, #[]⟩ :=
    ⟨rfl, by simpa using h.holds, .nil _⟩
  have hsite : s.Stocked q.settings (allPlaced jobs) order.workshop :=
    (Site.Stocked.carried q.settings order.network _ _).place hbegins hplace
  have hall : allPlaced (jobs ++ [(order, s)]) = allPlaced jobs ++ s.placed.toList := by
    simp [allPlaced]
  have hholds : Holds q.settings s.placement.cache (allPlaced (jobs ++ [(order, s)])) :=
    hall ▸ hsite.holds
  obtain ⟨runs, hruns, -, hderives⟩ := h.derives
  let run := originals (max q.settings.cacheSize 1) (allPlaced jobs) s.placed.toList
  have hflatten : (runs ++ [run]).flatten =
      originals (max q.settings.cacheSize 1) [] (allPlaced (jobs ++ [(order, s)])) := by
    rw [List.flatten_concat, hruns, hall, originals_append, List.nil_append]
  refine ⟨hsite.same, hholds.cached, hholds, runs ++ [run], hflatten, ?_, ?_⟩
  · rw [hflatten, hholds.length_originals]
  · exact List.rel_append hderives (.cons ⟨originals_sublist, hsite.derives⟩ .nil)

/-- However often a placement lines the roads of networks, it stays stocked. -/
theorem stocked_of_serves (h : (start heights densities settings).Serves jobs p) :
    Stocked settings jobs p := by
  generalize hstart : start heights densities settings = begun at h
  induction h with
  | nil =>
    subst hstart
    exact stocked_start heights densities settings
  | snoc _ hplace ih => exact ih.snoc hplace

/-- What is computed of a placement that is asked for the same twice: whether it comes to the end,
how many buildings it puts up each time, and what it has cached then. -/
theorem exists_serves_twice {order : Order α} {size size' : Nat} {cached : List Nat}
    (h : (let first := p.place order.network order.obstacles order.workshop
      let second := first.1.placement.place order.network order.obstacles order.workshop
      (first.2.isNone, second.2.isNone, first.1.placed.size, second.1.placed.size,
        second.1.placement.cached)) = (true, true, size, size', cached)) :
    ∃ s s', p.Serves [(order, s), (order, s')] s'.placement ∧ s.placed.size = size ∧
      s'.placed.size = size' ∧ s'.placement.cached = cached := by
  simp only [Prod.mk.injEq, Option.isNone_iff_eq_none] at h
  obtain ⟨hfirst, hsecond, hsizes⟩ := h
  exact ⟨_, _, .snoc (.snoc (.nil _) (Prod.ext rfl hfirst)) (Prod.ext rfl hsecond), hsizes⟩

/-- Huts are put up along a road, and along the same road once more, from one and the same
derivation though none was asked to be kept. -/
theorem stocked_of_serves_huts :
    letI := rightAngles
    let settings := { huts.settings with cacheSize := 0 }
    let order : Order Float32 :=
      ⟨roadOnLand, .ofNetwork roadOnLand ⟨⟨0, 0⟩, ⟨8, 8⟩⟩ 4, hutWorkshop⟩
    ∃ s s', (start huts.heights huts.densities settings).Serves [(order, s), (order, s')]
        s'.placement ∧ s.placed.size = 2 ∧ s'.placed.size = 2 ∧
      Stocked settings [(order, s), (order, s')] s'.placement ∧ s'.placement.cached = [1] := by
  let := rightAngles
  intro settings order
  obtain ⟨s, s', hserves, hplaced, hplaced', hcached⟩ :=
    @exists_serves_twice _ _ _ (start huts.heights huts.densities settings) order 2 2 [1]
      (by decide +kernel)
  exact ⟨s, s', hserves, hplaced, hplaced', stocked_of_serves hserves, hcached⟩

end Placement

end Cityscape
