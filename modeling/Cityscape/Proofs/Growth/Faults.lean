import Cityscape.City.Settings
import Cityscape.Proofs.Grid
import Cityscape.Proofs.Growth.Runs
import Cityscape.Proofs.Random.Draws

/-!
# Growth and faults

A road looks around its end over an extent of its own length, which must not be negative. Shortening
a road may lead below zero when the pruning limit does, and nothing is looked at before the length
is used; so it is the length and the limit that decide. As long as neither is negative, growth over
maps with a cell meets no fault: all that is left is that it may not come to an end.

## Main definitions

* `Growth.Steady` — every waiting task plans a road of the length that was settled.

## Main statements

* `Land.settle_flawless` — a plan that was fitted into the terrain is not of negative length.
* `RoadMap.exists_join` — a road of a length that is not negative can be looked at and built.
* `Growth.Steady.step`, `Growth.Steady.run` — a task, and a whole run.
* `Growth.generate_flawless` — growth meets no fault.
* `Growth.generate_negativeExtent` — with a negative limit it does.
-/

namespace Cityscape

open Single

/-! ## Fitting roads into the terrain -/

namespace Land

/-- Both maps have a cell. -/
structure HasCells {α : Type} (land : Land α) : Prop where
  heights : land.heights.HasCell
  densities : land.densities.HasCell

variable {land : Land Float32} {settings : GrowthSettings Float32}

theorem exists_densityAt (hland : land.HasCells) (p : Vec2 Float32) :
    ∃ density, land.densityAt p = .ok density := by
  obtain ⟨v, hv⟩ := Grid.exists_valueAt hland.densities p
  exact ⟨v.getD 0, by rw [densityAt, hv]; rfl⟩

theorem exists_isDryAlong (hland : land.HasCells) (start direction : Vec2 Float32)
    (left j : Nat) : ∃ dry, land.isDryAlong start direction left j = .ok dry := by
  induction left generalizing j with
  | zero => exact ⟨true, rfl⟩
  | succ left ih =>
    obtain ⟨water, hwater⟩ := Grid.exists_isWater hland.heights
      (start + direction.scale (Scalar.ofNat j))
    rw [isDryAlong, hwater]
    cases water with
    | true => exact ⟨false, rfl⟩
    | false => exact ih (j + 1)

/-- Whether a road fits is decided at every place. -/
theorem exists_isBuildable (hland : land.HasCells) (settings : GrowthSettings Float32)
    (start finish : Vec2 Float32) (highway : Bool) :
    ∃ fits, land.isBuildable settings start finish highway = .ok fits := by
  obtain ⟨height, hheight⟩ := Grid.exists_valueAt hland.heights finish.round
  obtain ⟨density, hdensity⟩ := Grid.exists_valueAt hland.densities finish.round
  unfold isBuildable
  generalize (if highway then settings.highwayDensity else settings.bywayDensity) = limit
  simp only [hheight, hdensity, bind, Except.bind, pure, Except.pure]
  split
  · exact ⟨false, rfl⟩
  split
  · exact ⟨false, rfl⟩
  split
  · exact ⟨false, rfl⟩
  split
  · exact ⟨false, rfl⟩
  split
  · exact ⟨false, rfl⟩
  · exact exists_isDryAlong hland _ _ _ _

/-- Where shortening ends: at a length above the limit, or at any number. -/
def Shortening.Stands (limit : Float32) : Shortening Float32 → Prop
  | .fits length => limit < length
  | .exhausted length => Scalar.IsNumber length

theorem shorten_flawless (hland : land.HasCells) (plan : RoadPlan Float32) (start : Vec2 Float32)
    (limit : Float32) (fuel : Nat) {length : Float32} (hlength : IsDefined (parts length)) :
    Flawless (Shortening.Stands limit) (shorten land settings plan start limit fuel length) := by
  induction fuel generalizing length with
  | zero => exact .endless
  | succ fuel ih =>
    unfold shorten
    split
    next hlt =>
      refine .of_exists_bind (exists_isBuildable hland _ _ _ _) fun fits => ?_
      cases fits with
      | true => exact .ok hlt
      | false => exact ih (hlength.sub_finite toReal_one.1).repack
    · exact .ok (isNumber_of_isDefined hlength)

variable [Trigonometry Float32]

/-- Turning a road does not change its length. -/
theorem exists_swing (hland : land.HasCells) (settings : GrowthSettings Float32)
    (plan : RoadPlan Float32) (start : Vec2 Float32) (left angle : Nat) :
    ∃ swung, swing land settings plan start left angle = .ok swung ∧
      ∀ fitted, swung = some fitted → fitted.length = plan.length := by
  induction left generalizing angle with
  | zero => exact ⟨none, rfl, fun fitted h => by cases h⟩
  | succ left ih =>
    obtain ⟨first, hfirst⟩ := exists_isBuildable hland settings start (planEnd
      { plan with direction := plan.direction.rotate (Scalar.ofNat angle * 1) } start) plan.highway
    obtain ⟨second, hsecond⟩ := exists_isBuildable hland settings start (planEnd
      { plan with direction := plan.direction.rotate (Scalar.ofNat angle * -1) } start) plan.highway
    simp only [swing, hfirst, hsecond, bind, Except.bind, pure, Except.pure]
    cases first with
    | true => exact ⟨_, rfl, fun fitted h => by cases h; rfl⟩
    | false =>
      cases second with
      | true => exact ⟨_, rfl, fun fitted h => by cases h; rfl⟩
      | false => exact ih (angle + 1)

/-- A plan was found, if any, that is not of negative length. -/
def IsLaid (settled : Option (RoadPlan Float32)) : Prop :=
  ∀ fitted, settled = some fitted → 0 ≤ fitted.length

omit [Trigonometry Float32] in
theorem isNumber_zero : Scalar.IsNumber (0 : Float32) := isNumber_of_isDefined finite_zero.isDefined

omit [Trigonometry Float32] in
/-- A length above a limit that is not negative is not negative. -/
theorem le_of_limit_lt {limit length : Float32} (hlimit : ¬ limit < 0) (h : limit < length) :
    0 ≤ length := by
  have hle := Scalar.Ordered.le_of_lt h
  have hnumber := (Scalar.Total.isNumber_of_le hle).1
  exact Scalar.Ordered.le_trans (Scalar.Total.le_of_not_lt hnumber isNumber_zero hlimit) hle

/-- When neither the length nor the pruning limit is negative, no shortened or turned road is of
negative length. -/
theorem adjust_flawless (hland : land.HasCells) {plan : RoadPlan Float32}
    (hlength : 0 ≤ plan.length) (hlimit : ¬ Scalar.round (plan.length * settings.pruning) < 0)
    (start : Vec2 Float32) : Flawless IsLaid (land.adjust settings plan start) := by
  have hdefined := (isMagnitude_iff.2 hlength).isDefined
  refine (shorten_flawless hland plan start _ _ hdefined).bind fun shortening hstands => ?_
  cases shortening with
  | fits length =>
    refine .ok fun fitted h => ?_
    cases h
    exact le_of_limit_lt hlimit hstands
  | exhausted length =>
    dsimp only
    split
    · exact .ok fun fitted h => by cases h
    next hpos =>
      obtain ⟨swung, hswung, hsame⟩ :=
        exists_swing hland settings { plan with length } start settings.largestTurn 1
      rw [hswung]
      refine .ok fun fitted h => ?_
      have hlt : 0 < length := by
        by_contra hnot
        exact hpos (Scalar.Total.le_of_not_lt isNumber_zero hstands hnot)
      rw [hsame fitted h]
      exact Scalar.Ordered.le_of_lt hlt

theorem settle_flawless (hland : land.HasCells) {plan : RoadPlan Float32}
    (hlength : 0 ≤ plan.length) (hlimit : ¬ Scalar.round (plan.length * settings.pruning) < 0)
    (start : Vec2 Float32) : Flawless IsLaid (land.settle settings plan start) := by
  refine .of_exists_bind (exists_isBuildable hland _ _ _ _) fun fits => ?_
  cases fits with
  | true =>
    refine .ok fun fitted h => ?_
    cases h
    exact hlength
  | false => exact adjust_flawless hland hlength hlimit start

end Land

/-! ## Joining roads -/

/-- A road between two crossroads of the network can be added. -/
theorem RoadNetwork.exists_addRoad {α : Type} [Scalar α] {n : RoadNetwork α}
    {start finish : CrossroadId} (hstart : (n.position? start).isSome)
    (hfinish : (n.position? finish).isSome) (highway : Bool) :
    ∃ added, n.addRoad start finish highway = .ok added := by
  unfold addRoad
  split
  · exact ⟨_, rfl⟩
  next hnot =>
    obtain ⟨a, ha⟩ := Option.isSome_iff_exists.1 hstart
    obtain ⟨b, hb⟩ := Option.isSome_iff_exists.1 hfinish
    exact absurd hb (hnot a b ha)

namespace RoadMap

variable {α : Type} [Scalar α] {m : RoadMap α} {start finish : CrossroadId}

theorem exists_addRoad (hstart : (m.network.position? start).isSome)
    (hfinish : (m.network.position? finish).isSome) (highway : Bool) :
    ∃ id m', m.addRoad start finish highway = .ok (id, m') := by
  obtain ⟨⟨id, n⟩, hadded⟩ := RoadNetwork.exists_addRoad hstart hfinish highway
  rw [addRoad, hadded]
  simp only [bind, Except.bind, pure, Except.pure]
  split
  · exact ⟨_, _, rfl⟩
  · exact ⟨_, _, rfl⟩

/-- The old crossroads and the new one lie in the network. -/
theorem isSome_addCrossroad {p : Vec2 α} {c : CrossroadId}
    (hc : c = m.network.crossroadCount ∨ (m.network.position? c).isSome) :
    ((m.addCrossroad p).2.network.position? c).isSome := by
  rw [addCrossroad_eq, RoadNetwork.position?_addCrossroad, Function.update_apply]
  split
  · rfl
  next hne => exact hc.resolve_left hne

/-- A split is made or refused: the ends of the road and the crossroad that is put on it are all
there. -/
theorem exists_splitRoad (place : Vec2 α) (id : RoadId) (minimum : α) :
    ∃ split, m.splitRoad place id minimum = .ok split := by
  unfold splitRoad
  split
  next ends road hends hroad =>
    split
    · exact ⟨none, rfl⟩
    split
    · exact ⟨none, rfl⟩
    · obtain ⟨-, hposition, -⟩ := removeRoad_of_road? hroad
      obtain ⟨hstart, hfinish⟩ := RoadNetwork.isSome_ends hroad
      rw [← hposition] at hstart hfinish
      have hput {c : CrossroadId} (hc : c = (m.removeRoad id).network.crossroadCount ∨
          ((m.removeRoad id).network.position? c).isSome) :
          (((m.removeRoad id).addCrossroad place).2.network.position? c).isSome :=
        isSome_addCrossroad hc
      obtain ⟨first, m₁, hfirst⟩ :=
        exists_addRoad (hput (.inr hstart)) (hput (.inl rfl)) road.highway
      obtain ⟨-, -, -, -, -, hkept, -⟩ := addRoad_cases hfirst
      rw [← hkept] at hput
      obtain ⟨second, m₂, hsecond⟩ :=
        exists_addRoad (hput (.inl rfl)) (hput (.inr hfinish)) road.highway
      refine ⟨some ((m.removeRoad id).network.crossroadCount, m₂), ?_⟩
      rw [addCrossroad_eq] at hfirst ⊢
      simp only [hfirst, hsecond, bind, Except.bind, pure, Except.pure]
  · exact ⟨none, rfl⟩

theorem exists_makeEnd (start : CrossroadId) (minimum : α) (ending : Ending α) :
    ∃ made, m.makeEnd start minimum ending = .ok made := by
  cases ending with
  | fresh p => exact ⟨_, rfl⟩
  | split p id =>
    obtain ⟨made, hmade⟩ := m.exists_splitRoad p id minimum
    rw [makeEnd, hmade]
    cases made with
    | none => exact ⟨_, rfl⟩
    | some made => exact ⟨_, rfl⟩
  | existing c =>
    rw [makeEnd]
    split
    · exact ⟨_, rfl⟩
    · exact ⟨_, rfl⟩

/-- The end that was made lies in the network, and so do the old crossroads. -/
theorem isSome_of_makeEnd {minimum : α} {ending : Ending α} {merged : Bool} {m' : RoadMap α}
    (h : m.makeEnd start minimum ending = .ok (some (finish, merged, m'))) {c : CrossroadId}
    (hc : c = finish ∨ (m.network.position? c).isSome) : (m'.network.position? c).isSome := by
  obtain ⟨p, -, -, hmade⟩ | ⟨p, id, -, -, hmade⟩ | ⟨-, -, rfl, hover⟩ := makeEnd_cases h
  · cases hmade
    exact isSome_addCrossroad hc
  · obtain ⟨-, -, -, -, -, -, -, hposition, -⟩ := splitRoad_spec hmade
    rw [hposition, Function.update_apply]
    split
    · rfl
    next hne => exact hc.resolve_left hne
  · obtain rfl | hc := hc
    · unfold RoadNetwork.overlapsRoad at hover
      split at hover
      next hfinish => rw [hfinish]; rfl
      · cases hover
    · exact hc

/-- A road of a length that is not negative can be looked at and built. -/
theorem exists_join (settings : GrowthSettings α) {plan : RoadPlan α} (proposed : Segment α)
    (hlength : 0 ≤ plan.length) (hstart : (m.network.position? start).isSome) :
    ∃ joined, m.join settings plan start proposed = .ok joined := by
  have harea : Rect.around proposed.finish plan.length = .ok _ := if_pos hlength
  obtain ⟨made, hmade⟩ := m.exists_makeEnd start
    (Scalar.round (plan.length * settings.reach) / 2.0)
    (Surroundings.ending m.network proposed (Scalar.round (plan.length * settings.reach))
      ((m.index.query ⟨proposed.finish - .splat plan.length,
        proposed.finish + .splat plan.length⟩).foldl
          (Surroundings.add m.network start proposed
            (Scalar.round (plan.length * settings.reach))) .none))
  simp only [join, surroundings, harea, bind, Except.bind, pure, Except.pure, hmade]
  cases made with
  | none => exact ⟨_, rfl⟩
  | some made =>
    obtain ⟨finish, merged, m'⟩ := made
    obtain ⟨road, m'', hroad⟩ := exists_addRoad (isSome_of_makeEnd hmade (.inr hstart))
      (isSome_of_makeEnd hmade (.inl rfl)) plan.highway
    simp only [hroad]
    exact ⟨_, rfl⟩

/-- A road that is proposed with neither the length nor the pruning limit below zero is built or
not. -/
theorem build_flawless [Trigonometry Float32] {m : RoadMap Float32} {land : Land Float32}
    {settings : GrowthSettings Float32} (hland : land.HasCells) {plan : RoadPlan Float32}
    (hlength : 0 ≤ plan.length) (hlimit : ¬ Scalar.round (plan.length * settings.pruning) < 0)
    (start : CrossroadId) : Flawless (fun _ => True) (m.build land settings plan start) := by
  unfold build
  split
  · exact .ok trivial
  next origin horigin =>
    refine (Land.settle_flawless hland hlength hlimit origin).bind fun settled hlaid => ?_
    cases settled with
    | none => exact .ok trivial
    | some fitted =>
      obtain ⟨joined, hjoined⟩ := m.exists_join settings ⟨origin, Land.planEnd fitted origin⟩
        (hlaid fitted rfl) (by rw [horigin]; rfl)
      exact .of_exists ⟨joined, hjoined, trivial⟩

end RoadMap

/-! ## Steering -/

namespace Steering

variable {densities : Grid Float32} (hdensities : densities.HasCell)

include hdensities

theorem exists_addDensities (start direction : Vec2 Float32) (length : Float32) (steps j : Nat)
    (weight : Float32) :
    ∃ w, addDensities densities start direction length steps j weight = .ok w := by
  induction steps generalizing j weight with
  | zero => exact ⟨weight, rfl⟩
  | succ steps ih =>
    obtain ⟨v, hv⟩ :=
      Grid.exists_valueAt hdensities (start + direction.scale (Scalar.ofNat j))
    rw [addDensities, hv]
    cases v with
    | none => exact ⟨weight, rfl⟩
    | some density => exact ih (j + 1) _

variable [Trigonometry Float32] (plan : RoadPlan Float32) (start : Vec2 Float32)

theorem exists_scan (angle step : Float32) (left ray : Nat) (best : Vec2 Float32)
    (heaviest : Float32) :
    ∃ v, scan densities start plan angle step left ray best heaviest = .ok v := by
  induction left generalizing ray best heaviest with
  | zero => exact ⟨best, rfl⟩
  | succ left ih =>
    obtain ⟨w, hw⟩ := exists_addDensities hdensities start
      (plan.direction.rotate (-angle / 2.0 + step * Scalar.ofNat ray)) plan.length
      (Min.min (Scalar.whole (Scalar.max plan.length 0)) halfWordLimit) 0 0
    simp only [scan, rayWeight, hw, bind, Except.bind]
    split
    · exact ih _ _ _
    · exact ih _ _ _

/-- A road that goes on is as long as the one before. -/
theorem exists_turn (rule : Steering Float32) : ∃ turned,
    rule.turn densities plan start = .ok turned ∧ turned.length = plan.length := by
  cases rule with
  | straight => exact ⟨plan, rfl, rfl⟩
  | fan rays angle =>
    unfold turn
    dsimp only
    split
    · exact ⟨plan, rfl, rfl⟩
    · obtain ⟨v, hv⟩ := exists_scan hdensities plan start angle (angle / Scalar.ofNat rays) rays 0
        plan.direction 0
      rw [hv]
      exact ⟨_, rfl, rfl⟩

end Steering

/-! ## Growth -/

/-- The plan that a task is about. -/
def Task.plan {α : Type} : Task α → RoadPlan α
  | .propose plan _ => plan
  | .extend plan _ _ _ => plan
  | .branch _ plan _ => plan

namespace Growth

/-- Neither the settled length nor the pruning limit is negative, the maps have a cell, and every
task that is waiting plans a road of the settled length. -/
structure Steady (v : Growth Float32) : Prop where
  cells : v.land.HasCells
  length : 0 ≤ v.settings.roadLength
  limit : ¬ Scalar.round (v.settings.roadLength * v.settings.pruning) < 0
  planned : ∀ task ∈ v.queue.toList, task.plan.length = v.settings.roadLength

variable {v : Growth Float32}

theorem Steady.push (hv : v.Steady) {task : Task Float32}
    (htask : task.plan.length = v.settings.roadLength) : (v.push task).Steady where
  cells := hv.cells
  length := hv.length
  limit := hv.limit
  planned other hother := by
    obtain hother | hother := List.mem_append.1 (Fifo.toList_push v.queue task ▸ hother)
    · exact hv.planned other hother
    · rw [List.mem_singleton.1 hother]
      exact htask

section

variable [Trigonometry Float32]

theorem Steady.branchOff (hv : v.Steady) {plan : RoadPlan Float32}
    (hplan : plan.length = v.settings.roadLength) (start : CrossroadId) (chance angle : Float32) :
    (v.branchOff plan start chance angle).Steady := by
  have hdrawn (stream : RandomStream) : Steady { v with stream } :=
    ⟨hv.cells, hv.length, hv.limit, hv.planned⟩
  exact (hdrawn _).push hplan

/-- A road that goes on and its branches are as long as the road before them. -/
theorem Steady.extend (hv : v.Steady) {plan : RoadPlan Float32}
    (hplan : plan.length = v.settings.roadLength) (start finish : CrossroadId) :
    Flawless Steady (v.extend plan start finish) := by
  unfold Growth.extend
  split
  next origin destination _ _ =>
    obtain ⟨forward, hforward, hlength⟩ := Steering.exists_turn hv.cells.densities plan destination
      v.settings.rule.steering
    obtain ⟨density, hdensity⟩ := Land.exists_densityAt hv.cells origin
    simp only [hforward, hdensity, bind, Except.bind, pure, Except.pure]
    have hgone : (v.push (.propose forward finish)).Steady := hv.push (hlength.trans hplan)
    exact .ok ((hgone.branchOff hplan _ _ _).branchOff hplan _ _ _)
  · exact .ok hv

theorem Steady.resolve (hv : v.Steady) {plan : RoadPlan Float32}
    (hplan : plan.length = v.settings.roadLength) (start : CrossroadId) :
    Flawless Steady (v.resolve plan start) := by
  have hbuild : Flawless (fun _ => True) (v.map.build v.land v.settings plan start) :=
    RoadMap.build_flawless hv.cells (hplan ▸ hv.length) (hplan ▸ hv.limit) start
  have hbuilt (map : RoadMap Float32) (stats : GrowthStats) : Steady { v with map, stats } :=
    ⟨hv.cells, hv.length, hv.limit, hv.planned⟩
  unfold Growth.resolve Growth.build
  rw [bind_assoc]
  refine hbuild.bind fun built _ => ?_
  obtain ⟨outcome, map⟩ := built
  simp only [bind, Except.bind, pure, Except.pure]
  split
  · exact .ok ((hbuilt map _).push hplan)
  · exact .ok ((hbuilt map _).push hplan)
  · exact .ok (hbuilt map _)

theorem Steady.handle (hv : v.Steady) {task : Task Float32}
    (htask : task.plan.length = v.settings.roadLength) : Flawless Steady (v.handle task) := by
  cases task with
  | propose plan start => exact hv.resolve htask start
  | extend plan start finish merged =>
    simp only [Growth.handle]
    split
    · exact .ok hv
    · exact hv.extend htask start finish
  | branch delay plan start =>
    simp only [Growth.handle]
    split
    · exact .ok hv
    split
    · exact .ok (hv.push htask)
    · exact .ok (hv.push htask)

/-- A task is handled without a fault, and those that it sends out plan roads of the settled
length. -/
theorem Steady.step (hv : v.Steady) : Flawless Steady v.step := by
  unfold Growth.step
  split
  next task queue hpop =>
    have hqueue := Fifo.toList_of_pop? hpop
    have hrest : Steady { v with queue } := by
      refine ⟨hv.cells, hv.length, hv.limit, fun other hother => hv.planned other ?_⟩
      rw [hqueue]
      exact List.mem_cons_of_mem _ hother
    have htask : task.plan.length = v.settings.roadLength :=
      hv.planned task (by rw [hqueue]; exact List.mem_cons_self)
    exact hrest.handle htask
  · exact .ok hv

theorem Steady.handleFirst (hv : v.Steady) (count : Nat) :
    Flawless Steady (Growth.handleFirst count v) := by
  induction count generalizing v with
  | zero => exact .ok hv
  | succ count ih => exact hv.step.bind fun w hw => ih hw

theorem Steady.run (hv : v.Steady) (rounds : Nat) : Flawless Steady (Growth.run rounds v) := by
  induction rounds generalizing v with
  | zero => exact .ok hv
  | succ rounds ih =>
    unfold Growth.run
    split
    · exact .ok hv
    · refine Flawless.bind ?_ fun w hw => ih hw
      refine (hv.handleFirst v.queue.size).bind fun w hw => .ok ?_
      exact ⟨hw.cells, hw.length, hw.limit, hw.planned⟩

end

/-- Growth begins with one task, which plans a road of the settled length. -/
theorem plant_flawless {g : Growth Float32} (hcells : g.land.HasCells)
    (hlength : 0 ≤ g.settings.roadLength)
    (hlimit : ¬ Scalar.round (g.settings.roadLength * g.settings.pruning) < 0)
    (centre : Vec2 Float32) (direction : Option (Vec2 Float32)) :
    Flawless Steady (g.plant centre direction) := by
  have hdirection : Flawless (fun _ => True) (firstDirection direction g.stream) := by
    have hturn : (0 : Float32) < Trigonometry.turn ∧
        Scalar.isFinite ((Trigonometry.turn : Float32) - 0) := by decide +kernel
    unfold firstDirection
    split
    · exact .ok trivial
    · exact (RandomStream.below_flawless hturn g.stream).bind fun _ _ => .ok trivial
  refine hdirection.bind fun first _ => .ok ?_
  have hempty (map : RoadMap Float32) (stream : RandomStream) :
      Steady { g with map, queue := .empty, stats := .zero, stream } :=
    ⟨hcells, hlength, hlimit, fun task htask => by cases htask⟩
  exact (hempty _ _).push rfl

/-- Growth over maps with a cell meets no fault if neither the settled length nor the pruning limit
is negative: it gives a network or does not come to an end, and if the number of rounds is not
limited, it may run out of numbers for them. -/
theorem generate_flawless {g : Growth Float32} (hcells : g.land.HasCells)
    (hlength : 0 ≤ g.settings.roadLength)
    (hlimit : ¬ Scalar.round (g.settings.roadLength * g.settings.pruning) < 0)
    (centre : Vec2 Float32) (direction : Option (Vec2 Float32)) :
    (∃ g', g.generate centre direction = .ok g') ∨
      g.generate centre direction = .error .endless ∨
      g.settings.rounds = 0 ∧ g.generate centre direction = .error .overflow := by
  have hgrown : Flawless Steady (g.plant centre direction >>= run g.roundLimit) :=
    (plant_flawless hcells hlength hlimit centre direction).bind fun v hv => hv.run _
  unfold generate
  rw [← bind_assoc]
  generalize g.plant centre direction >>= run g.roundLimit = grown at hgrown
  cases hgrown with
  | endless => exact .inr (.inl rfl)
  | @ok v hv =>
    by_cases hrounds : g.settings.rounds = 0 ∧ v.stats.iterations = countableRounds
    · refine .inr (.inr ⟨hrounds.1, ?_⟩)
      simp only [bind, Except.bind, if_pos hrounds]
      rfl
    · refine .inl ⟨{ v with queue := .empty }, ?_⟩
      simp only [bind, Except.bind, if_neg hrounds]
      rfl

/-- Two highways are built one behind the other over a plain. -/
theorem generate_flawless_onPlain :
    let g := onPlain { GrowthSettings.standard with rounds := 3, roadLength := 2, rule := .grid }
    g.land.HasCells ∧ 0 ≤ g.settings.roadLength ∧
      ¬ Scalar.round (g.settings.roadLength * g.settings.pruning) < 0 ∧
      ∃ g', g.generate ⟨0, 2⟩ (some ⟨1, 0⟩) = .ok g' := by
  intro g
  have hcells : g.land.HasCells := ⟨by decide, by decide⟩
  have hlength : 0 ≤ g.settings.roadLength := by decide +kernel
  have hlimit : ¬ Scalar.round (g.settings.roadLength * g.settings.pruning) < 0 := by
    decide +kernel
  refine ⟨hcells, hlength, hlimit, ?_⟩
  have hend : (g.generate ⟨0, 2⟩ (some ⟨1, 0⟩)).isOk := by decide +kernel
  obtain hok | herror | ⟨-, herror⟩ :=
    generate_flawless hcells hlength hlimit ⟨0, 2⟩ (some ⟨1, 0⟩)
  · exact hok
  · rw [herror] at hend; cases hend
  · rw [herror] at hend; cases hend

/-- Growth that has not begun, with a river in the east. -/
def westOfRiver (settings : GrowthSettings Float32) : Growth Float32 :=
  start ⟨⟨6, 6, .ofFn fun k => if k.val % 6 = 4 then 0 else 1⟩, ⟨6, 6, .replicate _ 1⟩⟩
    ⟨⟨0, 0⟩, ⟨5, 5⟩⟩ settings

/-- Settings may ask for roads of a negative length, and they may let a road that meets water be
shortened below zero: then it fits behind its start. -/
theorem generate_negativeExtent :
    (∃ settings, GrowthSettings.decode? (.object [("road_length", .number (.negative 1))]) =
        some settings ∧
      (westOfRiver settings).generate ⟨3, 3⟩ (some ⟨1, 0⟩) = .error .negativeExtent) ∧
    ∃ settings, GrowthSettings.decode? (.object [("road_length", .number (.natural 1)),
        ("water_pruning_factor", .number (.negative 2))]) = some settings ∧
      (westOfRiver settings).generate ⟨3, 3⟩ (some ⟨1, 0⟩) = .error .negativeExtent := by
  have hfaults {members : List (String × Json)}
      (hrun : (GrowthSettings.decode? (.object members)).map (fun settings =>
        ((westOfRiver settings).generate ⟨3, 3⟩ (some ⟨1, 0⟩)).map fun _ => ()) =
          some (.error .negativeExtent)) :
      ∃ settings, GrowthSettings.decode? (.object members) = some settings ∧
        (westOfRiver settings).generate ⟨3, 3⟩ (some ⟨1, 0⟩) = .error .negativeExtent := by
    obtain ⟨settings, hsettings, hrun⟩ := Option.map_eq_some_iff.1 hrun
    refine ⟨settings, hsettings, ?_⟩
    cases hgenerate : (westOfRiver settings).generate ⟨3, 3⟩ (some ⟨1, 0⟩) with
    | ok g' => rw [hgenerate] at hrun; cases hrun
    | error fault => rw [hgenerate] at hrun; cases hrun; rfl
  exact ⟨hfaults (by decide +kernel), hfaults (by decide +kernel)⟩

end Growth

end Cityscape
