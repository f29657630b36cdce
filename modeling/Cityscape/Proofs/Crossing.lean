import Cityscape.Proofs.Scalar.Laws
import Cityscape.Segment

/-!
# Segments with a common end

A segment crosses another one that starts or ends where it starts only there, and its line does not
meet the other one ahead. Both hold in single precision, however the crossing is rounded: its
distance along the first segment is a zero or no number.

## Main statements

* `Segment.intersect_cases` — how crossings are found.
* `Segment.segments_beq_start`, `Segment.lines_not_ahead` — segments with a common end.
-/

namespace Cityscape.Segment

section Cases

variable {α : Type} [Scalar α] {a b : Segment α} {p : Vec2 α}

/-- The point where the line of a segment meets another one. -/
theorem intersect_cases (h : (a.intersect b).lines = some p) :
    ∃ t, t = (b.start - a.start).cross b.span / a.span.cross b.span ∧
      p = a.start + a.span.scale t ∧
      Scalar.within 0 1 ((b.start - a.start).cross a.span / a.span.cross b.span) ∧
      ((a.intersect b).segments = some p → Scalar.within 0 1 t) := by
  unfold intersect at h ⊢
  simp only at h ⊢
  split at h
  · cases h
  next hden =>
    rw [if_neg hden]
    split at h
    next hu =>
      rw [if_pos hu]
      split at h
      next ht =>
        cases h
        exact ⟨_, rfl, rfl, hu, fun _ => ht⟩
      next ht =>
        cases h
        rw [if_neg ht]
        exact ⟨_, rfl, rfl, hu, fun hs => by cases hs⟩
    · cases h

theorem lines_of_segments (h : (a.intersect b).segments = some p) :
    (a.intersect b).lines = some p := by
  unfold intersect at h ⊢
  simp only at h ⊢
  split at h
  · cases h
  next hden =>
    rw [if_neg hden]
    split at h
    next hu =>
      rw [if_pos hu]
      split at h
      next ht => rw [if_pos ht]; exact h
      · cases h
    · cases h

end Cases

open Single

variable {a b : Segment Float32} {p : Vec2 Float32}

/-- The vector from the start of a segment to the start of another one that starts or ends there is
parallel to the other one. -/
theorem null_offset_cross (h : b.start = a.start ∨ b.finish = a.start) :
    Null ((b.start - a.start).cross b.span) := by
  rcases h with h | h
  · have hx : Null (b.start - a.start).x := by
      rw [h]
      exact null_sub_self a.start.x
    have hy : Null (b.start - a.start).y := by
      rw [h]
      exact null_sub_self a.start.y
    exact (hx.mul_right b.span.y).sub (hy.mul_right b.span.x)
  · have hreverse := null_cross_reverse b.start.x b.finish.x b.start.y b.finish.y
    rw [Vec2.cross, ← h]
    exact hreverse

/-- The line of a segment does not meet another one that starts or ends at its start ahead of it. -/
theorem lines_not_ahead (hshare : b.start = a.start ∨ b.finish = a.start)
    (h : (a.intersect b).lines = some p) : ¬ 0 < (p - a.start).dot a.span := by
  obtain ⟨t, ht, rfl, -, -⟩ := intersect_cases h
  have hnull : Null t := by
    rw [ht]
    exact (null_offset_cross hshare).div _
  have hx : Null (a.start.x + a.span.x * t - a.start.x) := (hnull.mul_left _).add_sub _
  have hy : Null (a.start.y + a.span.y * t - a.start.y) := (hnull.mul_left _).add_sub _
  exact ((hx.mul_right a.span.x).add (hy.mul_right a.span.y)).not_pos

/-- The span of a segment is finite when the place of a crossing on the other one is a number. -/
theorem finite_span_of_within
    (h : Scalar.within 0 1 ((b.start - a.start).cross a.span / a.span.cross b.span)) :
    Finite a.span.x ∧ Finite a.span.y := by
  have hpos : 0 ≤ (b.start - a.start).cross a.span / a.span.cross b.span := by
    simp only [Scalar.within, Bool.and_eq_true, decide_eq_true_eq] at h
    exact h.1
  rcases finite_or_of_le_div hpos with hfin | hfin
  · have ⟨hfirst, hsecond⟩ := Finite.of_sub hfin
    exact ⟨(Finite.of_mul hsecond).2, (Finite.of_mul hfirst).2⟩
  · have ⟨hfirst, hsecond⟩ := Finite.of_sub hfin
    exact ⟨(Finite.of_mul hfirst).1, (Finite.of_mul hsecond).1⟩

/-- A segment crosses another one that starts or ends at its start nowhere else. -/
theorem segments_beq_start (hshare : b.start = a.start ∨ b.finish = a.start)
    (h : (a.intersect b).segments = some p) : (p == a.start) = true := by
  obtain ⟨t, ht, rfl, hother, hself⟩ := intersect_cases (lines_of_segments h)
  have hnull : Null t := by
    rw [ht]
    exact (null_offset_cross hshare).div _
  have hfin : Finite t := by
    have hwithin := hself h
    simp only [Scalar.within, Bool.and_eq_true, decide_eq_true_eq] at hwithin
    exact hnull.finite_of_le hwithin.1
  have ⟨hx, hy⟩ := finite_span_of_within hother
  have hstart := And.intro (Finite.of_sub hx).2 (Finite.of_sub hy).2
  have hbeqx := hstart.1.add_null_beq (hnull.mul_left a.span.x) (hx.mul_null hnull hfin)
  have hbeqy := hstart.2.add_null_beq (hnull.mul_left a.span.y) (hy.mul_null hnull hfin)
  exact Bool.and_eq_true_iff.2 ⟨hbeqx, hbeqy⟩

end Cityscape.Segment
