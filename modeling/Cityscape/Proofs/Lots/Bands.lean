import Cityscape.Lots.Settings
import Cityscape.Proofs.Scalar.Sums

/-!
# Bands of densities

The thresholds of some settings cut the densities into bands, from the top. The search for the band
of a density compares with both ends of each band, and the upper end of a band is the lower end of
the one before. So a density that has not found its band yet lies below all lower ends so far, and
the first lower end that it exceeds decides, in whatever order the thresholds are.

## Main definitions

* `LotSettings.Exceeds` — a density lies above the lower end of the band of a threshold.
* `LotSettings.InBand` — a density lies between the ends of a band.

## Main statements

* `LotSettings.bandOf_eq_findIdx` — the first lower end that a density exceeds decides.
* `LotSettings.InBand.not_lt` — bands do not overlap where lower ends go down.
* `LotSettings.firstModel_first_exceeded` — the first model to try for a density.
-/

namespace Cityscape.LotSettings

open Scalar (IsNumber Total)

section

variable {α : Type} [Scalar α]

/-- The density lies above the lower end of the band of a threshold. -/
def Exceeds (density threshold : α) : Prop := 1 - threshold < density

instance (density threshold : α) : Decidable (Exceeds density threshold) :=
  inferInstanceAs (Decidable (_ < _))

/-- The density lies in the band with a given number, between the lower end of the band, which does
not belong to it, and that of the band before, which does. The first band has no upper end, and the
one that is left below all thresholds has no lower end. -/
structure InBand (thresholds : List α) (band : ℕ) (density : α) : Prop where
  le_length : band ≤ thresholds.length
  above : ∀ t ∈ thresholds[band]?, 1 - t < density
  upTo : ∀ k, band = k + 1 → ∀ t ∈ thresholds[k]?, density ≤ 1 - t

variable [Total α] {thresholds : List α} {density : α} {band band' : ℕ}

/-- The upper end of a band excludes nothing that was not found before. -/
theorem bandOf_eq_findIdx (hlower : ∀ t ∈ thresholds, IsNumber (1 - t))
    (hdensity : IsNumber density) {upper : Option α} (hupper : ∀ u ∈ upper, density ≤ u) :
    bandOf density thresholds upper = thresholds.findIdx fun t => Exceeds density t := by
  induction thresholds generalizing upper with
  | nil => rfl
  | cons t rest ih =>
    have hall : upper.all (fun u => decide (density ≤ u)) = true := by
      cases upper with
      | none => rfl
      | some u => exact decide_eq_true (hupper u rfl)
    unfold bandOf
    dsimp only
    rw [List.findIdx_cons]
    by_cases hexceeds : Exceeds density t
    · rw [if_pos ⟨hexceeds, hall⟩, decide_eq_true hexceeds]
      rfl
    · have hnext : density ≤ 1 - t :=
        Total.le_of_not_lt (hlower t List.mem_cons_self) hdensity hexceeds
      rw [if_neg fun h => hexceeds h.1, decide_eq_false hexceeds,
        ih (fun s hs => hlower s (List.mem_cons_of_mem t hs)) (by simpa using hnext)]
      rfl

theorem inBand_findIdx (hlower : ∀ t ∈ thresholds, IsNumber (1 - t))
    (hdensity : IsNumber density) :
    InBand thresholds (thresholds.findIdx fun t => Exceeds density t) density := by
  refine ⟨List.findIdx_le_length, fun t ht => ?_, fun k hk t ht => ?_⟩
  · obtain ⟨hlt, rfl⟩ := List.getElem?_eq_some_iff.1 ht
    exact of_decide_eq_true (List.findIdx_getElem (w := hlt))
  · obtain ⟨hlt, rfl⟩ := List.getElem?_eq_some_iff.1 ht
    have hbefore := List.not_of_lt_findIdx (k.lt_succ_self.trans_eq hk.symm)
    exact Total.le_of_not_lt (hlower _ (List.getElem_mem hlt)) hdensity (of_decide_eq_false hbefore)

/-- Where lower ends go down, no density lies in two bands. -/
theorem InBand.not_lt (hdown : thresholds.Pairwise fun s t => 1 - t ≤ 1 - s)
    (h : InBand thresholds band density) (h' : InBand thresholds band' density) :
    ¬ band < band' := by
  intro hlt
  obtain ⟨k, rfl⟩ := Nat.exists_eq_add_one_of_ne_zero (Nat.ne_zero_of_lt hlt)
  have hk : k < thresholds.length := h'.le_length
  have hband : band ≤ k := Nat.le_of_lt_succ hlt
  have hupper := h'.upTo k rfl _ (List.getElem?_eq_getElem hk)
  have hlower := h.above _ (List.getElem?_eq_getElem (hband.trans_lt hk))
  have hends : 1 - thresholds[k] ≤ 1 - thresholds[band] := by
    obtain heq | hbelow := hband.eq_or_lt
    · subst heq
      exact (Total.isNumber_of_le hupper).2.le_self
    · exact List.pairwise_iff_getElem.1 hdown band k _ hk hbelow
  exact Total.not_lt_of_le (Scalar.Ordered.le_trans hupper hends) hlower

end

variable {settings : LotSettings Float32} {density : Float32}

theorem isNumber_lower (h : ∀ t ∈ settings.thresholds, IsNumber t) :
    ∀ t ∈ settings.thresholds, IsNumber (1 - t) := fun t ht =>
  Single.isNumber_of_isDefined
    (Single.isDefined_finite_sub Single.toReal_one.1 (Single.isDefined_of_isNumber (h t ht)))

/-- If the thresholds are numbers, in whatever order, the first model to try for a density is that
of the first threshold whose lower end the density exceeds, and the one behind all thresholds when
there is none. Where thresholds go up, this is the band in which the density lies. For a greater
density no later model is tried. -/
theorem firstModel_first_exceeded (settings : LotSettings Float32)
    (hthresholds : ∀ t ∈ settings.thresholds, IsNumber t) (density : Float32)
    (hdensity : IsNumber density) :
    settings.firstModel density = settings.thresholds.findIdx (fun t => 1 - t < density) ∧
      (settings.thresholds.Pairwise (· < ·) → ∀ band,
        settings.firstModel density = band ↔ InBand settings.thresholds band density) ∧
      ∀ greater, density ≤ greater →
        settings.firstModel greater ≤ settings.firstModel density := by
  have hlower := isNumber_lower hthresholds
  have hfirst {d : Float32} (hd : IsNumber d) :
      settings.firstModel d = settings.thresholds.findIdx fun t => Exceeds d t :=
    bandOf_eq_findIdx hlower hd nofun
  refine ⟨hfirst hdensity, fun hup band => ?_, fun greater hgreater => ?_⟩
  · have hdown : settings.thresholds.Pairwise fun s t => 1 - t ≤ 1 - s :=
      hup.imp fun hlt => Single.sub_le_sub_left (Scalar.Ordered.le_of_lt hlt) Single.toReal_one.1
    have hband : InBand settings.thresholds (settings.firstModel density) density :=
      hfirst hdensity ▸ inBand_findIdx hlower hdensity
    constructor
    · rintro rfl
      exact hband
    · intro hother
      exact Nat.le_antisymm (Nat.not_lt.1 (hother.not_lt hdown hband))
        (Nat.not_lt.1 (hband.not_lt hdown hother))
  · rw [hfirst hdensity, hfirst (Total.isNumber_of_le hgreater).2]
    refine List.findIdx_le_findIdx fun t _ hexceeds => ?_
    exact decide_eq_true (Total.lt_of_lt_of_le (of_decide_eq_true hexceeds) hgreater)

/-- A density on the lower end of the first standard band lies in the second one. -/
theorem firstModel_first_exceeded_standard :
    let settings : LotSettings Float32 := .standard
    (∀ t ∈ settings.thresholds, IsNumber t) ∧ IsNumber (0.75 : Float32) ∧
      settings.thresholds.Pairwise (· < ·) ∧
      settings.thresholds.findIdx (fun t => 1 - t < (0.75 : Float32)) = 1 ∧
      InBand settings.thresholds 1 (0.75 : Float32) ∧
      settings.firstModel 0.9 ≤ settings.firstModel 0.75 := by
  intro settings
  have hthresholds : ∀ t ∈ settings.thresholds, IsNumber t := by decide +kernel
  have hdensity : IsNumber (0.75 : Float32) := by decide +kernel
  have hup : settings.thresholds.Pairwise (· < ·) := by decide +kernel
  have hsecond : settings.firstModel 0.75 = 1 := by decide +kernel
  obtain ⟨hfirst, hband, hgreater⟩ := settings.firstModel_first_exceeded hthresholds 0.75 hdensity
  exact ⟨hthresholds, hdensity, hup, hfirst ▸ hsecond, (hband hup 1).1 hsecond,
    hgreater 0.9 (by decide +kernel)⟩

end Cityscape.LotSettings
