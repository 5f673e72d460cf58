import Mathlib.Algebra.Order.Field.Rat
import Mathlib.Analysis.Convex.Segment
import RioPassthru.Lib.SortedTable

set_option autoImplicit false

namespace RioPassthru

open SortedTable

variable {K : Type} [Field K]

namespace CKMath

section Delta

variable {V : Type}

def delta (x : K) (l i : K × V) : K := (x - l.1) / (i.1 - l.1)

theorem delta_start (l i : K × V) : delta l.1 l i = 0 := by
  rw [delta, sub_self, zero_div]

variable [LinearOrder K] [IsStrictOrderedRing K]

theorem delta_nonneg (x : K) (l i : K × V) (reached : l.1 ≤ x) (below : x < i.1) : 0 ≤ delta x l i := by
  apply div_nonneg
  · exact sub_nonneg.mpr reached
  · exact sub_nonneg.mpr (reached.trans below.le)

theorem delta_le_one (x : K) (l i : K × V) (reached : l.1 ≤ x) (below : x < i.1) : delta x l i ≤ 1 := by
  apply div_le_one_of_le₀
  · exact sub_le_sub_right below.le l.1
  · exact sub_nonneg.mpr (reached.trans below.le)

theorem delta_mono (x y : K) (l i : K × V) (reached : l.1 ≤ x) (order : x ≤ y) (below : y < i.1) :
    delta x l i ≤ delta y l i := by
  apply div_le_div_of_nonneg_right
  · exact sub_le_sub_right order l.1
  · exact sub_nonneg.mpr (reached.trans (order.trans below.le))

theorem delta_half_iff (x : K) (l i : K × V) (reached : l.1 ≤ x) (below : x < i.1) :
    delta x l i + delta x l i = 1 ↔ x - l.1 = i.1 - x := by
  have wide : i.1 - l.1 ≠ 0 := (sub_pos.mpr (reached.trans_lt below)).ne'
  rw [delta, ← add_div, div_eq_one_iff_eq wide, ← sub_add_sub_cancel i.1 x l.1, add_left_inj]

end Delta

section Interpolate

variable {V : Type} [AddCommGroup V] [Module K V]

def interpolateInside (x : K) (l i : K × V) : V := delta x l i • i.2 + (1 - delta x l i) • l.2

def geometryInside (valueInterpolate : V → V → K → V) (x : K) (l i : K × V) : V :=
  valueInterpolate i.2 l.2 (delta x l i)

variable [LinearOrder K]

def interpolate (data : Table K V) (x : K) : V := data.read interpolateInside x

def interpolateGeometry2d (valueInterpolate : V → V → K → V) (data : Table K V) (x : K) : V :=
  data.read (geometryInside valueInterpolate) x

omit [LinearOrder K] in
theorem interpolate_inside_start (l i : K × V) : interpolateInside l.1 l i = l.2 := by
  rw [interpolateInside, delta_start, zero_smul, sub_zero, one_smul, zero_add]

theorem interpolate_key (data : Table K V) (entry : K × V) (member : entry ∈ data.entries) :
    interpolate data entry.1 = entry.2 :=
  data.read_key interpolateInside interpolate_inside_start entry member

end Interpolate

section Bounds

variable [LinearOrder K] [IsStrictOrderedRing K]

theorem interpolate_inside_mem (x : K) (l i : K × K) (reached : l.1 ≤ x) (below : x < i.1) :
    interpolateInside x l i ∈ Set.uIcc l.2 i.2 := by
  have same : segment K l.2 i.2 = Set.uIcc l.2 i.2 := segment_eq_uIcc _ _
  rw [← same]
  refine ⟨1 - delta x l i, delta x l i, ?_, delta_nonneg x l i reached below, sub_add_cancel _ _, add_comm _ _⟩
  exact sub_nonneg.mpr (delta_le_one x l i reached below)

theorem interpolate_inside_mono (x y : K) (l i : K × K) (reached : l.1 ≤ x) (order : x ≤ y) (below : y < i.1)
    (up : l.2 ≤ i.2) : interpolateInside x l i ≤ interpolateInside y l i := by
  have closer := delta_mono x y l i reached order below
  have share : ∀ z : K, interpolateInside z l i = delta z l i * (i.2 - l.2) + l.2 := by
    intro z
    rw [interpolateInside, smul_eq_mul, smul_eq_mul]
    ring
  rw [share, share]
  exact add_le_add_left (mul_le_mul_of_nonneg_right closer (sub_nonneg.mpr up)) l.2

theorem interpolate_monotone (data : Table K K) (values : data.NonDecreasing) : Monotone (interpolate data) := by
  have inside : ∀ (x : K) (l i : K × K), l.1 ≤ x → x < i.1 → l.2 ≤ i.2 → interpolateInside x l i ∈ Set.Icc l.2 i.2 := by
    intro x l i reached below up
    rw [← Set.uIcc_of_le up]
    exact interpolate_inside_mem x l i reached below
  apply data.read_monotone interpolateInside
  · exact fun x l i reached below up => (inside x l i reached below up).1
  · exact fun x l i reached below up => (inside x l i reached below up).2
  · exact interpolate_inside_mono
  · exact values

theorem table_interpolation (data : Table K K) :
    (∀ entry ∈ data.entries, interpolate data entry.1 = entry.2) ∧
      (∀ x < data.first.1, interpolate data x = data.first.2) ∧
      (∀ last, data.IsLast last → ∀ x > last.1, interpolate data x = last.2) ∧
      (∀ x ≥ data.first.1, (∀ last, data.IsLast last → x < last.1) →
        ∃ l i, data.Brackets x l i ∧ interpolate data x ∈ Set.uIcc l.2 i.2) ∧
      (data.NonDecreasing → Monotone (interpolate data)) := by
  refine ⟨interpolate_key data, data.read_begin interpolateInside, ?_, ?_, interpolate_monotone data⟩
  · intro last ends x beyond
    exact data.read_end interpolateInside ends x beyond.le
  · intro x reached short
    obtain below | ⟨last, ends, passed⟩ | ⟨l, i, bracket⟩ := data.upper_bound_cases x
    · exact absurd reached below.not_ge
    · exact absurd (short last ends) passed.not_gt
    · refine ⟨l, i, bracket, ?_⟩
      rw [interpolate, data.read_inside interpolateInside bracket]
      exact interpolate_inside_mem x l i bracket.2.1 bracket.2.2

end Bounds

def slope : Table ℚ ℚ := ⟨(0, 1), [(1, 3), (2, 3)], by decide +kernel⟩

theorem table_interpolation_of_slope :
    (∀ entry ∈ slope.entries, interpolate slope entry.1 = entry.2) ∧
      (∀ x < slope.first.1, interpolate slope x = slope.first.2) ∧
      (∀ last, slope.IsLast last → ∀ x > last.1, interpolate slope x = last.2) ∧
      (∀ x ≥ slope.first.1, (∀ last, slope.IsLast last → x < last.1) →
        ∃ l i, slope.Brackets x l i ∧ interpolate slope x ∈ Set.uIcc l.2 i.2) ∧
      (slope.NonDecreasing → Monotone (interpolate slope)) :=
  table_interpolation slope

section Geometry

variable {V : Type} [AddCommGroup V] [Module K V] (valueInterpolate : V → V → K → V)

def IsLinear : Prop := ∀ (a b : V) (t : K), valueInterpolate a b t = a + t • (b - a)

variable [LinearOrder K] (data : Table K V) (x : K)

def InterpolationsAgree : Prop :=
  interpolateGeometry2d valueInterpolate data x = interpolate data x ∧
    ∀ entry ∈ data.entries, entry.1 = x →
      interpolateGeometry2d valueInterpolate data x = entry.2 ∧ interpolate data x = entry.2

-- x has no neighbours, or it is half way between them, or their values are the same.
def WeightsMayBeSwapped : Prop := ∀ l i, data.Brackets x l i → l.2 = i.2 ∨ x - l.1 = i.1 - x

omit [LinearOrder K] in
theorem inside_sub_geometry (linear : IsLinear valueInterpolate) (l i : K × V) :
    interpolateInside x l i - geometryInside valueInterpolate x l i =
      (delta x l i + delta x l i - 1) • (i.2 - l.2) := by
  rw [interpolateInside, geometryInside, linear]
  module

variable [IsStrictOrderedRing K]

theorem geometry_inside_eq_iff (linear : IsLinear valueInterpolate) (l i : K × V) (reached : l.1 ≤ x) (below : x < i.1) :
    geometryInside valueInterpolate x l i = interpolateInside x l i ↔ l.2 = i.2 ∨ x - l.1 = i.1 - x := by
  rw [eq_comm, ← sub_eq_zero, inside_sub_geometry valueInterpolate x linear, smul_eq_zero, sub_eq_zero, sub_eq_zero,
    delta_half_iff x l i reached below, or_comm, eq_comm]

theorem geometry_eq_iff (linear : IsLinear valueInterpolate) :
    interpolateGeometry2d valueInterpolate data x = interpolate data x ↔ WeightsMayBeSwapped data x := by
  refine ⟨?_, ?_⟩
  · intro same l i bracket
    rw [interpolateGeometry2d, interpolate, data.read_inside _ bracket, data.read_inside _ bracket] at same
    exact (geometry_inside_eq_iff valueInterpolate x linear l i bracket.2.1 bracket.2.2).mp same
  · intro swappable
    rw [interpolateGeometry2d, interpolate]
    obtain below | ⟨last, ends, passed⟩ | ⟨l, i, bracket⟩ := data.upper_bound_cases x
    · rw [data.read_begin _ x below, data.read_begin _ x below]
    · rw [data.read_end _ ends x passed, data.read_end _ ends x passed]
    · rw [data.read_inside _ bracket, data.read_inside _ bracket]
      exact (geometry_inside_eq_iff valueInterpolate x linear l i bracket.2.1 bracket.2.2).mpr (swappable l i bracket)

theorem interpolations_agree_iff (linear : IsLinear valueInterpolate) :
    InterpolationsAgree valueInterpolate data x ↔ WeightsMayBeSwapped data x := by
  refine ⟨fun agree => (geometry_eq_iff valueInterpolate data x linear).mp agree.1, ?_⟩
  intro swappable
  have same := (geometry_eq_iff valueInterpolate data x linear).mpr swappable
  refine ⟨same, ?_⟩
  intro entry member here
  have exact_ : interpolate data x = entry.2 := here ▸ interpolate_key data entry member
  exact ⟨same.trans exact_, exact_⟩

end Geometry

theorem interpolations_agree_iff_half_way :
    InterpolationsAgree (fun a b t : ℚ => a + t • (b - a)) slope (1 / 2) ↔ WeightsMayBeSwapped slope (1 / 2) :=
  interpolations_agree_iff (fun a b t : ℚ => a + t • (b - a)) slope (1 / 2) (fun _ _ _ => rfl)

-- At the first key the geometric one already answers the value of the second.
theorem interpolations_disagree : ¬ ∀ (valueInterpolate : ℚ → ℚ → ℚ → ℚ), IsLinear valueInterpolate →
    ∀ (data : Table ℚ ℚ) (x : ℚ), InterpolationsAgree valueInterpolate data x := by
  intro always
  have agree := always (fun a b t : ℚ => a + t • (b - a)) (fun _ _ _ => rfl) slope 0
  exact absurd agree.1 (by decide +kernel)

end CKMath

end RioPassthru
