import Mathlib.Algebra.Order.Field.Basic
import Mathlib.Data.List.Sort
import Mathlib.Tactic.Ring

/-!
# Medians

The middle of some values, or the mean of the two in the middle. It does not depend on their order,
and it moves with every affine map, also with one that turns the values round.
-/

namespace Median

section Sorted

variable {K : Type} [LinearOrder K]

def sorted (values : List K) : List K := values.insertionSort (· ≤ ·)

theorem length_sorted (values : List K) : (sorted values).length = values.length :=
  List.length_insertionSort _ _

theorem sorted_perm {values others : List K} (hperm : values.Perm others) :
    sorted values = sorted others := by
  have hsorted : (sorted values).Perm (sorted others) :=
    (List.perm_insertionSort _ _).trans (hperm.trans (List.perm_insertionSort _ _).symm)
  exact hsorted.eq_of_pairwise' (List.pairwise_insertionSort _ _) (List.pairwise_insertionSort _ _)

end Sorted

variable {K : Type} [Field K] [LinearOrder K]

def median (values : List K) : Option K :=
  if values.length % 2 = 1 then
    (sorted values)[values.length / 2]?
  else do
    let lower ← (sorted values)[values.length / 2 - 1]?
    let upper ← (sorted values)[values.length / 2]?
    return (lower + upper) / 2

/-- The median of the distances from a value. -/
def deviation (values : List K) (center : K) : Option K :=
  median (values.map fun value => |value - center|)

theorem median_perm {values others : List K} (hperm : values.Perm others) :
    median values = median others := by
  unfold median
  rw [sorted_perm hperm, hperm.length_eq]

theorem deviation_perm {values others : List K} (hperm : values.Perm others) (center : K) :
    deviation values center = deviation others center := median_perm (hperm.map _)

/-- There is a median of every list but the empty one. -/
theorem median_isSome {values : List K} (hvalues : values ≠ []) : (median values).isSome := by
  have hpositive := List.length_pos_of_ne_nil hvalues
  have hupper : values.length / 2 < (sorted values).length := by
    rw [length_sorted]
    omega
  have hlower : values.length / 2 - 1 < (sorted values).length := by omega
  unfold median
  split
  · rw [List.getElem?_eq_getElem hupper]
    rfl
  · rw [List.getElem?_eq_getElem hupper, List.getElem?_eq_getElem hlower]
    rfl

/-! ### Affine maps -/

variable [IsStrictOrderedRing K] {factor offset : K}

theorem sorted_increasing (hfactor : 0 < factor) (values : List K) :
    sorted (values.map fun value => factor * value + offset) =
      (sorted values).map fun value => factor * value + offset := by
  refine (List.map_insertionSort _ _ _ values fun first _ second _ => ?_).symm
  rw [add_le_add_iff_right, mul_le_mul_iff_of_pos_left hfactor]

theorem sorted_decreasing (hfactor : factor < 0) (values : List K) :
    sorted (values.map fun value => factor * value + offset) =
      ((sorted values).map fun value => factor * value + offset).reverse := by
  have hperm : (sorted (values.map fun value => factor * value + offset)).Perm
      ((sorted values).map fun value => factor * value + offset).reverse := by
    refine (List.perm_insertionSort _ _).trans ?_
    exact ((List.perm_insertionSort _ values).symm.map _).trans (List.reverse_perm _).symm
  refine hperm.eq_of_pairwise' (List.pairwise_insertionSort _ _) ?_
  · rw [List.pairwise_reverse, List.pairwise_map]
    refine (List.pairwise_insertionSort (· ≤ ·) values).imp fun hle => ?_
    rw [add_le_add_iff_right]
    exact mul_le_mul_of_nonpos_left hle hfactor.le

/-- The median moves with the values. -/
theorem median_affine (hfactor : factor ≠ 0) (values : List K) :
    median (values.map fun value => factor * value + offset) =
      (median values).map fun value => factor * value + offset := by
  have hmean (lower upper : K) : (factor * lower + offset + (factor * upper + offset)) / 2 =
      factor * ((lower + upper) / 2) + offset := by ring
  rcases lt_or_gt_of_ne hfactor with hnegative | hpositive
  · unfold median
    rw [List.length_map, sorted_decreasing hnegative]
    split
    · rename_i hodd
      rw [List.getElem?_reverse (by rw [List.length_map, length_sorted]; omega), List.getElem?_map,
        List.length_map, length_sorted]
      congr 2
      omega
    · rename_i heven
      rcases Nat.eq_zero_or_pos values.length with hzero | hlength
      · rw [List.length_eq_zero_iff.mp hzero]
        rfl
      · rw [List.getElem?_reverse (by rw [List.length_map, length_sorted]; omega),
          List.getElem?_reverse (by rw [List.length_map, length_sorted]; omega),
          List.getElem?_map, List.getElem?_map, List.length_map, length_sorted]
        have hlower : values.length - 1 - (values.length / 2 - 1) = values.length / 2 := by omega
        have hupper : values.length - 1 - values.length / 2 = values.length / 2 - 1 := by omega
        rw [hlower, hupper]
        cases (sorted values)[values.length / 2]? with
        | none => cases (sorted values)[values.length / 2 - 1]? <;> rfl
        | some upper =>
            cases (sorted values)[values.length / 2 - 1]? with
            | none => rfl
            | some lower =>
                exact congrArg some ((hmean upper lower).trans (by rw [add_comm upper]))
  · unfold median
    rw [List.length_map, sorted_increasing hpositive]
    split
    · rw [List.getElem?_map]
    · rw [List.getElem?_map, List.getElem?_map]
      cases (sorted values)[values.length / 2 - 1]? with
      | none => rfl
      | some lower =>
          cases (sorted values)[values.length / 2]? with
          | none => rfl
          | some upper => exact congrArg some (hmean lower upper)

/-- Distances are scaled, and not moved. -/
theorem deviation_affine (hfactor : factor ≠ 0) (values : List K) (center : K) :
    deviation (values.map fun value => factor * value + offset) (factor * center + offset) =
      (deviation values center).map fun value => |factor| * value := by
  have hdistances : (values.map fun value => factor * value + offset).map
        (fun value => |value - (factor * center + offset)|) =
      (values.map fun value => |value - center|).map fun value => |factor| * value + 0 := by
    rw [List.map_map, List.map_map]
    refine List.map_congr_left fun value _ => ?_
    have hmoved : factor * value + offset - (factor * center + offset) =
        factor * (value - center) := by ring
    simp only [Function.comp_apply]
    rw [hmoved, abs_mul, add_zero]
  unfold deviation
  rw [hdistances, median_affine (abs_ne_zero.mpr hfactor)]
  simp only [add_zero]

end Median
