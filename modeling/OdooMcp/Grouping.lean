import Mathlib.Data.List.Dedup
import Mathlib.Data.List.Sort
import Mathlib.Data.Prod.Lex
import Mathlib.Data.String.Basic
import OdooMcp.Tally

/-!
# Groups of rows

The rows of a list under a key, and the keys of some rows, sorted. Amounts summed key by key sum to
what the rows sum to, whichever way they are grouped.
-/

namespace Grouping

variable {ι κ M : Type} [LinearOrder κ]

/-- The keys in order, each once. -/
def sortedKeys (keys : List κ) : List κ := keys.dedup.insertionSort (· ≤ ·)

/-- The rows of a key, in the order in which they came. -/
def rowsAt (keyOf : ι → κ) (rows : List ι) (key : κ) : List ι :=
  rows.filter fun row => keyOf row = key

theorem mem_sortedKeys {keys : List κ} {key : κ} : key ∈ sortedKeys keys ↔ key ∈ keys := by
  rw [sortedKeys, List.mem_insertionSort, List.mem_dedup]

theorem nodup_sortedKeys (keys : List κ) : (sortedKeys keys).Nodup :=
  (List.perm_insertionSort _ _).nodup_iff.mpr (List.nodup_dedup keys)

/-- The sorted keys depend on which keys there are only. -/
theorem sortedKeys_congr {keys others : List κ} (hsame : ∀ key, key ∈ keys ↔ key ∈ others) :
    sortedKeys keys = sortedKeys others := by
  have hperm : (sortedKeys keys).Perm (sortedKeys others) := by
    refine (List.perm_ext_iff_of_nodup (nodup_sortedKeys keys) (nodup_sortedKeys others)).mpr ?_
    intro key
    rw [mem_sortedKeys, mem_sortedKeys, hsame]
  exact hperm.eq_of_pairwise' (List.pairwise_insertionSort _ _) (List.pairwise_insertionSort _ _)

theorem mem_rowsAt {keyOf : ι → κ} {rows : List ι} {key : κ} {row : ι} :
    row ∈ rowsAt keyOf rows key ↔ row ∈ rows ∧ keyOf row = key := by
  rw [rowsAt, List.mem_filter, decide_eq_true_eq]

theorem rowsAt_eq_nil_iff {keyOf : ι → κ} {rows : List ι} {key : κ} :
    rowsAt keyOf rows key = [] ↔ key ∉ rows.map keyOf := by
  rw [List.eq_nil_iff_forall_not_mem, List.mem_map]
  exact ⟨fun hnone ⟨row, hrow, hkey⟩ => hnone row (mem_rowsAt.mpr ⟨hrow, hkey⟩),
    fun hnone row hrow => hnone ⟨row, mem_rowsAt.mp hrow⟩⟩

/-- Summed key by key, over keys that all the rows have and that pass a test with them. -/
theorem sum_rowsAt [AddCommMonoid M] {keyOf : ι → κ} {rows : List ι} {keys : List κ}
    (hkeys : ∀ row ∈ rows, keyOf row ∈ keys) (selects : κ → Bool) (weight : ι → M) :
    (((sortedKeys keys).filter selects).map fun key =>
      ((rowsAt keyOf rows key).map weight).sum).sum =
      ((rows.filter fun row => selects (keyOf row)).map weight).sum := by
  have hfibers := Tally.sum_fibers ((nodup_sortedKeys keys).filter selects) keyOf weight rows
  refine hfibers.trans ?_
  refine congrArg (fun selected => (List.map weight selected).sum) ?_
  refine List.filter_congr fun row hrow => ?_
  rw [Bool.eq_iff_iff, decide_eq_true_eq, List.mem_filter, mem_sortedKeys]
  exact ⟨And.right, fun hselected => ⟨hkeys row hrow, hselected⟩⟩

end Grouping
