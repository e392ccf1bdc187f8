import Mathlib.Algebra.Order.Group.Nat
import Mathlib.Data.List.Nodup
import Mathlib.Data.List.Perm.Subperm

/-!
# Double collect

A table of rows changes over time. Reading it twice, in any number of pieces, and finding the same
keys with the same stamps both times pins down one instant between the two readings, provided that
every change of a row increases its stamp and that a deleted key never comes back.
-/

/-- The states of a table of keyed and stamped rows. -/
structure TableHistory (Instant : Type) {Row Key Stamp : Type} [LinearOrder Instant]
    [Preorder Stamp] (key : Row → Key) (stamp : Row → Stamp) where
  tableAt : Instant → List Row
  changed : ∀ earlier later, earlier ≤ later → ∀ first ∈ tableAt earlier,
    ∀ second ∈ tableAt later, key first = key second →
      first = second ∨ stamp first < stamp second
  present : ∀ earlier instant later, earlier ≤ instant → instant ≤ later →
    ∀ first ∈ tableAt earlier, ∀ second ∈ tableAt later, key first = key second →
      ∃ row ∈ tableAt instant, key row = key first

namespace TableHistory

variable {Instant Row Key Stamp : Type} [LinearOrder Instant] [Preorder Stamp] {key : Row → Key}
  {stamp : Row → Stamp} (history : TableHistory Instant key stamp)

/-- A row that is found twice with one stamp was there all the time in between. -/
theorem mem_between {earlier instant later : Instant} (hearlier : earlier ≤ instant)
    (hlater : instant ≤ later) {first second : Row} (hfirst : first ∈ history.tableAt earlier)
    (hsecond : second ∈ history.tableAt later) (hkey : key first = key second)
    (hstamp : stamp first = stamp second) : first ∈ history.tableAt instant := by
  obtain ⟨row, hrow, hsame⟩ :=
    history.present earlier instant later hearlier hlater first hfirst second hsecond hkey
  rcases history.changed earlier instant hearlier first hfirst row hrow hsame.symm with
    rfl | hincreased
  · exact hrow
  · rcases history.changed instant later hlater row hrow second hsecond (hsame.trans hkey) with
      rfl | hagain
    · exact absurd (hstamp ▸ hincreased) (lt_irrefl _)
    · exact absurd (hstamp ▸ hincreased.trans hagain) (lt_irrefl _)

/-- The rows are of the table at instants of the given kind, and are selected. -/
def Collected (selects : Row → Bool) (kind : Instant → Prop) (rows : List Row) : Prop :=
  ∀ row ∈ rows, selects row = true ∧ ∃ instant, kind instant ∧ row ∈ history.tableAt instant

/-- **Double collect.** Two collections with the same keys and stamps, one before and one after an
instant at which there are as many selected rows, are the selected rows of that instant. -/
theorem perm_of_collected {selects : Row → Bool} {instant : Instant} {first second : List Row}
    (hfirst : history.Collected selects (· ≤ instant) first)
    (hsecond : history.Collected selects (instant ≤ ·) second)
    (hanchors : (first.map fun row => (key row, stamp row)) =
      second.map fun row => (key row, stamp row))
    (hnodup : (first.map key).Nodup)
    (hcount : first.length = ((history.tableAt instant).filter selects).length) :
    first.Perm ((history.tableAt instant).filter selects) := by
  have hsubset : first ⊆ (history.tableAt instant).filter selects := by
    intro row hrow
    obtain ⟨hselected, earlier, hearlier, hmem⟩ := hfirst row hrow
    have hanchor : (key row, stamp row) ∈ second.map fun row => (key row, stamp row) := by
      rw [← hanchors]
      exact List.mem_map.mpr ⟨row, hrow, rfl⟩
    obtain ⟨other, hother, hsame⟩ := List.mem_map.mp hanchor
    obtain ⟨-, later, hlater, hfound⟩ := hsecond other hother
    obtain ⟨hkey, hstamp⟩ := Prod.mk.inj hsame
    exact List.mem_filter.mpr
      ⟨history.mem_between hearlier hlater hmem hfound hkey.symm hstamp.symm, hselected⟩
  exact (List.subperm_of_subset (List.Nodup.of_map _ hnodup) hsubset).perm_of_length_le hcount.ge

end TableHistory
