import Mathlib.Data.Finset.Basic
import Mathlib.Logic.Function.Basic

/-!
# Exclusive entries

A set of active keys accounts for the keys that parties hold: it has exactly the keys that some
party holds, and no key is held by two. Taking a key that is not active and dropping a held key keep
the account.
-/

namespace Effect

variable {ι κ : Type}

/-- The active keys are exactly the held ones, and each has a single holder. -/
structure Exclusive (active : Finset κ) (holds : ι → Option κ) : Prop where
  mem_iff : ∀ key, key ∈ active ↔ ∃ id, holds id = some key
  unique : ∀ id other key, holds id = some key → holds other = some key → id = other

namespace Exclusive

variable {active : Finset κ} {holds : ι → Option κ}

theorem empty : Exclusive (∅ : Finset κ) fun _ : ι => none :=
  ⟨fun _ => by simp, nofun⟩

variable [DecidableEq ι]

/-- A party whose holding does not change. -/
theorem keep (hexclusive : Exclusive active holds) {id : ι} {held : Option κ}
    (hheld : holds id = held) : Exclusive active (Function.update holds id held) := by
  rw [← hheld, Function.update_eq_self]
  exact hexclusive

variable [DecidableEq κ]

theorem take (hexclusive : Exclusive active holds) {id : ι} {key : κ} (hid : holds id = none)
    (hkey : key ∉ active) :
    Exclusive (insert key active) (Function.update holds id (some key)) := by
  have hfree (other : ι) : holds other ≠ some key :=
    fun hother => hkey ((hexclusive.mem_iff key).mpr ⟨other, hother⟩)
  constructor
  · intro asked
    rw [Finset.mem_insert, hexclusive.mem_iff]
    constructor
    · rintro (rfl | ⟨other, hother⟩)
      · exact ⟨id, Function.update_self ..⟩
      · refine ⟨other, ?_⟩
        rwa [Function.update_of_ne]
        rintro rfl
        rw [hid] at hother
        cases hother
    · rintro ⟨other, hother⟩
      by_cases hsame : other = id
      · rw [hsame, Function.update_self] at hother
        exact .inl (Option.some.inj hother).symm
      · rw [Function.update_of_ne hsame] at hother
        exact .inr ⟨other, hother⟩
  · intro first second asked hfirst hsecond
    by_cases hone : first = id
    · by_cases htwo : second = id
      · rw [hone, htwo]
      · rw [hone, Function.update_self] at hfirst
        rw [Function.update_of_ne htwo, ← hfirst] at hsecond
        exact absurd hsecond (hfree second)
    · rw [Function.update_of_ne hone] at hfirst
      by_cases htwo : second = id
      · rw [htwo, Function.update_self] at hsecond
        rw [← hsecond] at hfirst
        exact absurd hfirst (hfree first)
      · rw [Function.update_of_ne htwo] at hsecond
        exact hexclusive.unique first second asked hfirst hsecond

theorem drop (hexclusive : Exclusive active holds) {id : ι} {key : κ} (hid : holds id = some key) :
    Exclusive (active.erase key) (Function.update holds id none) := by
  have hothers (other : ι) (asked : κ) :
      Function.update holds id none other = some asked ↔ other ≠ id ∧ holds other = some asked := by
    by_cases hsame : other = id
    · simp [hsame]
    · simp [hsame, Function.update_of_ne]
  constructor
  · intro asked
    simp only [Finset.mem_erase, hexclusive.mem_iff, hothers]
    constructor
    · rintro ⟨hasked, other, hother⟩
      refine ⟨other, ?_, hother⟩
      rintro rfl
      exact hasked (Option.some.inj (hother.symm.trans hid))
    · rintro ⟨other, hother, hholds⟩
      refine ⟨?_, other, hholds⟩
      rintro rfl
      exact hother (hexclusive.unique other id asked hholds hid)
  · intro first second asked hfirst hsecond
    exact hexclusive.unique first second asked ((hothers first asked).mp hfirst).2
      ((hothers second asked).mp hsecond).2

end Exclusive

end Effect
