import Mathlib.Data.List.Induction
import Mathlib.Data.List.Forall2

/-!
# Hash chains

The entries of a chain each name the digest of their predecessor, and the first one names a fixed
genesis digest. If the digest of an entry determines its contents and its predecessor, then the
digest of the last entry and the number of entries determine the whole chain, and no digest occurs
twice in it.
-/

namespace HashChain

variable {Entry Digest : Type} (previous digest : Entry → Digest)

/-- The digest of the last entry. -/
def head (genesis : Digest) : List Entry → Digest
  | [] => genesis
  | entry :: entries => head (digest entry) entries

/-- Every entry names the digest of the one before it. -/
def Linked (genesis : Digest) : List Entry → Prop
  | [] => True
  | entry :: entries => previous entry = genesis ∧ Linked (digest entry) entries

variable {previous digest} {genesis : Digest}

theorem head_append (first second : List Entry) :
    head digest genesis (first ++ second) = head digest (head digest genesis first) second := by
  induction first generalizing genesis with
  | nil => rfl
  | cons entry first ih => exact ih

theorem head_append_singleton (entries : List Entry) (entry : Entry) :
    head digest genesis (entries ++ [entry]) = digest entry :=
  head_append entries [entry]

theorem head_eq_getLast? (entries : List Entry) :
    head digest genesis entries = (entries.getLast?.map digest).getD genesis := by
  induction entries using List.reverseRecOn with
  | nil => rfl
  | append_singleton entries entry _ =>
      rw [head_append_singleton, List.getLast?_append]
      rfl

theorem linked_append {first second : List Entry} :
    Linked previous digest genesis (first ++ second) ↔
      Linked previous digest genesis first ∧
        Linked previous digest (head digest genesis first) second := by
  induction first generalizing genesis with
  | nil => simp [Linked, head]
  | cons entry first ih => simp [Linked, head, ih, and_assoc]

/-- A chain is extended by an entry that names its head. -/
theorem linked_append_singleton {entries : List Entry} {entry : Entry} :
    Linked previous digest genesis (entries ++ [entry]) ↔
      Linked previous digest genesis entries ∧ previous entry = head digest genesis entries := by
  rw [linked_append]
  simp [Linked]

/-- **Tamper evidence.** Two chains of one length and one head agree entry by entry in everything
that the digest of an entry determines. -/
theorem forall₂_of_head_eq {Valid : Entry → Prop} {Same : Entry → Entry → Prop}
    (hdetermines : ∀ {one other}, Valid one → Valid other → digest one = digest other →
      Same one other ∧ previous one = previous other)
    {first second : List Entry} (hfirst : Linked previous digest genesis first)
    (hsecond : Linked previous digest genesis second)
    (hvalidFirst : ∀ entry ∈ first, Valid entry) (hvalidSecond : ∀ entry ∈ second, Valid entry)
    (hlength : first.length = second.length)
    (hhead : head digest genesis first = head digest genesis second) :
    List.Forall₂ Same first second := by
  induction first using List.reverseRecOn generalizing second with
  | nil =>
      obtain rfl := List.eq_nil_of_length_eq_zero hlength.symm
      exact .nil
  | append_singleton first one ih =>
      rcases List.eq_nil_or_concat second with rfl | ⟨second, other, rfl⟩
      · simp at hlength
      · rw [List.concat_eq_append] at *
        rw [head_append_singleton, head_append_singleton] at hhead
        rw [linked_append_singleton] at hfirst hsecond
        have hone := hvalidFirst one (by simp)
        have hother := hvalidSecond other (by simp)
        obtain ⟨hsame, hprevious⟩ := hdetermines hone hother hhead
        have hrest : List.Forall₂ Same first second := by
          refine ih hfirst.1 hsecond.1 (fun entry hentry => hvalidFirst entry (by simp [hentry]))
            (fun entry hentry => hvalidSecond entry (by simp [hentry])) (by simpa using hlength) ?_
          rw [← hfirst.2, hprevious, hsecond.2]
        exact List.rel_append hrest (.cons hsame .nil)

/-- What an entry of a chain names: the genesis digest, or an entry other than the last one. -/
theorem previous_of_linked {entries : List Entry} (hlinked : Linked previous digest genesis entries)
    {entry : Entry} (hentry : entry ∈ entries) :
    previous entry = genesis ∨ ∃ earlier ∈ entries.dropLast, previous entry = digest earlier := by
  induction entries generalizing genesis with
  | nil => cases hentry
  | cons first entries ih =>
      rcases List.mem_cons.mp hentry with rfl | hrest
      · exact .inl hlinked.1
      · have hne : entries ≠ [] := List.ne_nil_of_mem hrest
        rw [List.dropLast_cons_of_ne_nil hne]
        rcases ih hlinked.2 hrest with hfirst | ⟨earlier, hearlier, hprevious⟩
        · exact .inr ⟨first, List.mem_cons_self, hfirst⟩
        · exact .inr ⟨earlier, List.mem_cons_of_mem _ hearlier, hprevious⟩

/-- If a digest determines the predecessor and is never the genesis digest, then the digest of a new
entry occurs nowhere in the chain it extends. -/
theorem digest_ne_of_linked {Valid : Entry → Prop}
    (hdetermines : ∀ one other, Valid one → Valid other → digest one = digest other →
      previous one = previous other)
    (hgenesis : ∀ entry, Valid entry → digest entry ≠ genesis) {entries : List Entry}
    (hlinked : Linked previous digest genesis entries) (hvalid : ∀ entry ∈ entries, Valid entry)
    {last : Entry} (hlast : Valid last) (hprevious : previous last = head digest genesis entries) :
    ∀ entry ∈ entries, digest entry ≠ digest last := by
  induction entries using List.reverseRecOn generalizing last with
  | nil => simp
  | append_singleton entries newest ih =>
      intro entry hentry hsame
      rw [head_append_singleton] at hprevious
      obtain ⟨hearlier, hnewest⟩ := linked_append_singleton.mp hlinked
      have hnewestValid : Valid newest := hvalid newest (by simp)
      have hnamed : previous entry = digest newest :=
        (hdetermines entry last (hvalid entry hentry) hlast hsame).trans hprevious
      rcases previous_of_linked hlinked hentry with hfirst | ⟨earlier, hmem, hbefore⟩
      · exact hgenesis newest hnewestValid (hnamed.symm.trans hfirst)
      · rw [List.dropLast_concat] at hmem
        have hvalidEarlier : ∀ entry ∈ entries, Valid entry := by
          intro other hother
          exact hvalid other (List.mem_append_left _ hother)
        exact ih hearlier hvalidEarlier hnewestValid hnewest earlier hmem
          (hbefore.symm.trans hnamed)

end HashChain
