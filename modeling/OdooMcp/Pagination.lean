import Mathlib.Tactic.Common

/-!
# Pages by offset

A listing is read in pages, each of which names the cursor of the next one. Where the cursors stand
for offsets into one list, the pages that a reader gets by following them are that list.
-/

namespace Pagination

variable {ε κ π α : Type}

/-- Read from a cursor on and follow the next cursors, for `fuel` pages at most. -/
def follow (fetch : Option κ → Except ε π) (next : π → Option κ) :
    Nat → Option κ → Except ε (Option (List π))
  | 0, _ => .ok none
  | fuel + 1, cursor =>
      match fetch cursor with
      | .error error => .error error
      | .ok page =>
          match next page with
          | none => .ok (some [page])
          | some cursor =>
              match follow fetch next fuel (some cursor) with
              | .error error => .error error
              | .ok rest => .ok (rest.map (page :: ·))

/-- The page holds the items from an offset on, and its cursor stands for the offset after them, if
there are any left. -/
structure PageAt (items : π → List α) (next : π → Option κ) (all : List α) (limit : Nat)
    (encode : Nat → κ) (offset : Nat) (page : π) : Prop where
  items_eq : items page = (all.drop offset).take limit
  next_eq : next page =
    if offset + (items page).length < all.length then some (encode (offset + (items page).length))
    else none

/-- The cursors of the listing stand for the offsets into a list. -/
structure ByOffset (fetch : Option κ → Except ε π) (items : π → List α) (next : π → Option κ)
    (all : List α) (limit : Nat) (encode : Nat → κ) : Prop where
  first : ∃ page, fetch none = .ok page ∧ PageAt items next all limit encode 0 page
  later : ∀ offset, 0 < offset → offset < all.length →
    ∃ page, fetch (some (encode offset)) = .ok page ∧ PageAt items next all limit encode offset page

variable {fetch : Option κ → Except ε π} {items : π → List α} {next : π → Option κ}
  {all : List α} {limit : Nat} {encode : Nat → κ}

structure FollowedFrom (fetch : Option κ → Except ε π) (items : π → List α) (next : π → Option κ)
    (all : List α) (cursor : Option κ) (offset : Nat) (pages : List π) : Prop where
  followed : ∀ fuel, all.length - offset < fuel → follow fetch next fuel cursor = .ok (some pages)
  items_eq : pages.flatMap items = all.drop offset
  fetched : ∀ page ∈ pages, ∃ cursor, fetch cursor = .ok page

theorem followedFrom_last {offset : Nat} {cursor : Option κ} {page : π}
    (hpage : fetch cursor = .ok page) (hat : PageAt items next all limit encode offset page)
    (hlast : ¬ offset + (items page).length < all.length) :
    FollowedFrom fetch items next all cursor offset [page] := by
  have hnone : next page = none := by
    rw [hat.next_eq, if_neg hlast]
  have hlength : (items page).length = min limit (all.length - offset) := by
    rw [hat.items_eq, List.length_take, List.length_drop]
  refine ⟨fun fuel hfuel => ?_, ?_, fun found hfound => ⟨cursor, ?_⟩⟩
  · obtain ⟨fuel, rfl⟩ : ∃ rest, fuel = rest + 1 := ⟨fuel - 1, by omega⟩
    rw [follow, hpage]
    dsimp only
    rw [hnone]
  · rw [List.flatMap_singleton, hat.items_eq, List.take_of_length_le]
    rw [List.length_drop]
    omega
  · rw [List.mem_singleton.mp hfound, hpage]

theorem followedFrom_pageAt (hlimit : 1 ≤ limit)
    (paged : ByOffset fetch items next all limit encode)
    (left : Nat) {offset : Nat} (hleft : all.length - offset ≤ left) {cursor : Option κ} {page : π}
    (hpage : fetch cursor = .ok page) (hat : PageAt items next all limit encode offset page) :
    ∃ pages, FollowedFrom fetch items next all cursor offset pages := by
  induction left generalizing offset cursor page with
  | zero => exact ⟨[page], followedFrom_last hpage hat (by omega)⟩
  | succ left ih =>
      have hlength : (items page).length = min limit (all.length - offset) := by
        rw [hat.items_eq, List.length_take, List.length_drop]
      by_cases hmore : offset + (items page).length < all.length
      · have hnext : next page = some (encode (offset + (items page).length)) := by
          rw [hat.next_eq, if_pos hmore]
        have hread : (items page).length = limit := by omega
        obtain ⟨following, hfollowing, hfollowingAt⟩ :=
          paged.later (offset + (items page).length) (by omega) hmore
        obtain ⟨pages, hpages⟩ := ih (by omega) hfollowing hfollowingAt
        refine ⟨page :: pages, ⟨fun fuel hfuel => ?_, ?_, ?_⟩⟩
        · obtain ⟨fuel, rfl⟩ : ∃ rest, fuel = rest + 1 := ⟨fuel - 1, by omega⟩
          rw [follow, hpage]
          dsimp only
          rw [hnext]
          dsimp only
          rw [hpages.followed fuel (by omega)]
          rfl
        · rw [List.flatMap_cons, hpages.items_eq, hread, hat.items_eq, ← List.drop_drop,
            List.take_append_drop]
        · exact List.forall_mem_cons.mpr ⟨⟨cursor, hpage⟩, hpages.fetched⟩
      · exact ⟨[page], followedFrom_last hpage hat hmore⟩

/-- **Following the cursors reads the list.** -/
theorem ByOffset.followed (hlimit : 1 ≤ limit)
    (paged : ByOffset fetch items next all limit encode) :
    ∃ pages, FollowedFrom fetch items next all none 0 pages := by
  obtain ⟨page, hpage, hat⟩ := paged.first
  exact followedFrom_pageAt hlimit paged all.length (by omega) hpage hat

end Pagination
