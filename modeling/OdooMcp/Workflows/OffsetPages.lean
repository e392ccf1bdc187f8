import OdooMcp.Adapters.AccountingPages
import OdooMcp.Adapters.PayrollPages
import OdooMcp.Pagination

/-!
# Pages of a report

A report computes all its items and answers with some of them, from an offset that its cursor stands
for. Following the cursors reads the items in their order.
-/

namespace OdooMcp

open Pagination

/-- What a report says of a cursor that is none, and of one after its items. -/
structure CursorErrors where
  invalid : PyException
  outside : PyException

/-- `_cursor_offset` -/
def cursorOffset (errors : CursorErrors) : Option String → Except PyException Nat
  | none => .ok 0
  | some cursor => do
      let payload ← orRaise ((Base64.decode cursor.toList).bind Base64.utf8) errors.invalid
      let version := payload.takeWhile (· ≠ ':')
      let rest := payload.dropWhile (· ≠ ':')
      ensure (!rest.isEmpty) errors.invalid
      let offset ← orRaise (Decimal.parseInt? (String.ofList rest.tail)) errors.invalid
      ensure (version = "v1".toList && 0 < offset) errors.invalid
      return offset.toNat

/-- `_next_cursor` -/
def offsetCursor (offset : Nat) : String := encodeCursor offset

/-- `_page` -/
def offsetPage {α : Type} (errors : CursorErrors) (items : List α) (limit : Nat)
    (cursor : Option String) : Except PyException (List α × Option String) := do
  let offset ← cursorOffset errors cursor
  ensure (offset ≤ items.length) errors.outside
  let selected := (items.drop offset).take limit
  let nextOffset := offset + selected.length
  return (selected, if nextOffset < items.length then some (offsetCursor nextOffset) else none)

/-! ### Following the cursors -/

section Cursors

variable {errors : CursorErrors}

/-- The cursor of a report is read as one of the reader. -/
theorem cursorOffset_of_decodeCursor {cursor : String} {identifier : Int}
    (hdecoded : decodeCursor cursor = .ok identifier) :
    cursorOffset errors (some cursor) = .ok identifier.toNat := by
  obtain ⟨payload, hpayload, hrest⟩ := except_bind_ok.mp hdecoded
  obtain ⟨⟨⟩, hsplit, hrest⟩ := except_bind_ok.mp hrest
  obtain ⟨number, hnumber, hrest⟩ := except_bind_ok.mp hrest
  obtain ⟨⟨⟩, hversion, hdone⟩ := except_bind_ok.mp hrest
  cases hdone
  rw [orRaise_ok] at hpayload hnumber
  rw [ensure_ok] at hsplit hversion
  exact except_bind_ok.mpr ⟨payload, orRaise_ok.mpr hpayload, except_bind_ok.mpr
    ⟨(), ensure_ok.mpr hsplit, except_bind_ok.mpr ⟨identifier, orRaise_ok.mpr hnumber,
      except_bind_ok.mpr ⟨(), ensure_ok.mpr hversion, rfl⟩⟩⟩⟩

theorem length_offsetCursor {offset : Nat} (hoffset : offset < sysMaxsize) :
    (offsetCursor offset).length ≤ 128 := by
  have hdigits : offset.repr.length ≤ 19 :=
    Nat.repr_length offset 19 (by decide) (Nat.lt_trans hoffset (by decide))
  have htext : (toString (offset : Int)).length = offset.repr.length := rfl
  have hversion : "v1:".length = 3 := by decide
  rw [offsetCursor, encodeCursor, String.length_ofList, Base64.length_encode, List.length_map,
    String.length_toList, String.length_append, htext, hversion]
  omega

theorem cursorOffset_offsetCursor {offset : Nat} (hpositive : 0 < offset)
    (hoffset : offset < sysMaxsize) :
    cursorOffset errors (some (offsetCursor offset)) = .ok offset :=
  cursorOffset_of_decodeCursor
    (decodeCursor_encodeCursor (by exact_mod_cast hpositive) (length_offsetCursor hoffset))

variable {α : Type} {items : List α} {limit : Nat}

def pageFrom (items : List α) (limit offset : Nat) : List α × Option String :=
  let selected := (items.drop offset).take limit
  (selected,
    if offset + selected.length < items.length then some (offsetCursor (offset + selected.length))
    else none)

theorem offsetPage_of_offset {cursor : Option String} {offset : Nat}
    (hoffset : cursorOffset errors cursor = .ok offset) (hle : offset ≤ items.length) :
    offsetPage errors items limit cursor = .ok (pageFrom items limit offset) :=
  except_bind_ok.mpr ⟨offset, hoffset, except_bind_ok.mpr
    ⟨(), ensure_ok.mpr (decide_eq_true hle), rfl⟩⟩

/-- The cursors of a report stand for the offsets into its items. -/
theorem byOffset_offsetPage (hbounded : items.length ≤ sysMaxsize) :
    ByOffset (offsetPage errors items limit) Prod.fst Prod.snd items limit offsetCursor where
  first := ⟨pageFrom items limit 0, offsetPage_of_offset rfl (Nat.zero_le _), rfl, rfl⟩
  later offset hpositive hlt :=
    ⟨pageFrom items limit offset, offsetPage_of_offset
      (cursorOffset_offsetCursor hpositive (Nat.lt_of_lt_of_le hlt hbounded)) hlt.le, rfl, rfl⟩

end Cursors

end OdooMcp
