import Mathlib.Data.Nat.Digits.Defs
import OdooMcp.Cursor

/-!
# Cursors of fields

A cursor that holds some fields between colons is read back to these fields, as long as none of them
has a colon.
-/

namespace OdooMcp

def fieldsText (fields : List (List Char)) : String :=
  String.ofList (Base64.encode (([':'].intercalate fields).map Char.toNat))

/-- A text that may stand between colons. -/
def PlainField (field : List Char) : Prop :=
  ∀ character ∈ field, character.toNat < 0x80 ∧ character ≠ ':'

instance (field : List Char) : Decidable (PlainField field) :=
  show Decidable (∀ character ∈ field, character.toNat < 0x80 ∧ character ≠ ':') from
    List.decidableBAll _ field

theorem plainField_repr (number : Nat) : PlainField number.repr.toList :=
  fun _ hcharacter => ascii_of_isDigit (Decimal.isDigit_of_mem hcharacter)

theorem PlainField.append {field other : List Char} (hfield : PlainField field)
    (hother : PlainField other) : PlainField (field ++ other) :=
  fun character hcharacter =>
    (List.mem_append.mp hcharacter).elim (hfield character) (hother character)

theorem ascii_intercalate {fields : List (List Char)}
    (hplain : ∀ field ∈ fields, PlainField field) :
    ∀ character ∈ [':'].intercalate fields, character.toNat < 0x80 := by
  induction fields with
  | nil => simp
  | cons field fields ih =>
      obtain ⟨hfield, hfields⟩ := List.forall_mem_cons.mp hplain
      cases fields with
      | nil =>
          rw [List.intercalate_singleton]
          exact fun character hcharacter => (hfield character hcharacter).1
      | cons other others =>
          intro character hcharacter
          rw [List.intercalate_cons_cons, List.append_assoc, List.mem_append, List.mem_append]
            at hcharacter
          rcases hcharacter with hcharacter | hcharacter | hcharacter
          · exact (hfield character hcharacter).1
          · cases List.mem_singleton.mp hcharacter
            decide
          · exact ih hfields character hcharacter

/-- The fields of a cursor are read back. -/
theorem splitOn_fieldsText {fields : List (List Char)} (hplain : ∀ field ∈ fields, PlainField field)
    (hne : fields ≠ []) :
    ∃ payload, (Base64.decode (fieldsText fields).toList).bind Base64.utf8 = some payload ∧
      payload.splitOn ':' = fields := by
  refine ⟨[':'].intercalate fields, ?_, splitOn_fields (fun field hfield hcolon => ?_) hne⟩
  · rw [fieldsText, String.toList_ofList]
    exact Base64.decode_text (ascii_intercalate hplain)
  · exact (hplain field hfield ':' hcolon).2 rfl

theorem length_intercalate_le (fields : List (List Char)) :
    ([':'].intercalate fields).length ≤ (fields.map fun field => field.length + 1).sum := by
  induction fields with
  | nil => exact Nat.zero_le _
  | cons field fields ih =>
      cases fields with
      | nil =>
          rw [List.intercalate_singleton, List.map_singleton, List.sum_singleton]
          exact Nat.le_succ _
      | cons other others =>
          rw [List.intercalate_cons_cons, List.append_assoc, List.length_append, List.length_append,
            List.map_cons, List.sum_cons, List.length_singleton]
          omega

/-- Short fields make a cursor that a request has room for. -/
theorem length_fieldsText_le {fields : List (List Char)}
    (hfields : (fields.map fun field => field.length + 1).sum ≤ 96) :
    (fieldsText fields).length ≤ 128 := by
  have hraw := length_intercalate_le fields
  rw [fieldsText, String.length_ofList, Base64.length_encode, List.length_map]
  omega

/-! ### Numbers -/

/-- A number that the cursors have room for. -/
def Held (number : Nat) : Prop := number < 2 ^ 63

instance (number : Nat) : Decidable (Held number) := inferInstanceAs (Decidable (number < 2 ^ 63))

theorem digits_of_held {number : Nat} (hheld : Held number) : number.repr.length ≤ 19 :=
  Nat.repr_length number 19 (by decide) (Nat.lt_trans hheld (by decide))

theorem parseInt?_of_held {number : Nat} (hheld : Held number) :
    Decimal.parseInt? (String.ofList number.repr.toList) = some number := by
  rw [String.ofList_toList]
  refine Decimal.parseInt?_repr ?_
  rw [String.length_toList]
  exact (digits_of_held hheld).trans (by decide)

end OdooMcp
