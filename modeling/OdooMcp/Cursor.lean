import OdooMcp.Base64
import OdooMcp.Decimal

/-!
# Texts of page cursors

A cursor codes a version and some fields, joined by colons. A number is written in decimal digits
and read back by `int`.
-/

namespace OdooMcp

namespace Decimal

theorem toNat_of_isDigit {character : Char} (hdigit : character.isDigit = true) :
    48 ≤ character.toNat ∧ character.toNat ≤ 57 := by
  simp only [Char.isDigit, Bool.and_eq_true, decide_eq_true_eq] at hdigit
  exact ⟨hdigit.1, hdigit.2⟩

theorem digit?_of_isDigit {character : Char} (hdigit : character.isDigit = true) :
    digit? character = some (character.toNat - 48) := by
  obtain ⟨hlower, hupper⟩ := toNat_of_isDigit hdigit
  have hfound : digitZeros.find? (fun first => first ≤ character.toNat &&
      character.toNat < first + 10) = some 48 := by
    unfold digitZeros
    rw [List.find?_cons_of_pos]
    simp only [Bool.and_eq_true, decide_eq_true_eq]
    omega
  rw [digit?, hfound]
  rfl

theorem isDigit_of_mem {number : Nat} {character : Char}
    (hcharacter : character ∈ number.repr.toList) : character.isDigit = true := by
  rw [Nat.toList_repr] at hcharacter
  exact Nat.isDigit_of_mem_toDigits (by decide) (by decide) hcharacter

theorem digitsValue_eq {digits : List Char}
    (hdigits : ∀ character ∈ digits, character.isDigit = true) :
    digitsValue digits = Nat.ofDigitChars 10 digits 0 := by
  have hfold : ∀ start, digits.foldl
      (fun number character => number * 10 + (digit? character).getD 0) start =
        Nat.ofDigitChars 10 digits start := by
    induction digits with
    | nil => simp
    | cons character digits ih =>
        intro start
        obtain ⟨hdigit, hrest⟩ := List.forall_mem_cons.mp hdigits
        rw [List.foldl_cons, ih hrest, Nat.ofDigitChars_cons, digit?_of_isDigit hdigit]
        simp [Nat.mul_comm]
  exact hfold 0

theorem digitsValue_repr (number : Nat) : digitsValue number.repr.toList = number := by
  rw [digitsValue_eq fun _ => isDigit_of_mem, Nat.toList_repr]
  exact Nat.ofDigitChars_ten_toDigits

theorem stripWhere_eq {blank : Char → Bool} {value : String}
    (hplain : ∀ character ∈ value.toList, blank character = false) :
    stripWhere blank value = value := by
  have hkeep : ∀ characters : List Char, (∀ character ∈ characters, blank character = false) →
      characters.dropWhile blank = characters := by
    intro characters hcharacters
    cases characters with
    | nil => rfl
    | cons character characters =>
        rw [List.dropWhile_cons_of_neg]
        simp [hcharacters character List.mem_cons_self]
  have hreverse : ∀ character ∈ value.toList.reverse, blank character = false :=
    fun character hcharacter => hplain character (List.mem_reverse.mp hcharacter)
  rw [stripWhere, hkeep _ hplain, hkeep _ hreverse, List.reverse_reverse, String.ofList_toList]

theorem stripForInt_repr (number : Nat) : stripForInt number.repr = number.repr := by
  have hcode : ∀ character ∈ number.repr.toList, 48 ≤ character.toNat ∧ character.toNat ≤ 57 :=
    fun character hcharacter => toNat_of_isDigit (isDigit_of_mem hcharacter)
  have hascii : number.repr.toList.all (·.toNat < 0x80) = true := by
    rw [List.all_eq_true]
    intro character hcharacter
    have hdigit := hcode character hcharacter
    exact decide_eq_true (by omega)
  rw [stripForInt, if_pos hascii]
  refine stripWhere_eq fun character hcharacter => ?_
  obtain ⟨hlower, hupper⟩ := hcode character hcharacter
  have hspace : character ≠ ' ' := by
    rintro rfl
    exact absurd hlower (by decide)
  simp only [Bool.or_eq_false_iff, Bool.and_eq_false_iff, decide_eq_false_iff_not]
  exact ⟨hspace, by omega⟩

theorem splitSign_repr (number : Nat) :
    splitSign number.repr.toList = (false, number.repr.toList) := by
  cases hdigits : number.repr.toList with
  | nil => rfl
  | cons character digits =>
      have hmem : character ∈ number.repr.toList := by
        rw [hdigits]
        exact List.mem_cons_self
      have hdigit := isDigit_of_mem hmem
      have hminus : character ≠ '-' := by
        rintro rfl
        revert hdigit
        decide
      have hplus : character ≠ '+' := by
        rintro rfl
        revert hdigit
        decide
      unfold splitSign
      split <;> simp_all

/-- `int(str(number))` of a number with few enough digits. -/
theorem parseInt?_repr {number : Nat} (hlength : number.repr.toList.length ≤ 4300) :
    parseInt? number.repr = some number := by
  have hne : number.repr.toList ≠ [] := by
    rw [Nat.toList_repr]
    exact Nat.toDigits_ne_nil
  have hunderscore : '_' ∉ number.repr.toList := by
    intro hmem
    have hdigit := isDigit_of_mem hmem
    revert hdigit
    decide
  have hgroups : number.repr.toList.splitOn '_' = [number.repr.toList] :=
    List.splitOn_eq_singleton hunderscore
  have hisDigit : number.repr.toList.all isDigit = true := by
    rw [List.all_eq_true]
    intro character hcharacter
    rw [isDigit, digit?_of_isDigit (isDigit_of_mem hcharacter)]
    rfl
  unfold parseInt?
  simp only [stripForInt_repr, splitSign_repr, hgroups, List.all_cons, List.all_nil,
    List.flatten_cons,
    List.flatten_nil, List.append_nil, List.isEmpty_eq_false_iff.mpr hne, hisDigit, Bool.not_false,
    Bool.and_true, hlength, decide_true, if_true, digitsValue_repr]
  rfl

end Decimal

/-! ### Fields -/

theorem ascii_of_isDigit {character : Char} (hdigit : character.isDigit = true) :
    character.toNat < 0x80 ∧ character ≠ ':' := by
  obtain ⟨hlower, hupper⟩ := Decimal.toNat_of_isDigit hdigit
  refine ⟨by omega, ?_⟩
  rintro rfl
  revert hupper
  decide

/-- `text.split(":", 1)` of a text that has a colon. -/
theorem split_once {before : List Char} (after : List Char) (hbefore : ':' ∉ before) :
    (before ++ ':' :: after).takeWhile (· ≠ ':') = before ∧
      (before ++ ':' :: after).dropWhile (· ≠ ':') = ':' :: after := by
  have hplain : ∀ character ∈ before, (decide (character ≠ ':')) = true := by
    intro character hcharacter
    simp only [decide_eq_true_eq]
    rintro rfl
    exact hbefore hcharacter
  refine ⟨?_, ?_⟩
  · rw [List.takeWhile_append_of_pos hplain]
    simp
  · rw [List.dropWhile_append_of_pos hplain]
    simp

/-- `text.split(":")` of fields joined by colons. -/
theorem splitOn_fields {fields : List (List Char)} (hfields : ∀ field ∈ fields, ':' ∉ field)
    (hne : fields ≠ []) : ([':'].intercalate fields).splitOn ':' = fields :=
  List.splitOn_intercalate ':' hfields hne

end OdooMcp
