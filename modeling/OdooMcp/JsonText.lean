import OdooMcp.PyValue

/-!
# Canonical JSON is unambiguous

No two trees have one text. A number ends where a character that no number has follows it, every
other text ends with its own closing mark, and the first character tells which kind of value a text
starts with.
-/

namespace OdooMcp

/-! ### Numbers -/

def isNumberChar (character : Char) : Bool :=
  character.isDigit || character ∈ ['.', '+', '-', 'e']

/-- What follows a value inside a text starts with no character of a number. -/
def EndsNumber (rest : List Char) : Prop :=
  ∀ character ∈ rest.head?, isNumberChar character = false

theorem endsNumber_cons {character : Char} {rest : List Char}
    (hcharacter : isNumberChar character = false) : EndsNumber (character :: rest) := by
  intro first hfirst
  cases hfirst
  exact hcharacter

theorem run_append_inj {first second restFirst restSecond : List Char}
    (hfirst : ∀ character ∈ first, isNumberChar character = true)
    (hsecond : ∀ character ∈ second, isNumberChar character = true)
    (hrestFirst : EndsNumber restFirst) (hrestSecond : EndsNumber restSecond)
    (htext : first ++ restFirst = second ++ restSecond) :
    first = second ∧ restFirst = restSecond := by
  induction first generalizing second with
  | nil =>
      cases second with
      | nil => exact ⟨rfl, htext⟩
      | cons character second =>
          rw [List.nil_append] at htext
          have hends := hrestFirst character (by rw [htext]; rfl)
          rw [hsecond character List.mem_cons_self] at hends
          cases hends
  | cons character first ih =>
      cases second with
      | nil =>
          rw [List.nil_append] at htext
          have hends := hrestSecond character (by rw [← htext]; rfl)
          rw [hfirst character List.mem_cons_self] at hends
          cases hends
      | cons other second =>
          rw [List.cons_append, List.cons_append] at htext
          obtain ⟨rfl, htail⟩ := List.cons.inj htext
          obtain ⟨rfl, hrest⟩ := ih (fun c hc => hfirst c (List.mem_cons_of_mem _ hc))
            (fun c hc => hsecond c (List.mem_cons_of_mem _ hc)) htail
          exact ⟨rfl, hrest⟩

theorem repr_inj {first second : Nat} (hrepr : first.repr = second.repr) : first = second := by
  have hdigits : Nat.toDigits 10 first = Nat.toDigits 10 second := by
    rw [← Nat.toList_repr, hrepr, Nat.toList_repr]
  rw [← Nat.ofDigitChars_ten_toDigits (n := first), hdigits, Nat.ofDigitChars_ten_toDigits]

theorem isDigit_of_mem_repr {value : Nat} {character : Char}
    (hcharacter : character ∈ value.repr.toList) : character.isDigit = true := by
  rw [Nat.toList_repr] at hcharacter
  exact Nat.isDigit_of_mem_toDigits (by decide) (by decide) hcharacter

theorem int_text_isNumber (value : Int) :
    ∀ character ∈ (toString value).toList, isNumberChar character = true ∧ character ≠ '.' ∧
      character ≠ 'e' := by
  have hdigit (number : Nat) : ∀ character ∈ number.repr.toList,
      isNumberChar character = true ∧ character ≠ '.' ∧ character ≠ 'e' := by
    intro character hcharacter
    have hisDigit := isDigit_of_mem_repr hcharacter
    refine ⟨by simp [isNumberChar, hisDigit], ?_, ?_⟩
    · rintro rfl
      revert hisDigit
      decide
    · rintro rfl
      revert hisDigit
      decide
  intro character hcharacter
  cases value with
  | ofNat number => exact hdigit number character hcharacter
  | negSucc number =>
      change character ∈ ("-" ++ (number + 1).repr).toList at hcharacter
      rw [String.toList_append, List.mem_append] at hcharacter
      rcases hcharacter with hsign | hrepr
      · obtain rfl := List.mem_singleton.mp hsign
        decide
      · exact hdigit (number + 1) character hrepr

theorem int_text_inj {first second : Int} (htext : toString first = toString second) :
    first = second := by
  have hsigned (number other : Nat) : (number.repr : String) ≠ "-" ++ other.repr := by
    intro heq
    have hmem : '-' ∈ number.repr.toList := by
      rw [heq, String.toList_append]
      exact List.mem_append_left _ (List.mem_singleton.mpr rfl)
    have hdigit := isDigit_of_mem_repr hmem
    revert hdigit
    decide
  cases first with
  | ofNat number =>
      cases second with
      | ofNat other => exact congrArg Int.ofNat (repr_inj htext)
      | negSucc other => exact absurd htext (hsigned number (other + 1))
  | negSucc number =>
      cases second with
      | ofNat other => exact absurd htext.symm (hsigned other (number + 1))
      | negSucc other =>
          have hrepr : (number + 1).repr = (other + 1).repr := by
            have happend : "-" ++ (number + 1).repr = "-" ++ (other + 1).repr := htext
            rwa [String.append_right_inj] at happend
          exact congrArg Int.negSucc (Nat.succ.inj (repr_inj hrepr))

theorem float_text_isNumber {text : String} (htext : isFloatText text = true) :
    (∀ character ∈ text.toList, isNumberChar character = true) ∧
      ∃ character ∈ text.toList, character = '.' ∨ character = 'e' := by
  simp only [isFloatText, Bool.and_eq_true, List.all_eq_true, List.any_eq_true] at htext
  obtain ⟨hall, character, hcharacter, hmark⟩ := htext
  exact ⟨hall, character, hcharacter, by simpa using hmark⟩

/-! ### Strings -/

/-- The character that starts a string body, and what follows it. -/
def unescape : List Char → Option (Char × List Char)
  | '\\' :: '"' :: rest => some ('"', rest)
  | '\\' :: '\\' :: rest => some ('\\', rest)
  | '\\' :: 'n' :: rest => some ('\n', rest)
  | '\\' :: 'r' :: rest => some ('\r', rest)
  | '\\' :: 't' :: rest => some ('\t', rest)
  | '\\' :: 'b' :: rest => some ('\x08', rest)
  | '\\' :: 'f' :: rest => some ('\x0C', rest)
  | '\\' :: 'u' :: '0' :: '0' :: high :: low :: rest =>
      ((List.range 0x20).find? fun code =>
        hexDigit (code / 16) = high && hexDigit (code % 16) = low).map fun code =>
          (Char.ofNat code, rest)
  | '"' :: _ => none
  | [] => none
  | character :: rest => some (character, rest)

theorem find_control {code : Nat} (hcode : code < 0x20) :
    (List.range 0x20).find? (fun other =>
      hexDigit (other / 16) = hexDigit (code / 16) &&
        hexDigit (other % 16) = hexDigit (code % 16)) =
        some code := by
  revert code
  decide

theorem unescape_escapeChar (character : Char) (rest : List Char) :
    unescape (escapeChar character ++ rest) = some (character, rest) := by
  unfold escapeChar
  split
  case h_8 hquote hbackslash _ _ _ _ _ =>
    split
    · rename_i hcontrol
      have hfind := find_control hcontrol
      simp only [List.cons_append, List.nil_append, unescape, hfind, Option.map_some,
        Char.ofNat_toNat]
    · rw [List.singleton_append]
      unfold unescape
      split <;> simp_all
  all_goals rfl

theorem escaped_append_inj {first second restFirst restSecond : List Char}
    (htext : first.flatMap escapeChar ++ '"' :: restFirst =
      second.flatMap escapeChar ++ '"' :: restSecond) :
    first = second ∧ restFirst = restSecond := by
  induction first generalizing second with
  | nil =>
      cases second with
      | nil => exact ⟨rfl, (List.cons.inj htext).2⟩
      | cons other second =>
          rw [List.flatMap_cons, List.append_assoc] at htext
          have hdecoded := unescape_escapeChar other
            (second.flatMap escapeChar ++ '"' :: restSecond)
          rw [← htext] at hdecoded
          cases hdecoded
  | cons character first ih =>
      rw [List.flatMap_cons, List.append_assoc] at htext
      have hdecoded := unescape_escapeChar character (first.flatMap escapeChar ++ '"' :: restFirst)
      cases second with
      | nil =>
          rw [htext] at hdecoded
          cases hdecoded
      | cons other second =>
          rw [htext, List.flatMap_cons, List.append_assoc, unescape_escapeChar] at hdecoded
          obtain ⟨rfl, htail⟩ := Prod.mk.inj (Option.some.inj hdecoded)
          obtain ⟨rfl, hrest⟩ := ih htail.symm
          exact ⟨rfl, hrest⟩

theorem quoted_toList (value : String) :
    (quoted value).toList = '"' :: (value.toList.flatMap escapeChar ++ ['"']) := by
  simp [quoted, String.toList_append]

theorem quoted_append_inj {first second : String} {restFirst restSecond : List Char}
    (htext : (quoted first).toList ++ restFirst = (quoted second).toList ++ restSecond) :
    first = second ∧ restFirst = restSecond := by
  rw [quoted_toList, quoted_toList] at htext
  simp only [List.cons_append, List.append_assoc, List.nil_append] at htext
  obtain ⟨hbody, hrest⟩ := escaped_append_inj (List.cons.inj htext).2
  exact ⟨String.toList_inj.mp hbody, hrest⟩

/-! ### Trees -/

mutual

def Json.FloatsWritten : Json → Prop
  | .float text => isFloatText text = true
  | .arr items => FloatsWrittenItems items
  | .obj fields => FloatsWrittenFields fields
  | _ => True

def Json.FloatsWrittenItems : List Json → Prop
  | [] => True
  | item :: items => item.FloatsWritten ∧ FloatsWrittenItems items

def Json.FloatsWrittenFields : List (String × Json) → Prop
  | [] => True
  | (_, value) :: fields => value.FloatsWritten ∧ FloatsWrittenFields fields

end

namespace Json

def itemsTail : List Json → List Char
  | [] => []
  | item :: items => ',' :: (item.text.toList ++ itemsTail items)

def fieldsTail : List (String × Json) → List Char
  | [] => []
  | (key, value) :: fields =>
      ',' :: ((quoted key).toList ++ ':' :: (value.text.toList ++ fieldsTail fields))

theorem intercalate_textItems (item : Json) (items : List Json) :
    (String.intercalate "," (textItems (item :: items))).toList =
      item.text.toList ++ itemsTail items := by
  induction items generalizing item with
  | nil => simp [textItems, itemsTail, String.intercalate_singleton]
  | cons next items ih =>
      rw [textItems, textItems, String.intercalate_cons_cons, String.toList_append,
        String.toList_append, ← textItems, ih next, itemsTail]
      simp

theorem intercalate_textFields (key : String) (value : Json) (fields : List (String × Json)) :
    (String.intercalate "," (textFields ((key, value) :: fields))).toList =
      (quoted key).toList ++ ':' :: (value.text.toList ++ fieldsTail fields) := by
  induction fields generalizing key value with
  | nil => simp [textFields, fieldsTail, String.intercalate_singleton]
  | cons field fields ih =>
      obtain ⟨nextKey, next⟩ := field
      rw [textFields, textFields, String.intercalate_cons_cons, String.toList_append,
        String.toList_append, ← textFields, ih nextKey next, fieldsTail]
      simp

theorem text_arr_cons (item : Json) (items : List Json) :
    (Json.arr (item :: items)).text.toList =
      '[' :: (item.text.toList ++ (itemsTail items ++ [']'])) := by
  rw [text, String.toList_append, String.toList_append, intercalate_textItems]
  simp

theorem text_obj_cons (key : String) (value : Json) (fields : List (String × Json)) :
    (Json.obj ((key, value) :: fields)).text.toList =
      '\x7b' :: ((quoted key).toList ++ ':' ::
        (value.text.toList ++ (fieldsTail fields ++ ['\x7d']))) := by
  rw [text, String.toList_append, String.toList_append, intercalate_textFields]
  simp

/-- The kinds of value that the first character of a text tells apart. -/
inductive Kind
  | null
  | bool
  | number
  | str
  | arr
  | obj

def kind : Json → Kind
  | .null => .null
  | .bool _ => .bool
  | .int _ => .number
  | .float _ => .number
  | .str _ => .str
  | .arr _ => .arr
  | .obj _ => .obj

def kindOf (character : Char) : Option Kind :=
  if isNumberChar character then some .number
  else match character with
    | 'n' => some .null
    | 't' => some .bool
    | 'f' => some .bool
    | '"' => some .str
    | '[' => some .arr
    | '\x7b' => some .obj
    | _ => none

theorem int_text_ne_nil (value : Int) : (toString value).toList ≠ [] := by
  cases value with
  | ofNat number =>
      change number.repr.toList ≠ []
      rw [Nat.toList_repr]
      exact Nat.toDigits_ne_nil
  | negSucc number =>
      change ("-" ++ (number + 1).repr).toList ≠ []
      rw [String.toList_append]
      exact List.cons_ne_nil _ _

theorem number_text {json : Json} (hkind : json.kind = .number) (hfloats : json.FloatsWritten) :
    json.text.toList ≠ [] ∧ ∀ character ∈ json.text.toList, isNumberChar character = true := by
  cases json with
  | int value =>
      exact ⟨int_text_ne_nil value, fun character hcharacter =>
        (int_text_isNumber value character hcharacter).1⟩
  | float text =>
      obtain ⟨hall, mark, hmark, -⟩ := float_text_isNumber hfloats
      exact ⟨List.ne_nil_of_mem hmark, hall⟩
  | _ => cases hkind

theorem text_head {json : Json} (hfloats : json.FloatsWritten) :
    ∃ character rest, json.text.toList = character :: rest ∧
      kindOf character = some json.kind := by
  have hnumber (hkind : json.kind = .number) : ∃ character rest,
      json.text.toList = character :: rest ∧ kindOf character = some .number := by
    obtain ⟨hne, hall⟩ := number_text hkind hfloats
    obtain ⟨character, rest, htext⟩ := List.exists_cons_of_ne_nil hne
    refine ⟨character, rest, htext, ?_⟩
    have hcharacter := hall character (by rw [htext]; exact List.mem_cons_self)
    simp [kindOf, hcharacter]
  cases json with
  | null => exact ⟨'n', ['u', 'l', 'l'], rfl, rfl⟩
  | bool value =>
      cases value with
      | false => exact ⟨'f', ['a', 'l', 's', 'e'], rfl, rfl⟩
      | true => exact ⟨'t', ['r', 'u', 'e'], rfl, rfl⟩
  | int value => exact hnumber rfl
  | float text => exact hnumber rfl
  | str value => exact ⟨'"', _, quoted_toList value, rfl⟩
  | arr items =>
      refine ⟨'[', _, by rw [text, String.toList_append, String.toList_append]; rfl, rfl⟩
  | obj fields =>
      refine ⟨'\x7b', _, by rw [text, String.toList_append, String.toList_append]; rfl, rfl⟩

theorem kind_eq_of_text {first second : Json} {restFirst restSecond : List Char}
    (hfirst : first.FloatsWritten) (hsecond : second.FloatsWritten)
    (htext : first.text.toList ++ restFirst = second.text.toList ++ restSecond) :
    first.kind = second.kind := by
  obtain ⟨character, tail, hhead, hkind⟩ := text_head hfirst
  obtain ⟨other, otherTail, hotherHead, hotherKind⟩ := text_head hsecond
  rw [hhead, hotherHead] at htext
  obtain ⟨rfl, -⟩ := List.cons.inj htext
  rw [hkind] at hotherKind
  exact Option.some.inj hotherKind

/-- A text that starts no value is not followed by one. -/
theorem text_append_ne {json : Json} (hfloats : json.FloatsWritten) {mark : Char}
    (hmark : kindOf mark = none) (rest tail : List Char) :
    json.text.toList ++ rest ≠ mark :: tail := by
  intro htext
  obtain ⟨character, others, hhead, hkind⟩ := text_head hfloats
  rw [hhead] at htext
  obtain ⟨rfl, -⟩ := List.cons.inj htext
  rw [hkind] at hmark
  cases hmark

theorem number_text_inj {first second : Json} {restFirst restSecond : List Char}
    (hfirst : first.FloatsWritten) (hsecond : second.FloatsWritten)
    (hkindFirst : first.kind = .number) (hkindSecond : second.kind = .number)
    (hrestFirst : EndsNumber restFirst) (hrestSecond : EndsNumber restSecond)
    (htext : first.text.toList ++ restFirst = second.text.toList ++ restSecond) :
    first = second ∧ restFirst = restSecond := by
  obtain ⟨hsame, hrest⟩ := run_append_inj (number_text hkindFirst hfirst).2
    (number_text hkindSecond hsecond).2 hrestFirst hrestSecond htext
  refine ⟨?_, hrest⟩
  have hmixed (value : Int) (text : String) (hfloat : isFloatText text = true) :
      (toString value).toList ≠ text.toList := by
    intro heq
    obtain ⟨-, mark, hmark, hpoint⟩ := float_text_isNumber hfloat
    obtain ⟨-, hnotPoint, hnotExponent⟩ := int_text_isNumber value mark (by rw [heq]; exact hmark)
    exact hpoint.elim hnotPoint hnotExponent
  cases first with
  | int value =>
      cases second with
      | int other => exact congrArg Json.int (int_text_inj (String.toList_inj.mp hsame))
      | float text => exact absurd hsame (hmixed value text hsecond)
      | _ => cases hkindSecond
  | float text =>
      cases second with
      | int other => exact absurd hsame.symm (hmixed other text hfirst)
      | float other => exact congrArg Json.float (String.toList_inj.mp hsame)
      | _ => cases hkindSecond
  | _ => cases hkindFirst

theorem endsNumber_itemsTail (items : List Json) (rest : List Char) :
    EndsNumber (itemsTail items ++ ']' :: rest) := by
  cases items with
  | nil => exact endsNumber_cons (by decide)
  | cons item items => exact endsNumber_cons (by decide)

theorem endsNumber_fieldsTail (fields : List (String × Json)) (rest : List Char) :
    EndsNumber (fieldsTail fields ++ '\x7d' :: rest) := by
  cases fields with
  | nil => exact endsNumber_cons (by decide)
  | cons field fields => exact endsNumber_cons (by decide)

mutual

/-- Where one text follows another the same way in two places, the values are the same. -/
theorem text_append_inj : ∀ {first second : Json} {restFirst restSecond : List Char},
    first.FloatsWritten → second.FloatsWritten → EndsNumber restFirst → EndsNumber restSecond →
      first.text.toList ++ restFirst = second.text.toList ++ restSecond →
        first = second ∧ restFirst = restSecond
  | .null, second, restFirst, restSecond, hfirst, hsecond, hrestFirst, hrestSecond, htext => by
      have hkind := kind_eq_of_text hfirst hsecond htext
      cases second with
      | null => exact ⟨rfl, List.append_cancel_left htext⟩
      | _ => cases hkind
  | .bool value, second, restFirst, restSecond, hfirst, hsecond, hrestFirst, hrestSecond,
      htext => by
      have hkind := kind_eq_of_text hfirst hsecond htext
      cases second with
      | bool other =>
          cases value <;> cases other
          · exact ⟨rfl, List.append_cancel_left htext⟩
          · cases htext
          · cases htext
          · exact ⟨rfl, List.append_cancel_left htext⟩
      | _ => cases hkind
  | .int value, second, restFirst, restSecond, hfirst, hsecond, hrestFirst, hrestSecond, htext =>
      number_text_inj hfirst hsecond rfl (kind_eq_of_text hfirst hsecond htext).symm hrestFirst
        hrestSecond htext
  | .float text, second, restFirst, restSecond, hfirst, hsecond, hrestFirst, hrestSecond, htext =>
      number_text_inj hfirst hsecond rfl (kind_eq_of_text hfirst hsecond htext).symm hrestFirst
        hrestSecond htext
  | .str value, second, restFirst, restSecond, hfirst, hsecond, hrestFirst, hrestSecond,
      htext => by
      have hkind := kind_eq_of_text hfirst hsecond htext
      cases second with
      | str other =>
          obtain ⟨rfl, hrest⟩ := quoted_append_inj htext
          exact ⟨rfl, hrest⟩
      | _ => cases hkind
  | .arr items, second, restFirst, restSecond, hfirst, hsecond, hrestFirst, hrestSecond,
      htext => by
      have hkind := kind_eq_of_text hfirst hsecond htext
      cases second with
      | arr others =>
          cases items with
          | nil =>
              cases others with
              | nil => exact ⟨rfl, List.append_cancel_left htext⟩
              | cons other others =>
                  rw [text_arr_cons] at htext
                  simp only [List.cons_append, List.append_assoc] at htext
                  exact absurd (List.cons.inj htext).2.symm
                    (text_append_ne hsecond.1 (by decide) _ _)
          | cons item items =>
              cases others with
              | nil =>
                  rw [text_arr_cons] at htext
                  simp only [List.cons_append, List.append_assoc] at htext
                  exact absurd (List.cons.inj htext).2 (text_append_ne hfirst.1 (by decide) _ _)
              | cons other others =>
                  rw [text_arr_cons, text_arr_cons] at htext
                  simp only [List.cons_append, List.append_assoc, List.nil_append] at htext
                  obtain ⟨rfl, htail⟩ := text_append_inj hfirst.1 hsecond.1
                    (endsNumber_itemsTail _ _) (endsNumber_itemsTail _ _) (List.cons.inj htext).2
                  obtain ⟨rfl, hrest⟩ := itemsTail_inj hfirst.2 hsecond.2 htail
                  exact ⟨rfl, hrest⟩
      | _ => cases hkind
  | .obj fields, second, restFirst, restSecond, hfirst, hsecond, hrestFirst, hrestSecond,
      htext => by
      have hkind := kind_eq_of_text hfirst hsecond htext
      cases second with
      | obj others =>
          cases fields with
          | nil =>
              cases others with
              | nil => exact ⟨rfl, List.append_cancel_left htext⟩
              | cons other others =>
                  rw [text_obj_cons, quoted_toList] at htext
                  cases htext
          | cons field fields =>
              cases others with
              | nil =>
                  rw [text_obj_cons, quoted_toList] at htext
                  cases htext
              | cons other others =>
                  obtain ⟨key, value⟩ := field
                  obtain ⟨otherKey, otherValue⟩ := other
                  rw [text_obj_cons, text_obj_cons] at htext
                  simp only [List.cons_append, List.append_assoc, List.nil_append] at htext
                  obtain ⟨rfl, hmark⟩ := quoted_append_inj (List.cons.inj htext).2
                  obtain ⟨rfl, htail⟩ := text_append_inj hfirst.1 hsecond.1
                    (endsNumber_fieldsTail _ _) (endsNumber_fieldsTail _ _) (List.cons.inj hmark).2
                  obtain ⟨rfl, hrest⟩ := fieldsTail_inj hfirst.2 hsecond.2 htail
                  exact ⟨rfl, hrest⟩
      | _ => cases hkind

theorem itemsTail_inj : ∀ {items others : List Json} {restFirst restSecond : List Char},
    FloatsWrittenItems items → FloatsWrittenItems others →
      itemsTail items ++ ']' :: restFirst = itemsTail others ++ ']' :: restSecond →
        items = others ∧ restFirst = restSecond
  | [], [], _, _, _, _, htext => ⟨rfl, (List.cons.inj htext).2⟩
  | [], _ :: _, _, _, _, _, htext => by cases htext
  | _ :: _, [], _, _, _, _, htext => by cases htext
  | item :: items, other :: others, restFirst, restSecond, hitems, hothers, htext => by
      simp only [itemsTail, List.cons_append, List.append_assoc] at htext
      obtain ⟨rfl, htail⟩ := text_append_inj hitems.1 hothers.1
        (endsNumber_itemsTail _ _) (endsNumber_itemsTail _ _) (List.cons.inj htext).2
      obtain ⟨rfl, hrest⟩ := itemsTail_inj hitems.2 hothers.2 htail
      exact ⟨rfl, hrest⟩

theorem fieldsTail_inj : ∀ {fields others : List (String × Json)}
    {restFirst restSecond : List Char},
    FloatsWrittenFields fields → FloatsWrittenFields others →
      fieldsTail fields ++ '\x7d' :: restFirst = fieldsTail others ++ '\x7d' :: restSecond →
        fields = others ∧ restFirst = restSecond
  | [], [], _, _, _, _, htext => ⟨rfl, (List.cons.inj htext).2⟩
  | [], (_, _) :: _, _, _, _, _, htext => by cases htext
  | (_, _) :: _, [], _, _, _, _, htext => by cases htext
  | (key, value) :: fields, (otherKey, other) :: others, restFirst, restSecond, hfields, hothers,
      htext => by
      simp only [fieldsTail, List.cons_append, List.append_assoc] at htext
      obtain ⟨rfl, hmark⟩ := quoted_append_inj (List.cons.inj htext).2
      obtain ⟨rfl, htail⟩ := text_append_inj hfields.1 hothers.1
        (endsNumber_fieldsTail _ _) (endsNumber_fieldsTail _ _) (List.cons.inj hmark).2
      obtain ⟨rfl, hrest⟩ := fieldsTail_inj hfields.2 hothers.2 htail
      exact ⟨rfl, hrest⟩

end

/-- **Canonical JSON is injective.** Two trees with one text are the same tree. -/
theorem text_injective {first second : Json} (hfirst : first.FloatsWritten)
    (hsecond : second.FloatsWritten) (htext : first.text = second.text) : first = second := by
  have hends : EndsNumber [] := by
    intro character hcharacter
    cases hcharacter
  refine (text_append_inj hfirst hsecond hends hends ?_).1
  rw [htext]

end Json

end OdooMcp
