import Mathlib.Data.Bool.AllAny
import OdooMcp.Adapters.PayrollReader
import OdooMcp.CanonicalJson
import OdooMcp.Cursor
import OdooMcp.DateTimeText

/-!
# Payroll cursors

A cursor holds a fingerprint of the read it was issued for and an offset into its items. The read
accepts it again, and every other read rejects it.
-/

namespace OdooMcp

/-! ### UTF-8 -/

theorem toList_loop (bytes : ByteArray) (left index : Nat) (hleft : bytes.size - index = left)
    (read : List UInt8) :
    ByteArray.toList.loop bytes index read = read.reverse ++ bytes.data.toList.drop index := by
  induction left generalizing index read with
  | zero =>
      rw [ByteArray.toList.loop, if_neg (by omega), List.drop_of_length_le, List.append_nil]
      rw [Array.length_toList]
      exact Nat.le_of_sub_eq_zero hleft
  | succ left ih =>
      have hindex : index < bytes.data.toList.length := by
        rw [Array.length_toList]
        exact Nat.lt_of_sub_eq_succ hleft
      have hbyte : bytes.get! index = bytes.data.toList[index] := by
        have hwithin : index < bytes.data.size := hindex
        obtain ⟨data⟩ := bytes
        exact getElem!_pos data index hwithin
      rw [ByteArray.toList.loop, if_pos (by omega), ih (index + 1) (by omega), List.reverse_cons,
        List.append_assoc, List.singleton_append, List.drop_eq_getElem_cons hindex, hbyte]

/-- The UTF-8 bytes of ASCII text. -/
theorem utf8_of_ascii {text : String} (hascii : ∀ character ∈ text.toList, character.toNat < 0x80) :
    text.toUTF8.toList.map UInt8.toNat = text.toList.map Char.toNat := by
  have hbytes : text.toUTF8.toList = text.toList.flatMap String.utf8EncodeChar := by
    have htext : text.toUTF8 = (text.toList.flatMap String.utf8EncodeChar).toByteArray := by
      rw [String.toUTF8_eq_toByteArray]
      conv_lhs => rw [← String.ofList_toList (s := text)]
      exact String.toByteArray_ofList
    rw [htext, ByteArray.toList, toList_loop _ _ 0 rfl, List.toList_data_toByteArray]
    rfl
  rw [hbytes]
  generalize text.toList = characters at hascii
  induction characters with
  | nil => rfl
  | cons character rest ih =>
      obtain ⟨hcharacter, hrest⟩ := List.forall_mem_cons.mp hascii
      rw [List.flatMap_cons, List.map_append, ih hrest, List.map_cons]
      have hencoded : String.utf8EncodeChar character = [UInt8.ofNat character.toNat] := by
        rw [String.utf8EncodeChar, if_pos]
        · rfl
        · exact Nat.le_of_lt_succ hcharacter
      rw [hencoded]
      simp
      omega

/-! ### Cursors of pages -/

/-- A fingerprint is written with ASCII characters other than the colon. -/
def Plain (fingerprint : String) : Prop :=
  ∀ character ∈ fingerprint.toList, character.toNat < 0x80 ∧ character ≠ ':'

theorem cursorText_toList (fingerprint : String) (offset : Nat) :
    ("v1:" ++ fingerprint ++ ":" ++ toString offset).toList =
      [':'].intercalate ["v1".toList, fingerprint.toList, offset.repr.toList] := by
  have hversion : "v1:".toList = "v1".toList ++ [':'] := rfl
  have hcolon : ":".toList = [':'] := rfl
  have hoffset : (toString offset).toList = offset.repr.toList := rfl
  rw [String.toList_append, String.toList_append, String.toList_append, hversion, hcolon, hoffset]
  simp only [List.intercalate, List.intersperse, List.flatten_cons, List.flatten_nil,
    List.append_nil, List.append_assoc]

theorem encodePayrollCursor_eq {fingerprint : String} (hplain : Plain fingerprint) (offset : Nat) :
    (encodePayrollCursor fingerprint offset).toList = Base64.encode
      (([':'].intercalate ["v1".toList, fingerprint.toList, offset.repr.toList]).map Char.toNat) ∧
    ∀ character ∈ [':'].intercalate ["v1".toList, fingerprint.toList, offset.repr.toList],
      character.toNat < 0x80 := by
  have hplainText (text : String) (hall : text.toList.all (·.toNat < 0x80) = true) :
      ∀ character ∈ text.toList, character.toNat < 0x80 := List.all_iff_forall_prop.mp hall
  have hascii : ∀ character ∈ ("v1:" ++ fingerprint ++ ":" ++ toString offset).toList,
      character.toNat < 0x80 := by
    intro character hcharacter
    simp only [String.toList_append, List.mem_append] at hcharacter
    rcases hcharacter with ((hversion | hfingerprint) | hcolon) | hoffset
    · exact hplainText "v1:" (by decide) character hversion
    · exact (hplain character hfingerprint).1
    · exact hplainText ":" (by decide) character hcolon
    · exact (ascii_of_isDigit (Decimal.isDigit_of_mem hoffset)).1
  rw [← cursorText_toList, encodePayrollCursor, String.toList_ofList]
  exact ⟨congrArg Base64.encode (utf8_of_ascii hascii), hascii⟩

theorem splitOn_cursorText {fingerprint : String} (hplain : Plain fingerprint) (offset : Nat) :
    ([':'].intercalate ["v1".toList, fingerprint.toList, offset.repr.toList]).splitOn ':' =
      ["v1".toList, fingerprint.toList, offset.repr.toList] := by
  refine splitOn_fields ?_ (List.cons_ne_nil _ _)
  intro field hfield
  simp only [List.mem_cons, List.not_mem_nil, or_false] at hfield
  rcases hfield with rfl | rfl | rfl
  · decide
  · exact fun hcolon => (hplain ':' hcolon).2 rfl
  · exact fun hcolon => (ascii_of_isDigit (Decimal.isDigit_of_mem hcolon)).2 rfl

def cursorMismatch : PyException :=
  payrollError .invalidInput "The Payroll pagination cursor does not match this request."
    "Restart the Payroll request without a cursor."

/-- A cursor is accepted for the fingerprint it was issued with, and rejected for every other. -/
theorem decodePayrollCursor_encode {fingerprint : String} (hplain : Plain fingerprint)
    {offset : Nat} (hoffset : 0 < offset) (hlength : offset.repr.toList.length ≤ 4300)
    (other : String) :
    decodePayrollCursor (some (encodePayrollCursor fingerprint offset)) other =
      if fingerprint = other then .ok offset else .error cursorMismatch := by
  have hparsed : Decimal.parseInt? (String.ofList offset.repr.toList) = some (offset : Int) := by
    rw [String.ofList_toList]
    exact Decimal.parseInt?_repr hlength
  have hsame : (decide (fingerprint.toList = other.toList)) = decide (fingerprint = other) :=
    decide_eq_decide.mpr String.toList_inj
  have hdecoded := encodePayrollCursor_eq hplain offset
  unfold decodePayrollCursor
  dsimp only
  rw [hdecoded.1, Base64.decode_text hdecoded.2]
  have hnext {α β : Type} (value : α) (next : α → Except PyException β) :
      (Except.ok value >>= next) = next value := rfl
  simp only [orRaise, hnext, splitOn_cursorText hplain, hparsed, hsame, decide_true, Bool.true_and,
    Nat.cast_pos, hoffset, Bool.and_true]
  by_cases hfingerprint : fingerprint = other
  · rw [if_pos hfingerprint, decide_eq_true hfingerprint]
    rfl
  · rw [if_neg hfingerprint, decide_eq_false hfingerprint]
    rfl

theorem length_encodePayrollCursor {fingerprint : String} (hplain : Plain fingerprint)
    (offset : Nat) : (encodePayrollCursor fingerprint offset).length =
      (4 * (fingerprint.length + offset.repr.toList.length + 4) + 2) / 3 := by
  rw [← String.length_toList, (encodePayrollCursor_eq hplain offset).1, Base64.length_encode,
    List.length_map]
  simp only [List.intercalate, List.intersperse, List.flatten_cons, List.flatten_nil,
    List.append_nil, List.length_append, List.length_singleton, String.length_toList]
  have hversion : "v1".length = 2 := rfl
  rw [hversion]
  omega

/-! ### Fingerprints -/

/-- `hashlib.sha256(text).hexdigest()`: hexadecimal digits, whose first ones tell the given texts
apart. -/
structure Fingerprints (sha256 : String → String) (size : Nat) (texts : Set String) : Prop where
  hexadecimal : ∀ text, ∀ digit ∈ (sha256 text).toList, digit ∈ "0123456789abcdef".toList
  injective : Set.InjOn (fun text => (sha256 text).toList.take size) texts

theorem Fingerprints.plain {sha256 : String → String} {size : Nat} {texts : Set String}
    (hashes : Fingerprints sha256 size texts) (text : String) :
    Plain (String.ofList ((sha256 text).toList.take size)) := by
  intro character hcharacter
  rw [String.toList_ofList] at hcharacter
  have hdigits : ∀ digit ∈ "0123456789abcdef".toList, digit.toNat < 0x80 ∧ digit ≠ ':' :=
    List.all_iff_forall_prop.mp (by decide)
  exact hdigits character (hashes.hexadecimal text character (List.mem_of_mem_take hcharacter))

theorem PayrollVersion.toInt_inj {first second : PayrollVersion}
    (hsame : first.toInt = second.toInt) : first = second := by
  cases first <;> cases second <;> first | rfl | cases hsame

structure CursorScope where
  version : PayrollVersion
  companyId : Int
  model : String
  domain : List PyValue
  order : String
  binding : PyValue
  anchors : List (Int × DateTime)

namespace CursorScope

def payload (scope : CursorScope) : PyValue :=
  .dict
    [(.str "version", .int scope.version.toInt),
      (.str "company_id", .int scope.companyId),
      (.str "model", .str scope.model),
      (.str "domain", .list scope.domain),
      (.str "order", .str scope.order),
      (.str "binding", scope.binding),
      (.str "anchors", .list (scope.anchors.map fun anchor =>
        .list [.int anchor.1, .str anchor.2.isoformat]))]

def text (scope : CursorScope) : Except PyException String := do
  return (← canonicalJson scope.payload).text

/-- The domain and the binding are made of JSON values, and the dates are dates. -/
structure WellFormed (scope : CursorScope) : Prop where
  domain : (PyValue.list scope.domain).Loaded
  binding : scope.binding.Loaded
  anchors : ∀ anchor ∈ scope.anchors, anchor.2.Valid

/-- The scopes are equal, as Python compares the values in them. -/
structure Same (first second : CursorScope) : Prop where
  version : first.version = second.version
  companyId : first.companyId = second.companyId
  model : first.model = second.model
  domain : (PyValue.list first.domain).normal = (PyValue.list second.domain).normal
  order : first.order = second.order
  binding : first.binding.normal = second.binding.normal
  anchors : first.anchors = second.anchors

theorem loaded_anchors (anchors : List (Int × DateTime)) :
    (PyValue.list (anchors.map fun anchor =>
      PyValue.list [.int anchor.1, .str anchor.2.isoformat])).Loaded := by
  change PyValue.LoadedItems _
  induction anchors with
  | nil => trivial
  | cons anchor anchors ih => exact ⟨⟨trivial, trivial, trivial⟩, ih⟩

theorem WellFormed.loaded {scope : CursorScope} (hscope : scope.WellFormed) :
    scope.payload.Loaded := by
  have hkeys : (["version", "company_id", "model", "domain", "order", "binding", "anchors"].map
      PyKey.str).Nodup := by decide
  refine ⟨hkeys, ?_⟩
  rw [PyValue.loadedEntries_iff]
  simp only [List.forall_mem_cons, List.not_mem_nil, false_implies, implies_true, and_true]
  exact ⟨⟨rfl, trivial⟩, ⟨rfl, trivial⟩, ⟨rfl, trivial⟩, ⟨rfl, hscope.domain⟩, ⟨rfl, trivial⟩,
    ⟨rfl, hscope.binding⟩, rfl, loaded_anchors _⟩

theorem fingerprint_eq (sha256 : String → String) (scope : CursorScope) :
    cursorFingerprint sha256 scope.version scope.companyId scope.model scope.domain scope.order
      scope.binding scope.anchors =
        scope.text.map fun text => String.ofList ((sha256 text).toList.take 16) := by
  unfold cursorFingerprint text payload
  cases canonicalJson _ <;> rfl

end CursorScope

theorem normal_eq_of_sameText {first second : PyValue} (hfirst : first.Loaded)
    (hsecond : second.Loaded) (hsame : SameText first second) : first.normal = second.normal := by
  obtain ⟨json, hjson, hother⟩ := hsame
  exact normal_eq_of_canonicalJson hfirst hsecond hjson hother

/-- Equal texts are those of equal values. -/
theorem canonicalJson_eq_of_text {first second : PyValue} {json other : Json}
    (hfirst : first.Loaded) (hsecond : second.Loaded) (hjson : canonicalJson first = .ok json)
    (hother : canonicalJson second = .ok other) (htext : json.text = other.text) :
    json = other := by
  have hcanonical := (canonicalJson_loads hfirst hjson).1
  have hcanonical' := (canonicalJson_loads hsecond hother).1
  exact Json.text_injective hcanonical.floatsWritten hcanonical'.floatsWritten htext

namespace CursorScope

theorem anchors_eq {first second : List (Int × DateTime)}
    (hfirst : ∀ anchor ∈ first, anchor.2.Valid) (hsecond : ∀ anchor ∈ second, anchor.2.Valid)
    (hsame : PyValue.normalItems (first.map fun anchor =>
        PyValue.list [.int anchor.1, .str anchor.2.isoformat]) =
      PyValue.normalItems (second.map fun anchor =>
        PyValue.list [.int anchor.1, .str anchor.2.isoformat])) : first = second := by
  induction first generalizing second with
  | nil =>
      cases second with
      | nil => rfl
      | cons anchor anchors => cases hsame
  | cons anchor anchors ih =>
      cases second with
      | nil => cases hsame
      | cons other others =>
          obtain ⟨hanchor, hanchors⟩ := List.forall_mem_cons.mp hfirst
          obtain ⟨hother, hothers⟩ := List.forall_mem_cons.mp hsecond
          simp only [List.map_cons, PyValue.normalItems, PyValue.normal, List.cons.injEq,
            PyValue.list.injEq, PyValue.int.injEq, PyValue.str.injEq, and_true] at hsame
          obtain ⟨⟨hid, hdate⟩, hrest⟩ := hsame
          rw [ih hanchors hothers hrest, Prod.ext hid (DateTime.isoformat_inj hanchor hother hdate)]

/-- **Scopes with one text are equal.** -/
theorem same_of_text {first second : CursorScope} (hfirst : first.WellFormed)
    (hsecond : second.WellFormed) {text : String} (htext : first.text = .ok text)
    (hother : second.text = .ok text) : first.Same second := by
  obtain ⟨json, hjson, hwritten⟩ := except_bind_ok.mp htext
  obtain ⟨other, hotherJson, hotherWritten⟩ := except_bind_ok.mp hother
  have hsame : json = other := canonicalJson_eq_of_text hfirst.loaded hsecond.loaded hjson
    hotherJson ((Except.ok.inj hwritten).trans (Except.ok.inj hotherWritten).symm)
  subst hsame
  have hfields := forall₂_of_canonicalJson_dict hfirst.loaded hsecond.loaded rfl hjson hotherJson
  simp only [List.forall₂_cons, List.forall₂_nil_left_iff, and_true] at hfields
  obtain ⟨hversion, hcompany, hmodel, hdomain, horder, hbinding, hanchors⟩ := hfields
  have hint {number other : Int} (hsame : SameText (.int number) (.int other)) : number = other :=
    PyValue.int.inj (normal_eq_of_sameText (show (PyValue.int number).Loaded from trivial)
      (show (PyValue.int other).Loaded from trivial) hsame)
  have hstr {value other : String} (hsame : SameText (.str value) (.str other)) : value = other :=
    PyValue.str.inj (normal_eq_of_sameText (show (PyValue.str value).Loaded from trivial)
      (show (PyValue.str other).Loaded from trivial) hsame)
  have hdates := normal_eq_of_sameText (loaded_anchors _) (loaded_anchors _) hanchors
  exact {
    version := PayrollVersion.toInt_inj (hint hversion)
    companyId := hint hcompany
    model := hstr hmodel
    domain := normal_eq_of_sameText hfirst.domain hsecond.domain hdomain
    order := hstr horder
    binding := normal_eq_of_sameText hfirst.binding hsecond.binding hbinding
    anchors := anchors_eq hfirst.anchors hsecond.anchors (PyValue.list.inj hdates) }

end CursorScope

end OdooMcp
