import Mathlib.Data.List.Infix
import Mathlib.Data.List.Sort
import OdooMcp.Errors

/-!
# Python values and their JSON

The payloads of write calls are plain Python objects. `PyValue` has the ones the code can tell
apart; an object of any other class is `other`, with the text pydantic's JSON mode writes for it
(a date, a decimal number), or nothing if no serializer accepts it. A JSON column of the database
holds the tree that its text denotes.
-/

namespace OdooMcp

inductive PyKey
  | str (value : String)
  | int (value : Int)
  | bool (value : Bool)
  | none
  | other (text : String)
  deriving DecidableEq, Repr

inductive PyValue
  | none
  | bool (value : Bool)
  | int (value : Int)
  | float (text : String) (finite : Bool)
  | str (value : String)
  | list (items : List PyValue)
  | tuple (items : List PyValue)
  | dict (entries : List (PyKey × PyValue))
  | other (jsonText : Option String)

inductive Json
  | null
  | bool (value : Bool)
  | int (value : Int)
  | float (text : String)
  | str (value : String)
  | arr (items : List Json)
  | obj (fields : List (String × Json))

/-- A `dict`, which keeps insertion order. -/
abbrev PyDict := List (PyKey × PyValue)

/-- A `Mapping[str, object]`. -/
abbrev Payload := List (String × PyValue)

def PyKey.isStr : PyKey → Bool
  | .str _ => true
  | _ => false

/-- `str(key)` -/
def PyKey.text : PyKey → String
  | .str value => value
  | .int value => toString value
  | .bool true => "True"
  | .bool false => "False"
  | .none => "None"
  | .other text => text

section Dict

variable {κ ν : Type} [DecidableEq κ]

def dictGet (entries : List (κ × ν)) (key : κ) : Option ν :=
  (entries.find? fun entry => entry.1 = key).map Prod.snd

/-- Assign to a key: its value is replaced in place, and a new key goes last. -/
def dictSet (entries : List (κ × ν)) (key : κ) (value : ν) : List (κ × ν) :=
  match entries with
  | [] => [(key, value)]
  | entry :: rest =>
      if entry.1 = key then (key, value) :: rest else entry :: dictSet rest key value

def dictUpdate (entries changes : List (κ × ν)) : List (κ × ν) :=
  changes.foldl (fun updated change => dictSet updated change.1 change.2) entries

theorem dictGet_dictSet (entries : List (κ × ν)) (key other : κ)
    (value : ν) :
    dictGet (dictSet entries key value) other =
      if key = other then some value else dictGet entries other := by
  unfold dictGet
  induction entries with
  | nil =>
      unfold dictSet
      by_cases hkey : key = other <;> simp [hkey]
  | cons entry entries ih =>
      unfold dictSet
      by_cases hentry : entry.1 = key
      · rw [if_pos hentry]
        by_cases hkey : key = other
        · simp [hkey]
        · rw [List.find?_cons_of_neg (by simpa using hkey),
            List.find?_cons_of_neg (by simpa [hentry] using hkey), if_neg hkey]
      · rw [if_neg hentry]
        by_cases hother : entry.1 = other
        · have hkey : key ≠ other := fun hsame => hentry (hother.trans hsame.symm)
          rw [if_neg hkey]
          simp [hother]
        · rw [List.find?_cons_of_neg (by simpa using hother),
            List.find?_cons_of_neg (by simpa using hother)]
          exact ih

theorem mem_of_mem_dictSet {entries : List (κ × ν)} {key : κ} {value : ν} {entry : κ × ν}
    (hentry : entry ∈ dictSet entries key value) : entry ∈ entries ∨ entry = (key, value) := by
  induction entries with
  | nil => exact .inr (List.mem_singleton.mp hentry)
  | cons first rest ih =>
      unfold dictSet at hentry
      split at hentry
      · rcases List.mem_cons.mp hentry with rfl | hrest
        · exact .inr rfl
        · exact .inl (List.mem_cons_of_mem _ hrest)
      · rcases List.mem_cons.mp hentry with rfl | hrest
        · exact .inl List.mem_cons_self
        · exact (ih hrest).imp_left (List.mem_cons_of_mem _)

theorem mem_of_mem_dictUpdate {entries changes : List (κ × ν)} {entry : κ × ν}
    (hentry : entry ∈ dictUpdate entries changes) : entry ∈ entries ∨ entry ∈ changes := by
  induction changes generalizing entries with
  | nil => exact .inl hentry
  | cons change changes ih =>
      rcases ih hentry with hset | hrest
      · rcases mem_of_mem_dictSet hset with hold | rfl
        · exact .inl hold
        · exact .inr List.mem_cons_self
      · exact .inr (List.mem_cons_of_mem _ hrest)

end Dict

def Payload.toValue (payload : Payload) : PyValue :=
  .dict (payload.map fun entry => (.str entry.1, entry.2))

/-- `dict(value)` where every key has been found to be a string. -/
def PyDict.toPayload? (entries : PyDict) : Option Payload :=
  entries.mapM fun entry =>
    match entry.1 with
    | .str key => some (key, entry.2)
    | _ => none

def PyValue.optional {α : Type} (wrap : α → PyValue) : Option α → PyValue
  | some value => wrap value
  | Option.none => .none

/-! ### Text -/

/-- `str.isspace` of one character. -/
def isSpace (character : Char) : Bool :=
  let code := character.toNat
  (9 ≤ code && code ≤ 13) || (28 ≤ code && code ≤ 32) || code = 0x85 || code = 0xA0 ||
    code = 0x1680 || (0x2000 ≤ code && code ≤ 0x200A) || code = 0x2028 || code = 0x2029 ||
    code = 0x202F || code = 0x205F || code = 0x3000

def stripWhere (blank : Char → Bool) (value : String) : String :=
  String.ofList ((value.toList.dropWhile blank).reverse.dropWhile blank).reverse

/-- `value.strip()` -/
def strip (value : String) : String :=
  stripWhere isSpace value

/-- `value.split()`: the words between runs of whitespace. -/
def splitWords (value : String) : List String :=
  ((value.toList.splitOnP isSpace).filter (· ≠ [])).map String.ofList

/-- `not value.strip()` -/
def isBlank (value : String) : Bool :=
  value.toList.all isSpace

/-- `str.casefold`, up to characters whose folding contains no ASCII letter. -/
def casefold (value : String) : List Char :=
  value.toList.flatMap fun character =>
    match character with
    | '\u00DF' => ['s', 's']
    | '\u0130' => ['i', '\u0307']
    | '\u0149' => ['\u02BC', 'n']
    | '\u017F' => ['s']
    | '\u01F0' => ['j', '\u030C']
    | '\u1E96' => ['h', '\u0331']
    | '\u1E97' => ['t', '\u0308']
    | '\u1E98' => ['w', '\u030A']
    | '\u1E99' => ['y', '\u030A']
    | '\u1E9A' => ['a', '\u02BE']
    | '\u1E9E' => ['s', 's']
    | '\u212A' => ['k']
    | '\uFB00' => ['f', 'f']
    | '\uFB01' => ['f', 'i']
    | '\uFB02' => ['f', 'l']
    | '\uFB03' => ['f', 'f', 'i']
    | '\uFB04' => ['f', 'f', 'l']
    | '\uFB05' => ['s', 't']
    | '\uFB06' => ['s', 't']
    | other => [other.toLower]

/-! ### Canonical JSON -/

/-- The `repr` of a finite float: a number with a decimal point or an exponent. -/
def isFloatText (text : String) : Bool :=
  text.toList.all (fun character => character.isDigit || character ∈ ['.', '+', '-', 'e']) &&
    text.toList.any (fun character => character = '.' || character = 'e')

def PyKey.jsonText : PyKey → Option String
  | .str value => some value
  | .int value => some (toString value)
  | .bool value => some (if value then "true" else "false")
  | .none => some "null"
  | .other _ => Option.none

def PyKey.number? : PyKey → Option Int
  | .int value => some value
  | .bool value => some (if value then 1 else 0)
  | _ => Option.none

def typeError (message : String) : PyException := .exception message

def valueError (message : String) : PyException := .exception message

def textBefore (first second : String × Json) : Bool := first.1 ≤ second.1

def numberBefore (first second : PyKey × Json) : Bool :=
  first.1.number?.getD 0 ≤ second.1.number?.getD 0

/-- The `sort_keys` step of `json.dumps`: keys of different kinds have no order, and a key that is
no JSON scalar cannot be written. -/
def sortKeys (entries : List (PyKey × Json)) : Except PyException (List (String × Json)) :=
  let written (sorted : List (PyKey × Json)) : Except PyException (List (String × Json)) :=
    sorted.mapM fun entry =>
      match entry.1.jsonText with
      | some text => .ok (text, entry.2)
      | Option.none => .error (typeError "keys must be str, int, float, bool or None")
  if entries.all (fun entry => entry.1.isStr) then
    return (← written entries).insertionSort (textBefore · ·)
  else if entries.all (fun entry => entry.1.number?.isSome) then
    written (entries.insertionSort (numberBefore · ·))
  else if entries.length ≤ 1 then
    written entries
  else
    .error (typeError "'<' not supported between dictionary keys")

mutual

/-- `json.dumps(value, allow_nan=False, sort_keys=True)` -/
def canonicalJson : PyValue → Except PyException Json
  | .none => .ok .null
  | .bool value => .ok (.bool value)
  | .int value => .ok (.int value)
  | .float text finite =>
      if finite && isFloatText text then .ok (.float text)
      else .error (valueError "Out of range float values are not JSON compliant")
  | .str value => .ok (.str value)
  | .list items => return .arr (← canonicalJsonItems items)
  | .tuple items => return .arr (← canonicalJsonItems items)
  | .dict entries => return .obj (← sortKeys (← canonicalJsonEntries entries))
  | .other _ => .error (typeError "Object is not JSON serializable")

def canonicalJsonItems : List PyValue → Except PyException (List Json)
  | [] => .ok []
  | item :: items => return (← canonicalJson item) :: (← canonicalJsonItems items)

def canonicalJsonEntries : List (PyKey × PyValue) → Except PyException (List (PyKey × Json))
  | [] => .ok []
  | (key, value) :: entries =>
      return (key, ← canonicalJson value) :: (← canonicalJsonEntries entries)

end

theorem sortKeys_ordinary (entries : List (PyKey × Json)) : Ordinary (sortKeys entries) := by
  have hwritten (sorted : List (PyKey × Json)) : Ordinary (sorted.mapM fun entry =>
      match entry.1.jsonText with
      | some text => .ok (text, entry.2)
      | Option.none => .error (typeError "keys must be str, int, float, bool or None")) := by
    refine ordinary_mapM sorted fun entry => ?_
    split
    · exact ordinary_ok _
    · exact ordinary_exception _
  unfold sortKeys
  split
  · exact (hwritten entries).bind fun _ => ordinary_ok _
  · split
    · exact hwritten _
    · split
      · exact hwritten entries
      · exact ordinary_exception _

mutual

theorem canonicalJson_ordinary : ∀ value : PyValue, Ordinary (canonicalJson value)
  | .none => ordinary_ok _
  | .bool _ => ordinary_ok _
  | .int _ => ordinary_ok _
  | .float _ _ => by
      unfold canonicalJson
      split
      · exact ordinary_ok _
      · exact ordinary_exception _
  | .str _ => ordinary_ok _
  | .list items => (canonicalJsonItems_ordinary items).bind fun _ => ordinary_ok _
  | .tuple items => (canonicalJsonItems_ordinary items).bind fun _ => ordinary_ok _
  | .dict entries => (canonicalJsonEntries_ordinary entries).bind fun written =>
      (sortKeys_ordinary written).bind fun _ => ordinary_ok _
  | .other _ => ordinary_exception _

theorem canonicalJsonItems_ordinary : ∀ items : List PyValue, Ordinary (canonicalJsonItems items)
  | [] => ordinary_ok _
  | item :: items => (canonicalJson_ordinary item).bind fun _ =>
      (canonicalJsonItems_ordinary items).bind fun _ => ordinary_ok _

theorem canonicalJsonEntries_ordinary :
    ∀ entries : List (PyKey × PyValue), Ordinary (canonicalJsonEntries entries)
  | [] => ordinary_ok _
  | (_, value) :: entries => (canonicalJson_ordinary value).bind fun _ =>
      (canonicalJsonEntries_ordinary entries).bind fun _ => ordinary_ok _

end

mutual

/-- `json.loads` of the text this tree stands for: the last value of a repeated key counts, and
`NaN` and the infinities are read too. -/
def Json.loads : Json → PyValue
  | .null => .none
  | .bool value => .bool value
  | .int value => .int value
  | .float text => .float text (isFloatText text)
  | .str value => .str value
  | .arr items => .list (loadsItems items)
  | .obj fields => .dict (dictUpdate [] (loadsFields fields))

def Json.loadsItems : List Json → List PyValue
  | [] => []
  | item :: items => item.loads :: loadsItems items

def Json.loadsFields : List (String × Json) → List (PyKey × PyValue)
  | [] => []
  | (key, value) :: fields => (.str key, value.loads) :: loadsFields fields

end

def hexDigit (value : Nat) : Char :=
  (Nat.toDigits 16 value).headD '0'

/-- One character of a JSON string literal (`ensure_ascii=False`). -/
def escapeChar (character : Char) : List Char :=
  match character with
  | '"' => ['\\', '"']
  | '\\' => ['\\', '\\']
  | '\n' => ['\\', 'n']
  | '\r' => ['\\', 'r']
  | '\t' => ['\\', 't']
  | '\x08' => ['\\', 'b']
  | '\x0C' => ['\\', 'f']
  | other =>
      if other.toNat < 0x20 then
        ['\\', 'u', '0', '0', hexDigit (other.toNat / 16), hexDigit (other.toNat % 16)]
      else
        [other]

def quoted (value : String) : String :=
  "\"" ++ String.ofList (value.toList.flatMap escapeChar) ++ "\""

mutual

/-- The text of a JSON tree with the separators `,` and `:`. -/
def Json.text : Json → String
  | .null => "null"
  | .bool value => if value then "true" else "false"
  | .int value => toString value
  | .float text => text
  | .str value => quoted value
  | .arr items => "[" ++ String.intercalate "," (textItems items) ++ "]"
  | .obj fields => "\x7b" ++ String.intercalate "," (textFields fields) ++ "\x7d"

def Json.textItems : List Json → List String
  | [] => []
  | item :: items => item.text :: textItems items

def Json.textFields : List (String × Json) → List String
  | [] => []
  | (key, value) :: fields => (quoted key ++ ":" ++ value.text) :: textFields fields

end

/-- `parse_mapping`: the stored text has to be an object. -/
def parseMapping : Json → Except PyException Payload
  | .obj fields => .ok (dictUpdate [] (fields.map fun field => (field.1, field.2.loads)))
  | _ => .error (valueError "Persisted JSON object is invalid")

/-! ### pydantic's JSON mode -/

def PyKey.dumpText : PyKey → String
  | .bool value => if value then "true" else "false"
  | key => key.text

mutual

/-- The value `model_dump(mode="json")` writes for a field declared as `object`. Two keys of a dict
with one text collapse. -/
def modelDump : PyValue → Except PyException PyValue
  | .none => .ok .none
  | .bool value => .ok (.bool value)
  | .int value => .ok (.int value)
  | .float text finite => .ok (.float text finite)
  | .str value => .ok (.str value)
  | .list items => return .list (← modelDumpItems items)
  | .tuple items => return .list (← modelDumpItems items)
  | .dict entries => return .dict (dictUpdate [] (← modelDumpEntries entries))
  | .other (some text) => .ok (.str text)
  | .other Option.none => .error (valueError "Unable to serialize unknown type")

def modelDumpItems : List PyValue → Except PyException (List PyValue)
  | [] => .ok []
  | item :: items => return (← modelDump item) :: (← modelDumpItems items)

def modelDumpEntries : List (PyKey × PyValue) → Except PyException (List (PyKey × PyValue))
  | [] => .ok []
  | (key, value) :: entries =>
      return (.str key.dumpText, ← modelDump value) :: (← modelDumpEntries entries)

end

mutual

theorem modelDump_ordinary : ∀ value : PyValue, Ordinary (modelDump value)
  | .none => ordinary_ok _
  | .bool _ => ordinary_ok _
  | .int _ => ordinary_ok _
  | .float _ _ => ordinary_ok _
  | .str _ => ordinary_ok _
  | .list items => (modelDumpItems_ordinary items).bind fun _ => ordinary_ok _
  | .tuple items => (modelDumpItems_ordinary items).bind fun _ => ordinary_ok _
  | .dict entries => (modelDumpEntries_ordinary entries).bind fun _ => ordinary_ok _
  | .other (some _) => ordinary_ok _
  | .other Option.none => ordinary_exception _

theorem modelDumpItems_ordinary : ∀ items : List PyValue, Ordinary (modelDumpItems items)
  | [] => ordinary_ok _
  | item :: items => (modelDump_ordinary item).bind fun _ =>
      (modelDumpItems_ordinary items).bind fun _ => ordinary_ok _

theorem modelDumpEntries_ordinary :
    ∀ entries : List (PyKey × PyValue), Ordinary (modelDumpEntries entries)
  | [] => ordinary_ok _
  | (_, value) :: entries => (modelDump_ordinary value).bind fun _ =>
      (modelDumpEntries_ordinary entries).bind fun _ => ordinary_ok _

end

/-- pydantic can serialize this value. -/
def Dumps (value : PyValue) : Prop := ∃ dumped, modelDump value = .ok dumped

theorem modelDumpEntries_ok {entries : List (PyKey × PyValue)} :
    (∃ dumped, modelDumpEntries entries = .ok dumped) ↔ ∀ entry ∈ entries, Dumps entry.2 := by
  induction entries with
  | nil => simp [modelDumpEntries]
  | cons entry entries ih =>
      obtain ⟨key, value⟩ := entry
      simp only [modelDumpEntries, except_bind_ok, List.forall_mem_cons, ← ih]
      constructor
      · rintro ⟨dumped, first, hfirst, rest, hrest, -⟩
        exact ⟨⟨first, hfirst⟩, rest, hrest⟩
      · rintro ⟨⟨first, hfirst⟩, rest, hrest⟩
        exact ⟨_, first, hfirst, rest, hrest, rfl⟩

theorem dumps_dict_iff {entries : List (PyKey × PyValue)} :
    Dumps (.dict entries) ↔ ∀ entry ∈ entries, Dumps entry.2 := by
  rw [← modelDumpEntries_ok, Dumps, modelDump]
  simp only [except_bind_ok]
  constructor
  · rintro ⟨dumped, first, hfirst, -⟩
    exact ⟨first, hfirst⟩
  · rintro ⟨first, hfirst⟩
    exact ⟨_, first, hfirst, rfl⟩

theorem dumps_list {items : List PyValue} {dumped : List PyValue}
    (hitems : modelDumpItems items = .ok dumped) : Dumps (.list items) := by
  rw [Dumps, modelDump]
  exact ⟨_, except_bind_ok.mpr ⟨dumped, hitems, rfl⟩⟩

mutual

/-- What was read from JSON can be serialized again. -/
theorem Json.dumps_loads : ∀ json : Json, Dumps json.loads
  | .null => ⟨_, rfl⟩
  | .bool _ => ⟨_, rfl⟩
  | .int _ => ⟨_, rfl⟩
  | .float _ => ⟨_, rfl⟩
  | .str _ => ⟨_, rfl⟩
  | .arr items => by
      obtain ⟨dumped, hdumped⟩ := dumps_loadsItems items
      exact dumps_list hdumped
  | .obj fields => dumps_dict_iff.mpr fun entry hentry =>
      (mem_of_mem_dictUpdate hentry).elim (absurd · List.not_mem_nil)
        (dumps_loadsFields fields entry)

theorem Json.dumps_loadsItems : ∀ items : List Json,
    ∃ dumped, modelDumpItems (loadsItems items) = .ok dumped
  | [] => ⟨_, rfl⟩
  | item :: items => by
      obtain ⟨first, hfirst⟩ := dumps_loads item
      obtain ⟨rest, hrest⟩ := dumps_loadsItems items
      rw [loadsItems, modelDumpItems]
      exact ⟨_, except_bind_ok.mpr ⟨first, hfirst, except_bind_ok.mpr ⟨rest, hrest, rfl⟩⟩⟩

theorem Json.dumps_loadsFields : ∀ fields : List (String × Json),
    ∀ entry ∈ loadsFields fields, Dumps entry.2
  | [] => by simp [loadsFields]
  | (key, value) :: fields => by
      intro entry hentry
      rw [loadsFields, List.mem_cons] at hentry
      rcases hentry with rfl | hrest
      · exact dumps_loads value
      · exact dumps_loadsFields fields entry hrest

end

theorem dumps_of_parseMapping {json : Json} {payload : Payload}
    (hparse : parseMapping json = .ok payload) : ∀ entry ∈ payload, Dumps entry.2 := by
  cases json with
  | obj fields =>
      cases hparse
      intro entry hentry
      rcases mem_of_mem_dictUpdate hentry with hnone | hfield
      · cases hnone
      · obtain ⟨field, -, rfl⟩ := List.mem_map.mp hfield
        exact field.2.dumps_loads
  | _ => cases hparse

theorem dumps_of_toPayload? {entries : PyDict} {payload : Payload}
    (hpayload : entries.toPayload? = some payload) (hentries : ∀ entry ∈ entries, Dumps entry.2) :
    ∀ entry ∈ payload, Dumps entry.2 := by
  induction entries generalizing payload with
  | nil =>
      cases hpayload
      simp
  | cons entry entries ih =>
      obtain ⟨key, value⟩ := entry
      rw [List.forall_mem_cons] at hentries
      simp only [PyDict.toPayload?, List.mapM_cons, Option.bind_eq_bind, Option.bind_eq_some_iff,
        Option.pure_def, Option.some.injEq] at hpayload
      obtain ⟨first, hfirst, rest, hrest, rfl⟩ := hpayload
      cases key with
      | str text =>
          cases hfirst
          exact List.forall_mem_cons.mpr ⟨hentries.1, ih hrest hentries.2⟩
      | _ => cases hfirst

theorem dumps_dictGet {payload : Payload} (hpayload : ∀ entry ∈ payload, Dumps entry.2)
    (key : String) (default : PyValue) (hdefault : Dumps default) :
    Dumps ((dictGet payload key).getD default) := by
  unfold dictGet
  cases hfind : payload.find? fun entry => entry.1 = key with
  | none => exact hdefault
  | some entry => exact hpayload entry (List.mem_of_find?_eq_some hfind)

/-! ### Redaction -/

def sensitiveParts : List String :=
  ["api_key", "apikey", "authorization", "credential", "password", "private_key", "secret",
    "token"]

def isSensitive (key : String) : Bool :=
  sensitiveParts.any fun part => part.toList <:+: casefold key

mutual

def redactSensitive : PyValue → PyValue
  | .dict entries => .dict (redactEntries [] entries)
  | .list items => .list (redactItems items)
  | .tuple items => .list (redactItems items)
  | value => value

def redactItems : List PyValue → List PyValue
  | [] => []
  | item :: items => redactSensitive item :: redactItems items

/-- The dict comprehension, from the entries collected so far: two keys with one text collapse. -/
def redactEntries (collected : List (PyKey × PyValue)) :
    List (PyKey × PyValue) → List (PyKey × PyValue)
  | [] => collected
  | (key, value) :: entries =>
      redactEntries
        (dictSet collected (.str key.text)
          (if isSensitive key.text then .str "[REDACTED]" else redactSensitive value))
        entries

end

example : (redactSensitive (.dict [(.str "Api_Key", .str "k"), (.int 1, .tuple [.none])])) =
    .dict [(.str "Api_Key", .str "[REDACTED]"), (.str "1", .list [.none])] := by rfl

end OdooMcp
