import Mathlib.Data.List.TakeWhile
import Mathlib.Tactic.Common

/-!
# URL-safe base64

Texts are coded without padding. Decoding is strict: it accepts no character outside the alphabet,
and padding only where it completes the last group of four or stands behind complete groups.
-/

namespace OdooMcp

namespace Base64

def encodeDigit (value : Nat) : Char :=
  if value < 26 then Char.ofNat ('A'.toNat + value)
  else if value < 52 then Char.ofNat ('a'.toNat + (value - 26))
  else if value < 62 then Char.ofNat ('0'.toNat + (value - 52))
  else if value = 62 then '-'
  else '_'

/-- The value of a character, in the URL-safe or in the standard alphabet. -/
def decodeDigit? (character : Char) : Option Nat :=
  if 'A' ≤ character && character ≤ 'Z' then some (character.toNat - 'A'.toNat)
  else if 'a' ≤ character && character ≤ 'z' then some (character.toNat - 'a'.toNat + 26)
  else if '0' ≤ character && character ≤ '9' then some (character.toNat - '0'.toNat + 52)
  else if character = '-' || character = '+' then some 62
  else if character = '_' || character = '/' then some 63
  else none

/-- `base64.urlsafe_b64encode(payload).decode().rstrip("=")` -/
def encode : List Nat → List Char
  | [] => []
  | [first] => [encodeDigit (first / 4), encodeDigit (first % 4 * 16)]
  | [first, second] =>
      [encodeDigit (first / 4), encodeDigit (first % 4 * 16 + second / 16),
        encodeDigit (second % 16 * 4)]
  | first :: second :: third :: rest =>
      encodeDigit (first / 4) :: encodeDigit (first % 4 * 16 + second / 16) ::
        encodeDigit (second % 16 * 4 + third / 64) :: encodeDigit (third % 64) :: encode rest

/-- The bytes of complete and of last groups; a group of one character holds no byte. -/
def bytes : List Nat → Option (List Nat)
  | [] => some []
  | [_] => none
  | [first, second] => some [first * 4 + second / 16]
  | [first, second, third] =>
      some [first * 4 + second / 16, second % 16 * 16 + third / 4]
  | first :: second :: third :: fourth :: rest => do
      return (first * 4 + second / 16) :: (second % 16 * 16 + third / 4) ::
        (third % 4 * 64 + fourth) :: (← bytes rest)

def padding (count : Nat) : Nat := (4 - count % 4) % 4

/-- `base64.b64decode(text, altchars=b"-_", validate=True)`: padding completes the last group, and
nothing follows it; behind complete groups any number of padding characters is ignored. -/
def decodePadded (text : List Char) : Option (List Nat) := do
  let data := text.takeWhile (· ≠ '=')
  let pads := text.dropWhile (· ≠ '=')
  if pads.any (· ≠ '=') || (data.isEmpty && !pads.isEmpty) then none
  if data.length % 4 ≠ 0 && pads.length ≠ padding data.length then none
  bytes (← data.mapM decodeDigit?)

/-- `base64.b64decode(text + "=" * (-len(text) % 4), altchars=b"-_", validate=True)` -/
def decode (text : List Char) : Option (List Nat) :=
  decodePadded (text ++ List.replicate (padding text.length) '=')

/-- `base64.urlsafe_b64encode(payload).decode()` -/
def encodePadded (payload : List Nat) : List Char :=
  encode payload ++ List.replicate (padding (encode payload).length) '='

def digits : List Nat → List Nat
  | [] => []
  | [first] => [first / 4, first % 4 * 16]
  | [first, second] => [first / 4, first % 4 * 16 + second / 16, second % 16 * 4]
  | first :: second :: third :: rest =>
      first / 4 :: (first % 4 * 16 + second / 16) :: (second % 16 * 4 + third / 64) ::
        third % 64 :: digits rest

theorem encode_eq (payload : List Nat) : encode payload = (digits payload).map encodeDigit := by
  induction payload using digits.induct with
  | case1 => rfl
  | case2 first => rfl
  | case3 first second => rfl
  | case4 first second third rest ih => simp [encode, digits, ih]

theorem digits_lt {payload : List Nat} (hpayload : ∀ byte ∈ payload, byte < 256) :
    ∀ digit ∈ digits payload, digit < 64 := by
  induction payload using digits.induct with
  | case1 => simp [digits]
  | case2 first =>
      simp only [List.mem_singleton, forall_eq] at hpayload
      simp only [digits, List.forall_mem_cons, List.not_mem_nil, false_implies, implies_true,
        and_true]
      omega
  | case3 first second =>
      simp only [List.forall_mem_cons, List.not_mem_nil, false_implies, implies_true,
        and_true] at hpayload
      simp only [digits, List.forall_mem_cons, List.not_mem_nil, false_implies, implies_true,
        and_true]
      omega
  | case4 first second third rest ih =>
      simp only [List.forall_mem_cons] at hpayload
      simp only [digits, List.forall_mem_cons]
      exact ⟨by omega, by omega, by omega, by omega, ih hpayload.2.2.2⟩

theorem bytes_digits {payload : List Nat} (hpayload : ∀ byte ∈ payload, byte < 256) :
    bytes (digits payload) = some payload := by
  induction payload using digits.induct with
  | case1 => rfl
  | case2 first =>
      simp only [List.mem_singleton, forall_eq] at hpayload
      simp only [digits, bytes, Option.some.injEq, List.cons.injEq, and_true]
      omega
  | case3 first second =>
      simp only [List.forall_mem_cons, List.not_mem_nil, false_implies, implies_true,
        and_true] at hpayload
      simp only [digits, bytes, Option.some.injEq, List.cons.injEq, and_true]
      omega
  | case4 first second third rest ih =>
      simp only [List.forall_mem_cons] at hpayload
      simp only [digits, bytes, ih hpayload.2.2.2, Option.bind_eq_bind, Option.bind_some,
        Option.pure_def, Option.some.injEq, List.cons.injEq, and_true]
      omega

theorem decodeDigit?_encodeDigit {digit : Nat} (hdigit : digit < 64) :
    decodeDigit? (encodeDigit digit) = some digit ∧ encodeDigit digit ≠ '=' := by
  revert digit
  decide

theorem mapM_decodeDigit? {values : List Nat} (hvalues : ∀ value ∈ values, value < 64) :
    (values.map encodeDigit).mapM decodeDigit? = some values := by
  induction values with
  | nil => rfl
  | cons value values ih =>
      obtain ⟨hvalue, hrest⟩ := List.forall_mem_cons.mp hvalues
      rw [List.map_cons, List.mapM_cons, (decodeDigit?_encodeDigit hvalue).1, ih hrest]
      rfl

theorem encode_plain {payload : List Nat} (hpayload : ∀ byte ∈ payload, byte < 256) :
    ∀ character ∈ encode payload, character ≠ '=' := by
  rw [encode_eq]
  intro character hcharacter
  obtain ⟨digit, hdigit, rfl⟩ := List.mem_map.mp hcharacter
  exact (decodeDigit?_encodeDigit (digits_lt hpayload digit hdigit)).2

theorem bytes_encode {payload : List Nat} (hpayload : ∀ byte ∈ payload, byte < 256) :
    ((encode payload).mapM decodeDigit?).bind bytes = some payload := by
  rw [encode_eq, mapM_decodeDigit? (digits_lt hpayload)]
  exact bytes_digits hpayload

/-- Decoding a padded code gives the payload back. -/
theorem decodePadded_encodePadded {payload : List Nat} (hpayload : ∀ byte ∈ payload, byte < 256) :
    decodePadded (encodePadded payload) = some payload := by
  have htake : (encodePadded payload).takeWhile (· ≠ '=') = encode payload := by
    rw [encodePadded, List.takeWhile_append_of_pos (by simpa using encode_plain hpayload)]
    simp
  have hdrop : (encodePadded payload).dropWhile (· ≠ '=') =
      List.replicate (padding (encode payload).length) '=' := by
    rw [encodePadded, List.dropWhile_append_of_pos (by simpa using encode_plain hpayload)]
    simp
  have hpads : (List.replicate (padding (encode payload).length) '=').any (· ≠ '=') = false := by
    simp
  have hleading : ((encode payload).isEmpty &&
      !(List.replicate (padding (encode payload).length) '=').isEmpty) = false := by
    cases hempty : encode payload with
    | nil => rfl
    | cons character rest => rfl
  unfold decodePadded
  simp only [htake, hdrop, hpads, hleading, List.length_replicate]
  simpa using bytes_encode hpayload

/-- Decoding a code gives the payload back. -/
theorem decode_encode {payload : List Nat} (hpayload : ∀ byte ∈ payload, byte < 256) :
    decode (encode payload) = some payload :=
  decodePadded_encodePadded hpayload

theorem length_encode (payload : List Nat) :
    (encode payload).length = (4 * payload.length + 2) / 3 := by
  induction payload using digits.induct with
  | case1 => rfl
  | case2 first => simp [encode]
  | case3 first second => simp [encode]
  | case4 first second third rest ih =>
      simp only [encode, List.length_cons, ih]
      omega

/-! ### UTF-8 -/

def continuation (byte : Nat) : Option Nat :=
  if 0x80 ≤ byte && byte < 0xC0 then some (byte - 0x80) else none

/-- `bytes.decode()`: strict UTF-8. -/
def utf8 : List Nat → Option (List Char)
  | [] => some []
  | first :: rest =>
      if first < 0x80 then
        return Char.ofNat first :: (← utf8 rest)
      else if 0xC2 ≤ first && first < 0xE0 then
        match rest with
        | second :: rest => do
            let code := (first - 0xC0) * 64 + (← continuation second)
            return Char.ofNat code :: (← utf8 rest)
        | [] => none
      else if 0xE0 ≤ first && first < 0xF0 then
        match rest with
        | second :: third :: rest => do
            let code := (first - 0xE0) * 4096 + (← continuation second) * 64 +
              (← continuation third)
            if code < 0x800 || (0xD800 ≤ code && code < 0xE000) then none
            return Char.ofNat code :: (← utf8 rest)
        | _ => none
      else if 0xF0 ≤ first && first < 0xF5 then
        match rest with
        | second :: third :: fourth :: rest => do
            let code := (first - 0xF0) * 262144 + (← continuation second) * 4096 +
              (← continuation third) * 64 + (← continuation fourth)
            if code < 0x10000 || 0x110000 ≤ code then none
            return Char.ofNat code :: (← utf8 rest)
        | _ => none
      else
        none

theorem utf8_ascii {characters : List Char}
    (hascii : ∀ character ∈ characters, character.toNat < 0x80) :
    utf8 (characters.map Char.toNat) = some characters := by
  induction characters with
  | nil => rfl
  | cons character characters ih =>
      obtain ⟨hcharacter, hrest⟩ := List.forall_mem_cons.mp hascii
      rw [List.map_cons, utf8.eq_def]
      simp [hcharacter, ih hrest]

/-- A code of ASCII text is decoded to that text. -/
theorem decode_text {characters : List Char}
    (hascii : ∀ character ∈ characters, character.toNat < 0x80) :
    (decode (encode (characters.map Char.toNat))).bind utf8 = some characters := by
  have hbytes : ∀ byte ∈ characters.map Char.toNat, byte < 256 := by
    intro byte hbyte
    obtain ⟨character, hcharacter, rfl⟩ := List.mem_map.mp hbyte
    have := hascii character hcharacter
    omega
  rw [decode_encode hbytes]
  exact utf8_ascii hascii

end Base64

end OdooMcp
