import OdooMcp.Base64
import OdooMcp.Shared.Schema

/-!
# The encryption keyring

API keys are stored under AES-GCM, bound to their connection and to the version of the key. The
cipher itself is a parameter; what is used of it is that it decrypts what it encrypted.
-/

namespace OdooMcp

/-- `AESGCM(key).encrypt(nonce, data, associated)` and `decrypt`, on bytes. -/
structure AesGcm where
  encrypt : List UInt8 → List UInt8 → List UInt8 → List UInt8 → List UInt8
  decrypt : List UInt8 → List UInt8 → List UInt8 → List UInt8 → Option (List UInt8)

/-- The ciphertext is longer than the data by the tag, and decrypts to it. -/
structure AesGcm.Lawful (cipher : AesGcm) : Prop where
  length_encrypt : ∀ key nonce data associated,
    (cipher.encrypt key nonce data associated).length = data.length + 16
  decrypt_encrypt : ∀ key nonce data associated,
    cipher.decrypt key nonce (cipher.encrypt key nonce data associated) associated = some data

/-- A keyring that `EncryptionKeyring(active_version, keys)` accepts. -/
structure EncryptionKeyring where
  activeVersion : Int
  keys : List (Int × List UInt8)
  active_known : (keys.lookup activeVersion).isSome
  versioned : ∀ entry ∈ keys, 0 < entry.1 ∧ entry.2.length = 32

def utf8Bytes (text : String) : List UInt8 := text.toUTF8.data.toList

/-- `bytes.decode()` -/
def decodeUtf8 (bytes : List UInt8) : Option String := String.fromUTF8? ⟨bytes.toArray⟩

/-- `base64.urlsafe_b64encode(combined).decode()` -/
def base64Text (combined : List UInt8) : String :=
  String.ofList (Base64.encodePadded (combined.map UInt8.toNat))

/-- `base64.b64decode(text.encode(), altchars=b"-_", validate=True)` -/
def base64Bytes (text : String) : Option (List UInt8) :=
  (Base64.decodePadded text.toList).map (·.map UInt8.ofNat)

namespace EncryptionKeyring

variable (cipher : AesGcm)

/-- The canonical JSON of the three names, whose keys are in order. -/
def associatedData (tenantId connectionId : String) (keyVersion : Int) : List UInt8 :=
  utf8Bytes (Json.obj
    [("connection_id", .str connectionId), ("key_version", .int keyVersion),
      ("tenant_id", .str tenantId)]).text

def key (keyring : EncryptionKeyring) (version : Int) : Option (List UInt8) :=
  keyring.keys.lookup version

/-- The nonce is twelve random bytes. -/
def encrypt (keyring : EncryptionKeyring) (nonce : Fin 12 → UInt8)
    (tenantId connectionId plaintext : String) : String × Int :=
  let key := (keyring.keys.lookup keyring.activeVersion).get keyring.active_known
  let associated := associatedData tenantId connectionId keyring.activeVersion
  let ciphertext := cipher.encrypt key (List.ofFn nonce) (utf8Bytes plaintext) associated
  (base64Text (List.ofFn nonce ++ ciphertext), keyring.activeVersion)

def decrypt (keyring : EncryptionKeyring)
    (tenantId connectionId ciphertext : String) (keyVersion : Int) : Except SharedError String :=
  let plaintext := do
    let key ← keyring.key keyVersion
    let combined ← base64Bytes ciphertext
    if combined.length < 29 then none
    let bytes ← cipher.decrypt key (combined.take 12) (combined.drop 12)
      (associatedData tenantId connectionId keyVersion)
    decodeUtf8 bytes
  match plaintext with
  | some text => .ok text
  | none => .error (.database "The encrypted Odoo connection could not be decrypted")

end EncryptionKeyring

/-! ### Decrypting what was encrypted -/

theorem decodeUtf8_utf8Bytes (text : String) : decodeUtf8 (utf8Bytes text) = some text := by
  unfold decodeUtf8 utf8Bytes String.fromUTF8?
  rw [Array.toArray_toList]
  exact dif_pos text.isValidUTF8

theorem base64Bytes_base64Text (combined : List UInt8) :
    base64Bytes (base64Text combined) = some combined := by
  have hbytes : ∀ byte ∈ combined.map UInt8.toNat, byte < 256 := by
    intro byte hbyte
    obtain ⟨value, -, rfl⟩ := List.mem_map.mp hbyte
    exact value.toNat_lt
  rw [base64Bytes, base64Text, String.toList_ofList, Base64.decodePadded_encodePadded hbytes,
    Option.map_some, List.map_map]
  have hid : UInt8.ofNat ∘ UInt8.toNat = id := by
    funext byte
    simp
  rw [hid, List.map_id]

end OdooMcp
