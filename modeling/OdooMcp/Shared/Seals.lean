import OdooMcp.Shared.Frames

/-!
# Sealed API keys

A stored API key is sealed under the key of its version for its own tenant and connection. Every
keyring that holds this version opens it. The operations other than the enrollment of a connector
and the rotation of its key leave the seals as they are.
-/

namespace OdooMcp

open Effect Statements UniqueTable

variable {deployment : SharedDeployment} {ambient : Ambient} {store later : SharedStore}

/-! ### Seals -/

/-- The keyring names the operator's keys: a version stands for one key. -/
def EncryptionKeyring.From (keys : Int → List UInt8) (keyring : EncryptionKeyring) : Prop :=
  ∀ version key, keyring.key version = some key → key = keys version

/-- The stored text is this secret, sealed under the key of the row's version for the row's own
tenant and connection. -/
def ConnectorRow.Seals (cipher : AesGcm) (keys : Int → List UInt8) (row : ConnectorRow)
    (secret : String) : Prop :=
  secret ≠ "" ∧ ∃ nonce : Fin 12 → UInt8, row.encryptedApiKey = base64Text
    (List.ofFn nonce ++ cipher.encrypt (keys row.keyVersion) (List.ofFn nonce) (utf8Bytes secret)
      (EncryptionKeyring.associatedData row.tenantId row.id row.keyVersion))

variable {cipher : AesGcm} {keys : Int → List UInt8} {keyring : EncryptionKeyring}

/-- What a keyring seals under its active key. -/
theorem seals_encrypt (hkeys : keyring.From keys) {row : ConnectorRow} {secret : String}
    (hsecret : secret ≠ "") {nonce : Fin 12 → UInt8}
    (hsealed : (row.encryptedApiKey, row.keyVersion) =
      keyring.encrypt cipher nonce row.tenantId row.id secret) : row.Seals cipher keys secret := by
  obtain ⟨key, hactive⟩ := Option.isSome_iff_exists.mp keyring.active_known
  have hkey : key = keys keyring.activeVersion := hkeys _ _ hactive
  obtain ⟨htext, hversion⟩ := Prod.mk.inj hsealed
  refine ⟨hsecret, nonce, ?_⟩
  rw [htext, hversion, ← hkey]
  simp [hactive]

/-- A keyring that holds the version of a seal opens it. -/
theorem decrypt_of_seals (hcipher : cipher.Lawful) (hkeys : keyring.From keys) {row : ConnectorRow}
    {secret : String} (hseals : row.Seals cipher keys secret)
    (hheld : (keyring.key row.keyVersion).isSome) :
    keyring.decrypt cipher row.tenantId row.id row.encryptedApiKey row.keyVersion = .ok secret := by
  obtain ⟨hsecret, nonce, htext⟩ := hseals
  obtain ⟨key, hkey⟩ := Option.isSome_iff_exists.mp hheld
  have hsame : key = keys row.keyVersion := hkeys _ _ hkey
  have hlength : 0 < (utf8Bytes secret).length := by
    rw [List.length_pos_iff]
    intro hnil
    have hdecoded := decodeUtf8_utf8Bytes secret
    rw [hnil] at hdecoded
    exact hsecret (Option.some.inj hdecoded).symm
  have hnonce : (List.ofFn nonce).length = 12 := List.length_ofFn
  unfold EncryptionKeyring.decrypt
  simp only [hkey, htext, base64Bytes_base64Text, Option.bind_eq_bind, Option.bind_some]
  rw [if_neg (by rw [List.length_append, hcipher.length_encrypt, hnonce]; omega),
    List.take_left' hnonce, List.drop_left' hnonce, hsame, hcipher.decrypt_encrypt,
    Option.bind_some, decodeUtf8_utf8Bytes]

/-! ### Operations that leave the seals -/

/-- Every connector was stored before, under the same key and seal. -/
def SameSeals (store later : SharedStore) : Prop :=
  ∀ row ∈ later.connectors, ∃ old ∈ store.connectors, old.key = row.key ∧
    row.encryptedApiKey = old.encryptedApiKey ∧ row.keyVersion = old.keyVersion

instance : Std.Refl SameSeals where
  refl _ row hrow := ⟨row, hrow, rfl, rfl, rfl⟩

instance : IsTrans SharedStore SameSeals where
  trans _ _ _ hfirst hsecond row hrow := by
    obtain ⟨middle, hmiddle, hkey, htext, hversion⟩ := hsecond row hrow
    obtain ⟨old, hold, hkey', htext', hversion'⟩ := hfirst middle hmiddle
    exact ⟨old, hold, hkey'.trans hkey, htext.trans htext', hversion.trans hversion'⟩

theorem sameSeals_of_connectors (hsame : later.connectors = store.connectors) :
    SameSeals store later := by
  intro row hrow
  rw [hsame] at hrow
  exact ⟨row, hrow, rfl, rfl, rfl⟩

theorem sameSeals_kept (sha256 : String → String) : KeptByStatements sha256 SameSeals where
  same hconnectors _ := sameSeals_of_connectors hconnectors
  connectors := by
    intro condition change hkey htext hversion store rowcount later hupdate
    obtain ⟨-, connectors, hconnectors, rfl, -⟩ := updateConnectors_ok.mp hupdate
    intro row hrow
    obtain ⟨old, hold, rfl⟩ := (updated_of_update? hconnectors row).mp hrow
    refine ⟨old, hold, ?_⟩
    split
    · exact ⟨(hkey old).symm, htext old, hversion old⟩
    · exact ⟨rfl, rfl, rfl⟩
  discarded condition := by
    intro store value later hdelete
    obtain ⟨-, rfl⟩ := deleteConnectors_ok.mp hdelete
    intro row hrow
    exact ⟨row, (mem_delete.mp hrow).1, rfl, rfl, rfl⟩
  audit now event := by
    intro store value later happend
    obtain ⟨journal, rfl⟩ := sameTables_appendAudit happend
    exact sameSeals_of_connectors rfl

/-! ### Rotation of one connection -/

def ConnectorRow.rekeyed (row : ConnectorRow) (sealed : String × Int) (now : Instant) :
    ConnectorRow :=
  { row with
    encryptedApiKey := sealed.1
    keyVersion := sealed.2
    updatedAt := now }

/-- What a rotation that does not raise has done: nothing if the connection already carried the
active version, and otherwise a seal of the same plaintext and one audit event. -/
theorem rotate_ok {tenantId connectionId requestId subject mcpClient : String} {rotated : Bool}
    (hrotate : EncryptedConnectionRepository.rotate deployment.sha256 deployment.cipher keyring
      ambient tenantId connectionId requestId subject mcpClient store = .ok (rotated, later)) :
    ∃ row ∈ store.connectors, row.tenantId = tenantId ∧ row.id = connectionId ∧
      ((row.keyVersion = keyring.activeVersion ∧ rotated = false ∧ later = store) ∨
        row.keyVersion ≠ keyring.activeVersion ∧ rotated = true ∧
          ∃ plaintext connectors event journal,
            keyring.decrypt deployment.cipher row.tenantId row.id row.encryptedApiKey
              row.keyVersion = .ok plaintext ∧
            store.connectors.update?
              (fun other => other.tenantId = tenantId && other.id = connectionId &&
                other.keyVersion = row.keyVersion)
              (·.rekeyed (keyring.encrypt deployment.cipher ambient.nonce row.tenantId row.id
                plaintext) ambient.now) (fun _ => rfl) = some connectors ∧
            AuditRepository.appendInTransaction deployment.sha256 ambient.now
              (EncryptedConnectionRepository.rotationEvent requestId subject mcpClient row
                keyring.activeVersion) store.journal = .ok (event, journal) ∧
            later = { store with
              connectors := connectors
              journal := journal }) := by
  simp only [EncryptedConnectionRepository.rotate, bind_ok, get_ok, found_ok, require_ok]
    at hrotate
  obtain ⟨_, _, ⟨-, rfl⟩, _, _, ⟨rfl, rfl⟩, row, _, ⟨hfound, rfl⟩, hrotate⟩ := hrotate
  obtain ⟨hrow, hkey⟩ := Table.find_eq_some_iff.mp hfound
  obtain ⟨htenant, hid⟩ := Prod.mk.inj hkey
  refine ⟨row, hrow, htenant, hid, ?_⟩
  split at hrotate
  · rename_i hversion
    obtain ⟨rfl, rfl⟩ := pure_ok.mp hrotate
    exact .inl ⟨hversion, rfl, rfl⟩
  · rename_i hversion
    simp only [bind_ok, lift_ok, require_ok, pure_ok] at hrotate
    obtain ⟨sealed, _, ⟨hsealed, rfl⟩, _, _, hupdate, _, _, ⟨-, rfl⟩, _, _, happend, rfl, rfl⟩ :=
      hrotate
    obtain ⟨plaintext, hplaintext, hpure⟩ := except_bind_ok.mp hsealed
    obtain rfl := Except.ok.inj hpure
    obtain ⟨-, connectors, hconnectors, rfl, -⟩ := updateConnectors_ok.mp hupdate
    obtain ⟨event, journal, happended, rfl⟩ := appendAudit_ok.mp happend
    exact .inr ⟨hversion, rfl, plaintext, connectors, event, journal, hplaintext, hconnectors,
      happended, rfl⟩

/-! ### Reachable stores -/

/-- What the callers of an operation see to: the keyring names the operator's keys, and the
validated credentials have an API key that is not blank. -/
def SharedRequest.Keyed (keys : Int → List UInt8) : SharedRequest → Prop
  | .insertPrepared keyring credentials .. =>
      keyring.From keys ∧ isBlank credentials.apiKey = false
  | .rotate keyring .. => keyring.From keys
  | _ => True

/-- The stores that serialised operations reach while the operator's keys are these. -/
def SharedDeployment.ReachableUnder (deployment : SharedDeployment) (keys : Int → List UInt8)
    (store : SharedStore) : Prop :=
  ∃ events, deployment.Run .empty events store ∧ ∀ event ∈ events, event.request.Keyed keys

def AllSealed (cipher : AesGcm) (keys : Int → List UInt8) (store : SharedStore) : Prop :=
  ∀ row ∈ store.connectors, ∃ secret, row.Seals cipher keys secret

theorem SameSeals.allSealed (hsame : SameSeals store later)
    (hstore : AllSealed cipher keys store) : AllSealed cipher keys later := by
  intro row hrow
  obtain ⟨old, hold, hkey, htext, hversion⟩ := hsame row hrow
  obtain ⟨secret, hsecret, nonce, hseal⟩ := hstore old hold
  obtain ⟨htenant, hid⟩ := Prod.mk.inj hkey
  refine ⟨secret, hsecret, nonce, ?_⟩
  rw [htext, hversion, ← htenant, ← hid]
  exact hseal

theorem held_of_decrypt {tenantId connectionId ciphertext plaintext : String} {version : Int}
    (hdecrypt : keyring.decrypt cipher tenantId connectionId ciphertext version = .ok plaintext) :
    (keyring.key version).isSome := by
  by_contra hnone
  rw [Option.not_isSome_iff_eq_none] at hnone
  simp [EncryptionKeyring.decrypt, hnone] at hdecrypt

/-- A row that is sealed again keeps its secret. -/
theorem seals_rekeyed (hcipher : cipher.Lawful) (hkeys : keyring.From keys) {row : ConnectorRow}
    {secret plaintext : String} (hseals : row.Seals cipher keys secret)
    (hdecrypt : keyring.decrypt cipher row.tenantId row.id row.encryptedApiKey row.keyVersion =
      .ok plaintext) (nonce : Fin 12 → UInt8) (now : Instant) :
    (row.rekeyed (keyring.encrypt cipher nonce row.tenantId row.id plaintext) now).Seals cipher keys
      secret := by
  have hopened := decrypt_of_seals hcipher hkeys hseals (held_of_decrypt hdecrypt)
  rw [hdecrypt] at hopened
  obtain rfl := Except.ok.inj hopened
  exact seals_encrypt hkeys hseals.1 rfl

theorem allSealed_insertPrepared (hkeys : keyring.From keys)
    {credentials : OdooEnrollmentCredentials} (happiKey : isBlank credentials.apiKey = false)
    {handle : String} {verified : VerifiedEnrollment} {prepared : PreparedEnrollment}
    (hinsert : SharedConnectorLifecycle.insertPrepared deployment.sha256 deployment.cipher keyring
      ambient credentials handle verified store = .ok (prepared, later))
    (hstore : AllSealed deployment.cipher keys store) : AllSealed deployment.cipher keys later := by
  rcases insertPrepared_ok hinsert with ⟨-, -, -, -, rfl⟩ |
    ⟨-, connectors, journal, hinserted, rfl, -⟩
  · exact hstore
  · have hsecret : credentials.apiKey ≠ "" := by
      intro hempty
      rw [hempty] at happiKey
      revert happiKey
      decide
    exact hinserted.forall_mem hstore ⟨credentials.apiKey, seals_encrypt hkeys hsecret rfl⟩

theorem allSealed_rotate (hcipher : deployment.cipher.Lawful) (hkeys : keyring.From keys)
    {tenantId connectionId requestId subject mcpClient : String} {rotated : Bool}
    (hrotate : EncryptedConnectionRepository.rotate deployment.sha256 deployment.cipher keyring
      ambient tenantId connectionId requestId subject mcpClient store = .ok (rotated, later))
    (hstore : AllSealed deployment.cipher keys store) : AllSealed deployment.cipher keys later := by
  obtain ⟨row, hrow, htenant, hid, ⟨-, -, rfl⟩ |
    ⟨-, -, plaintext, connectors, event, journal, hplaintext, hconnectors, -, rfl⟩⟩ :=
    rotate_ok hrotate
  · exact hstore
  · refine (updated_of_update? hconnectors).forall_mem hstore fun other hother hcondition => ?_
    simp only [Bool.and_eq_true, decide_eq_true_eq] at hcondition
    have hsame : other = row := eq_of_key_eq hother hrow
      (Prod.ext (hcondition.1.1.trans htenant.symm) (hcondition.1.2.trans hid.symm))
    obtain ⟨secret, hseals⟩ := hstore row hrow
    rw [hsame]
    exact ⟨secret, seals_rekeyed hcipher hkeys hseals hplaintext _ _⟩

theorem allSealed_step (hcipher : deployment.cipher.Lawful) {event : SharedEvent}
    (hkeyed : event.request.Keyed keys) (hstep : deployment.Step store event later)
    (hstore : AllSealed deployment.cipher keys store) : AllSealed deployment.cipher keys later := by
  unfold SharedDeployment.Step SharedDeployment.execute at hstep
  cases hanswer : event.answer with
  | error error =>
      rw [hanswer] at hstep
      obtain ⟨-, rfl⟩ := commit_error.mp hstep
      exact hstore
  | ok value =>
      rw [hanswer] at hstep
      have hexecuted := commit_ok.mp hstep
      clear hanswer hstep
      obtain ⟨ambient, request, answer⟩ := event
      cases hseals : request.seals with
      | false => exact ((sameSeals_kept _).statements hseals _ _ _ hexecuted).allSealed hstore
      | true =>
          cases request with
          | insertPrepared keyring credentials handle verified =>
              exact allSealed_insertPrepared hkeyed.1 hkeyed.2 hexecuted hstore
          | rotate keyring tenantId connectionId requestId subject mcpClient =>
              exact allSealed_rotate hcipher hkeyed hexecuted hstore
          | _ => cases hseals

/-- Every API key of a reachable store is sealed under the operator's keys. -/
theorem allSealed_of_reachable (hcipher : deployment.cipher.Lawful)
    (hreachable : deployment.ReachableUnder keys store) :
    AllSealed deployment.cipher keys store := by
  obtain ⟨events, hrun, hkeyed⟩ := hreachable
  have hpath : ∀ {first last : SharedStore} {events : List SharedEvent},
      deployment.Run first events last → (∀ event ∈ events, event.request.Keyed keys) →
        AllSealed deployment.cipher keys first → AllSealed deployment.cipher keys last := by
    intro first last events hrun hkeyed hfirst
    induction hrun with
    | nil state => exact hfirst
    | cons hstep _ ih =>
        rw [List.forall_mem_cons] at hkeyed
        exact ih hkeyed.2 (allSealed_step hcipher hkeyed.1 hstep hfirst)
  exact hpath hrun hkeyed fun row hrow => absurd hrow not_mem_empty

end OdooMcp
