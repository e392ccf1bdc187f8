import OdooMcp.CanonicalJson
import OdooMcp.Shared.Seals

/-!
# Rotation of a tenant's keys

`rotate_tenant` seals the stale connections of a tenant again, one transaction for each. A run may
stop before any of them and be made again, also with another active key.
-/

namespace OdooMcp

open Effect Statements UniqueTable

/-- A run of `rotate_tenant`: its arguments, what the transaction of each record takes from outside,
and the record before whose commit the run is interrupted, if it is. -/
structure RotationRun where
  keyring : EncryptionKeyring
  tenantId : String
  authenticatedSubject : String
  mcpClient : String
  ambient : Nat → Ambient
  interruptedAt : Option Nat

/-- The connections of a tenant that do not carry the active version, in the order of their ids. -/
def SharedStore.staleConnections (store : SharedStore) (tenantId : String) (activeVersion : Int) :
    List String :=
  ((store.connectors.rows.filter fun row =>
    row.tenantId = tenantId && row.keyVersion ≠ activeVersion).map (·.id)).insertionSort (· ≤ ·)

namespace SharedDeployment

variable (deployment : SharedDeployment)

def rotateRecord (run : RotationRun) (index : Nat) (connectionId : String) (store : SharedStore) :
    Except SharedError Bool × SharedStore :=
  (EncryptedConnectionRepository.rotate deployment.sha256 deployment.cipher run.keyring
    (run.ambient index) run.tenantId connectionId ("req_" ++ (run.ambient index).random 0)
    run.authenticatedSubject run.mcpClient).commit store

def rotateRecords (run : RotationRun) :
    Nat → List String → SharedStore → Except SharedError Nat × SharedStore
  | index, [], store =>
      if run.interruptedAt = some index then (.error .cancelled, store) else (.ok 0, store)
  | index, connectionId :: connectionIds, store =>
      if run.interruptedAt = some index then
        (.error .cancelled, store)
      else
        match deployment.rotateRecord run index connectionId store with
        | (.error error, later) => (.error error, later)
        | (.ok rotated, later) =>
            match rotateRecords run (index + 1) connectionIds later with
            | (.error error, last) => (.error error, last)
            | (.ok count, last) => (.ok (count + rotated.toNat), last)

def rotateTenant (run : RotationRun) (store : SharedStore) :
    Except SharedError Nat × SharedStore :=
  if [run.tenantId, run.authenticatedSubject, run.mcpClient].any isBlank then
    (.error (.value "Rotation identity fields are required"), store)
  else
    deployment.rotateRecords run 0
      (store.staleConnections run.tenantId run.keyring.activeVersion) store

end SharedDeployment

/-! ### Audit events of a rotation -/

def AuditRow.rotates (row : AuditRow) (tenantId connectionId : String) : Bool :=
  row.tenantId = tenantId && row.toolName = "rotate_erp_connection_key" &&
    match row.inputPayload with
    | .obj [("connection_id", .str id)] => id = connectionId
    | _ => false

variable {deployment : SharedDeployment} {keys : Int → List UInt8} {run : RotationRun}
  {store later : SharedStore}

theorem auditRow_fields {sha256 : String → String} {log : Table AuditRow.key} {now : Instant}
    {event : AuditEvent} {row : AuditRow} (hrow : auditRow sha256 log now event = .ok row) :
    row.tenantId = event.tenantId ∧ row.toolName = event.toolName ∧
      canonicalJson (redactedPayload event.inputPayload) = .ok row.inputPayload := by
  simp only [auditRow, auditEntry, except_bind_ok] at hrow
  obtain ⟨_, -, _, -, payload, hpayload, _, -, _, -, _, -, hdone⟩ := hrow
  obtain rfl := Except.ok.inj hdone
  exact ⟨rfl, rfl, hpayload⟩

theorem redactedPayload_connection (connectionId : String) :
    redactedPayload [("connection_id", .str connectionId)] =
      .dict [(.str "connection_id", .str connectionId)] := by
  have hplain : isSensitive "connection_id" = false := by decide +kernel
  rw [redactedPayload, Payload.toValue, redactSensitive]
  simp only [List.map_cons, List.map_nil, redactEntries, PyKey.text, hplain, Bool.false_eq_true,
    if_false, redactSensitive, dictSet]

theorem canonicalJson_connection (connectionId : String) :
    canonicalJson (redactedPayload [("connection_id", .str connectionId)]) =
      .ok (.obj [("connection_id", .str connectionId)]) := by
  rw [redactedPayload_connection]
  refine canonicalJson_dict_ok.mpr ⟨[(.str "connection_id", .str connectionId)], rfl,
    [("connection_id", .str connectionId)], ?_, rfl⟩
  rw [sortKeys_of_strings (by simp [PyKey.isStr])]
  rfl

theorem rotates_rotationEvent {requestId subject mcpClient : String} {row : ConnectorRow}
    {keyVersion : Int} {now : Instant} {journal reached : Store} {event : AuditRow}
    (happend : AuditRepository.appendInTransaction deployment.sha256 now
      (EncryptedConnectionRepository.rotationEvent requestId subject mcpClient row keyVersion)
      journal = .ok (event, reached)) (connectionId : String) :
    event.rotates row.tenantId connectionId = decide (row.id = connectionId) := by
  obtain ⟨-, hrow, -⟩ := appendInTransaction_ok_iff.mp happend
  obtain ⟨htenant, htool, hpayload⟩ := auditRow_fields hrow
  change canonicalJson (redactedPayload [("connection_id", .str row.id)]) = _ at hpayload
  rw [canonicalJson_connection] at hpayload
  rw [AuditRow.rotates, htenant, htool, ← Except.ok.inj hpayload]
  simp [EncryptedConnectionRepository.rotationEvent]

/-! ### What a run has done -/

/-- A row that the run has sealed again: nothing but the seal, its version and the time of the
update differ, and the secret is the same. -/
structure Reencrypted (cipher : AesGcm) (keys : Int → List UInt8) (run : RotationRun)
    (old new : ConnectorRow) : Prop where
  stale : old.keyVersion ≠ run.keyring.activeVersion
  active : new.keyVersion = run.keyring.activeVersion
  columns : new = { old with
    encryptedApiKey := new.encryptedApiKey
    keyVersion := new.keyVersion
    updatedAt := new.updatedAt }
  updated : ∃ index, new.updatedAt = (run.ambient index).now
  seals : ∀ secret, old.Seals cipher keys secret → new.Seals cipher keys secret

def RowAfter (cipher : AesGcm) (keys : Int → List UInt8) (run : RotationRun) (done : List String)
    (old new : ConnectorRow) : Prop :=
  if old.tenantId = run.tenantId ∧ old.id ∈ done then Reencrypted cipher keys run old new
  else new = old

/-- The store after the rotation of these connections, one after the other. -/
structure Rotated (deployment : SharedDeployment) (keys : Int → List UInt8) (run : RotationRun)
    (done : List String) (store later : SharedStore) : Prop where
  rows : List.Forall₂ (RowAfter deployment.cipher keys run done) store.connectors.rows
    later.connectors.rows
  events : ∃ events, later.journal.auditLog.rows = store.journal.auditLog.rows ++ events ∧
    List.Forall₂ (fun connectionId (event : AuditRow) => ∀ other,
      event.rotates run.tenantId other = decide (connectionId = other)) done events
  idempotencyKeys : later.journal.idempotencyKeys = store.journal.idempotencyKeys
  clients : later.clients = store.clients
  sessions : later.sessions = store.sessions
  grants : later.grants = store.grants
  tokens : later.tokens = store.tokens

theorem RowAfter.same_key {cipher : AesGcm} {done : List String} {old new : ConnectorRow}
    (hrow : RowAfter cipher keys run done old new) : new.key = old.key := by
  unfold RowAfter at hrow
  split at hrow
  · rw [hrow.columns]
    rfl
  · rw [hrow]

theorem RowAfter.trans {cipher : AesGcm} {connectionId : String} {done : List String}
    (hnew : connectionId ∉ done) {old middle new : ConnectorRow}
    (hfirst : RowAfter cipher keys run [connectionId] old middle)
    (hrest : RowAfter cipher keys run done middle new) :
    RowAfter cipher keys run (connectionId :: done) old new := by
  obtain ⟨htenant, hid⟩ := Prod.mk.inj hfirst.same_key
  unfold RowAfter at hfirst hrest ⊢
  rw [htenant, hid] at hrest
  by_cases hown : old.tenantId = run.tenantId
  · by_cases hsame : old.id = connectionId
    · rw [if_pos ⟨hown, by simp [hsame]⟩] at hfirst
      rw [if_neg (by simp [hsame, hnew])] at hrest
      rw [if_pos ⟨hown, by simp [hsame]⟩, hrest]
      exact hfirst
    · rw [if_neg (by simp [hsame])] at hfirst
      rw [hfirst] at hrest
      simpa [hsame] using hrest
  · rw [if_neg (by simp [hown])] at hfirst hrest
    rw [if_neg (by simp [hown]), hrest, hfirst]

theorem forall₂_trans {α : Type} {first second both : α → α → Prop}
    (hboth : ∀ {one two three}, first one two → second two three → both one three)
    {items others last : List α} (hfirst : List.Forall₂ first items others)
    (hsecond : List.Forall₂ second others last) : List.Forall₂ both items last := by
  induction hfirst generalizing last with
  | nil =>
      cases hsecond
      exact .nil
  | cons hitem _ ih =>
      cases hsecond with
      | cons hother hrest => exact .cons (hboth hitem hother) (ih hrest)

theorem Rotated.refl : Rotated deployment keys run [] store store where
  rows := List.forall₂_same.mpr fun row _ => by simp [RowAfter]
  events := ⟨[], by simp, .nil⟩
  idempotencyKeys := rfl
  clients := rfl
  sessions := rfl
  grants := rfl
  tokens := rfl

theorem Rotated.trans {connectionId : String} {done : List String} (hnew : connectionId ∉ done)
    {middle : SharedStore} (hfirst : Rotated deployment keys run [connectionId] store middle)
    (hrest : Rotated deployment keys run done middle later) :
    Rotated deployment keys run (connectionId :: done) store later where
  rows := forall₂_trans (fun hone htwo => hone.trans hnew htwo) hfirst.rows hrest.rows
  events := by
    obtain ⟨first, hfirstRows, hfirstEvents⟩ := hfirst.events
    obtain ⟨rest, hrestRows, hrestEvents⟩ := hrest.events
    refine ⟨first ++ rest, by rw [hrestRows, hfirstRows, List.append_assoc], ?_⟩
    cases hfirstEvents with
    | cons hevent hnone =>
        cases hnone
        exact .cons hevent hrestEvents
  idempotencyKeys := hrest.idempotencyKeys.trans hfirst.idempotencyKeys
  clients := hrest.clients.trans hfirst.clients
  sessions := hrest.sessions.trans hfirst.sessions
  grants := hrest.grants.trans hfirst.grants
  tokens := hrest.tokens.trans hfirst.tokens

/-- The connection is one of the run's tenant and does not carry the active version. -/
def Stale (run : RotationRun) (store : SharedStore) (connectionId : String) : Prop :=
  ∃ row ∈ store.connectors, row.tenantId = run.tenantId ∧ row.id = connectionId ∧
    row.keyVersion ≠ run.keyring.activeVersion

theorem Rotated.stale {connectionId other : String}
    (hrotated : Rotated deployment keys run [connectionId] store later)
    (hother : other ≠ connectionId) (hstale : Stale run store other) : Stale run later other := by
  obtain ⟨row, hrow, htenant, hid, hversion⟩ := hstale
  obtain ⟨new, hnew, hafter⟩ := exists_of_forall₂_left hrotated.rows (mem_rows.mpr hrow)
  rw [RowAfter, if_neg (by simp [hid, hother])] at hafter
  exact ⟨row, mem_rows.mp (hafter ▸ hnew), htenant, hid, hversion⟩

/-- **One record.** The transaction of a stale connection seals it again with its audit event, or
raises and leaves the store as it was. -/
theorem rotateRecord_stale (hcipher : deployment.cipher.Lawful) (hkeys : run.keyring.From keys)
    {index : Nat} {connectionId : String} (hstale : Stale run store connectionId)
    {answer : Except SharedError Bool}
    (hrotate : deployment.rotateRecord run index connectionId store = (answer, later)) :
    (∃ error, answer = .error error ∧ later = store) ∨
      answer = .ok true ∧ Rotated deployment keys run [connectionId] store later := by
  unfold SharedDeployment.rotateRecord at hrotate
  cases answer with
  | error error =>
      obtain ⟨-, rfl⟩ := commit_error.mp hrotate
      exact .inl ⟨error, rfl, rfl⟩
  | ok rotated =>
      refine .inr ?_
      obtain ⟨stale, hstaleMem, hstaleTenant, hstaleId, hversion⟩ := hstale
      obtain ⟨row, hrow, htenant, hid, hdone⟩ := rotate_ok (commit_ok.mp hrotate)
      have hsame : stale = row := eq_of_key_eq hstaleMem hrow
        (Prod.ext (hstaleTenant.trans htenant.symm) (hstaleId.trans hid.symm))
      rw [hsame] at hversion
      obtain ⟨hactive, -, -⟩ | ⟨-, rfl, plaintext, connectors, event, journal, hplaintext,
        hconnectors, happend, rfl⟩ := hdone
      · exact absurd hactive hversion
      obtain ⟨hkeysKept, hrows, -⟩ := appendInTransaction_ok happend
      refine ⟨rfl, ?_, ⟨[event], hrows, .cons (fun other => ?_) .nil⟩, hkeysKept, rfl, rfl, rfl,
        rfl⟩
      · change List.Forall₂ _ _ connectors.rows
        rw [rows_update? hconnectors, List.forall₂_map_right_iff, List.forall₂_same]
        intro old hold
        rw [RowAfter]
        by_cases hown : old.tenantId = run.tenantId ∧ old.id = connectionId
        · have hold' : old = row := eq_of_key_eq (mem_rows.mp hold) hrow
            (Prod.ext (hown.1.trans htenant.symm) (hown.2.trans hid.symm))
          rw [if_pos ⟨hown.1, by simp [hown.2]⟩, if_pos (by simp [hold', htenant, hid]),
            hold']
          exact ⟨hversion, rfl, rfl, ⟨index, rfl⟩, fun secret hseals =>
            seals_rekeyed hcipher hkeys hseals hplaintext _ _⟩
        · rw [if_neg (by simpa using hown)]
          by_cases htenantOld : old.tenantId = run.tenantId
          · have hidOld : old.id ≠ connectionId := fun heq => hown ⟨htenantOld, heq⟩
            rw [if_neg (by simp [hidOld])]
          · rw [if_neg (by simp [htenantOld])]
      · rw [← hid, ← htenant]
        exact rotates_rotationEvent happend other

/-- **The records of a run.** A run over stale connections has rotated those up to some record, and
all of them if it ends without an exception. -/
theorem rotateRecords_rotated (hcipher : deployment.cipher.Lawful) (hkeys : run.keyring.From keys)
    {connectionIds : List String} {index : Nat} (hnodup : connectionIds.Nodup)
    (hstale : ∀ connectionId ∈ connectionIds, Stale run store connectionId)
    {answer : Except SharedError Nat}
    (hrun : deployment.rotateRecords run index connectionIds store = (answer, later)) :
    ∃ done, done <+: connectionIds ∧ Rotated deployment keys run done store later ∧
      ∀ count, answer = .ok count → done = connectionIds := by
  induction connectionIds generalizing index store answer later with
  | nil =>
      refine ⟨[], List.nil_prefix, ?_, fun _ _ => rfl⟩
      unfold SharedDeployment.rotateRecords at hrun
      split at hrun <;> cases hrun <;> exact .refl
  | cons connectionId connectionIds ih =>
      rw [List.nodup_cons] at hnodup
      rw [List.forall_mem_cons] at hstale
      unfold SharedDeployment.rotateRecords at hrun
      split at hrun
      · cases hrun
        exact ⟨[], List.nil_prefix, .refl, fun _ hcount => by cases hcount⟩
      · cases hrecord : deployment.rotateRecord run index connectionId store with
        | mk recordAnswer middle =>
            rw [hrecord] at hrun
            obtain ⟨error, rfl, rfl⟩ | ⟨rfl, hfirst⟩ :=
              rotateRecord_stale hcipher hkeys hstale.1 hrecord
            · cases hrun
              exact ⟨[], List.nil_prefix, .refl, fun _ hcount => by cases hcount⟩
            · have hstaleRest : ∀ other ∈ connectionIds, Stale run middle other :=
                fun other hother => hfirst.stale (fun heq => hnodup.1 (heq ▸ hother))
                  (hstale.2 other hother)
              cases hrest : deployment.rotateRecords run (index + 1) connectionIds middle with
              | mk restAnswer last =>
                  obtain ⟨done, hinitial, hdone, hall⟩ := ih hnodup.2 hstaleRest hrest
                  have hnew : connectionId ∉ done := fun hmem =>
                    hnodup.1 (hinitial.subset hmem)
                  dsimp only at hrun
                  rw [hrest] at hrun
                  cases restAnswer with
                  | error error =>
                      cases hrun
                      exact ⟨connectionId :: done, (List.prefix_cons_inj _).mpr hinitial,
                        hfirst.trans hnew hdone, fun _ hcount => by cases hcount⟩
                  | ok count =>
                      cases hrun
                      exact ⟨connectionId :: done, (List.prefix_cons_inj _).mpr hinitial,
                        hfirst.trans hnew hdone, fun _ _ => by rw [hall count rfl]⟩

/-! ### Whole runs -/

theorem mem_staleConnections {tenantId connectionId : String} {activeVersion : Int} :
    connectionId ∈ store.staleConnections tenantId activeVersion ↔
      ∃ row ∈ store.connectors, row.tenantId = tenantId ∧ row.id = connectionId ∧
        row.keyVersion ≠ activeVersion := by
  rw [SharedStore.staleConnections, List.mem_insertionSort, List.mem_map]
  constructor
  · rintro ⟨row, hrow, hid⟩
    obtain ⟨hmem, hcondition⟩ := List.mem_filter.mp hrow
    simp only [Bool.and_eq_true, decide_eq_true_eq] at hcondition
    exact ⟨row, mem_rows.mp hmem, hcondition.1, hid, hcondition.2⟩
  · rintro ⟨row, hrow, htenant, hid, hversion⟩
    exact ⟨row, List.mem_filter.mpr ⟨mem_rows.mpr hrow, by simp [htenant, hversion]⟩, hid⟩

theorem nodup_staleConnections (tenantId : String) (activeVersion : Int) :
    (store.staleConnections tenantId activeVersion).Nodup := by
  refine (List.perm_insertionSort _ _).nodup_iff.mpr (List.Nodup.map_on ?_ ?_)
  · intro first hfirst second hsecond hid
    obtain ⟨hfirstMem, hfirstOwn⟩ := List.mem_filter.mp hfirst
    obtain ⟨hsecondMem, hsecondOwn⟩ := List.mem_filter.mp hsecond
    simp only [Bool.and_eq_true, decide_eq_true_eq] at hfirstOwn hsecondOwn
    exact eq_of_key_eq (mem_rows.mp hfirstMem) (mem_rows.mp hsecondMem)
      (Prod.ext (hfirstOwn.1.trans hsecondOwn.1.symm) hid)
  · exact (List.Nodup.of_map _ store.connectors.nodup).filter _

/-- **A run.** What a run of `rotate_tenant` has done, however it ended. -/
theorem rotateTenant_rotated (hcipher : deployment.cipher.Lawful) (hkeys : run.keyring.From keys)
    {answer : Except SharedError Nat} (hrun : deployment.rotateTenant run store = (answer, later)) :
    ∃ done, done.Nodup ∧ (∀ connectionId ∈ done, Stale run store connectionId) ∧
      Rotated deployment keys run done store later ∧
        ∀ count, answer = .ok count →
          done = store.staleConnections run.tenantId run.keyring.activeVersion := by
  unfold SharedDeployment.rotateTenant at hrun
  split at hrun
  · cases hrun
    exact ⟨[], List.nodup_nil, by simp, .refl, fun _ hcount => by cases hcount⟩
  · have hnodup : (store.staleConnections run.tenantId run.keyring.activeVersion).Nodup :=
      nodup_staleConnections _ _
    have hstale : ∀ connectionId ∈ store.staleConnections run.tenantId run.keyring.activeVersion,
        Stale run store connectionId := fun _ hmem => mem_staleConnections.mp hmem
    obtain ⟨done, hinitial, hrotated, hall⟩ :=
      rotateRecords_rotated hcipher hkeys hnodup hstale hrun
    exact ⟨done, hnodup.sublist hinitial.sublist, fun _ hmem => hstale _ (hinitial.subset hmem),
      hrotated, hall⟩

/-- The row opens to this secret: it is sealed for its own tenant and connection, and every keyring
of the operator's keys that holds its version decrypts it. -/
def ConnectorRow.Opens (cipher : AesGcm) (keys : Int → List UInt8) (row : ConnectorRow)
    (secret : String) : Prop :=
  row.Seals cipher keys secret ∧ ∀ keyring : EncryptionKeyring, keyring.From keys →
    (keyring.key row.keyVersion).isSome →
      keyring.decrypt cipher row.tenantId row.id row.encryptedApiKey row.keyVersion = .ok secret

/-- A row of this tenant differs in its seal, the version and the time of the update at most and
opens to the same secret; a row of another tenant is the same. -/
def Carried (cipher : AesGcm) (keys : Int → List UInt8) (tenantId : String)
    (old new : ConnectorRow) : Prop :=
  if old.tenantId = tenantId then
    new = { old with
      encryptedApiKey := new.encryptedApiKey
      keyVersion := new.keyVersion
      updatedAt := new.updatedAt } ∧
      ∃ secret, old.Opens cipher keys secret ∧ new.Opens cipher keys secret
  else
    new = old

/-- A run of `rotate_tenant` for this tenant under the operator's keys, with how it ended. -/
def SharedDeployment.RotationStep (deployment : SharedDeployment) (keys : Int → List UInt8)
    (tenantId : String) (store : SharedStore) (label : RotationRun × Except SharedError Nat)
    (later : SharedStore) : Prop :=
  label.1.tenantId = tenantId ∧ label.1.keyring.From keys ∧
    deployment.rotateTenant label.1 store = (label.2, later)

/-- Runs of `rotate_tenant` one after the other, each completed, interrupted or refused. -/
abbrev SharedDeployment.Rotations (deployment : SharedDeployment) (keys : Int → List UInt8)
    (tenantId : String) :
    SharedStore → List (RotationRun × Except SharedError Nat) → SharedStore → Prop :=
  StepPath (deployment.RotationStep keys tenantId)

/-- What is stored beside the connections is the same, and the audit log has only grown. -/
structure SameBeside (store later : SharedStore) : Prop where
  clients : later.clients = store.clients
  sessions : later.sessions = store.sessions
  grants : later.grants = store.grants
  tokens : later.tokens = store.tokens
  idempotencyKeys : later.journal.idempotencyKeys = store.journal.idempotencyKeys
  auditLog : store.journal.auditLog.rows <+: later.journal.auditLog.rows

theorem SameBeside.refl (store : SharedStore) : SameBeside store store :=
  ⟨rfl, rfl, rfl, rfl, rfl, List.prefix_rfl⟩

theorem SameBeside.trans {middle : SharedStore} (hfirst : SameBeside store middle)
    (hsecond : SameBeside middle later) : SameBeside store later :=
  ⟨hsecond.clients.trans hfirst.clients, hsecond.sessions.trans hfirst.sessions,
    hsecond.grants.trans hfirst.grants, hsecond.tokens.trans hfirst.tokens,
    hsecond.idempotencyKeys.trans hfirst.idempotencyKeys,
    hfirst.auditLog.trans hsecond.auditLog⟩

theorem Rotated.sameBeside {done : List String}
    (hrotated : Rotated deployment keys run done store later) : SameBeside store later := by
  obtain ⟨events, hevents, -⟩ := hrotated.events
  exact ⟨hrotated.clients, hrotated.sessions, hrotated.grants, hrotated.tokens,
    hrotated.idempotencyKeys, hevents ▸ List.prefix_append _ _⟩

theorem opens_of_seals {cipher : AesGcm} (hcipher : cipher.Lawful) {row : ConnectorRow}
    {secret : String} (hseals : row.Seals cipher keys secret) : row.Opens cipher keys secret :=
  ⟨hseals, fun _ hkeys hheld => decrypt_of_seals hcipher hkeys hseals hheld⟩

theorem Carried.refl {cipher : AesGcm} (hcipher : cipher.Lawful) {tenantId : String}
    {row : ConnectorRow} (hsealed : ∃ secret, row.Seals cipher keys secret) :
    Carried cipher keys tenantId row row := by
  obtain ⟨secret, hseals⟩ := hsealed
  unfold Carried
  split
  · exact ⟨rfl, secret, opens_of_seals hcipher hseals, opens_of_seals hcipher hseals⟩
  · rfl

theorem Carried.after {cipher : AesGcm} (hcipher : cipher.Lawful) {done : List String}
    {old middle new : ConnectorRow} (hfirst : Carried cipher keys run.tenantId old middle)
    (hafter : RowAfter cipher keys run done middle new) :
    Carried cipher keys run.tenantId old new := by
  unfold Carried at hfirst ⊢
  unfold RowAfter at hafter
  split at hfirst
  · rename_i hown
    obtain ⟨hcolumns, secret, hold, hmiddle⟩ := hfirst
    rw [if_pos hown]
    split at hafter
    · refine ⟨?_, secret, hold, opens_of_seals hcipher (hafter.seals secret hmiddle.1)⟩
      have hnew := hafter.columns
      rw [hcolumns] at hnew
      exact hnew
    · rw [hafter]
      exact ⟨hcolumns, secret, hold, hmiddle⟩
  · rename_i hother
    rw [if_neg hother]
    rw [hfirst, if_neg (by simp [hother])] at hafter
    exact hafter

/-- Any number of runs carry the connections of a store over. -/
theorem carried_of_rotations (hcipher : deployment.cipher.Lawful) {tenantId : String}
    (hsealed : AllSealed deployment.cipher keys store)
    {runs : List (RotationRun × Except SharedError Nat)}
    (hruns : deployment.Rotations keys tenantId store runs later) :
    List.Forall₂ (Carried deployment.cipher keys tenantId) store.connectors.rows
      later.connectors.rows ∧ SameBeside store later := by
  have hpath : ∀ {middle last : SharedStore} {runs : List (RotationRun × Except SharedError Nat)},
      deployment.Rotations keys tenantId middle runs last →
        List.Forall₂ (Carried deployment.cipher keys tenantId) store.connectors.rows
          middle.connectors.rows ∧ SameBeside store middle →
        List.Forall₂ (Carried deployment.cipher keys tenantId) store.connectors.rows
          last.connectors.rows ∧ SameBeside store last := by
    intro middle last runs hruns hmiddle
    induction hruns with
    | nil state => exact hmiddle
    | cons hstep _ ih =>
        obtain ⟨rfl, hkeys, hrun⟩ := hstep
        obtain ⟨done, -, -, hrotated, -⟩ := rotateTenant_rotated hcipher hkeys hrun
        exact ih ⟨forall₂_trans (fun hfirst hafter => hfirst.after hcipher hafter) hmiddle.1
          hrotated.rows, hmiddle.2.trans hrotated.sameBeside⟩
  exact hpath hruns ⟨List.forall₂_same.mpr fun row hrow => Carried.refl hcipher
    (hsealed row (mem_rows.mp hrow)), .refl store⟩

theorem countP_rotates {tenantId other : String} {done : List String} {events : List AuditRow}
    (hevents : List.Forall₂ (fun connectionId (event : AuditRow) => ∀ other,
      event.rotates tenantId other = decide (connectionId = other)) done events) :
    events.countP (·.rotates tenantId other) = done.count other := by
  induction hevents with
  | nil => rfl
  | cons hevent _ ih => rw [List.countP_cons, List.count_cons, ih, hevent other, beq_eq_decide]

/-- How a run leaves a row of its tenant: as it was and without an event, or sealed again under the
active version with one event. -/
def RotatedOnce (run : RotationRun) (events : List AuditRow) (old new : ConnectorRow) : Prop :=
  new = old ∧ events.countP (·.rotates run.tenantId old.id) = 0 ∨
    old.keyVersion ≠ run.keyring.activeVersion ∧ new.keyVersion = run.keyring.activeVersion ∧
      (∃ index, new.updatedAt = (run.ambient index).now) ∧
        events.countP (·.rotates run.tenantId old.id) = 1

theorem rotatedOnce_of_rowAfter {cipher : AesGcm} {done : List String} {events : List AuditRow}
    (hnodup : done.Nodup)
    (hevents : List.Forall₂ (fun connectionId (event : AuditRow) => ∀ other,
      event.rotates run.tenantId other = decide (connectionId = other)) done events)
    {old new : ConnectorRow} (hown : old.tenantId = run.tenantId)
    (hafter : RowAfter cipher keys run done old new) : RotatedOnce run events old new := by
  unfold RowAfter at hafter
  rw [RotatedOnce, countP_rotates hevents]
  split at hafter
  · rename_i hdone
    exact .inr ⟨hafter.stale, hafter.active, hafter.updated,
      List.count_eq_one_of_mem hnodup hdone.2⟩
  · rename_i hdone
    exact .inl ⟨hafter, List.count_eq_zero.mpr fun hmem => hdone ⟨hown, hmem⟩⟩

/-- **Key rotation.** From a reachable store, any runs of `rotate_tenant`, completed, interrupted or
made again under other active versions, keep every secret of the tenant readable under its own
connection, and change nothing else but the version and the update time of the rows. A run that
completes leaves the active version everywhere, and a run writes one event for each row it sealed
again and none for the others. -/
theorem rotation_keeps_connections (hcipher : deployment.cipher.Lawful) {tenantId : String}
    (hreachable : deployment.ReachableUnder keys store)
    {runs : List (RotationRun × Except SharedError Nat)} {middle : SharedStore}
    (hruns : deployment.Rotations keys tenantId store runs middle)
    {answer : Except SharedError Nat}
    (hrun : deployment.RotationStep keys tenantId middle (run, answer) later) :
    List.Forall₂ (Carried deployment.cipher keys tenantId) store.connectors.rows
        later.connectors.rows ∧
      SameBeside store later ∧
        (∀ count, answer = .ok count → ∀ row ∈ later.connectors, row.tenantId = tenantId →
          row.keyVersion = run.keyring.activeVersion) ∧
          ∃ events,
            later.journal.auditLog.rows = middle.journal.auditLog.rows ++ events ∧
              List.Forall₂
                (fun old new => old.tenantId = tenantId → RotatedOnce run events old new)
                middle.connectors.rows later.connectors.rows := by
  have hsealed := allSealed_of_reachable hcipher hreachable
  obtain ⟨hmiddle, hbeside⟩ := carried_of_rotations hcipher hsealed hruns
  obtain ⟨rfl, hkeys, hran⟩ := hrun
  obtain ⟨done, hnodup, -, hrotated, hall⟩ := rotateTenant_rotated hcipher hkeys hran
  obtain ⟨events, hrows, hevents⟩ := hrotated.events
  refine ⟨forall₂_trans (fun hfirst hafter => hfirst.after hcipher hafter) hmiddle hrotated.rows,
    hbeside.trans hrotated.sameBeside, fun count hcount row hrow hown => ?_, events, hrows,
    hrotated.rows.imp fun old new hafter hown =>
      rotatedOnce_of_rowAfter hnodup hevents hown hafter⟩
  obtain ⟨old, hold, hafter⟩ := exists_of_forall₂_right hrotated.rows (mem_rows.mpr hrow)
  obtain ⟨htenant, hid⟩ := Prod.mk.inj hafter.same_key
  unfold RowAfter at hafter
  split at hafter
  · exact hafter.active
  · rename_i hdone
    rw [hall count hcount, mem_staleConnections] at hdone
    by_contra hversion
    exact hdone ⟨htenant ▸ hown, old, mem_rows.mp hold, htenant ▸ hown, rfl, hafter ▸ hversion⟩

/-! ### Two connections -/

/-- Sixteen bytes computed from everything that is authenticated. -/
def checkTag (key nonce data associated : List UInt8) : List UInt8 :=
  List.ofFn fun index : Fin 16 =>
    (key ++ nonce ++ data ++ associated).foldl (fun total byte => total * 31 + byte)
      (UInt8.ofNat index)

def checkedCipher : AesGcm where
  encrypt key nonce data associated := data ++ checkTag key nonce data associated
  decrypt key nonce ciphertext associated :=
    let data := ciphertext.take (ciphertext.length - 16)
    if ciphertext = data ++ checkTag key nonce data associated then some data else none

theorem checkedCipher_lawful : checkedCipher.Lawful where
  length_encrypt key nonce data associated := by simp [checkedCipher, checkTag]
  decrypt_encrypt key nonce data associated := by
    have hlength : (checkTag key nonce data associated).length = 16 := List.length_ofFn
    simp [checkedCipher, hlength]

def rotationKeys (version : Int) : List UInt8 := List.replicate 32 (UInt8.ofNat version.toNat)

def rotationKeyring (activeVersion : Int) (hactive : activeVersion = 1 ∨ activeVersion = 2) :
    EncryptionKeyring where
  activeVersion := activeVersion
  keys := [(1, rotationKeys 1), (2, rotationKeys 2)]
  active_known := by rcases hactive with rfl | rfl <;> rfl
  versioned := by simp [rotationKeys]

theorem rotationKeyring_from {activeVersion : Int}
    (hactive : activeVersion = 1 ∨ activeVersion = 2) :
    (rotationKeyring activeVersion hactive).From rotationKeys := by
  intro version key hkey
  simp only [EncryptionKeyring.key, rotationKeyring, List.lookup_cons, List.lookup_nil] at hkey
  split at hkey
  · rename_i h
    cases hkey
    rw [beq_iff_eq] at h
    rw [h]
  · split at hkey
    · rename_i h
      cases hkey
      rw [beq_iff_eq] at h
      rw [h]
    · cases hkey

def rotationDeployment : SharedDeployment where
  sha256 value := value
  cipher := checkedCipher
  acceptsUrl _ := true
  provider :=
    { issuerUrl := "https://connector.example"
      resourceUrl := "https://connector.example/mcp"
      validScopes := ["accounting.read"]
      audit := true }

def rotationAmbient (now : Instant) : Ambient where
  now := now
  random index := "random-" ++ toString (now + index)
  nonce _ := 7
  order := 0

def enrolledKey : OdooEnrollmentCredentials where
  url := "https://erp.example"
  database := "erp"
  username := "bookkeeper"
  apiKey := "api-key"

def enrollmentRequest (handle : String) : SharedRequest :=
  .insertPrepared (rotationKeyring 1 (.inl rfl)) enrolledKey handle ⟨18, "json-rpc", []⟩

def firstEnrollment : SharedStore :=
  (rotationDeployment.execute (rotationAmbient 0) (enrollmentRequest "first") .empty).2

/-- Two connections, each of a tenant of its own, enrolled under version 1. -/
def enrolledStore : SharedStore :=
  (rotationDeployment.execute (rotationAmbient 100) (enrollmentRequest "second") firstEnrollment).2

def secondKeyRun : RotationRun where
  keyring := rotationKeyring 2 (.inr rfl)
  tenantId := "connector:random-0"
  authenticatedSubject := "operator"
  mcpClient := "operations"
  ambient _ := rotationAmbient 60000000
  interruptedAt := none

/-- The same, interrupted before or after its one record. -/
def interruptedRun (record : Nat) : RotationRun :=
  { secondKeyRun with interruptedAt := some record }

def firstKeyRun : RotationRun :=
  { secondKeyRun with
    keyring := rotationKeyring 1 (.inl rfl)
    ambient _ := rotationAmbient 120000000 }

def SharedDeployment.rotated (deployment : SharedDeployment) (run : RotationRun)
    (store : SharedStore) : SharedStore :=
  (deployment.rotateTenant run store).2

def rotatedStore : SharedStore := rotationDeployment.rotated secondKeyRun enrolledStore

def interruptedStore : SharedStore :=
  rotationDeployment.rotated (interruptedRun 1) enrolledStore

def returnedStore : SharedStore := rotationDeployment.rotated firstKeyRun interruptedStore

theorem enrolledStore_reachable : rotationDeployment.ReachableUnder rotationKeys enrolledStore := by
  refine ⟨_, .cons (rotationDeployment.step_execute (rotationAmbient 0) (enrollmentRequest "first")
    .empty) (.cons (rotationDeployment.step_execute (rotationAmbient 100)
      (enrollmentRequest "second") firstEnrollment) (.nil _)), ?_⟩
  rw [List.forall_mem_cons, List.forall_mem_singleton]
  exact ⟨⟨rotationKeyring_from _, by decide +kernel⟩, rotationKeyring_from _, by decide +kernel⟩

theorem rotationStep_of_answer {answer : Except SharedError Nat} (hkeys : run.keyring.From keys)
    (hanswer : (deployment.rotateTenant run store).1 = answer) :
    deployment.RotationStep keys run.tenantId store (run, answer)
      (deployment.rotated run store) :=
  ⟨rfl, hkeys, Prod.ext hanswer rfl⟩

def SharedStore.sealings (store : SharedStore) : List (String × Int × Instant) :=
  store.connectors.rows.map fun row => (row.id, row.keyVersion, row.updatedAt)

theorem rotatedStore_outcome :
    ((rotationDeployment.rotateTenant secondKeyRun enrolledStore).1, rotatedStore.sealings) =
      (.ok 1, [("random-0", 2, 60000000), ("random-100", 1, 100)]) := by
  decide +kernel

theorem interruptedStore_outcome :
    ((rotationDeployment.rotateTenant (interruptedRun 1) enrolledStore).1,
        interruptedStore.sealings) =
      (.error .cancelled, [("random-0", 2, 60000000), ("random-100", 1, 100)]) := by
  decide +kernel

theorem returnedStore_outcome :
    ((rotationDeployment.rotateTenant firstKeyRun interruptedStore).1, returnedStore.sealings) =
      (.ok 1, [("random-0", 1, 120000000), ("random-100", 1, 100)]) := by
  decide +kernel

/-- A run that is interrupted before its first record leaves the store as it was. -/
theorem rotateTenant_interrupted (hinterrupted : run.interruptedAt = some 0)
    (hfields : [run.tenantId, run.authenticatedSubject, run.mcpClient].any isBlank = false) :
    deployment.rotateTenant run store = (.error .cancelled, store) := by
  unfold SharedDeployment.rotateTenant
  rw [if_neg (by simp [hfields])]
  cases store.staleConnections run.tenantId run.keyring.activeVersion with
  | nil => rw [SharedDeployment.rotateRecords, if_pos hinterrupted]
  | cons connectionId connectionIds =>
      rw [SharedDeployment.rotateRecords, if_pos hinterrupted]

/-- Two runs to the second key: one interrupted before its record, one after it. -/
theorem interruptedRuns_path : rotationDeployment.Rotations rotationKeys "connector:random-0"
    enrolledStore [(interruptedRun 0, .error .cancelled), (interruptedRun 1, .error .cancelled)]
    interruptedStore :=
  .cons ⟨rfl, rotationKeyring_from (.inr rfl), rotateTenant_interrupted rfl (by decide +kernel)⟩
    (.cons (rotationStep_of_answer (rotationKeyring_from (.inr rfl))
      (Prod.mk.inj interruptedStore_outcome).1) (.nil _))

theorem returnedStore_step : rotationDeployment.RotationStep rotationKeys "connector:random-0"
    interruptedStore (firstKeyRun, .ok 1) returnedStore :=
  rotationStep_of_answer (rotationKeyring_from (.inl rfl)) (Prod.mk.inj returnedStore_outcome).1

theorem rotation_keeps_connections_returned :
    interruptedStore.sealings = [("random-0", 2, 60000000), ("random-100", 1, 100)] ∧
      returnedStore.sealings = [("random-0", 1, 120000000), ("random-100", 1, 100)] ∧
        List.Forall₂ (Carried checkedCipher rotationKeys "connector:random-0")
            enrolledStore.connectors.rows returnedStore.connectors.rows ∧
          SameBeside enrolledStore returnedStore ∧
            (∀ row ∈ returnedStore.connectors, row.tenantId = "connector:random-0" →
              row.keyVersion = 1) ∧
              ∃ events,
                returnedStore.journal.auditLog.rows =
                    interruptedStore.journal.auditLog.rows ++ events ∧
                  List.Forall₂
                    (fun old new => old.tenantId = "connector:random-0" →
                      RotatedOnce firstKeyRun events old new)
                    interruptedStore.connectors.rows returnedStore.connectors.rows := by
  obtain ⟨hcarried, hbeside, hactive, hevents⟩ := rotation_keeps_connections checkedCipher_lawful
    enrolledStore_reachable interruptedRuns_path returnedStore_step
  exact ⟨(Prod.mk.inj interruptedStore_outcome).2, (Prod.mk.inj returnedStore_outcome).2, hcarried,
    hbeside, hactive 1 rfl, hevents⟩

/-- A rotation is an update of the row: beside the seal and its version it sets the update time. -/
theorem rotation_sets_updated_at :
    rotationDeployment.ReachableUnder rotationKeys enrolledStore ∧
      rotationDeployment.RotationStep rotationKeys "connector:random-0" enrolledStore
        (secondKeyRun, .ok 1) rotatedStore ∧
        enrolledStore.sealings = [("random-0", 1, 0), ("random-100", 1, 100)] ∧
          rotatedStore.sealings = [("random-0", 2, 60000000), ("random-100", 1, 100)] :=
  ⟨enrolledStore_reachable, rotationStep_of_answer (rotationKeyring_from (.inr rfl))
    (Prod.mk.inj rotatedStore_outcome).1, by decide +kernel, (Prod.mk.inj rotatedStore_outcome).2⟩

end OdooMcp
