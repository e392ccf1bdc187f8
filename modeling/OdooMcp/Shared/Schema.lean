import OdooMcp.Effect.Statements
import OdooMcp.Storage.Audit
import OdooMcp.UniqueTable

/-!
# The tables of Shared Hosted

Connectors, OAuth clients, authorization sessions, grants and tokens, with the constraints and
triggers of the schema. A statement that a constraint or a trigger refuses raises. JSON columns hold
the list that was serialized into them, and time columns the instant.
-/

namespace OdooMcp

open Effect

/-- The exceptions that some handler of the shared application tells apart: `database` is a storage
error or an error of the database driver, `journal` one raised while the audit log was written. -/
inductive SharedError
  | cancelled
  | value (message : String)
  | database (message : String)
  | odoo (error : OdooMcpError)
  | oauth (error description : String)
  | runtime (message : String)
  | journal (error : PyException)
  deriving DecidableEq, Repr

def check (condition : Bool) (error : SharedError) : Except SharedError Unit :=
  if condition then .ok () else .error error

@[simp]
theorem check_ok {condition : Bool} {error : SharedError} {value : Unit} :
    check condition error = .ok value ↔ condition = true := by
  cases condition <;> simp [check]

/-! ### Rows -/

inductive ConnectorStatus
  | pending
  | active
  | revoked
  | expired
  deriving DecidableEq, Repr

/-- A row of `erp_connections`. -/
structure ConnectorRow where
  id : String
  tenantId : String
  connectionLabel : String
  odooUrl : String
  databaseName : String
  username : String
  encryptedApiKey : String
  discoveredCompanyIds : List Int
  allowedCompanyIds : Option (List Int)
  defaultCompanyId : Option Int
  detectedVersion : Option String
  selectedTransport : Option String
  keyVersion : Int
  status : ConnectorStatus
  enrollmentHandleHash : Option String
  consumedEnrollmentHandleHash : Option String
  enrollmentExpiresAt : Option Instant
  activatedAt : Option Instant
  revokedAt : Option Instant
  createdAt : Instant
  updatedAt : Instant

/-- `PRIMARY KEY (tenant_id, id)` -/
def ConnectorRow.key (row : ConnectorRow) : String × String := (row.tenantId, row.id)

inductive RegistrationMethod
  | dcr
  | cimd
  deriving DecidableEq, Repr

/-- A redirect URI, as `urlsplit` takes it apart. -/
structure RedirectUri where
  text : String
  scheme : String
  netloc : String
  path : String
  fragment : String
  username : Option String
  password : Option String
  hostname : Option String
  deriving DecidableEq, Repr

structure OAuthClientInformation where
  clientId : String
  clientSecret : Option String
  tokenEndpointAuthMethod : Option String
  redirectUris : Option (List RedirectUri)
  scope : Option String
  deriving DecidableEq, Repr

/-- A row of `oauth_clients`. -/
structure ClientRow where
  clientId : String
  registrationMethod : RegistrationMethod
  metadata : OAuthClientInformation
  metadataExpiresAt : Option Instant
  createdAt : Instant
  updatedAt : Instant

inductive SessionStatus
  | pending
  | authorized
  | consumed
  | expired
  | denied
  deriving DecidableEq, Repr

/-- A row of `oauth_authorization_sessions`. -/
structure SessionRow where
  stateHash : String
  clientId : String
  connectorId : Option String
  supersededConnectorId : Option String
  redirectUri : String
  resource : String
  scopes : List String
  codeChallenge : String
  clientState : Option String
  authorizationCodeHash : Option String
  status : SessionStatus
  expiresAt : Instant
  consumedAt : Option Instant
  createdAt : Instant

inductive GrantStatus
  | active
  | revoked
  deriving DecidableEq, Repr

/-- A row of `oauth_grants`. -/
structure GrantRow where
  id : String
  connectorId : String
  tenantId : String
  clientId : String
  resource : String
  scopes : List String
  status : GrantStatus
  createdAt : Instant
  revokedAt : Option Instant

inductive TokenType
  | access
  | refresh
  deriving DecidableEq, Repr

/-- A row of `oauth_tokens`. -/
structure TokenRow where
  tokenHash : String
  grantId : String
  tokenType : TokenType
  scopes : List String
  expiresAt : Instant
  rotatedAt : Option Instant
  revokedAt : Option Instant
  createdAt : Instant

/-! ### The store -/

abbrev Connectors := UniqueTable ConnectorRow.key
  [ConnectorRow.enrollmentHandleHash, ConnectorRow.consumedEnrollmentHandleHash]

abbrev Clients := UniqueTable ClientRow.clientId []

abbrev Sessions := UniqueTable SessionRow.stateHash [SessionRow.authorizationCodeHash]

abbrev Grants := UniqueTable GrantRow.id []

abbrev Tokens := UniqueTable TokenRow.tokenHash []

structure SharedStore where
  journal : Store
  connectors : Connectors
  clients : Clients
  sessions : Sessions
  grants : Grants
  tokens : Tokens

def SharedStore.empty : SharedStore := ⟨.empty, .empty, .empty, .empty, .empty, .empty⟩

abbrev SharedStatements := Statements SharedStore SharedError

/-- What an operation takes from outside: the clock, the values of its random sources in the order
they are drawn, the bytes of a nonce, and which of the rows that match an unordered `SELECT` comes
first. -/
structure Ambient where
  now : Instant
  random : Nat → String
  nonce : Fin 12 → UInt8
  order : Nat

/-- `fetchone()` of the rows a `SELECT` without `ORDER BY` matches. -/
def fetchone {ρ : Type} (order : Nat) (rows : List ρ) : Option ρ := rows[order % rows.length]?

theorem fetchone_eq_none {ρ : Type} {order : Nat} {rows : List ρ} :
    fetchone order rows = none ↔ rows = [] := by
  unfold fetchone
  rw [List.getElem?_eq_none_iff]
  constructor
  · intro hlength
    by_contra hne
    have hpositive : 0 < rows.length := List.length_pos_iff.mpr hne
    have := Nat.mod_lt order hpositive
    omega
  · rintro rfl
    simp

theorem mem_of_fetchone {ρ : Type} {order : Nat} {rows : List ρ} {row : ρ}
    (hrow : fetchone order rows = some row) : row ∈ rows :=
  List.mem_of_getElem? hrow

theorem fetchone_filter {ρ : Type} {order : Nat} {rows : List ρ} {condition : ρ → Bool} {row : ρ}
    (hrow : fetchone order (rows.filter condition) = some row) :
    row ∈ rows ∧ condition row = true :=
  List.mem_filter.mp (mem_of_fetchone hrow)

theorem fetchone_filter_eq_none {ρ : Type} {order : Nat} {rows : List ρ} {condition : ρ → Bool} :
    fetchone order (rows.filter condition) = none ↔ ∀ row ∈ rows, condition row = false := by
  rw [fetchone_eq_none, List.filter_eq_nil_iff]
  simp

/-- `now + lifetime`, which a `datetime` cannot hold after the year 9999. -/
def addLifetime (now : Instant) (lifetime : Nat) : Except SharedError Instant :=
  if now + lifetime < endOfTime then .ok (now + lifetime)
  else .error (.journal (.exception "date value out of range"))

@[simp]
theorem addLifetime_ok {now : Instant} {lifetime : Nat} {expires : Instant} :
    addLifetime now lifetime = .ok expires ↔
      expires = now + lifetime ∧ now + lifetime < endOfTime := by
  unfold addLifetime
  split <;> simp_all [eq_comm]

/-! ### The audit log -/

/-- Run statements of the journals inside a transaction of Shared Hosted. -/
def onJournal {α : Type} (body : Transaction α) : SharedStatements α := fun store =>
  match body store.journal with
  | .ok (value, journal) => .ok (value, { store with journal := journal })
  | .error error => .error (.journal error)

/-- The event of `_append_audit`. -/
def authorityEvent (requestId tenantId operation subject connectorId : String) : AuditEvent where
  requestId := requestId
  tenantId := tenantId
  companyId := none
  toolName := operation
  toolVersion := "1.0"
  module := "core"
  authenticatedSubject := subject
  mcpClient := "shared-hosted"
  odooDbName := none
  odooUser := none
  odooVersion := none
  odooTransport := none
  inputPayload := [("connector_id", .str connectorId)]
  dryRun := false
  proposedAction := none
  actualResult := some [("status", .str "succeeded")]
  affectedOdooRecords := []
  errorCode := none
  errorMessage := none
  finalStatus := "succeeded"
  createdAt := none

def appendAudit (sha256 : String → String) (now : Instant) (event : AuditEvent) :
    SharedStatements Unit := do
  let _ ← onJournal (AuditRepository.appendInTransaction sha256 now event)
  return ()

/-! ### Statements on `erp_connections` -/

def ConnectorStatus.legal : ConnectorStatus → ConnectorStatus → Bool
  | .pending, _ => true
  | .active, .active => true
  | .active, .revoked => true
  | .active, _ => false
  | .revoked, later => later = .revoked
  | .expired, later => later = .expired

/-- What `erp_connection_active_update_authority` asks of a row that stays active. -/
def ConnectorRow.complete (row : ConnectorRow) : Bool :=
  row.allowedCompanyIds.isSome && row.defaultCompanyId.isSome &&
    row.enrollmentHandleHash.isNone && row.consumedEnrollmentHandleHash.isSome

/-- The grants that `active_grants` counts. -/
def GrantRow.activeFor (grant : GrantRow) (tenantId connectorId : String) : Bool :=
  grant.connectorId = connectorId && grant.tenantId = tenantId && grant.status = .active

/-- The `CHECK` constraints of the table. -/
def ConnectorRow.checked (row : ConnectorRow) : Bool :=
  row.defaultCompanyId.all (0 < ·) && decide (0 < row.keyVersion) &&
    (row.status ≠ .active ||
      row.allowedCompanyIds.isSome && row.defaultCompanyId.isSome &&
        row.enrollmentHandleHash.isNone)

def SharedStore.connectorUpdate (store : SharedStore) (old new : ConnectorRow) : Bool :=
  old.status.legal new.status &&
    (new.status ≠ .active || old.status = .active ||
      new.complete && store.grants.rows.any (·.activeFor new.tenantId new.id)) &&
    (new.status ≠ .active || old.status ≠ .active || new.complete) && new.checked

def insertConnector (row : ConnectorRow) : SharedStatements Unit := do
  Statements.require (row.status ≠ .active)
    (.database "active connector authority must be activated transactionally")
  Statements.require row.checked (.database "CHECK constraint failed: erp_connections")
  let store ← get
  let connectors ← Statements.found (store.connectors.insert? row)
    (.database "UNIQUE constraint failed: erp_connections")
  set { store with connectors := connectors }

def updateConnectors (condition : ConnectorRow → Bool) (change : ConnectorRow → ConnectorRow)
    (hkey : ∀ row, (change row).key = row.key) : SharedStatements Nat := do
  let store ← get
  Statements.require
    (store.connectors.rows.all fun row =>
      !condition row || store.connectorUpdate row (change row))
    (.database "active connector authority is incomplete")
  let connectors ← Statements.found (store.connectors.update? condition change hkey)
    (.database "UNIQUE constraint failed: erp_connections")
  set { store with connectors := connectors }
  return store.connectors.count condition

def deleteConnectors (condition : ConnectorRow → Bool) : SharedStatements Unit := do
  let store ← get
  Statements.require
    (store.connectors.rows.all fun row =>
      !condition row || !store.grants.rows.any fun grant =>
        grant.tenantId = row.tenantId && grant.connectorId = row.id)
    (.database "FOREIGN KEY constraint failed")
  set { store with connectors := store.connectors.delete condition }

/-! ### Statements on the OAuth tables -/

def insertClient (row : ClientRow) : SharedStatements Unit := do
  let store ← get
  let clients ← Statements.found (store.clients.insert? row)
    (.database "UNIQUE constraint failed: oauth_clients.client_id")
  set { store with clients := clients }

def updateClients (condition : ClientRow → Bool) (change : ClientRow → ClientRow)
    (hkey : ∀ row, (change row).clientId = row.clientId) : SharedStatements Nat := do
  let store ← get
  let clients ← Statements.found (store.clients.update? condition change hkey)
    (.database "UNIQUE constraint failed: oauth_clients")
  set { store with clients := clients }
  return store.clients.count condition

def SharedStore.hasClient (store : SharedStore) (clientId : String) : Bool :=
  store.clients.rows.any (·.clientId = clientId)

def SessionStatus.legal : SessionStatus → SessionStatus → Bool
  | .pending, later => later ≠ .consumed
  | .authorized, later => later = .authorized || later = .consumed
  | .consumed, later => later = .consumed
  | .expired, later => later = .expired
  | .denied, later => later = .denied

def insertSession (row : SessionRow) : SharedStatements Unit := do
  let store ← get
  Statements.require (store.hasClient row.clientId) (.database "FOREIGN KEY constraint failed")
  let sessions ← Statements.found (store.sessions.insert? row)
    (.database "UNIQUE constraint failed: oauth_authorization_sessions")
  set { store with sessions := sessions }

def updateSessions (condition : SessionRow → Bool) (change : SessionRow → SessionRow)
    (hkey : ∀ row, (change row).stateHash = row.stateHash) : SharedStatements Nat := do
  let store ← get
  Statements.require
    (store.sessions.rows.all fun row => !condition row || row.status.legal (change row).status)
    (.database "illegal authorization-session transition")
  let sessions ← Statements.found (store.sessions.update? condition change hkey)
    (.database "UNIQUE constraint failed: oauth_authorization_sessions.authorization_code_hash")
  set { store with sessions := sessions }
  return store.sessions.count condition

def GrantStatus.legal : GrantStatus → GrantStatus → Bool
  | .active, _ => true
  | .revoked, later => later = .revoked

def SharedStore.grantUpdate (store : SharedStore) (old new : GrantRow) : Bool :=
  old.status.legal new.status &&
    (old.status ≠ .active || new.status = .active ||
      !store.connectors.rows.any fun row =>
        row.id = old.connectorId && row.tenantId = old.tenantId && row.status = .active)

def insertGrant (row : GrantRow) : SharedStatements Unit := do
  let store ← get
  Statements.require
    (store.hasClient row.clientId && store.connectors.rows.any fun connector =>
      connector.tenantId = row.tenantId && connector.id = row.connectorId)
    (.database "FOREIGN KEY constraint failed")
  let grants ← Statements.found (store.grants.insert? row)
    (.database "UNIQUE constraint failed: oauth_grants.id")
  set { store with grants := grants }

def updateGrants (condition : GrantRow → Bool) (change : GrantRow → GrantRow)
    (hkey : ∀ row, (change row).id = row.id) : SharedStatements Nat := do
  let store ← get
  Statements.require
    (store.grants.rows.all fun row => !condition row || store.grantUpdate row (change row))
    (.database "active connector grant must be revoked transactionally")
  let grants ← Statements.found (store.grants.update? condition change hkey)
    (.database "UNIQUE constraint failed: oauth_grants.id")
  set { store with grants := grants }
  return store.grants.count condition

/-- The condition of `oauth_token_scope_invariant`. -/
def SharedStore.tokenScopes (store : SharedStore) (row : TokenRow) : Bool :=
  !row.scopes.isEmpty && row.scopes.all fun scope =>
    store.grants.rows.any fun grant => grant.id = row.grantId && grant.scopes.contains scope

def insertToken (row : TokenRow) : SharedStatements Unit := do
  let store ← get
  Statements.require (store.tokenScopes row) (.database "OAuth token scope invariant failed")
  Statements.require (store.grants.rows.any (·.id = row.grantId))
    (.database "FOREIGN KEY constraint failed")
  let tokens ← Statements.found (store.tokens.insert? row)
    (.database "UNIQUE constraint failed: oauth_tokens.token_hash")
  set { store with tokens := tokens }

def updateTokens (condition : TokenRow → Bool) (change : TokenRow → TokenRow)
    (hkey : ∀ row, (change row).tokenHash = row.tokenHash) : SharedStatements Nat := do
  let store ← get
  let tokens ← Statements.found (store.tokens.update? condition change hkey)
    (.database "UNIQUE constraint failed: oauth_tokens.token_hash")
  set { store with tokens := tokens }
  return store.tokens.count condition

/-! ### What a statement does -/

variable {store later : SharedStore}

theorem eq_false_or_iff {condition : Bool} {holds : Prop} :
    condition = false ∨ holds ↔ (condition = true → holds) := by
  cases condition <;> simp

theorem appendAudit_ok {sha256 : String → String} {now : Instant} {event : AuditEvent}
    {value : Unit} :
    appendAudit sha256 now event store = .ok (value, later) ↔
      ∃ row journal, AuditRepository.appendInTransaction sha256 now event store.journal =
        .ok (row, journal) ∧ later = { store with journal := journal } := by
  have hjournal : ∀ {row : AuditRow} {reached : SharedStore},
      onJournal (AuditRepository.appendInTransaction sha256 now event) store =
          .ok (row, reached) ↔
        ∃ journal, AuditRepository.appendInTransaction sha256 now event store.journal =
          .ok (row, journal) ∧ reached = { store with journal := journal } := by
    intro row reached
    unfold onJournal
    cases AuditRepository.appendInTransaction sha256 now event store.journal with
    | error error => simp
    | ok appended =>
        obtain ⟨first, journal⟩ := appended
        simp only [Except.ok.injEq, Prod.mk.injEq]
        constructor
        · rintro ⟨rfl, rfl⟩
          exact ⟨journal, ⟨rfl, rfl⟩, rfl⟩
        · rintro ⟨_, ⟨rfl, rfl⟩, rfl⟩
          exact ⟨rfl, rfl⟩
  simp [appendAudit, hjournal]

theorem insertConnector_ok {row : ConnectorRow} {value : Unit} :
    insertConnector row store = .ok (value, later) ↔
      row.status ≠ .active ∧ row.checked = true ∧
        ∃ connectors, store.connectors.insert? row = some connectors ∧
          later = { store with connectors := connectors } := by
  simp [insertConnector]

theorem updateConnectors_ok {condition : ConnectorRow → Bool}
    {change : ConnectorRow → ConnectorRow} {hkey : ∀ row, (change row).key = row.key}
    {rowcount : Nat} :
    updateConnectors condition change hkey store = .ok (rowcount, later) ↔
      (∀ row ∈ store.connectors, condition row = true →
        store.connectorUpdate row (change row) = true) ∧
        ∃ connectors, store.connectors.update? condition change hkey = some connectors ∧
          later = { store with connectors := connectors } ∧
            store.connectors.count condition = rowcount := by
  simp [updateConnectors, UniqueTable.mem_rows, eq_false_or_iff]

theorem deleteConnectors_ok {condition : ConnectorRow → Bool} {value : Unit} :
    deleteConnectors condition store = .ok (value, later) ↔
      (∀ row ∈ store.connectors, condition row = true →
        ∀ grant ∈ store.grants, grant.tenantId = row.tenantId → grant.connectorId ≠ row.id) ∧
        later = { store with connectors := store.connectors.delete condition } := by
  simp [deleteConnectors, UniqueTable.mem_rows, eq_false_or_iff]

theorem insertClient_ok {row : ClientRow} {value : Unit} :
    insertClient row store = .ok (value, later) ↔
      ∃ clients, store.clients.insert? row = some clients ∧
        later = { store with clients := clients } := by
  simp [insertClient]

theorem updateClients_ok {condition : ClientRow → Bool} {change : ClientRow → ClientRow}
    {hkey : ∀ row, (change row).clientId = row.clientId} {rowcount : Nat} :
    updateClients condition change hkey store = .ok (rowcount, later) ↔
      ∃ clients, store.clients.update? condition change hkey = some clients ∧
        later = { store with clients := clients } ∧ store.clients.count condition = rowcount := by
  simp [updateClients]

theorem insertSession_ok {row : SessionRow} {value : Unit} :
    insertSession row store = .ok (value, later) ↔
      store.hasClient row.clientId = true ∧
        ∃ sessions, store.sessions.insert? row = some sessions ∧
          later = { store with sessions := sessions } := by
  simp [insertSession]

theorem updateSessions_ok {condition : SessionRow → Bool} {change : SessionRow → SessionRow}
    {hkey : ∀ row, (change row).stateHash = row.stateHash} {rowcount : Nat} :
    updateSessions condition change hkey store = .ok (rowcount, later) ↔
      (∀ row ∈ store.sessions, condition row = true →
        row.status.legal (change row).status = true) ∧
        ∃ sessions, store.sessions.update? condition change hkey = some sessions ∧
          later = { store with sessions := sessions } ∧
            store.sessions.count condition = rowcount := by
  simp [updateSessions, UniqueTable.mem_rows, eq_false_or_iff]

theorem insertGrant_ok {row : GrantRow} {value : Unit} :
    insertGrant row store = .ok (value, later) ↔
      (store.hasClient row.clientId = true ∧ ∃ connector ∈ store.connectors,
        connector.tenantId = row.tenantId ∧ connector.id = row.connectorId) ∧
        ∃ grants, store.grants.insert? row = some grants ∧
          later = { store with grants := grants } := by
  simp [insertGrant, UniqueTable.mem_rows]

theorem updateGrants_ok {condition : GrantRow → Bool} {change : GrantRow → GrantRow}
    {hkey : ∀ row, (change row).id = row.id} {rowcount : Nat} :
    updateGrants condition change hkey store = .ok (rowcount, later) ↔
      (∀ row ∈ store.grants, condition row = true → store.grantUpdate row (change row) = true) ∧
        ∃ grants, store.grants.update? condition change hkey = some grants ∧
          later = { store with grants := grants } ∧ store.grants.count condition = rowcount := by
  simp [updateGrants, UniqueTable.mem_rows, eq_false_or_iff]

theorem tokenScopes_iff {row : TokenRow} :
    store.tokenScopes row = true ↔ row.scopes ≠ [] ∧ ∀ scope ∈ row.scopes,
      ∃ grant ∈ store.grants, grant.id = row.grantId ∧ scope ∈ grant.scopes := by
  simp [SharedStore.tokenScopes, UniqueTable.mem_rows]

theorem insertToken_ok {row : TokenRow} {value : Unit} :
    insertToken row store = .ok (value, later) ↔
      store.tokenScopes row = true ∧ (∃ grant ∈ store.grants, grant.id = row.grantId) ∧
        ∃ tokens, store.tokens.insert? row = some tokens ∧
          later = { store with tokens := tokens } := by
  simp [insertToken, UniqueTable.mem_rows]

theorem updateTokens_ok {condition : TokenRow → Bool} {change : TokenRow → TokenRow}
    {hkey : ∀ row, (change row).tokenHash = row.tokenHash} {rowcount : Nat} :
    updateTokens condition change hkey store = .ok (rowcount, later) ↔
      ∃ tokens, store.tokens.update? condition change hkey = some tokens ∧
        later = { store with tokens := tokens } ∧ store.tokens.count condition = rowcount := by
  simp [updateTokens]

end OdooMcp
