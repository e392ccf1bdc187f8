import OdooMcp.Adapters.AccountingReader
import OdooMcp.Shared.Keyring

/-!
# Enrollment of a connector

A connector is prepared under a handle, waits for the selection of its companies, and is discarded
or expires if it is never activated. The validation of the credentials against the Odoo server
happens before the first transaction; its result is an argument here.
-/

namespace OdooMcp

open Effect Statements

variable (sha256 : String → String) (cipher : AesGcm)

/-- `SESSION_TTL`: ten minutes. -/
def sessionTtl : Nat := 10 * 60 * 1000000

structure OdooEnrollmentCredentials where
  url : String
  database : String
  username : String
  apiKey : String
  deriving DecidableEq, Repr

structure VerifiedEnrollment where
  version : Int
  transport : String
  companies : List Company

structure PreparedEnrollment where
  enrollmentHandle : String
  connectorId : String
  tenantId : String
  expiresAt : Instant
  companies : List Company

structure CommittedEnrollment where
  connectorId : String
  tenantId : String
  allowedCompanyIds : List Int
  defaultCompanyId : Int
  deriving DecidableEq, Repr

/-- `value.rstrip("/")` -/
def rstripSlash (value : String) : String :=
  String.ofList (value.toList.reverse.dropWhile (· = '/')).reverse

/-- `tuple(dict.fromkeys(values))`: each value once, where it came first. -/
def fromkeys : List Int → List Int
  | [] => []
  | value :: values => value :: (fromkeys values).filter (· ≠ value)

@[simp]
theorem mem_fromkeys {values : List Int} {value : Int} :
    value ∈ fromkeys values ↔ value ∈ values := by
  induction values with
  | nil => simp [fromkeys]
  | cons first values ih =>
      by_cases heq : value = first <;> simp [fromkeys, ih, heq]

theorem nodup_fromkeys (values : List Int) : (fromkeys values).Nodup := by
  induction values with
  | nil => exact List.nodup_nil
  | cons first values ih =>
      rw [fromkeys, List.nodup_cons]
      exact ⟨by simp, ih.filter _⟩

def tenantOf (connectorId : String) : String := "connector:" ++ connectorId

namespace SharedConnectorLifecycle

def isExpired (now : Instant) (row : ConnectorRow) : Bool :=
  row.enrollmentExpiresAt.all (· ≤ now)

/-- The row was prepared from these credentials, for this version and transport. -/
def sameRequest (row : ConnectorRow) (plaintext : String) (credentials : OdooEnrollmentCredentials)
    (verified : VerifiedEnrollment) : Bool :=
  rstripSlash row.odooUrl = rstripSlash credentials.url &&
    row.databaseName = credentials.database && row.username = credentials.username &&
      plaintext = credentials.apiKey && row.detectedVersion.getD "None" =
        toString verified.version &&
        row.selectedTransport.getD "None" = verified.transport

def restorePrepared (keyring : EncryptionKeyring) (now : Instant) (row : ConnectorRow)
    (credentials : OdooEnrollmentCredentials) (handle : String) (verified : VerifiedEnrollment) :
    Except SharedError PreparedEnrollment := do
  check (row.status = .pending && !isExpired now row)
    (.value "The enrollment handle is no longer active")
  let plaintext ← keyring.decrypt cipher row.tenantId row.id row.encryptedApiKey row.keyVersion
  check (sameRequest row plaintext credentials verified)
    (.value "The enrollment handle was already used for another request")
  check (row.discoveredCompanyIds.all (0 < ·)) (.value "Stored discovered companies are invalid")
  check (row.discoveredCompanyIds = verified.companies.map (·.id))
    (.value "The enrollment handle was already used for another request")
  return ⟨handle, row.id, row.tenantId, row.enrollmentExpiresAt.getD 0, verified.companies⟩

/-- The read transaction of `prepare_enrollment`, with what becomes of the row it finds. -/
def findPrepared (keyring : EncryptionKeyring) (ambient : Ambient)
    (credentials : OdooEnrollmentCredentials) (handle : String) (verified : VerifiedEnrollment) :
    SharedStatements (Option PreparedEnrollment) := do
  let store ← get
  match fetchone ambient.order
      (store.connectors.rows.filter (·.enrollmentHandleHash = some (sha256 handle))) with
  | some row => do
      let prepared ← liftM
        (restorePrepared cipher keyring ambient.now row credentials handle verified)
      return some prepared
  | none => return none

/-- The row that `prepare_enrollment` inserts. -/
def preparedRow (connectorId : String) (now expires : Instant) (sealed : String × Int)
    (credentials : OdooEnrollmentCredentials) (handleHash : String)
    (verified : VerifiedEnrollment) : ConnectorRow where
  id := connectorId
  tenantId := tenantOf connectorId
  connectionLabel := "Odoo connection"
  odooUrl := credentials.url
  databaseName := credentials.database
  username := credentials.username
  encryptedApiKey := sealed.1
  discoveredCompanyIds := verified.companies.map (·.id)
  allowedCompanyIds := none
  defaultCompanyId := none
  detectedVersion := some (toString verified.version)
  selectedTransport := some verified.transport
  keyVersion := sealed.2
  status := .pending
  enrollmentHandleHash := some handleHash
  consumedEnrollmentHandleHash := none
  enrollmentExpiresAt := some expires
  activatedAt := none
  revokedAt := none
  createdAt := now
  updatedAt := now

/-- The write transaction of `prepare_enrollment`. -/
def insertPrepared (keyring : EncryptionKeyring) (ambient : Ambient)
    (credentials : OdooEnrollmentCredentials) (handle : String) (verified : VerifiedEnrollment) :
    SharedStatements PreparedEnrollment := do
  let connectorId := ambient.random 0
  let sealed := keyring.encrypt cipher ambient.nonce (tenantOf connectorId) connectorId
    credentials.apiKey
  let expires ← liftM (addLifetime ambient.now sessionTtl)
  let store ← get
  match fetchone ambient.order
      (store.connectors.rows.filter (·.enrollmentHandleHash = some (sha256 handle))) with
  | some row => liftM (restorePrepared cipher keyring ambient.now row credentials handle verified)
  | none => do
      insertConnector
        (preparedRow connectorId ambient.now expires sealed credentials (sha256 handle) verified)
      appendAudit sha256 ambient.now
        (authorityEvent ("req_" ++ ambient.random 1) (tenantOf connectorId) "prepare_enrollment"
          (tenantOf connectorId) connectorId)
      return ⟨handle, connectorId, tenantOf connectorId, expires, verified.companies⟩

/-- `any(value <= 0 for value in selected)` and the other conditions on a selection. -/
def validSelection (selected : List Int) (defaultCompanyId : Int) : Bool :=
  !selected.isEmpty && selected.all (0 < ·) && selected.contains defaultCompanyId

def commitEnrollment (ambient : Ambient) (enrollmentHandle : String)
    (allowedCompanyIds : List Int) (defaultCompanyId : Int) :
    SharedStatements CommittedEnrollment := do
  let handleHash := sha256 enrollmentHandle
  let selected := fromkeys allowedCompanyIds
  require (validSelection selected defaultCompanyId)
    (.value "A valid non-empty company selection is required")
  let store ← get
  let row ← found (fetchone ambient.order (store.connectors.rows.filter fun row =>
      row.enrollmentHandleHash = some handleHash ||
        row.consumedEnrollmentHandleHash = some handleHash))
    (.value "The enrollment handle is invalid or expired")
  require (row.status = .pending && !isExpired ambient.now row)
    (.value "The enrollment handle is invalid or expired")
  require (row.discoveredCompanyIds.all (0 < ·))
    (.value "Stored discovered companies are invalid")
  require (selected.all row.discoveredCompanyIds.contains)
    (.value "The company selection was not discovered during enrollment")
  match row.consumedEnrollmentHandleHash with
  | some _ => do
      require (row.allowedCompanyIds = some selected &&
        row.defaultCompanyId = some defaultCompanyId)
        (.value "The enrollment handle was already consumed")
  | none => do
      let _ ← updateConnectors
        (fun other => other.tenantId = row.tenantId && other.id = row.id &&
          other.status = .pending)
        (fun other => { other with
          allowedCompanyIds := some selected
          defaultCompanyId := some defaultCompanyId
          enrollmentHandleHash := none
          consumedEnrollmentHandleHash := some handleHash
          updatedAt := ambient.now })
        fun _ => rfl
      appendAudit sha256 ambient.now
        (authorityEvent ("req_" ++ ambient.random 0) row.tenantId "commit_enrollment" row.tenantId
          row.id)
  return ⟨row.id, row.tenantId, selected, defaultCompanyId⟩

def expirePending (now : Instant) : SharedStatements Nat :=
  updateConnectors (fun row => row.status = .pending && row.enrollmentExpiresAt.any (· ≤ now))
    (fun row => { row with
      status := .expired
      enrollmentHandleHash := none
      updatedAt := now })
    fun _ => rfl

def discardPending (tenantId connectorId : String) : SharedStatements Unit := do
  let store ← get
  deleteConnectors fun row =>
    row.tenantId = tenantId && row.id = connectorId && row.status = .pending &&
      !store.grants.rows.any fun grant =>
        grant.tenantId = tenantId && grant.connectorId = connectorId

end SharedConnectorLifecycle

end OdooMcp
