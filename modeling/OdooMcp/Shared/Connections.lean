import OdooMcp.Shared.Auth

/-!
# Stored connections

Resolution of an authorized connection, and rotation of the key under which its API key is sealed.
Which URLs the settings accept is a parameter.
-/

namespace OdooMcp

open Effect Statements

variable (sha256 : String → String) (cipher : AesGcm) (acceptsUrl : String → Bool)

structure OdooConnectionSettings where
  url : String
  database : String
  username : String
  apiKey : String
  allowedCompanyIds : List Int
  defaultCompanyId : Int
  deriving DecidableEq, Repr

/-- The validators of `OdooConnectionSettings`; `database` and `username` are stripped. -/
def OdooConnectionSettings.modelValidate (settings : OdooConnectionSettings) :
    Option OdooConnectionSettings :=
  if acceptsUrl settings.url && !isBlank settings.database && !isBlank settings.username &&
      !isBlank settings.apiKey && !settings.allowedCompanyIds.isEmpty &&
      settings.allowedCompanyIds.all (0 < ·) && decide settings.allowedCompanyIds.Nodup &&
      settings.allowedCompanyIds.contains settings.defaultCompanyId then
    some { settings with
      database := strip settings.database
      username := strip settings.username }
  else
    none

namespace EncryptedConnectionRepository

def invalidConnection : SharedError := .database "The encrypted Odoo connection is invalid"

def resolveRow (keyring : EncryptionKeyring) (row : ConnectorRow) :
    Except SharedError OdooConnectionSettings := do
  let apiKey ← keyring.decrypt cipher row.tenantId row.id row.encryptedApiKey row.keyVersion
  let settings := do
    let allowed ← row.allowedCompanyIds
    let default ← row.defaultCompanyId
    OdooConnectionSettings.modelValidate acceptsUrl
      ⟨row.odooUrl, row.databaseName, row.username, apiKey, allowed, default⟩
  match settings with
  | some valid => .ok valid
  | none => .error invalidConnection

/-- The active connectors of this authorization that have an active grant for its client. -/
def authorizedRows (store : SharedStore) (authorization : ConnectorAuthorization) :
    List ConnectorRow :=
  store.connectors.rows.filter fun row =>
    row.tenantId = authorization.tenantId && row.id = authorization.connectionId &&
      row.status = .active && store.grants.rows.any fun grant =>
        grant.activeFor row.tenantId row.id && grant.clientId = authorization.mcpClient

def resolveAuthorized (keyring : EncryptionKeyring) (ambient : Ambient)
    (authorization : ConnectorAuthorization) :
    SharedStatements (Option OdooConnectionSettings) := do
  let store ← get
  match fetchone ambient.order (authorizedRows store authorization) with
  | none => return none
  | some row => do
      let settings ← liftM (resolveRow cipher acceptsUrl keyring row)
      return some settings

def rotationEvent (requestId subject mcpClient : String) (row : ConnectorRow)
    (keyVersion : Int) : AuditEvent where
  requestId := requestId
  tenantId := row.tenantId
  companyId := none
  toolName := "rotate_erp_connection_key"
  toolVersion := "1.0"
  module := "core"
  authenticatedSubject := subject
  mcpClient := mcpClient
  odooDbName := some row.databaseName
  odooUser := some row.username
  odooVersion := row.detectedVersion
  odooTransport := row.selectedTransport
  inputPayload := [("connection_id", .str row.id)]
  dryRun := false
  proposedAction := some [("key_version", .int keyVersion)]
  actualResult := some [("connection_id", .str row.id), ("key_version", .int keyVersion)]
  affectedOdooRecords := []
  errorCode := none
  errorMessage := none
  finalStatus := "succeeded"
  createdAt := none

def resealed (keyring : EncryptionKeyring) (ambient : Ambient) (row : ConnectorRow) :
    Except SharedError (String × Int) := do
  let plaintext ← keyring.decrypt cipher row.tenantId row.id row.encryptedApiKey row.keyVersion
  return keyring.encrypt cipher ambient.nonce row.tenantId row.id plaintext

def rotate (keyring : EncryptionKeyring) (ambient : Ambient)
    (tenantId connectionId requestId authenticatedSubject mcpClient : String) :
    SharedStatements Bool := do
  require
    (!([tenantId, connectionId, requestId, authenticatedSubject, mcpClient]).any isBlank)
    (.value "Rotation identity fields are required")
  let store ← get
  let row ← found (store.connectors.find (tenantId, connectionId))
    (.database "The encrypted Odoo connection was not found")
  if row.keyVersion = keyring.activeVersion then
    return false
  else
    let sealed ← liftM (resealed cipher keyring ambient row)
    let rowcount ← updateConnectors
      (fun other => other.tenantId = tenantId && other.id = connectionId &&
        other.keyVersion = row.keyVersion)
      (fun other => { other with
        encryptedApiKey := sealed.1
        keyVersion := sealed.2
        updatedAt := ambient.now })
      fun _ => rfl
    require (rowcount = 1) (.database "The encryption key changed concurrently")
    appendAudit sha256 ambient.now
      (rotationEvent requestId authenticatedSubject mcpClient row sealed.2)
    return true

end EncryptedConnectionRepository

end OdooMcp
