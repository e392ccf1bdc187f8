import OdooMcp.Shared.Lifecycle

/-!
# The OAuth provider of Shared Hosted

Authorization sessions, the activation of a connector under one, authorization codes, and the
tokens of a grant. Each definition is one transaction of `SharedOAuthProvider`; an operation reads
the clock once.
-/

namespace OdooMcp

open Effect Statements

variable (sha256 : String → String)

/-- `AUTHORIZATION_TTL`: ten minutes. -/
def authorizationTtl : Nat := 10 * 60 * 1000000

/-- `AUTHORIZATION_CODE_TTL`: five minutes. -/
def authorizationCodeTtl : Nat := 5 * 60 * 1000000

/-- `ACCESS_TOKEN_TTL`: one hour. -/
def accessTokenTtl : Nat := 60 * 60 * 1000000

/-- `REFRESH_TOKEN_TTL`: thirty days. -/
def refreshTokenTtl : Nat := 30 * 24 * 60 * 60 * 1000000

/-- The hour for which fetched client metadata is kept. -/
def clientMetadataTtl : Nat := 60 * 60 * 1000000

structure SharedOAuthProvider where
  issuerUrl : String
  resourceUrl : String
  validScopes : List String
  audit : Bool

structure ConnectorAuthorization where
  tenantId : String
  connectionId : String
  authenticatedSubject : String
  mcpClient : String
  permissions : List String
  deriving DecidableEq, Repr

structure AuthorizationParams where
  state : Option String
  scopes : Option (List String)
  codeChallenge : String
  redirectUri : String
  resource : Option String

structure AuthorizationCode where
  code : String
  scopes : List String
  expiresAt : Instant
  clientId : String
  codeChallenge : String
  redirectUri : String
  redirectUriProvidedExplicitly : Bool
  resource : String
  subject : String

structure RefreshToken where
  token : String
  clientId : String
  scopes : List String
  expiresAt : Instant
  resource : String
  subject : String

structure AccessToken where
  token : String
  clientId : String
  scopes : List String
  expiresAt : Instant
  resource : String
  subject : String
  tenantId : String

structure OAuthToken where
  accessToken : String
  refreshToken : String
  expiresIn : Nat
  scope : String

structure SessionSummary where
  clientId : String
  redirectUri : String
  scopes : List String
  connectorId : Option String
  discoveredCompanyIds : List Int
  allowedCompanyIds : List Int
  defaultCompanyId : Option Int

/-- The redirect of `_redirect(redirect_uri, code=code, state=state)`. -/
structure Redirect where
  redirectUri : String
  code : String
  state : Option String

/-- `tuple(sorted(words))` -/
def sortedWords (words : List String) : List String := words.insertionSort (· ≤ ·)

def invalidSession : SharedError := .value "The authorization session is invalid or expired"

/-! ### Clients -/

def loopbackRedirectHosts : List String := ["localhost", "127.0.0.1", "::1"]

def RedirectUri.isSafe (uri : RedirectUri) : Bool :=
  uri.fragment = "" && uri.username.isNone && uri.password.isNone &&
    (if uri.scheme = "https" then uri.hostname.isSome
    else if uri.scheme = "http" then uri.hostname.any loopbackRedirectHosts.contains
    else uri.scheme.toList.contains '.' && uri.netloc = "" && uri.path ≠ "")

/-- `_client_metadata_is_safe` -/
def OAuthClientInformation.isSafe (metadata : OAuthClientInformation) : Bool :=
  metadata.redirectUris.any (fun uris => !uris.isEmpty && uris.all RedirectUri.isSafe) &&
    metadata.tokenEndpointAuthMethod.all (· = "none")

namespace SharedOAuthProvider

variable (provider : SharedOAuthProvider)

def registeredMetadata (client : OAuthClientInformation) :
    Except SharedError OAuthClientInformation := do
  check (client.clientSecret.isNone && client.tokenEndpointAuthMethod = some "none")
    (.oauth "invalid_client_metadata" "Shared Hosted accepts public PKCE clients only")
  check client.isSafe
    (.oauth "invalid_redirect_uri" "Every redirect URI must satisfy the callback policy")
  check ((splitWords (client.scope.getD "")).all provider.validScopes.contains)
    (.oauth "invalid_client_metadata" "The requested scope is invalid")
  return { client with scope := some (" ".intercalate (sortedWords provider.validScopes)) }

def registerClient (now : Instant) (client : OAuthClientInformation) : SharedStatements Unit := do
  let metadata ← liftM (provider.registeredMetadata client)
  insertClient
    { clientId := metadata.clientId
      registrationMethod := .dcr
      metadata := metadata
      metadataExpiresAt := none
      createdAt := now
      updatedAt := now }

/-- The transaction of `get_client` that marks stored metadata as out of date. -/
def invalidateClient (now : Instant) (clientId : String) : SharedStatements Unit := do
  let _ ← updateClients (fun row => row.clientId = clientId)
    (fun row => { row with
      metadataExpiresAt := some now
      updatedAt := now })
    fun _ => rfl

/-- The transaction of `get_client` that stores fetched metadata. -/
def storeClient (now : Instant) (clientId : String) (metadata : OAuthClientInformation) :
    SharedStatements OAuthClientInformation := do
  let expires ← liftM (addLifetime now clientMetadataTtl)
  let store ← get
  if store.hasClient clientId then
    let _ ← updateClients (fun row => row.clientId = clientId)
      (fun row => { row with
        registrationMethod := .cimd
        metadata := { metadata with clientSecret := none }
        metadataExpiresAt := some expires
        updatedAt := now })
      fun _ => rfl
    return metadata
  else
    insertClient
      { clientId := clientId
        registrationMethod := .cimd
        metadata := { metadata with clientSecret := none }
        metadataExpiresAt := some expires
        createdAt := now
        updatedAt := now }
    return metadata

/-! ### Authorization sessions -/

/-- The scopes of the session a client opens: all the scopes it registered. -/
def sessionScopes (client : OAuthClientInformation) (params : AuthorizationParams) :
    Except SharedError (List String) := do
  check (params.resource = some provider.resourceUrl)
    (.oauth "invalid_target" "The protected resource is invalid")
  let requested := params.scopes.getD []
  let scopes := sortedWords (splitWords (client.scope.getD ""))
  check (!requested.isEmpty && requested.all scopes.contains &&
      scopes.all provider.validScopes.contains)
    (.oauth "invalid_scope" "The scope is invalid")
  check (43 ≤ params.codeChallenge.length) (.oauth "invalid_request" "S256 PKCE is required")
  return scopes

/-- The session that the redirect to the enrollment page names. -/
def authorize (ambient : Ambient) (client : OAuthClientInformation)
    (params : AuthorizationParams) : SharedStatements String := do
  let scopes ← liftM (provider.sessionScopes client params)
  let session := ambient.random 0
  let expires ← liftM (addLifetime ambient.now authorizationTtl)
  insertSession
    { stateHash := sha256 session
      clientId := client.clientId
      connectorId := none
      supersededConnectorId := none
      redirectUri := params.redirectUri
      resource := provider.resourceUrl
      scopes := scopes
      codeChallenge := params.codeChallenge
      clientState := params.state
      authorizationCodeHash := none
      status := .pending
      expiresAt := expires
      consumedAt := none
      createdAt := ambient.now }
  return session

end SharedOAuthProvider

/-- `status = 'pending' AND expires_at > ?` of a session. -/
def SessionRow.isOpen (row : SessionRow) (stateHash : String) (now : Instant) : Bool :=
  row.stateHash = stateHash && row.status = .pending && now < row.expiresAt

namespace SharedOAuthProvider

def bindConnector (now : Instant) (session connectorId : String) : SharedStatements Unit := do
  let rowcount ← updateSessions
    (fun row => row.isOpen (sha256 session) now && row.connectorId.isNone)
    (fun row => { row with connectorId := some connectorId }) fun _ => rfl
  if rowcount = 1 then
    return ()
  else
    let store ← get
    let row ← found (store.sessions.find (sha256 session)) invalidSession
    require (row.connectorId.getD "None" = connectorId) invalidSession

def summaryOf (row : SessionRow) (connector : Option ConnectorRow) : SessionSummary where
  clientId := row.clientId
  redirectUri := row.redirectUri
  scopes := row.scopes
  connectorId := row.connectorId
  discoveredCompanyIds := (connector.map (·.discoveredCompanyIds)).getD []
  allowedCompanyIds := (connector.bind (·.allowedCompanyIds)).getD []
  defaultCompanyId := connector.bind (·.defaultCompanyId)

def sessionSummary (ambient : Ambient) (session : String) : SharedStatements SessionSummary := do
  let store ← get
  let row ← found (fetchone ambient.order
    (store.sessions.rows.filter (·.isOpen (sha256 session) ambient.now))) invalidSession
  return summaryOf row (fetchone ambient.order
    (store.connectors.rows.filter fun connector => some connector.id = row.connectorId))

def holdsActive (store : SharedStore) (authorization : ConnectorAuthorization) : Bool :=
  store.grants.rows.any fun grant =>
    grant.activeFor authorization.tenantId authorization.connectionId &&
      grant.clientId = authorization.mcpClient &&
        store.connectors.rows.any fun connector =>
          connector.tenantId = grant.tenantId && connector.id = grant.connectorId &&
            connector.status = .active

def authorizeReplacement (now : Instant) (session : String)
    (authorization : ConnectorAuthorization) : SharedStatements Unit := do
  let store ← get
  require (holdsActive store authorization) (.value "The replacement authority is inactive")
  let rowcount ← updateSessions
    (fun row => row.isOpen (sha256 session) now && row.clientId = authorization.mcpClient)
    (fun row => { row with supersededConnectorId := some authorization.connectionId })
    fun _ => rfl
  require (rowcount = 1) (.value "The replacement session is invalid")

/-! ### Activation and revocation -/

def revokeConnectorInTransaction (now : Instant) (connectorId : String) :
    SharedStatements Unit := do
  let store ← get
  let grantIds := (store.grants.rows.filter fun grant =>
    grant.connectorId = connectorId && grant.status = .active).map (·.id)
  let _ ← updateConnectors
    (fun row => row.id = connectorId && (row.status = .pending || row.status = .active))
    (fun row => { row with
      status := .revoked
      revokedAt := some now
      updatedAt := now })
    fun _ => rfl
  let _ ← updateGrants (fun row => row.connectorId = connectorId && row.status = .active)
    (fun row => { row with
      status := .revoked
      revokedAt := some now })
    fun _ => rfl
  let _ ← updateTokens (fun row => grantIds.contains row.grantId && row.revokedAt.isNone)
    (fun row => { row with revokedAt := some now }) fun _ => rfl

variable (provider : SharedOAuthProvider)

def appendAudit (now : Instant) (requestId tenantId operation connectorId : String) :
    SharedStatements Unit :=
  if provider.audit then
    OdooMcp.appendAudit sha256 now
      (authorityEvent ("req_" ++ requestId) tenantId operation connectorId connectorId)
  else
    pure ()

/-- Revoke the connector that a session supersedes, if there is one. -/
def revokeSuperseded (ambient : Ambient) : Option String → SharedStatements Unit
  | none => pure ()
  | some connectorId => do
      let store ← get
      let old := fetchone ambient.order (store.connectors.rows.filter (·.id = connectorId))
      revokeConnectorInTransaction ambient.now connectorId
      match old with
      | some row =>
          provider.appendAudit sha256 ambient.now (ambient.random 3) row.tenantId
            "revoke_connector" connectorId
      | none => pure ()

/-- The connector that a session activates, if both can still be used. -/
def activationTarget (ambient : Ambient) (session : String) :
    SharedStatements (SessionRow × ConnectorRow) := do
  let store ← get
  let row ← found (store.sessions.find (sha256 session)) invalidSession
  require (row.status = .pending && ambient.now < row.expiresAt) invalidSession
  let connectorId ← found row.connectorId invalidSession
  let connector ← found (fetchone ambient.order (store.connectors.rows.filter fun connector =>
      connector.id = connectorId && connector.status = .pending &&
        connector.allowedCompanyIds.isSome && connector.defaultCompanyId.isSome))
    (.value "The connector enrollment is incomplete")
  require (connector.enrollmentExpiresAt.any (ambient.now < ·))
    (.value "The connector enrollment is expired")
  return (row, connector)

def activateConnector (ambient : Ambient) (session : String) (consent : Bool) :
    SharedStatements Redirect := do
  require consent (.value "Explicit consent is required")
  let code := ambient.random 0
  let (row, connector) ← activationTarget sha256 ambient session
  insertGrant
    { id := ambient.random 1
      connectorId := connector.id
      tenantId := connector.tenantId
      clientId := row.clientId
      resource := row.resource
      scopes := row.scopes
      status := .active
      createdAt := ambient.now
      revokedAt := none }
  let _ ← updateConnectors
    (fun other => other.tenantId = connector.tenantId && other.id = connector.id &&
      other.status = .pending)
    (fun other => { other with
      status := .active
      enrollmentHandleHash := none
      activatedAt := some ambient.now
      updatedAt := ambient.now })
    fun _ => rfl
  provider.appendAudit sha256 ambient.now (ambient.random 2) connector.tenantId
    "activate_connector" connector.id
  provider.revokeSuperseded sha256 ambient row.supersededConnectorId
  let _ ← updateSessions
    (fun other => other.stateHash = sha256 session && other.status = .pending)
    (fun other => { other with
      authorizationCodeHash := some (sha256 code)
      status := .authorized })
    fun _ => rfl
  return ⟨row.redirectUri, code, row.clientState⟩

def revokeConnector (ambient : Ambient) (authorization : ConnectorAuthorization) :
    SharedStatements Unit := do
  let store ← get
  require (store.grants.rows.any fun grant =>
      grant.connectorId = authorization.connectionId && grant.tenantId = authorization.tenantId &&
        grant.clientId = authorization.mcpClient)
    (.value "The connector revocation authority is invalid")
  revokeConnectorInTransaction ambient.now authorization.connectionId
  provider.appendAudit sha256 ambient.now (ambient.random 0) authorization.tenantId
    "revoke_connector" authorization.connectionId

/-! ### Authorization codes -/

def loadAuthorizationCode (ambient : Ambient) (client : OAuthClientInformation)
    (authorizationCode : String) : SharedStatements (Option AuthorizationCode) := do
  let store ← get
  match fetchone ambient.order (store.sessions.rows.filter fun row =>
      row.authorizationCodeHash = some (sha256 authorizationCode) &&
        row.clientId = client.clientId && row.status = .authorized) with
  | none => return none
  | some row =>
      if row.expiresAt ≤ ambient.now then
        return none
      else
        let expires ← liftM (addLifetime ambient.now authorizationCodeTtl)
        return some
          { code := authorizationCode
            scopes := row.scopes
            expiresAt := expires
            clientId := client.clientId
            codeChallenge := row.codeChallenge
            redirectUri := row.redirectUri
            redirectUriProvidedExplicitly := true
            resource := row.resource
            subject := row.connectorId.getD "None" }

/-- Issue a pair of tokens; the two random values come first among the draws. -/
def issueTokens (ambient : Ambient) (grantId : String) (scopes : List String) :
    SharedStatements OAuthToken := do
  let access := ambient.random 0
  let refresh := ambient.random 1
  let accessExpires ← liftM (addLifetime ambient.now accessTokenTtl)
  let refreshExpires ← liftM (addLifetime ambient.now refreshTokenTtl)
  insertToken
    { tokenHash := sha256 access
      grantId := grantId
      tokenType := .access
      scopes := scopes
      expiresAt := accessExpires
      rotatedAt := none
      revokedAt := none
      createdAt := ambient.now }
  insertToken
    { tokenHash := sha256 refresh
      grantId := grantId
      tokenType := .refresh
      scopes := scopes
      expiresAt := refreshExpires
      rotatedAt := none
      revokedAt := none
      createdAt := ambient.now }
  return ⟨access, refresh, 3600, " ".intercalate scopes⟩

/-- The rows of a code with the active grants of their connector for their client. -/
def codeGrants (store : SharedStore) (codeHash clientId : String) : List (SessionRow × GrantRow) :=
  (store.sessions.rows.product store.grants.rows).filter fun pair =>
    pair.1.connectorId = some pair.2.connectorId && pair.2.clientId = pair.1.clientId &&
      pair.2.status = .active && pair.1.authorizationCodeHash = some codeHash &&
        pair.1.clientId = clientId && pair.1.status = .authorized

def exchangeAuthorizationCode (ambient : Ambient) (client : OAuthClientInformation)
    (authorizationCode : AuthorizationCode) : SharedStatements OAuthToken := do
  let store ← get
  let (row, grant) ← found (fetchone ambient.order
      (codeGrants store (sha256 authorizationCode.code) client.clientId))
    (.oauth "invalid_grant" "Invalid code")
  let _ ← updateSessions
    (fun other => other.stateHash = row.stateHash && other.status = .authorized)
    (fun other => { other with
      status := .consumed
      consumedAt := some ambient.now })
    fun _ => rfl
  issueTokens sha256 ambient grant.id authorizationCode.scopes

/-! ### Tokens -/

/-- The tokens of this value and type that are live, with their grants. -/
def tokenGrants (store : SharedStore) (now : Instant) (tokenHash : String)
    (tokenType : TokenType) : List (TokenRow × GrantRow) :=
  (store.tokens.rows.product store.grants.rows).filter fun pair =>
    pair.2.id = pair.1.grantId && pair.1.tokenHash = tokenHash && pair.1.tokenType = tokenType &&
      pair.1.revokedAt.isNone && pair.1.rotatedAt.isNone && now < pair.1.expiresAt &&
        pair.2.status = .active && store.connectors.rows.any fun connector =>
          connector.tenantId = pair.2.tenantId && connector.id = pair.2.connectorId &&
            connector.status = .active

/-- `_token_row` -/
def tokenRow (ambient : Ambient) (token : String) (tokenType : TokenType)
    (clientId : Option String) : SharedStatements (Option (TokenRow × GrantRow)) := do
  let store ← get
  return (fetchone ambient.order (tokenGrants store ambient.now (sha256 token) tokenType)).filter
    fun pair => clientId.all (pair.2.clientId = ·)

def loadRefreshToken (ambient : Ambient) (client : OAuthClientInformation) (token : String) :
    SharedStatements (Option RefreshToken) := do
  let live ← tokenRow sha256 ambient token .refresh (some client.clientId)
  return live.map fun (row, grant) =>
    { token := token
      clientId := client.clientId
      scopes := row.scopes
      expiresAt := row.expiresAt
      resource := grant.resource
      subject := grant.connectorId }

def exchangeRefreshToken (ambient : Ambient) (client : OAuthClientInformation)
    (refreshToken : RefreshToken) (scopes : List String) : SharedStatements OAuthToken := do
  let requested := if scopes.isEmpty then refreshToken.scopes else scopes
  require (requested.all refreshToken.scopes.contains) (.oauth "invalid_scope" "Invalid scope")
  let live ← tokenRow sha256 ambient refreshToken.token .refresh (some client.clientId)
  let (row, grant) ← found live (.oauth "invalid_grant" "Invalid refresh token")
  require (requested.all row.scopes.contains) (.oauth "invalid_scope" "Invalid scope")
  let _ ← updateTokens (fun other => other.tokenHash = sha256 refreshToken.token)
    (fun other => { other with rotatedAt := some ambient.now }) fun _ => rfl
  let _ ← updateTokens
    (fun other => other.grantId = grant.id && other.tokenType = .access && other.revokedAt.isNone)
    (fun other => { other with revokedAt := some ambient.now }) fun _ => rfl
  issueTokens sha256 ambient grant.id row.scopes

/-- `verify_token` -/
def loadAccessToken (ambient : Ambient) (token : String) :
    SharedStatements (Option AccessToken) := do
  let live ← tokenRow sha256 ambient token .access none
  return live.map fun (row, grant) =>
    { token := token
      clientId := grant.clientId
      scopes := row.scopes
      expiresAt := row.expiresAt
      resource := grant.resource
      subject := grant.connectorId
      tenantId := grant.tenantId }

def authorizationForAccessToken (ambient : Ambient) (token : String) :
    SharedStatements (Option ConnectorAuthorization) := do
  let live ← tokenRow sha256 ambient token .access none
  return live.map fun (row, grant) =>
    { tenantId := grant.tenantId
      connectionId := grant.connectorId
      authenticatedSubject := grant.connectorId
      mcpClient := grant.clientId
      permissions := row.scopes.filter provider.validScopes.contains }

def revokeToken (ambient : Ambient) (token : String) : SharedStatements Unit := do
  let store ← get
  match store.tokens.find (sha256 token) with
  | none => return ()
  | some row =>
      match store.grants.find row.grantId with
      | none => return ()
      | some grant => do
          revokeConnectorInTransaction ambient.now grant.connectorId
          provider.appendAudit sha256 ambient.now (ambient.random 0) grant.tenantId
            "revoke_connector" grant.connectorId

end SharedOAuthProvider

end OdooMcp
