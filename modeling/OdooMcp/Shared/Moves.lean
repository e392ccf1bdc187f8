import OdooMcp.Shared.System

/-!
# What the operations do to the store

The moves of the authority: every change that an operation makes to the tables, with the conditions
under which it makes it. An operation that does not raise makes one move at its clock reading, or
none, and may append to the journal after it; so what the moves keep, every run keeps.
-/

namespace OdooMcp

open Effect Statements UniqueTable

/-! ### The rows that operations insert -/

/-- A session as `authorize` opens it. -/
structure SessionRow.Opened (row : SessionRow) (validScopes : List String) (now : Instant) :
    Prop where
  status : row.status = .pending
  connector : row.connectorId = none
  superseded : row.supersededConnectorId = none
  code : row.authorizationCodeHash = none
  scopes : ∀ scope ∈ row.scopes, scope ∈ validScopes
  some_scope : row.scopes ≠ []
  created : row.createdAt = now
  expires : row.expiresAt = now + authorizationTtl

/-- A connector as `prepare_enrollment` inserts it. -/
structure ConnectorRow.Prepared (row : ConnectorRow) (now : Instant) : Prop where
  status : row.status = .pending
  tenant : row.tenantId = tenantOf row.id
  allowed : row.allowedCompanyIds = none
  default : row.defaultCompanyId = none
  handle : row.enrollmentHandleHash.isSome
  consumed : row.consumedEnrollmentHandleHash = none
  expires : row.enrollmentExpiresAt = some (now + sessionTtl)
  activated : row.activatedAt = none
  created : row.createdAt = now

/-- What `commit_enrollment` accepts as the selection for a connector. -/
structure ConnectorRow.Selects (row : ConnectorRow) (selected : List Int) (default : Int) :
    Prop where
  nonempty : selected ≠ []
  nodup : selected.Nodup
  positive : ∀ company ∈ selected, 0 < company
  default : default ∈ selected
  discovered : ∀ company ∈ selected, company ∈ row.discoveredCompanyIds

def TokenType.ttl : TokenType → Nat
  | .access => accessTokenTtl
  | .refresh => refreshTokenTtl

/-- A token as `_issue_tokens` inserts it. -/
structure TokenRow.Fresh (row : TokenRow) (grant : GrantRow) (tokenType : TokenType)
    (now : Instant) : Prop where
  issuer : row.grantId = grant.id
  type : row.tokenType = tokenType
  scopes : ∀ scope ∈ row.scopes, scope ∈ grant.scopes
  some_scope : row.scopes ≠ []
  rotated : row.rotatedAt = none
  revoked : row.revokedAt = none
  created : row.createdAt = now
  expires : row.expiresAt = now + tokenType.ttl

def Issued (grant : GrantRow) (now : Instant) (tokens later : Tokens) : Prop :=
  ∃ access refresh middle, access.Fresh grant .access now ∧ refresh.Fresh grant .refresh now ∧
    Inserted access tokens middle ∧ Inserted refresh middle later

/-! ### Moves -/

/-- The three updates of `_revoke_connector_in_transaction`. -/
structure Revocation (now : Instant) (connectorId : String) (store later : SharedStore) :
    Prop where
  connectors : Updated
    (fun row => row.id = connectorId && (row.status = .pending || row.status = .active))
    (fun row => { row with
      status := .revoked
      revokedAt := some now
      updatedAt := now })
    store.connectors later.connectors
  grants : Updated (fun row => row.connectorId = connectorId && row.status = .active)
    (fun row => { row with
      status := .revoked
      revokedAt := some now })
    store.grants later.grants
  tokens : Updated
    (fun row => ((store.grants.rows.filter fun grant =>
      grant.connectorId = connectorId && grant.status = .active).map (·.id)).contains row.grantId &&
        row.revokedAt.isNone)
    (fun row => { row with revokedAt := some now }) store.tokens later.tokens
  clients : later.clients = store.clients
  sessions : later.sessions = store.sessions

/-- A session, its connector and the grant to be made can be activated. -/
structure Activatable (now : Instant) (store : SharedStore) (session : SessionRow)
    (connector : ConnectorRow) (grant : GrantRow) : Prop where
  session_mem : session ∈ store.sessions
  session_pending : session.status = .pending
  session_open : now < session.expiresAt
  bound : session.connectorId = some connector.id
  connector_mem : connector ∈ store.connectors
  connector_pending : connector.status = .pending
  allowed : connector.allowedCompanyIds.isSome
  default : connector.defaultCompanyId.isSome
  consumed : connector.consumedEnrollmentHandleHash.isSome
  unexpired : connector.enrollmentExpiresAt.any (now < ·)
  grant_connector : grant.connectorId = connector.id
  grant_tenant : grant.tenantId = connector.tenantId
  grant_client : grant.clientId = session.clientId
  grant_scopes : grant.scopes = session.scopes
  grant_active : grant.status = .active
  grant_created : grant.createdAt = now

def ConnectorRow.activated (row : ConnectorRow) (now : Instant) : ConnectorRow :=
  { row with
    status := .active
    enrollmentHandleHash := none
    activatedAt := some now
    updatedAt := now }

structure Activation (now : Instant) (connector : ConnectorRow) (grant : GrantRow)
    (store later : SharedStore) : Prop where
  connectors : Updated
    (fun other => other.tenantId = connector.tenantId && other.id = connector.id &&
      other.status = .pending)
    (·.activated now) store.connectors later.connectors
  grants : Inserted grant store.grants later.grants
  tokens : later.tokens = store.tokens
  clients : later.clients = store.clients
  sessions : later.sessions = store.sessions

inductive Move (validScopes : List String) (now : Instant) : SharedStore → SharedStore → Prop
  | journal {store : SharedStore} (journal : Store) :
      Move validScopes now store { store with journal := journal }
  | clients {store : SharedStore} {clients : Clients}
      (hkept : ∀ row ∈ store.clients, ∃ later ∈ clients, later.clientId = row.clientId) :
      Move validScopes now store { store with clients := clients }
  | openSession {store : SharedStore} {sessions : Sessions} {row : SessionRow}
      (hopened : row.Opened validScopes now) (hclient : store.hasClient row.clientId = true)
      (hinserted : Inserted row store.sessions sessions) :
      Move validScopes now store { store with sessions := sessions }
  | bind {store : SharedStore} {sessions : Sessions} (stateHash connectorId : String)
      (hupdated : Updated (fun row => row.isOpen stateHash now && row.connectorId.isNone)
        (fun row => { row with connectorId := some connectorId }) store.sessions sessions) :
      Move validScopes now store { store with sessions := sessions }
  | supersede {store : SharedStore} {sessions : Sessions} (stateHash clientId connectorId : String)
      (hgrant : ∃ grant ∈ store.grants, grant.connectorId = connectorId)
      (hupdated : Updated (fun row => row.isOpen stateHash now && row.clientId = clientId)
        (fun row => { row with supersededConnectorId := some connectorId })
        store.sessions sessions) :
      Move validScopes now store { store with sessions := sessions }
  | prepare {store : SharedStore} {connectors : Connectors} {row : ConnectorRow}
      (hprepared : row.Prepared now)
      (hhandle : ∀ other ∈ store.connectors, other.enrollmentHandleHash ≠ row.enrollmentHandleHash)
      (hinserted : Inserted row store.connectors connectors) :
      Move validScopes now store { store with connectors := connectors }
  | select {store : SharedStore} {connectors : Connectors} {row : ConnectorRow}
      {selected : List Int} {default : Int} {handleHash : String} (hrow : row ∈ store.connectors)
      (hpending : row.status = .pending) (hunexpired : row.enrollmentExpiresAt.any (now < ·))
      (hhandle : row.enrollmentHandleHash = some handleHash)
      (hconsumed : row.consumedEnrollmentHandleHash = none)
      (hselected : row.Selects selected default)
      (hupdated : Updated
        (fun other => other.tenantId = row.tenantId && other.id = row.id &&
          other.status = .pending)
        (fun other => { other with
          allowedCompanyIds := some selected
          defaultCompanyId := some default
          enrollmentHandleHash := none
          consumedEnrollmentHandleHash := some handleHash
          updatedAt := now })
        store.connectors connectors) :
      Move validScopes now store { store with connectors := connectors }
  | expire {store : SharedStore} {connectors : Connectors}
      (hupdated : Updated
        (fun row => row.status = .pending && row.enrollmentExpiresAt.any (· ≤ now))
        (fun row => { row with
          status := .expired
          enrollmentHandleHash := none
          updatedAt := now })
        store.connectors connectors) :
      Move validScopes now store { store with connectors := connectors }
  | discard {store : SharedStore} {connectors : Connectors}
      (hsubset : ∀ row ∈ connectors, row ∈ store.connectors)
      (hkept : ∀ row ∈ store.connectors, row ∈ connectors ∨
        row.status = .pending ∧ ∀ grant ∈ store.grants, grant.tenantId = row.tenantId →
          grant.connectorId ≠ row.id) :
      Move validScopes now store { store with connectors := connectors }
  | reseal {store : SharedStore} {connectors : Connectors} (tenantId connectorId : String)
      (oldVersion : Int) (sealed : String × Int)
      (hupdated : Updated
        (fun other => other.tenantId = tenantId && other.id = connectorId &&
          other.keyVersion = oldVersion)
        (fun other => { other with
          encryptedApiKey := sealed.1
          keyVersion := sealed.2
          updatedAt := now })
        store.connectors connectors) :
      Move validScopes now store { store with connectors := connectors }
  | activate {store granted revoked later : SharedStore} {session : SessionRow}
      {connector : ConnectorRow} {grant : GrantRow} {codeHash : String}
      (hactivatable : Activatable now store session connector grant)
      (hactivation : Activation now connector grant store granted)
      (hsuperseded : (session.supersededConnectorId = none ∧ revoked = granted) ∨
        ∃ superseded, session.supersededConnectorId = some superseded ∧
          Revocation now superseded granted revoked)
      (hsessions : Updated
        (fun other => other.stateHash = session.stateHash && other.status = .pending)
        (fun other => { other with
          authorizationCodeHash := some codeHash
          status := .authorized })
        store.sessions later.sessions)
      (hconnectors : later.connectors = revoked.connectors)
      (hgrants : later.grants = revoked.grants)
      (htokens : later.tokens = revoked.tokens) (hclients : later.clients = store.clients) :
      Move validScopes now store later
  | revoke {store later : SharedStore} {connectorId : String}
      (hgrant : ∃ grant ∈ store.grants, grant.connectorId = connectorId)
      (hrevocation : Revocation now connectorId store later) :
      Move validScopes now store later
  | exchange {store : SharedStore} {sessions : Sessions} {tokens : Tokens} {session : SessionRow}
      {grant : GrantRow} (hsession : session ∈ store.sessions)
      (hauthorized : session.status = .authorized) (hgrant : grant ∈ store.grants)
      (hbound : session.connectorId = some grant.connectorId) (hactive : grant.status = .active)
      (hsessions : Updated
        (fun other => other.stateHash = session.stateHash && other.status = .authorized)
        (fun other => { other with
          status := .consumed
          consumedAt := some now })
        store.sessions sessions)
      (htokens : Issued grant now store.tokens tokens) :
      Move validScopes now store { store with
        sessions := sessions
        tokens := tokens }
  | refresh {store : SharedStore} {rotated revoked tokens : Tokens} {row : TokenRow}
      {grant : GrantRow} (hrow : row ∈ store.tokens) (htype : row.tokenType = .refresh)
      (hunrotated : row.rotatedAt = none) (hunrevoked : row.revokedAt = none)
      (hunexpired : now < row.expiresAt) (hgrant : grant ∈ store.grants)
      (hof : grant.id = row.grantId) (hactive : grant.status = .active)
      (hrotated : Updated (fun other => other.tokenHash = row.tokenHash)
        (fun other => { other with rotatedAt := some now }) store.tokens rotated)
      (hrevoked : Updated
        (fun other => other.grantId = grant.id && other.tokenType = .access &&
          other.revokedAt.isNone)
        (fun other => { other with revokedAt := some now }) rotated revoked)
      (htokens : Issued grant now revoked tokens) :
      Move validScopes now store { store with tokens := tokens }

/-- What one operation does to the store: one move at its clock reading or none, and after a move it
may append to the journal. -/
inductive Moves (validScopes : List String) (now : Instant) (store : SharedStore) :
    SharedStore → Prop
  | refl : Moves validScopes now store store
  | single {later : SharedStore} (hmove : Move validScopes now store later) :
      Moves validScopes now store later
  | journaled {later : SharedStore} (hmove : Move validScopes now store later) (journal : Store) :
      Moves validScopes now store { later with journal := journal }

/-! ### The operations as moves -/

section Operations

variable {deployment : SharedDeployment} {ambient : Ambient} {store later : SharedStore}

theorem sameTables_appendAudit {sha256 : String → String} {clock : Instant} {event : AuditEvent}
    {value : Unit} (happend : appendAudit sha256 clock event store = .ok (value, later)) :
    ∃ journal, later = { store with journal := journal } := by
  obtain ⟨_, journal, -, hlater⟩ := appendAudit_ok.mp happend
  exact ⟨journal, hlater⟩

theorem providerAudit_ok {provider : SharedOAuthProvider} {sha256 : String → String}
    {clock : Instant} {requestId tenantId operation connectorId : String} {value : Unit}
    (happend : provider.appendAudit sha256 clock requestId tenantId operation connectorId store =
      .ok (value, later)) : ∃ journal, later = { store with journal := journal } := by
  unfold SharedOAuthProvider.appendAudit at happend
  split at happend
  · exact sameTables_appendAudit happend
  · obtain ⟨-, rfl⟩ := pure_ok.mp happend
    exact ⟨_, rfl⟩

theorem updated_of_updateClients {condition : ClientRow → Bool} {change : ClientRow → ClientRow}
    {hkey : ∀ row, (change row).clientId = row.clientId} {rowcount : Nat}
    {validScopes : List String} {now : Instant}
    (hupdate : updateClients condition change hkey store = .ok (rowcount, later)) :
    Moves validScopes now store later := by
  obtain ⟨clients, hclients, rfl, -⟩ := updateClients_ok.mp hupdate
  refine .single (.clients fun row hrow => ⟨_, (updated_of_update? hclients).mem hrow, ?_⟩)
  split
  · exact hkey row
  · rfl

theorem moves_insertClient {row : ClientRow} {value : Unit} {validScopes : List String}
    {now : Instant} (hinsert : insertClient row store = .ok (value, later)) :
    Moves validScopes now store later := by
  obtain ⟨clients, hclients, rfl⟩ := insertClient_ok.mp hinsert
  exact .single (.clients fun other hother =>
    ⟨other, (inserted_of_insert? hclients).mem hother, rfl⟩)

theorem moves_storeClient {clientId : String} {metadata value : OAuthClientInformation}
    {validScopes : List String} {now : Instant}
    (hstored : SharedOAuthProvider.storeClient now clientId metadata store = .ok (value, later)) :
    Moves validScopes now store later := by
  simp only [SharedOAuthProvider.storeClient, bind_ok, lift_ok, get_ok] at hstored
  obtain ⟨expires, _, ⟨-, rfl⟩, _, _, ⟨rfl, rfl⟩, hstored⟩ := hstored
  split at hstored
  · simp only [bind_ok, pure_ok] at hstored
    obtain ⟨_, _, hupdate, -, rfl⟩ := hstored
    exact updated_of_updateClients hupdate
  · simp only [bind_ok, pure_ok] at hstored
    obtain ⟨_, _, hinsert, -, rfl⟩ := hstored
    exact moves_insertClient hinsert

theorem sessionScopes_ok {provider : SharedOAuthProvider} {client : OAuthClientInformation}
    {params : AuthorizationParams} {scopes : List String}
    (hscopes : provider.sessionScopes client params = .ok scopes) :
    (∀ scope ∈ scopes, scope ∈ provider.validScopes) ∧ scopes ≠ [] := by
  simp only [SharedOAuthProvider.sessionScopes, except_bind_ok, check_ok] at hscopes
  obtain ⟨_, -, _, hcheck, _, -, hpure⟩ := hscopes
  obtain rfl := Except.ok.inj hpure
  simp only [Bool.and_eq_true, Bool.not_eq_true', List.all_eq_true, List.contains_iff_mem,
    List.isEmpty_eq_false_iff] at hcheck
  obtain ⟨⟨hrequested, hsubset⟩, hvalid⟩ := hcheck
  refine ⟨hvalid, ?_⟩
  obtain ⟨scope, hscope⟩ := List.exists_mem_of_ne_nil _ hrequested
  exact List.ne_nil_of_mem (hsubset scope hscope)

theorem moves_authorize {client : OAuthClientInformation} {params : AuthorizationParams}
    {session : String}
    (hauthorize : deployment.provider.authorize deployment.sha256 ambient client params store =
      .ok (session, later)) :
    Moves deployment.provider.validScopes ambient.now store later := by
  simp only [SharedOAuthProvider.authorize, bind_ok, lift_ok, pure_ok, addLifetime_ok]
    at hauthorize
  obtain ⟨scopes, _, ⟨hscopes, rfl⟩, expires, _, ⟨⟨rfl, -⟩, rfl⟩, _, _, hinsert, -, rfl⟩ :=
    hauthorize
  obtain ⟨hclient, sessions, hsessions, rfl⟩ := insertSession_ok.mp hinsert
  obtain ⟨hvalid, hsome⟩ := sessionScopes_ok hscopes
  exact .single (.openSession ⟨rfl, rfl, rfl, rfl, hvalid, hsome, rfl, rfl⟩ hclient
    (inserted_of_insert? hsessions))

theorem moves_bindConnector {session connectorId : String} {value : Unit}
    {validScopes : List String}
    (hbind : SharedOAuthProvider.bindConnector deployment.sha256 ambient.now session connectorId
      store = .ok (value, later)) : Moves validScopes ambient.now store later := by
  simp only [SharedOAuthProvider.bindConnector, bind_ok] at hbind
  obtain ⟨rowcount, bound, hupdate, hrest⟩ := hbind
  have hlater : later = bound := by
    split at hrest
    · exact (pure_ok.mp hrest).2.symm
    · simp only [bind_ok, get_ok, found_ok, require_ok] at hrest
      obtain ⟨_, _, ⟨rfl, rfl⟩, _, _, ⟨-, rfl⟩, -, rfl⟩ := hrest
      rfl
  subst hlater
  obtain ⟨-, sessions, hsessions, rfl, -⟩ := updateSessions_ok.mp hupdate
  exact .single (.bind _ _ (updated_of_update? hsessions))

theorem moves_authorizeReplacement {session : String} {authorization : ConnectorAuthorization}
    {value : Unit} {validScopes : List String}
    (hreplace : SharedOAuthProvider.authorizeReplacement deployment.sha256 ambient.now session
      authorization store = .ok (value, later)) : Moves validScopes ambient.now store later := by
  simp only [SharedOAuthProvider.authorizeReplacement, bind_ok, get_ok, require_ok] at hreplace
  obtain ⟨_, _, ⟨rfl, rfl⟩, _, _, ⟨hholds, rfl⟩, _, _, hupdate, -, rfl⟩ := hreplace
  obtain ⟨-, sessions, hsessions, rfl, -⟩ := updateSessions_ok.mp hupdate
  refine .single (.supersede _ _ _ ?_ (updated_of_update? hsessions))
  simp only [SharedOAuthProvider.holdsActive, List.any_eq_true, GrantRow.activeFor,
    Bool.and_eq_true, decide_eq_true_eq] at hholds
  obtain ⟨grant, hgrant, ⟨⟨⟨hconnector, -⟩, -⟩, -⟩, -⟩ := hholds
  exact ⟨grant, hgrant, hconnector⟩

/-- The three updates of a revocation. -/
theorem revocation_of_ok {now : Instant} {connectorId : String} {value : Unit}
    (hrevoke : SharedOAuthProvider.revokeConnectorInTransaction now connectorId store =
      .ok (value, later)) :
    Revocation now connectorId store later ∧ later.journal = store.journal := by
  simp only [SharedOAuthProvider.revokeConnectorInTransaction, bind_ok, get_ok, pure_ok] at hrevoke
  obtain ⟨_, _, ⟨rfl, rfl⟩, _, _, hfirst, _, _, hsecond, _, _, hthird, -, rfl⟩ := hrevoke
  obtain ⟨-, connectors, hconnectors, rfl, -⟩ := updateConnectors_ok.mp hfirst
  obtain ⟨-, grants, hgrants, rfl, -⟩ := updateGrants_ok.mp hsecond
  obtain ⟨tokens, htokens, rfl, -⟩ := updateTokens_ok.mp hthird
  exact ⟨⟨updated_of_update? hconnectors, updated_of_update? hgrants, updated_of_update? htokens,
    rfl, rfl⟩, rfl⟩

theorem moves_revokeConnector {authorization : ConnectorAuthorization} {value : Unit}
    {validScopes : List String}
    (hrevoke : deployment.provider.revokeConnector deployment.sha256 ambient authorization store =
      .ok (value, later)) : Moves validScopes ambient.now store later := by
  simp only [SharedOAuthProvider.revokeConnector, bind_ok, get_ok, require_ok, List.any_eq_true,
    Bool.and_eq_true, decide_eq_true_eq] at hrevoke
  obtain ⟨_, _, ⟨rfl, rfl⟩, _, _, ⟨⟨grant, hgrant, ⟨hconnector, -⟩, -⟩, rfl⟩, _, _, hrevoked,
    happend⟩ := hrevoke
  obtain ⟨journal, rfl⟩ := providerAudit_ok happend
  exact .journaled (.revoke ⟨grant, hgrant, hconnector⟩ (revocation_of_ok hrevoked).1) journal

theorem moves_revokeToken {token : String} {value : Unit} {validScopes : List String}
    (hrevoke : deployment.provider.revokeToken deployment.sha256 ambient token store =
      .ok (value, later)) : Moves validScopes ambient.now store later := by
  simp only [SharedOAuthProvider.revokeToken, bind_ok, get_ok] at hrevoke
  obtain ⟨_, _, ⟨rfl, rfl⟩, hrevoke⟩ := hrevoke
  cases htoken : store.tokens.find (deployment.sha256 token) with
  | none =>
      rw [htoken] at hrevoke
      obtain ⟨-, rfl⟩ := pure_ok.mp hrevoke
      exact .refl
  | some row =>
      rw [htoken] at hrevoke
      dsimp only at hrevoke
      cases hgrant : store.grants.find row.grantId with
      | none =>
          rw [hgrant] at hrevoke
          obtain ⟨-, rfl⟩ := pure_ok.mp hrevoke
          exact .refl
      | some grant =>
          rw [hgrant] at hrevoke
          obtain ⟨_, _, hrevoked, happend⟩ := bind_ok.mp hrevoke
          obtain ⟨journal, rfl⟩ := providerAudit_ok happend
          have hmem : grant ∈ store.grants := (Table.find_eq_some_iff.mp hgrant).1
          exact .journaled (.revoke ⟨grant, hmem, rfl⟩ (revocation_of_ok hrevoked).1) journal

theorem activationTarget_ok {session : String} {row : SessionRow} {connector : ConnectorRow}
    (htarget : SharedOAuthProvider.activationTarget deployment.sha256 ambient session store =
      .ok ((row, connector), later)) :
    store = later ∧ row ∈ store.sessions ∧ row.stateHash = deployment.sha256 session ∧
      row.status = .pending ∧ ambient.now < row.expiresAt ∧ row.connectorId = some connector.id ∧
        connector ∈ store.connectors ∧ connector.status = .pending ∧
          connector.allowedCompanyIds.isSome ∧ connector.defaultCompanyId.isSome ∧
            connector.enrollmentExpiresAt.any (ambient.now < ·) = true := by
  simp only [SharedOAuthProvider.activationTarget, bind_ok, get_ok, found_ok, require_ok, pure_ok,
    Bool.and_eq_true, decide_eq_true_eq] at htarget
  obtain ⟨_, _, ⟨rfl, rfl⟩, found, _, ⟨hfound, rfl⟩, _, _, ⟨⟨hpending, hopen⟩, rfl⟩, connectorId, _,
    ⟨hbound, rfl⟩, target, _, ⟨hfetched, rfl⟩, _, _, ⟨hunexpired, rfl⟩, hpair, rfl⟩ := htarget
  obtain ⟨rfl, rfl⟩ := Prod.ext_iff.mp hpair
  obtain ⟨hmem, hhash⟩ := Table.find_eq_some_iff.mp hfound
  obtain ⟨hconnector, hmatches⟩ := fetchone_filter hfetched
  simp only [Bool.and_eq_true, decide_eq_true_eq] at hmatches
  obtain ⟨⟨⟨rfl, hstatus⟩, hallowed⟩, hdefault⟩ := hmatches
  exact ⟨rfl, hmem, hhash, hpending, hopen, hbound, hconnector, hstatus, hallowed, hdefault,
    hunexpired⟩

theorem revokeSuperseded_ok {superseded : Option String} {value : Unit}
    (hrevoke : deployment.provider.revokeSuperseded deployment.sha256 ambient superseded store =
      .ok (value, later)) :
    ∃ revoked journal, ((superseded = none ∧ revoked = store) ∨
      ∃ connectorId, superseded = some connectorId ∧
        Revocation ambient.now connectorId store revoked) ∧
      later = { revoked with journal := journal } := by
  cases superseded with
  | none =>
      obtain ⟨-, rfl⟩ := pure_ok.mp hrevoke
      exact ⟨store, store.journal, .inl ⟨rfl, rfl⟩, rfl⟩
  | some connectorId =>
      simp only [SharedOAuthProvider.revokeSuperseded, bind_ok, get_ok] at hrevoke
      obtain ⟨_, _, ⟨rfl, rfl⟩, _, revoked, hrevoked, happend⟩ := hrevoke
      have hrevocation := (revocation_of_ok hrevoked).1
      cases hold : fetchone ambient.order
          (store.connectors.rows.filter fun row => row.id = connectorId) with
      | some row =>
          rw [hold] at happend
          obtain ⟨journal, rfl⟩ := providerAudit_ok happend
          exact ⟨revoked, journal, .inr ⟨connectorId, rfl, hrevocation⟩, rfl⟩
      | none =>
          rw [hold] at happend
          obtain ⟨-, rfl⟩ := pure_ok.mp happend
          exact ⟨revoked, revoked.journal, .inr ⟨connectorId, rfl, hrevocation⟩, rfl⟩

/-- What an activation that succeeds has found and done. -/
theorem activateConnector_ok {session : String} {consent : Bool} {redirect : Redirect}
    (hactivate : deployment.provider.activateConnector deployment.sha256 ambient session consent
      store = .ok (redirect, later)) :
    consent = true ∧ redirect.code = ambient.random 0 ∧ ∃ row connector grant,
      Activatable ambient.now store row connector grant ∧
        row.stateHash = deployment.sha256 session ∧
          ∃ granted revoked, Activation ambient.now connector grant store granted ∧
            ((row.supersededConnectorId = none ∧ revoked = granted) ∨
              ∃ superseded, row.supersededConnectorId = some superseded ∧
                Revocation ambient.now superseded granted revoked) ∧
            Updated (fun other => other.stateHash = row.stateHash && other.status = .pending)
              (fun other => { other with
                authorizationCodeHash := some (deployment.sha256 (ambient.random 0))
                status := .authorized })
              store.sessions later.sessions ∧
            later.connectors = revoked.connectors ∧ later.grants = revoked.grants ∧
              later.tokens = revoked.tokens ∧ later.clients = store.clients := by
  simp only [SharedOAuthProvider.activateConnector, bind_ok, require_ok, pure_ok] at hactivate
  obtain ⟨_, _, ⟨hconsent, rfl⟩, ⟨row, connector⟩, _, htarget, _, inserted, hinsert, _, updated,
    hupdate, _, audited, haudit, _, superseded, hsupersede, _, _, hauthorized, rfl,
      rfl⟩ := hactivate
  obtain ⟨rfl, hrow, hhash, hpending, hopen, hbound, hconnector, hstatus, hallowed, hdefault,
    hunexpired⟩ := activationTarget_ok htarget
  obtain ⟨-, grants, hgrants, rfl⟩ := insertGrant_ok.mp hinsert
  obtain ⟨hcomplete, connectors, hconnectors, rfl, -⟩ := updateConnectors_ok.mp hupdate
  obtain ⟨journal, rfl⟩ := providerAudit_ok haudit
  obtain ⟨revoked, last, hrevoked, rfl⟩ := revokeSuperseded_ok hsupersede
  obtain ⟨-, sessions, hsessions, rfl, -⟩ := updateSessions_ok.mp hauthorized
  have hconsumed : connector.consumedEnrollmentHandleHash.isSome := by
    have hupdated := hcomplete connector hconnector (by simp [hstatus])
    simp [SharedStore.connectorUpdate, ConnectorRow.complete, hstatus] at hupdated
    exact hupdated.1.2.1.2
  have hkept : revoked.sessions = store.sessions ∧ revoked.clients = store.clients := by
    rcases hrevoked with ⟨-, rfl⟩ | ⟨_, -, hrevocation⟩
    · exact ⟨rfl, rfl⟩
    · exact ⟨hrevocation.sessions, hrevocation.clients⟩
  have hupdated := updated_of_update? hsessions
  rw [hkept.1] at hupdated
  dsimp only at hgrants hconnectors hrevoked
  refine ⟨hconsent, rfl, row, connector, _, ?_, hhash,
    ⟨journal, connectors, store.clients, store.sessions, grants, store.tokens⟩, revoked,
    ⟨updated_of_update? hconnectors, inserted_of_insert? hgrants, rfl, rfl, rfl⟩, hrevoked, ?_,
    rfl, rfl, rfl, hkept.2⟩
  · exact ⟨hrow, hpending, hopen, hbound, hconnector, hstatus, hallowed, hdefault, hconsumed,
      hunexpired, rfl, rfl, rfl, rfl, rfl, rfl⟩
  · rw [hhash]
    exact hupdated

theorem moves_activateConnector {session : String} {consent : Bool} {redirect : Redirect}
    {validScopes : List String}
    (hactivate : deployment.provider.activateConnector deployment.sha256 ambient session consent
      store = .ok (redirect, later)) : Moves validScopes ambient.now store later := by
  obtain ⟨-, -, row, connector, grant, hactivatable, -, granted, revoked, hactivation, hsuperseded,
    hsessions, hconnectors, hgrants, htokens, hclients⟩ :=
      activateConnector_ok hactivate
  exact .single (.activate hactivatable hactivation hsuperseded hsessions hconnectors hgrants
    htokens hclients)

/-- What `_issue_tokens` has done when it does not raise. -/
theorem issueTokens_ok {grantId : String} {scopes : List String} {issued : OAuthToken}
    (hissue : SharedOAuthProvider.issueTokens deployment.sha256 ambient grantId scopes store =
      .ok (issued, later)) :
    issued.accessToken = ambient.random 0 ∧ issued.refreshToken = ambient.random 1 ∧
      ∃ tokens, later = { store with tokens := tokens } ∧ ∃ access refresh middle,
        access.tokenHash = deployment.sha256 (ambient.random 0) ∧
          refresh.tokenHash = deployment.sha256 (ambient.random 1) ∧
            access.scopes = scopes ∧ refresh.scopes = scopes ∧
              (∀ grant ∈ store.grants, grant.id = grantId →
                access.Fresh grant .access ambient.now ∧ refresh.Fresh grant .refresh ambient.now) ∧
                Inserted access store.tokens middle ∧ Inserted refresh middle tokens := by
  simp only [SharedOAuthProvider.issueTokens, bind_ok, lift_ok, addLifetime_ok, pure_ok] at hissue
  obtain ⟨accessExpires, _, ⟨⟨rfl, -⟩, rfl⟩, refreshExpires, _, ⟨⟨rfl, -⟩, rfl⟩, _, _, hfirst, _, _,
    hsecond, rfl, rfl⟩ := hissue
  obtain ⟨hscopes, -, middle, hmiddle, rfl⟩ := insertToken_ok.mp hfirst
  obtain ⟨-, -, tokens, htokens, rfl⟩ := insertToken_ok.mp hsecond
  obtain ⟨hsome, hsubset⟩ := tokenScopes_iff.mp hscopes
  refine ⟨rfl, rfl, tokens, rfl, _, _, middle, rfl, rfl, rfl, rfl, ?_,
    inserted_of_insert? hmiddle, inserted_of_insert? htokens⟩
  rintro grant hgrant rfl
  have hwithin : ∀ scope ∈ scopes, scope ∈ grant.scopes := by
    intro scope hscope
    obtain ⟨other, hother, hid, hmem⟩ := hsubset scope hscope
    rwa [eq_of_key_eq hother hgrant hid] at hmem
  exact ⟨⟨rfl, rfl, hwithin, hsome, rfl, rfl, rfl, rfl⟩,
    ⟨rfl, rfl, hwithin, hsome, rfl, rfl, rfl, rfl⟩⟩

theorem issued_of_issueTokens {grant : GrantRow} {scopes : List String} {issued : OAuthToken}
    (hgrant : grant ∈ store.grants)
    (hissue : SharedOAuthProvider.issueTokens deployment.sha256 ambient grant.id scopes store =
      .ok (issued, later)) :
    ∃ tokens, later = { store with tokens := tokens } ∧
      Issued grant ambient.now store.tokens tokens := by
  obtain ⟨-, -, tokens, rfl, access, refresh, middle, -, -, -, -, hfresh, hmiddle, htokens⟩ :=
    issueTokens_ok hissue
  obtain ⟨haccess, hrefresh⟩ := hfresh grant hgrant rfl
  exact ⟨tokens, rfl, access, refresh, middle, haccess, hrefresh, hmiddle, htokens⟩

theorem mem_codeGrants {codeHash clientId : String} {session : SessionRow} {grant : GrantRow} :
    (session, grant) ∈ SharedOAuthProvider.codeGrants store codeHash clientId ↔
      session ∈ store.sessions ∧ grant ∈ store.grants ∧
        session.connectorId = some grant.connectorId ∧ grant.clientId = session.clientId ∧
          grant.status = .active ∧ session.authorizationCodeHash = some codeHash ∧
            session.clientId = clientId ∧ session.status = .authorized := by
  simp only [SharedOAuthProvider.codeGrants, List.mem_filter, List.pair_mem_product, mem_rows,
    Bool.and_eq_true, decide_eq_true_eq]
  tauto

/-- What a code exchange that succeeds has found and done. -/
theorem exchangeAuthorizationCode_ok {client : OAuthClientInformation} {code : AuthorizationCode}
    {issued : OAuthToken}
    (hexchange : SharedOAuthProvider.exchangeAuthorizationCode deployment.sha256 ambient client code
      store = .ok (issued, later)) :
    ∃ session grant, session ∈ store.sessions ∧ grant ∈ store.grants ∧
      session.connectorId = some grant.connectorId ∧ grant.clientId = session.clientId ∧
        grant.status = .active ∧
          session.authorizationCodeHash = some (deployment.sha256 code.code) ∧
            session.clientId = client.clientId ∧ session.status = .authorized ∧
              ∃ sessions, Updated
                (fun other => other.stateHash = session.stateHash && other.status = .authorized)
                (fun other => { other with
                  status := .consumed
                  consumedAt := some ambient.now })
                store.sessions sessions ∧
                SharedOAuthProvider.issueTokens deployment.sha256 ambient grant.id code.scopes
                  { store with sessions := sessions } = .ok (issued, later) := by
  simp only [SharedOAuthProvider.exchangeAuthorizationCode, bind_ok, get_ok, found_ok] at hexchange
  obtain ⟨_, _, ⟨rfl, rfl⟩, ⟨session, grant⟩, _, ⟨hfetched, rfl⟩, _, _, hupdate,
    hissue⟩ := hexchange
  obtain ⟨hsession, hgrant, hbound, hclient, hactive, hcode, hholder, hauthorized⟩ :=
    mem_codeGrants.mp (mem_of_fetchone hfetched)
  obtain ⟨-, sessions, hsessions, rfl, -⟩ := updateSessions_ok.mp hupdate
  exact ⟨session, grant, hsession, hgrant, hbound, hclient, hactive, hcode, hholder, hauthorized,
    sessions, updated_of_update? hsessions, hissue⟩

theorem moves_exchangeAuthorizationCode {client : OAuthClientInformation}
    {code : AuthorizationCode} {issued : OAuthToken} {validScopes : List String}
    (hexchange : SharedOAuthProvider.exchangeAuthorizationCode deployment.sha256 ambient client code
      store = .ok (issued, later)) : Moves validScopes ambient.now store later := by
  obtain ⟨session, grant, hsession, hgrant, hbound, -, hactive, -, -, hauthorized, sessions,
    hsessions, hissue⟩ := exchangeAuthorizationCode_ok hexchange
  have hstored : grant ∈ ({ store with sessions := sessions } : SharedStore).grants := hgrant
  obtain ⟨tokens, rfl, htokens⟩ := issued_of_issueTokens hstored hissue
  exact .single (.exchange hsession hauthorized hgrant hbound hactive hsessions htokens)

theorem mem_tokenGrants {now : Instant} {tokenHash : String} {tokenType : TokenType}
    {row : TokenRow} {grant : GrantRow} :
    (row, grant) ∈ SharedOAuthProvider.tokenGrants store now tokenHash tokenType ↔
      row ∈ store.tokens ∧ grant ∈ store.grants ∧ grant.id = row.grantId ∧
        row.tokenHash = tokenHash ∧ row.tokenType = tokenType ∧ row.revokedAt = none ∧
          row.rotatedAt = none ∧ now < row.expiresAt ∧ grant.status = .active ∧
            ∃ connector ∈ store.connectors, connector.tenantId = grant.tenantId ∧
              connector.id = grant.connectorId ∧ connector.status = .active := by
  simp only [SharedOAuthProvider.tokenGrants, List.mem_filter, List.pair_mem_product, mem_rows,
    Bool.and_eq_true, decide_eq_true_eq, Option.isNone_iff_eq_none, List.any_eq_true]
  tauto

/-- What `_token_row` has found when it finds something. -/
theorem tokenRow_ok {token : String} {tokenType : TokenType} {clientId : Option String}
    {live : Option (TokenRow × GrantRow)}
    (hlive : SharedOAuthProvider.tokenRow deployment.sha256 ambient token tokenType clientId store =
      .ok (live, later)) :
    store = later ∧ ∀ row grant, live = some (row, grant) →
      (row, grant) ∈ SharedOAuthProvider.tokenGrants store ambient.now (deployment.sha256 token)
        tokenType := by
  simp only [SharedOAuthProvider.tokenRow, bind_ok, get_ok, pure_ok] at hlive
  obtain ⟨_, _, ⟨rfl, rfl⟩, rfl, rfl⟩ := hlive
  refine ⟨rfl, fun row grant hfound => ?_⟩
  exact mem_of_fetchone (Option.eq_some_of_filter_eq_some hfound)

/-- What a token rotation that succeeds has found and done. -/
theorem exchangeRefreshToken_ok {client : OAuthClientInformation} {refreshToken : RefreshToken}
    {scopes : List String} {issued : OAuthToken}
    (hexchange : SharedOAuthProvider.exchangeRefreshToken deployment.sha256 ambient client
      refreshToken scopes store = .ok (issued, later)) :
    ∃ row grant, (row, grant) ∈ SharedOAuthProvider.tokenGrants store ambient.now
      (deployment.sha256 refreshToken.token) .refresh ∧ ∃ rotated revoked,
        Updated (fun other => other.tokenHash = row.tokenHash)
          (fun other => { other with rotatedAt := some ambient.now }) store.tokens rotated ∧
          Updated
            (fun other => other.grantId = grant.id && other.tokenType = .access &&
              other.revokedAt.isNone)
            (fun other => { other with revokedAt := some ambient.now }) rotated revoked ∧
            SharedOAuthProvider.issueTokens deployment.sha256 ambient grant.id row.scopes
              { store with tokens := revoked } = .ok (issued, later) := by
  simp only [SharedOAuthProvider.exchangeRefreshToken, bind_ok, require_ok, found_ok] at hexchange
  obtain ⟨_, _, ⟨-, rfl⟩, live, _, hlive, ⟨row, grant⟩, _, ⟨hfound, rfl⟩, _, _, ⟨-, rfl⟩, _, _,
    hfirst, _, _, hsecond, hissue⟩ := hexchange
  obtain ⟨rfl, hmem⟩ := tokenRow_ok hlive
  have hpair := hmem row grant hfound
  obtain ⟨rotated, hrotated, rfl, -⟩ := updateTokens_ok.mp hfirst
  obtain ⟨revoked, hrevoked, rfl, -⟩ := updateTokens_ok.mp hsecond
  refine ⟨row, grant, hpair, rotated, revoked, ?_, updated_of_update? hrevoked, hissue⟩
  have hhash := (mem_tokenGrants.mp hpair).2.2.2.1
  rw [hhash]
  exact updated_of_update? hrotated

theorem moves_exchangeRefreshToken {client : OAuthClientInformation} {refreshToken : RefreshToken}
    {scopes : List String} {issued : OAuthToken} {validScopes : List String}
    (hexchange : SharedOAuthProvider.exchangeRefreshToken deployment.sha256 ambient client
      refreshToken scopes store = .ok (issued, later)) :
    Moves validScopes ambient.now store later := by
  obtain ⟨row, grant, hpair, rotated, revoked, hrotated, hrevoked, hissue⟩ :=
    exchangeRefreshToken_ok hexchange
  obtain ⟨hrow, hgrant, hof, -, htype, hunrevoked, hunrotated, hunexpired, hactive, -⟩ :=
    mem_tokenGrants.mp hpair
  have hstored : grant ∈ ({ store with tokens := revoked } : SharedStore).grants := hgrant
  obtain ⟨tokens, rfl, htokens⟩ := issued_of_issueTokens hstored hissue
  exact .single (.refresh hrow htype hunrotated hunrevoked hunexpired hgrant hof hactive hrotated
    hrevoked htokens)

/-- What the write transaction of `prepare_enrollment` has done when it does not raise. -/
theorem insertPrepared_ok {keyring : EncryptionKeyring} {credentials : OdooEnrollmentCredentials}
    {handle : String} {verified : VerifiedEnrollment} {prepared : PreparedEnrollment}
    (hinsert : SharedConnectorLifecycle.insertPrepared deployment.sha256 deployment.cipher keyring
      ambient credentials handle verified store = .ok (prepared, later)) :
    (∃ row ∈ store.connectors, row.enrollmentHandleHash = some (deployment.sha256 handle) ∧
      SharedConnectorLifecycle.restorePrepared deployment.cipher keyring ambient.now row credentials
        handle verified = .ok prepared ∧ later = store) ∨
      ((∀ row ∈ store.connectors, row.enrollmentHandleHash ≠ some (deployment.sha256 handle)) ∧
        ∃ connectors journal, Inserted
          (SharedConnectorLifecycle.preparedRow (ambient.random 0) ambient.now
            (ambient.now + sessionTtl)
            (keyring.encrypt deployment.cipher ambient.nonce (tenantOf (ambient.random 0))
              (ambient.random 0) credentials.apiKey)
            credentials (deployment.sha256 handle) verified)
          store.connectors connectors ∧
          later = { store with
            connectors := connectors
            journal := journal } ∧
          prepared = ⟨handle, ambient.random 0, tenantOf (ambient.random 0),
            ambient.now + sessionTtl, verified.companies⟩) := by
  simp only [SharedConnectorLifecycle.insertPrepared, bind_ok, lift_ok, addLifetime_ok, get_ok]
    at hinsert
  obtain ⟨expires, _, ⟨⟨rfl, -⟩, rfl⟩, _, _, ⟨rfl, rfl⟩, hinsert⟩ := hinsert
  cases hfound : fetchone ambient.order (store.connectors.rows.filter fun row =>
      row.enrollmentHandleHash = some (deployment.sha256 handle)) with
  | some row =>
      rw [hfound] at hinsert
      obtain ⟨hrestored, rfl⟩ := lift_ok.mp hinsert
      obtain ⟨hrow, hhandle⟩ := fetchone_filter hfound
      exact .inl ⟨row, hrow, by simpa using hhandle, hrestored, rfl⟩
  | none =>
      rw [hfound] at hinsert
      simp only [bind_ok, pure_ok] at hinsert
      obtain ⟨_, _, hrow, _, _, happend, rfl, rfl⟩ := hinsert
      obtain ⟨-, -, connectors, hconnectors, rfl⟩ := insertConnector_ok.mp hrow
      obtain ⟨journal, rfl⟩ := sameTables_appendAudit happend
      refine .inr ⟨?_, connectors, journal, inserted_of_insert? hconnectors, rfl, rfl⟩
      intro row hrow
      simpa using fetchone_filter_eq_none.mp hfound row hrow

theorem moves_insertPrepared {keyring : EncryptionKeyring}
    {credentials : OdooEnrollmentCredentials} {handle : String} {verified : VerifiedEnrollment}
    {prepared : PreparedEnrollment} {validScopes : List String}
    (hinsert : SharedConnectorLifecycle.insertPrepared deployment.sha256 deployment.cipher keyring
      ambient credentials handle verified store = .ok (prepared, later)) :
    Moves validScopes ambient.now store later := by
  rcases insertPrepared_ok hinsert with ⟨-, -, -, -, rfl⟩ |
    ⟨hfree, connectors, journal, hinserted, rfl, -⟩
  · exact .refl
  · exact .journaled
      (.prepare ⟨rfl, rfl, rfl, rfl, rfl, rfl, rfl, rfl, rfl⟩ hfree hinserted) journal

/-- What a commit of a selection that succeeds has found and done. -/
theorem commitEnrollment_ok {handle : String} {allowed : List Int} {default : Int}
    {committed : CommittedEnrollment}
    (hcommit : SharedConnectorLifecycle.commitEnrollment deployment.sha256 ambient handle allowed
      default store = .ok (committed, later)) :
    ∃ row ∈ store.connectors, row.status = .pending ∧
      row.enrollmentExpiresAt.any (ambient.now < ·) = true ∧
        row.Selects (fromkeys allowed) default ∧
          committed = ⟨row.id, row.tenantId, fromkeys allowed, default⟩ ∧
            ((∃ consumed, row.consumedEnrollmentHandleHash = some consumed ∧
              (row.enrollmentHandleHash = some (deployment.sha256 handle) ∨
                consumed = deployment.sha256 handle) ∧
                row.allowedCompanyIds = some (fromkeys allowed) ∧
                  row.defaultCompanyId = some default ∧ later = store) ∨
              (row.consumedEnrollmentHandleHash = none ∧
                row.enrollmentHandleHash = some (deployment.sha256 handle) ∧
                  ∃ connectors journal, Updated
                    (fun other => other.tenantId = row.tenantId && other.id = row.id &&
                      other.status = .pending)
                    (fun other => { other with
                      allowedCompanyIds := some (fromkeys allowed)
                      defaultCompanyId := some default
                      enrollmentHandleHash := none
                      consumedEnrollmentHandleHash := some (deployment.sha256 handle)
                      updatedAt := ambient.now })
                    store.connectors connectors ∧
                    later = { store with
                      connectors := connectors
                      journal := journal })) := by
  simp only [SharedConnectorLifecycle.commitEnrollment, bind_ok, require_ok, get_ok, found_ok,
    Bool.and_eq_true, decide_eq_true_eq, Bool.not_eq_true', List.all_eq_true,
    List.contains_iff_mem] at hcommit
  obtain ⟨_, _, ⟨hvalid, rfl⟩, _, _, ⟨rfl, rfl⟩, row, _, ⟨hfetched, rfl⟩, _, _,
    ⟨⟨hpending, hunexpired⟩, rfl⟩, _, _, ⟨-, rfl⟩, _, _, ⟨hdiscovered, rfl⟩, hrest⟩ := hcommit
  obtain ⟨hrow, hmatches⟩ := fetchone_filter hfetched
  simp only [Bool.or_eq_true, decide_eq_true_eq] at hmatches
  simp only [SharedConnectorLifecycle.validSelection, Bool.and_eq_true, Bool.not_eq_true',
    List.isEmpty_eq_false_iff, List.all_eq_true, decide_eq_true_eq, List.contains_iff_mem]
    at hvalid
  have hselects : row.Selects (fromkeys allowed) default :=
    ⟨hvalid.1.1, nodup_fromkeys allowed, hvalid.1.2, hvalid.2, hdiscovered⟩
  have hopen : row.enrollmentExpiresAt.any (ambient.now < ·) = true := by
    unfold SharedConnectorLifecycle.isExpired at hunexpired
    cases hexpires : row.enrollmentExpiresAt with
    | none => simp [hexpires] at hunexpired
    | some expires => simpa [hexpires] using hunexpired
  cases hconsumed : row.consumedEnrollmentHandleHash with
  | some consumed =>
      rw [hconsumed] at hrest hmatches
      simp only [bind_ok, require_ok, pure_ok, Bool.and_eq_true, decide_eq_true_eq] at hrest
      obtain ⟨_, _, ⟨⟨hallowed, hdefault⟩, rfl⟩, rfl, rfl⟩ := hrest
      refine ⟨row, hrow, hpending, hopen, hselects, rfl, .inl ⟨consumed, hconsumed, ?_, hallowed,
        hdefault, rfl⟩⟩
      simpa using hmatches
  | none =>
      rw [hconsumed] at hrest hmatches
      simp only [bind_ok, pure_ok] at hrest
      obtain ⟨_, _, hupdate, _, _, happend, rfl, rfl⟩ := hrest
      obtain ⟨-, connectors, hconnectors, rfl, -⟩ := updateConnectors_ok.mp hupdate
      obtain ⟨journal, rfl⟩ := sameTables_appendAudit happend
      exact ⟨row, hrow, hpending, hopen, hselects, rfl, .inr ⟨hconsumed, by simpa using hmatches,
        connectors, journal, updated_of_update? hconnectors, rfl⟩⟩

theorem moves_commitEnrollment {handle : String} {allowed : List Int} {default : Int}
    {committed : CommittedEnrollment} {validScopes : List String}
    (hcommit : SharedConnectorLifecycle.commitEnrollment deployment.sha256 ambient handle allowed
      default store = .ok (committed, later)) : Moves validScopes ambient.now store later := by
  obtain ⟨row, hrow, hpending, hopen, hselects, -, ⟨-, -, -, -, -, rfl⟩ |
    ⟨hconsumed, hhandle, connectors, journal, hupdated, rfl⟩⟩ := commitEnrollment_ok hcommit
  · exact .refl
  · exact .journaled (.select hrow hpending hopen hhandle hconsumed hselects hupdated) journal

theorem moves_expirePending {rowcount : Nat} {now : Instant} {validScopes : List String}
    (hexpire : SharedConnectorLifecycle.expirePending now store = .ok (rowcount, later)) :
    Moves validScopes now store later := by
  obtain ⟨-, connectors, hconnectors, rfl, -⟩ := updateConnectors_ok.mp hexpire
  exact .single (.expire (updated_of_update? hconnectors))

theorem moves_discardPending {tenantId connectorId : String} {value : Unit} {now : Instant}
    {validScopes : List String}
    (hdiscard : SharedConnectorLifecycle.discardPending tenantId connectorId store =
      .ok (value, later)) : Moves validScopes now store later := by
  simp only [SharedConnectorLifecycle.discardPending, bind_ok, get_ok] at hdiscard
  obtain ⟨_, _, ⟨rfl, rfl⟩, hdiscard⟩ := hdiscard
  obtain ⟨hforeign, rfl⟩ := deleteConnectors_ok.mp hdiscard
  refine .single (.discard (fun row hrow => (mem_delete.mp hrow).1) fun row hrow => ?_)
  cases hcondition : (row.tenantId = tenantId && row.id = connectorId && row.status = .pending &&
      !store.grants.rows.any fun grant =>
        grant.tenantId = tenantId && grant.connectorId = connectorId) with
  | false => exact .inl (mem_delete.mpr ⟨hrow, hcondition⟩)
  | true =>
      refine .inr ⟨?_, hforeign row hrow hcondition⟩
      simp only [Bool.and_eq_true, decide_eq_true_eq] at hcondition
      exact hcondition.1.2

theorem moves_rotate {keyring : EncryptionKeyring}
    {tenantId connectionId requestId subject mcpClient : String} {value : Bool}
    {validScopes : List String}
    (hrotate : EncryptedConnectionRepository.rotate deployment.sha256 deployment.cipher keyring
      ambient tenantId connectionId requestId subject mcpClient store = .ok (value, later)) :
    Moves validScopes ambient.now store later := by
  simp only [EncryptedConnectionRepository.rotate, bind_ok, get_ok, found_ok, require_ok]
    at hrotate
  obtain ⟨_, _, ⟨-, rfl⟩, _, _, ⟨rfl, rfl⟩, row, _, ⟨-, rfl⟩, hrotate⟩ := hrotate
  split at hrotate
  · obtain ⟨-, rfl⟩ := pure_ok.mp hrotate
    exact .refl
  · simp only [bind_ok, lift_ok, require_ok, pure_ok] at hrotate
    obtain ⟨sealed, _, ⟨-, rfl⟩, _, _, hupdate, _, _, ⟨-, rfl⟩, _, _, happend, -, rfl⟩ := hrotate
    obtain ⟨-, connectors, hconnectors, rfl, -⟩ := updateConnectors_ok.mp hupdate
    obtain ⟨journal, rfl⟩ := sameTables_appendAudit happend
    exact .journaled (.reseal _ _ _ sealed (updated_of_update? hconnectors)) journal

/-! ### Operations that only read -/

theorem sessionSummary_ok {session : String} {summary : SessionSummary}
    (hsummary : SharedOAuthProvider.sessionSummary deployment.sha256 ambient session store =
      .ok (summary, later)) :
    store = later ∧ ∃ row ∈ store.sessions, row.isOpen (deployment.sha256 session) ambient.now ∧
      summary = SharedOAuthProvider.summaryOf row (fetchone ambient.order
        (store.connectors.rows.filter fun connector => some connector.id = row.connectorId)) := by
  simp only [SharedOAuthProvider.sessionSummary, bind_ok, get_ok, found_ok, pure_ok] at hsummary
  obtain ⟨_, _, ⟨rfl, rfl⟩, row, _, ⟨hfetched, rfl⟩, rfl, rfl⟩ := hsummary
  obtain ⟨hrow, hopen⟩ := fetchone_filter hfetched
  exact ⟨rfl, row, hrow, hopen, rfl⟩

/-- What `load_authorization_code` has found when it finds something. -/
theorem loadAuthorizationCode_ok {client : OAuthClientInformation} {code : String}
    {loaded : Option AuthorizationCode}
    (hload : SharedOAuthProvider.loadAuthorizationCode deployment.sha256 ambient client code store =
      .ok (loaded, later)) :
    store = later ∧ ∀ found, loaded = some found → found.code = code ∧
      ∃ row ∈ store.sessions, row.authorizationCodeHash = some (deployment.sha256 code) ∧
        row.clientId = client.clientId ∧ row.status = .authorized ∧ ambient.now < row.expiresAt ∧
          found.scopes = row.scopes := by
  simp only [SharedOAuthProvider.loadAuthorizationCode, bind_ok, get_ok] at hload
  obtain ⟨_, _, ⟨rfl, rfl⟩, hload⟩ := hload
  cases hfetched : fetchone ambient.order (store.sessions.rows.filter fun row =>
      row.authorizationCodeHash = some (deployment.sha256 code) &&
        row.clientId = client.clientId && row.status = .authorized) with
  | none =>
      rw [hfetched] at hload
      obtain ⟨rfl, rfl⟩ := pure_ok.mp hload
      exact ⟨rfl, fun found hfound => by cases hfound⟩
  | some row =>
      rw [hfetched] at hload
      obtain ⟨hrow, hmatches⟩ := fetchone_filter hfetched
      simp only [Bool.and_eq_true, decide_eq_true_eq] at hmatches
      dsimp only at hload
      split at hload
      · obtain ⟨rfl, rfl⟩ := pure_ok.mp hload
        exact ⟨rfl, fun found hfound => by cases hfound⟩
      · rename_i hexpires
        simp only [bind_ok, lift_ok, pure_ok] at hload
        obtain ⟨_, _, ⟨-, rfl⟩, rfl, rfl⟩ := hload
        refine ⟨rfl, ?_⟩
        rintro _ ⟨⟩
        exact ⟨rfl, row, hrow, hmatches.1.1, hmatches.1.2, hmatches.2, Nat.lt_of_not_le hexpires,
          rfl⟩

theorem findPrepared_ok {keyring : EncryptionKeyring} {credentials : OdooEnrollmentCredentials}
    {handle : String} {verified : VerifiedEnrollment} {prepared : Option PreparedEnrollment}
    (hfind : SharedConnectorLifecycle.findPrepared deployment.sha256 deployment.cipher keyring
      ambient credentials handle verified store = .ok (prepared, later)) :
    store = later ∧
      ((prepared = none ∧ ∀ row ∈ store.connectors,
        row.enrollmentHandleHash ≠ some (deployment.sha256 handle)) ∨
        ∃ restored, prepared = some restored ∧ ∃ row ∈ store.connectors,
          row.enrollmentHandleHash = some (deployment.sha256 handle) ∧
            SharedConnectorLifecycle.restorePrepared deployment.cipher keyring ambient.now row
              credentials handle verified = .ok restored) := by
  simp only [SharedConnectorLifecycle.findPrepared, bind_ok, get_ok] at hfind
  obtain ⟨_, _, ⟨rfl, rfl⟩, hfind⟩ := hfind
  cases hfetched : fetchone ambient.order (store.connectors.rows.filter fun row =>
      row.enrollmentHandleHash = some (deployment.sha256 handle)) with
  | none =>
      rw [hfetched] at hfind
      obtain ⟨rfl, rfl⟩ := pure_ok.mp hfind
      refine ⟨rfl, .inl ⟨rfl, fun row hrow => ?_⟩⟩
      simpa using fetchone_filter_eq_none.mp hfetched row hrow
  | some row =>
      rw [hfetched] at hfind
      simp only [bind_ok, lift_ok, pure_ok] at hfind
      obtain ⟨restored, _, ⟨hrestored, rfl⟩, rfl, rfl⟩ := hfind
      obtain ⟨hrow, hmatches⟩ := fetchone_filter hfetched
      exact ⟨rfl, .inr ⟨restored, rfl, row, hrow, by simpa using hmatches, hrestored⟩⟩

theorem resolveAuthorized_ok {keyring : EncryptionKeyring} {authorization : ConnectorAuthorization}
    {settings : Option OdooConnectionSettings}
    (hresolve : EncryptedConnectionRepository.resolveAuthorized deployment.cipher
      deployment.acceptsUrl keyring ambient authorization store = .ok (settings, later)) :
    store = later := by
  simp only [EncryptedConnectionRepository.resolveAuthorized, bind_ok, get_ok] at hresolve
  obtain ⟨_, _, ⟨rfl, rfl⟩, hresolve⟩ := hresolve
  cases hfetched : fetchone ambient.order
      (EncryptedConnectionRepository.authorizedRows store authorization) with
  | none =>
      rw [hfetched] at hresolve
      exact (pure_ok.mp hresolve).2
  | some row =>
      rw [hfetched] at hresolve
      simp only [bind_ok, lift_ok, pure_ok] at hresolve
      obtain ⟨_, _, ⟨-, rfl⟩, -, rfl⟩ := hresolve
      rfl

/-- **Operations are moves.** An operation that does not raise changes the store by a move at its
clock reading, if at all, and an append to the journal. -/
theorem moves_of_statements {request : SharedRequest} {value : request.Result}
    (hexecuted : deployment.statements ambient request store = .ok (value, later)) :
    Moves deployment.provider.validScopes ambient.now store later := by
  cases request with
  | registerClient client =>
      obtain ⟨_, _, hlift, hinsert⟩ := bind_ok.mp hexecuted
      obtain ⟨-, rfl⟩ := lift_ok.mp hlift
      exact moves_insertClient hinsert
  | invalidateClient clientId =>
      obtain ⟨_, _, hupdate, hpure⟩ := bind_ok.mp hexecuted
      obtain ⟨-, rfl⟩ := pure_ok.mp hpure
      exact updated_of_updateClients hupdate
  | storeClient clientId metadata => exact moves_storeClient hexecuted
  | authorize client params => exact moves_authorize hexecuted
  | sessionSummary session =>
      obtain ⟨rfl, -⟩ := sessionSummary_ok hexecuted
      exact .refl
  | bindConnector session connectorId => exact moves_bindConnector hexecuted
  | authorizeReplacement session authorization => exact moves_authorizeReplacement hexecuted
  | activateConnector session consent => exact moves_activateConnector hexecuted
  | revokeConnector authorization => exact moves_revokeConnector hexecuted
  | loadAuthorizationCode client authorizationCode =>
      obtain ⟨rfl, -⟩ := loadAuthorizationCode_ok hexecuted
      exact .refl
  | exchangeAuthorizationCode client authorizationCode =>
      exact moves_exchangeAuthorizationCode hexecuted
  | loadRefreshToken client token =>
      obtain ⟨_, _, hlive, hpure⟩ := bind_ok.mp hexecuted
      obtain ⟨rfl, -⟩ := tokenRow_ok hlive
      obtain ⟨-, rfl⟩ := pure_ok.mp hpure
      exact .refl
  | exchangeRefreshToken client refreshToken scopes => exact moves_exchangeRefreshToken hexecuted
  | loadAccessToken token =>
      obtain ⟨_, _, hlive, hpure⟩ := bind_ok.mp hexecuted
      obtain ⟨rfl, -⟩ := tokenRow_ok hlive
      obtain ⟨-, rfl⟩ := pure_ok.mp hpure
      exact .refl
  | authorizationForAccessToken token =>
      obtain ⟨_, _, hlive, hpure⟩ := bind_ok.mp hexecuted
      obtain ⟨rfl, -⟩ := tokenRow_ok hlive
      obtain ⟨-, rfl⟩ := pure_ok.mp hpure
      exact .refl
  | loadToken token tokenType clientId =>
      obtain ⟨rfl, -⟩ := tokenRow_ok hexecuted
      exact .refl
  | revokeToken token => exact moves_revokeToken hexecuted
  | findPrepared keyring credentials handle verified =>
      obtain ⟨rfl, -⟩ := findPrepared_ok hexecuted
      exact .refl
  | insertPrepared keyring credentials handle verified => exact moves_insertPrepared hexecuted
  | commitEnrollment handle allowedCompanyIds defaultCompanyId =>
      exact moves_commitEnrollment hexecuted
  | expirePending => exact moves_expirePending hexecuted
  | discardPending tenantId connectorId => exact moves_discardPending hexecuted
  | resolveAuthorized keyring authorization =>
      obtain rfl := resolveAuthorized_ok hexecuted
      exact .refl
  | rotate keyring tenantId connectionId requestId authenticatedSubject mcpClient =>
      exact moves_rotate hexecuted

end Operations

/-! ### Runs as moves -/

section Runs

variable {deployment : SharedDeployment} {store later : SharedStore}

theorem SharedDeployment.Step.moves {event : SharedEvent}
    (hstep : deployment.Step store event later) :
    Moves deployment.provider.validScopes event.ambient.now store later := by
  unfold SharedDeployment.Step SharedDeployment.execute at hstep
  cases hanswer : event.answer with
  | ok value =>
      rw [hanswer] at hstep
      exact moves_of_statements (commit_ok.mp hstep)
  | error error =>
      rw [hanswer] at hstep
      obtain ⟨-, rfl⟩ := commit_error.mp hstep
      exact .refl

/-- A property of stores that every move keeps is kept by an operation. -/
theorem Moves.preserves {validScopes : List String} {now : Instant} {invariant : SharedStore → Prop}
    (hmove : ∀ first second, Move validScopes now first second → invariant first →
      invariant second)
    (hmoves : Moves validScopes now store later) (hstore : invariant store) : invariant later := by
  cases hmoves with
  | refl => exact hstore
  | single hfirst => exact hmove _ _ hfirst hstore
  | journaled hfirst journal => exact hmove _ _ (.journal journal) (hmove _ _ hfirst hstore)

/-- A property of stores that every move keeps is kept by every run. -/
theorem SharedDeployment.Run.preserves_of_move {events : List SharedEvent}
    {invariant : SharedStore → Prop}
    (hmove : ∀ now first second, Move deployment.provider.validScopes now first second →
      invariant first → invariant second)
    (hrun : deployment.Run store events later) (hstore : invariant store) : invariant later :=
  StepPath.preserves invariant hrun
    (fun _ _ _ hfirst hstep => hstep.moves.preserves (hmove _) hfirst) hstore

theorem SharedDeployment.Reachable.of_move {invariant : SharedStore → Prop}
    (hempty : invariant .empty)
    (hmove : ∀ now first second, Move deployment.provider.validScopes now first second →
      invariant first → invariant second)
    (hreachable : deployment.Reachable store) : invariant store := by
  obtain ⟨events, hrun⟩ := hreachable
  exact hrun.preserves_of_move hmove hempty

end Runs

end OdooMcp
