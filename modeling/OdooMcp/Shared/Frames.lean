import OdooMcp.Effect.Frame
import OdooMcp.Shared.Moves

/-!
# What the shared operations keep

An operation keeps every preorder that its single statements keep. The two operations that seal an
API key, the enrollment of a connector and the rotation of its key, are left to the relations that
care about them.
-/

namespace OdooMcp

open Effect Statements

/-- The relation holds when neither the connectors nor the journal change, and the single statements
on them keep it as long as they leave the sealed API keys alone. -/
structure KeptByStatements (sha256 : String → String)
    (related : SharedStore → SharedStore → Prop) : Prop where
  same {store later : SharedStore} : later.connectors = store.connectors →
    later.journal = store.journal → related store later
  connectors {condition : ConnectorRow → Bool} {change : ConnectorRow → ConnectorRow}
    {hkey : ∀ row, (change row).key = row.key} :
    (∀ row, (change row).encryptedApiKey = row.encryptedApiKey) →
      (∀ row, (change row).keyVersion = row.keyVersion) →
        Keeps related (updateConnectors condition change hkey)
  discarded (condition : ConnectorRow → Bool) : Keeps related (deleteConnectors condition)
  audit (now : Instant) (event : AuditEvent) : Keeps related (appendAudit sha256 now event)

/-- The operations that seal an API key. -/
def SharedRequest.seals : SharedRequest → Bool
  | .insertPrepared .. => true
  | .rotate .. => true
  | _ => false

namespace KeptByStatements

variable {sha256 : String → String} {related : SharedStore → SharedStore → Prop}

section Rows

variable (hkept : KeptByStatements sha256 related)

include hkept

theorem client (row : ClientRow) : Keeps related (insertClient row) := by
  intro store value later hinsert
  obtain ⟨clients, -, rfl⟩ := insertClient_ok.mp hinsert
  exact hkept.same rfl rfl

theorem clients {condition : ClientRow → Bool} {change : ClientRow → ClientRow}
    {hkey : ∀ row, (change row).clientId = row.clientId} :
    Keeps related (updateClients condition change hkey) := by
  intro store value later hupdate
  obtain ⟨clients, -, rfl, -⟩ := updateClients_ok.mp hupdate
  exact hkept.same rfl rfl

theorem session (row : SessionRow) : Keeps related (insertSession row) := by
  intro store value later hinsert
  obtain ⟨-, sessions, -, rfl⟩ := insertSession_ok.mp hinsert
  exact hkept.same rfl rfl

theorem sessions {condition : SessionRow → Bool} {change : SessionRow → SessionRow}
    {hkey : ∀ row, (change row).stateHash = row.stateHash} :
    Keeps related (updateSessions condition change hkey) := by
  intro store value later hupdate
  obtain ⟨-, sessions, -, rfl, -⟩ := updateSessions_ok.mp hupdate
  exact hkept.same rfl rfl

theorem grant (row : GrantRow) : Keeps related (insertGrant row) := by
  intro store value later hinsert
  obtain ⟨-, grants, -, rfl⟩ := insertGrant_ok.mp hinsert
  exact hkept.same rfl rfl

theorem grants {condition : GrantRow → Bool} {change : GrantRow → GrantRow}
    {hkey : ∀ row, (change row).id = row.id} :
    Keeps related (updateGrants condition change hkey) := by
  intro store value later hupdate
  obtain ⟨-, grants, -, rfl, -⟩ := updateGrants_ok.mp hupdate
  exact hkept.same rfl rfl

theorem token (row : TokenRow) : Keeps related (insertToken row) := by
  intro store value later hinsert
  obtain ⟨-, -, tokens, -, rfl⟩ := insertToken_ok.mp hinsert
  exact hkept.same rfl rfl

theorem tokens {condition : TokenRow → Bool} {change : TokenRow → TokenRow}
    {hkey : ∀ row, (change row).tokenHash = row.tokenHash} :
    Keeps related (updateTokens condition change hkey) := by
  intro store value later hupdate
  obtain ⟨tokens, -, rfl, -⟩ := updateTokens_ok.mp hupdate
  exact hkept.same rfl rfl

end Rows

variable [Std.Refl related]

theorem tokenRow [IsTrans SharedStore related] (ambient : Ambient) (token : String)
    (tokenType : TokenType) (clientId : Option String) :
    Keeps related (SharedOAuthProvider.tokenRow sha256 ambient token tokenType clientId) :=
  keeps_get.bind fun _ => keeps_pure _

theorem activationTarget [IsTrans SharedStore related] (ambient : Ambient) (session : String) :
    Keeps related (SharedOAuthProvider.activationTarget sha256 ambient session) :=
  keeps_get.bind fun _ => (keeps_found _ _).bind fun _ => (keeps_require _ _).bind fun _ =>
    (keeps_found _ _).bind fun _ => (keeps_found _ _).bind fun _ =>
      (keeps_require _ _).bind fun _ => keeps_pure _

theorem providerAudit (hkept : KeptByStatements sha256 related) (provider : SharedOAuthProvider)
    (now : Instant) (requestId tenantId operation connectorId : String) :
    Keeps related (provider.appendAudit sha256 now requestId tenantId operation connectorId) := by
  unfold SharedOAuthProvider.appendAudit
  split
  · exact hkept.audit _ _
  · exact keeps_pure _

variable [IsTrans SharedStore related] (hkept : KeptByStatements sha256 related)

include hkept

theorem revokeConnectorInTransaction (now : Instant) (connectorId : String) :
    Keeps related (SharedOAuthProvider.revokeConnectorInTransaction now connectorId) := by
  refine keeps_get.bind fun store => ?_
  refine Keeps.bind (hkept.connectors (fun _ => rfl) fun _ => rfl) fun _ => ?_
  exact hkept.grants.bind fun _ => hkept.tokens.bind fun _ => keeps_pure _

theorem revokeSuperseded (provider : SharedOAuthProvider) (ambient : Ambient)
    (superseded : Option String) :
    Keeps related (provider.revokeSuperseded sha256 ambient superseded) := by
  cases superseded with
  | none => exact keeps_pure _
  | some connectorId =>
      refine keeps_get.bind fun store =>
        (hkept.revokeConnectorInTransaction _ _).bind fun _ => ?_
      split
      · exact hkept.providerAudit _ _ _ _ _ _
      · exact keeps_pure _

theorem issueTokens (ambient : Ambient) (grantId : String) (scopes : List String) :
    Keeps related (SharedOAuthProvider.issueTokens sha256 ambient grantId scopes) :=
  (keeps_lift _).bind fun _ => (keeps_lift _).bind fun _ => (hkept.token _).bind fun _ =>
    (hkept.token _).bind fun _ => keeps_pure _

omit hkept

/-- **An operation keeps what its statements keep.** -/
theorem statements {deployment : SharedDeployment} {ambient : Ambient}
    (hkept : KeptByStatements deployment.sha256 related) {request : SharedRequest}
    (hrequest : request.seals = false) :
    Keeps related (deployment.statements ambient request) := by
  cases request with
  | registerClient client => exact (keeps_lift _).bind fun _ => hkept.client _
  | invalidateClient clientId => exact hkept.clients.bind fun _ => keeps_pure _
  | storeClient clientId metadata =>
      refine (keeps_lift _).bind fun _ => keeps_get.bind fun _ => ?_
      split
      · exact hkept.clients.bind fun _ => keeps_pure _
      · exact (hkept.client _).bind fun _ => keeps_pure _
  | authorize client params =>
      exact (keeps_lift _).bind fun _ => (keeps_lift _).bind fun _ =>
        (hkept.session _).bind fun _ => keeps_pure _
  | sessionSummary session =>
      exact keeps_get.bind fun _ => (keeps_found _ _).bind fun _ => keeps_pure _
  | bindConnector session connectorId =>
      refine hkept.sessions.bind fun rowcount => ?_
      split
      · exact keeps_pure _
      · exact keeps_get.bind fun _ => (keeps_found _ _).bind fun _ => keeps_require _ _
  | authorizeReplacement session authorization =>
      exact keeps_get.bind fun _ => (keeps_require _ _).bind fun _ =>
        hkept.sessions.bind fun _ => keeps_require _ _
  | activateConnector session consent =>
      refine (keeps_require _ _).bind fun _ => (activationTarget _ _).bind fun _ =>
        (hkept.grant _).bind fun _ => ?_
      refine Keeps.bind (hkept.connectors (fun _ => rfl) fun _ => rfl) fun _ => ?_
      exact (hkept.providerAudit _ _ _ _ _ _).bind fun _ =>
        (hkept.revokeSuperseded _ _ _).bind fun _ =>
          hkept.sessions.bind fun _ => keeps_pure _
  | revokeConnector authorization =>
      exact keeps_get.bind fun _ => (keeps_require _ _).bind fun _ =>
        (hkept.revokeConnectorInTransaction _ _).bind fun _ => hkept.providerAudit _ _ _ _ _ _
  | loadAuthorizationCode client authorizationCode =>
      refine keeps_get.bind fun store => ?_
      split
      · exact keeps_pure _
      · split
        · exact keeps_pure _
        · exact (keeps_lift _).bind fun _ => keeps_pure _
  | exchangeAuthorizationCode client authorizationCode =>
      exact keeps_get.bind fun _ => (keeps_found _ _).bind fun _ =>
        hkept.sessions.bind fun _ => hkept.issueTokens _ _ _
  | loadRefreshToken client token => exact (tokenRow _ _ _ _).bind fun _ => keeps_pure _
  | exchangeRefreshToken client refreshToken scopes =>
      exact (keeps_require _ _).bind fun _ => (tokenRow _ _ _ _).bind fun _ =>
        (keeps_found _ _).bind fun _ => (keeps_require _ _).bind fun _ =>
          hkept.tokens.bind fun _ => hkept.tokens.bind fun _ =>
            hkept.issueTokens _ _ _
  | loadAccessToken token => exact (tokenRow _ _ _ _).bind fun _ => keeps_pure _
  | authorizationForAccessToken token =>
      exact (tokenRow _ _ _ _).bind fun _ => keeps_pure _
  | loadToken token tokenType clientId => exact tokenRow _ _ _ _
  | revokeToken token =>
      refine keeps_get.bind fun store => ?_
      split
      · exact keeps_pure _
      · split
        · exact keeps_pure _
        · exact (hkept.revokeConnectorInTransaction _ _).bind fun _ =>
            hkept.providerAudit _ _ _ _ _ _
  | findPrepared keyring credentials handle verified =>
      refine keeps_get.bind fun store => ?_
      split
      · exact (keeps_lift _).bind fun _ => keeps_pure _
      · exact keeps_pure _
  | insertPrepared => cases hrequest
  | commitEnrollment handle allowedCompanyIds defaultCompanyId =>
      refine (keeps_require _ _).bind fun _ => keeps_get.bind fun _ =>
        (keeps_found _ _).bind fun row => (keeps_require _ _).bind fun _ =>
          (keeps_require _ _).bind fun _ => (keeps_require _ _).bind fun _ => ?_
      split
      · exact (keeps_require _ _).bind fun _ => keeps_pure _
      · refine Keeps.bind (hkept.connectors (fun _ => rfl) fun _ => rfl) fun _ => ?_
        exact (hkept.audit _ _).bind fun _ => keeps_pure _
  | expirePending => exact hkept.connectors (fun _ => rfl) fun _ => rfl
  | discardPending tenantId connectorId =>
      exact keeps_get.bind fun _ => hkept.discarded _
  | resolveAuthorized keyring authorization =>
      refine keeps_get.bind fun store => ?_
      split
      · exact keeps_pure _
      · exact (keeps_lift _).bind fun _ => keeps_pure _
  | rotate => cases hrequest

end KeptByStatements

end OdooMcp
