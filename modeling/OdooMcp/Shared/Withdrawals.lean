import OdooMcp.Shared.LivePairs
import OdooMcp.Shared.OwnConnection

/-!
# Revocation is final

A connector is revoked on request, with one of its tokens, or when a session that supersedes it is
activated. Its one grant then stays revoked, so nothing of the connector is accepted by any later
operation.
-/

namespace OdooMcp

open Effect Statements UniqueTable

variable {deployment : SharedDeployment} {store later : SharedStore} {event : SharedEvent}

/-- A token of this hash was issued under a grant of the connector. -/
def SharedStore.HasToken (store : SharedStore) (tokenHash connectorId : String) : Prop :=
  ∃ row ∈ store.tokens, ∃ grant ∈ store.grants,
    row.tokenHash = tokenHash ∧ grant.id = row.grantId ∧ grant.connectorId = connectorId

def SharedStore.HasCode (store : SharedStore) (codeHash connectorId : String) : Prop :=
  ∃ session ∈ store.sessions,
    session.authorizationCodeHash = some codeHash ∧ session.connectorId = some connectorId

/-- The event revoked the connector, in this store. -/
inductive SharedEvent.Revokes (sha256 : String → String) (store : SharedStore) :
    SharedEvent → String → Prop
  | revokeConnector (ambient : Ambient) (authorization : ConnectorAuthorization) :
      Revokes sha256 store ⟨ambient, .revokeConnector authorization, .ok ()⟩
        authorization.connectionId
  | revokeToken (ambient : Ambient) (token connectorId : String)
      (htoken : store.HasToken (sha256 token) connectorId) :
      Revokes sha256 store ⟨ambient, .revokeToken token, .ok ()⟩ connectorId
  | activateConnector (ambient : Ambient) (session : String) (consent : Bool)
      (redirect : Redirect) (row : SessionRow) (connectorId : String)
      (hrow : row ∈ store.sessions) (hhash : row.stateHash = sha256 session)
      (hsuperseded : row.supersededConnectorId = some connectorId) :
      Revokes sha256 store ⟨ambient, .activateConnector session consent, .ok redirect⟩ connectorId

/-- The event accepted something of the connector: one of its tokens, one of its codes, or an
authorization for it. -/
inductive SharedEvent.Honours (sha256 : String → String) (store : SharedStore)
    (connectorId : String) : SharedEvent → Prop
  | token {event : SharedEvent} {tokenHash : String} (haccepts : event.Accepts sha256 tokenHash)
      (htoken : store.HasToken tokenHash connectorId) : Honours sha256 store connectorId event
  | code {event : SharedEvent} {codeHash : String} (hexchanges : event.Exchanges sha256 codeHash)
      (hcode : store.HasCode codeHash connectorId) : Honours sha256 store connectorId event
  | connection (ambient : Ambient) (keyring : EncryptionKeyring)
      (authorization : ConnectorAuthorization) (settings : OdooConnectionSettings)
      (hconnector : authorization.connectionId = connectorId) :
      Honours sha256 store connectorId
        ⟨ambient, .resolveAuthorized keyring authorization, .ok (some settings)⟩

def SharedStore.Withdrawn (store : SharedStore) (connectorId : String) : Prop :=
  ∃ grant ∈ store.grants, grant.connectorId = connectorId ∧ grant.status = .revoked

theorem Evolves.withdrawn {connectorId : String} (hevolves : Evolves store later)
    (hwithdrawn : store.Withdrawn connectorId) : later.Withdrawn connectorId := by
  obtain ⟨grant, hgrant, hconnector, hrevoked⟩ := hwithdrawn
  obtain ⟨kept, hkept, hbecomes⟩ := hevolves.grants grant hgrant
  refine ⟨kept, hkept, hbecomes.connector.trans hconnector, ?_⟩
  rcases hbecomes.status with hsame | hlater
  · exact hsame.trans hrevoked
  · exact hlater

/-- No grant of a withdrawn connector is active. -/
theorem Authority.not_active_of_withdrawn {validScopes : List String} {connectorId : String}
    (hauthority : Authority validScopes store) (hwithdrawn : store.Withdrawn connectorId)
    {grant : GrantRow} (hgrant : grant ∈ store.grants)
    (hconnector : grant.connectorId = connectorId) : grant.status ≠ .active := by
  obtain ⟨revoked, hrevoked, hsame, hstatus⟩ := hwithdrawn
  rw [hauthority.single grant hgrant revoked hrevoked (hconnector.trans hsame.symm), hstatus]
  simp

/-! ### Revocations withdraw -/

theorem Revocation.withdrawn {now : Instant} {connectorId : String}
    (hrevocation : Revocation now connectorId store later)
    (hgrant : ∃ grant ∈ store.grants, grant.connectorId = connectorId) :
    later.Withdrawn connectorId := by
  obtain ⟨grant, hgrant, hconnector⟩ := hgrant
  by_cases hactive : grant.status = .active
  · exact ⟨_, hrevocation.grants.mem_changed hgrant (by simp [hconnector, hactive]), hconnector,
      rfl⟩
  · refine ⟨grant, hrevocation.grants.mem_kept hgrant (by simp [hactive]), hconnector, ?_⟩
    cases hstatus : grant.status with
    | active => exact absurd hstatus hactive
    | revoked => rfl

theorem SharedEvent.Revokes.withdrawn {connectorId : String}
    (hreachable : deployment.Reachable store)
    (hrevokes : event.Revokes deployment.sha256 store connectorId)
    (hstep : deployment.Step store event later) : later.Withdrawn connectorId := by
  cases hrevokes with
  | revokeConnector ambient authorization =>
      have hrevoke : deployment.provider.revokeConnector deployment.sha256 ambient authorization
          store = .ok ((), later) := commit_ok.mp hstep
      simp only [SharedOAuthProvider.revokeConnector, bind_ok, get_ok, require_ok,
        List.any_eq_true, Bool.and_eq_true, decide_eq_true_eq] at hrevoke
      obtain ⟨_, _, ⟨rfl, rfl⟩, _, _, ⟨⟨grant, hgrant, ⟨hconnector, -⟩, -⟩, rfl⟩, _, _, hrevoked,
        happend⟩ := hrevoke
      obtain ⟨journal, rfl⟩ := providerAudit_ok happend
      exact (revocation_of_ok hrevoked).1.withdrawn ⟨grant, hgrant, hconnector⟩
  | revokeToken ambient token connectorId htoken =>
      obtain ⟨row, hrow, grant, hgrant, hhash, hid, rfl⟩ := htoken
      have hrevoke : deployment.provider.revokeToken deployment.sha256 ambient token store =
          .ok ((), later) := commit_ok.mp hstep
      simp only [SharedOAuthProvider.revokeToken, bind_ok, get_ok] at hrevoke
      obtain ⟨_, _, ⟨rfl, rfl⟩, hrevoke⟩ := hrevoke
      have hfound : store.tokens.find (deployment.sha256 token) = some row :=
        Table.find_eq_some_iff.mpr ⟨hrow, hhash⟩
      have hgranted : store.grants.find row.grantId = some grant :=
        Table.find_eq_some_iff.mpr ⟨hgrant, hid⟩
      rw [hfound] at hrevoke
      dsimp only at hrevoke
      rw [hgranted] at hrevoke
      obtain ⟨_, _, hrevoked, happend⟩ := bind_ok.mp hrevoke
      obtain ⟨journal, rfl⟩ := providerAudit_ok happend
      exact (revocation_of_ok hrevoked).1.withdrawn ⟨grant, hgrant, rfl⟩
  | activateConnector ambient session consent redirect row connectorId hrow hhash hsuperseded =>
      obtain ⟨-, -, found, connector, grant, hactivatable, hfound, granted, revoked, hactivation,
        hrevoked, -, -, hgrants, -, -⟩ := activateConnector_ok (commit_ok.mp hstep)
      obtain rfl := eq_of_key_eq hrow hactivatable.session_mem (hhash.trans hfound.symm)
      obtain ⟨held, hheld, hconnector⟩ :=
        (Authority.of_reachable hreachable).superseded row hrow connectorId hsuperseded
      rcases hrevoked with ⟨hnone, -⟩ | ⟨superseded, hsame, hrevocation⟩
      · rw [hsuperseded] at hnone
        cases hnone
      · obtain rfl := Option.some.inj (hsuperseded.symm.trans hsame)
        obtain ⟨kept, hkept, hstatus⟩ :=
          hrevocation.withdrawn ⟨held, hactivation.grants.mem hheld, hconnector⟩
        exact ⟨kept, hgrants ▸ hkept, hstatus⟩

/-! ### A withdrawn connector is not honoured -/

theorem SharedEvent.Honours.not_withdrawn {connectorId : String}
    (hreachable : deployment.Reachable store)
    (hhonours : event.Honours deployment.sha256 store connectorId)
    (hstep : deployment.Step store event later) : ¬store.Withdrawn connectorId := by
  intro hwithdrawn
  have hauthority := Authority.of_reachable hreachable
  cases hhonours with
  | token haccepts htoken =>
      obtain ⟨row, hrow, grant, hgrant, hhash, hid, hconnector⟩ := htoken
      obtain ⟨live, held, tokenType, hpair⟩ := haccepts.tokenGrants hstep
      obtain ⟨hlive, hheld, hissuer, hsame, -, -, -, -, hactive, -⟩ := mem_tokenGrants.mp hpair
      obtain rfl := eq_of_key_eq hlive hrow (hsame.trans hhash.symm)
      obtain rfl := eq_of_key_eq hheld hgrant (hissuer.trans hid.symm)
      exact hauthority.not_active_of_withdrawn hwithdrawn hheld hconnector hactive
  | code hexchanges hcode =>
      obtain ⟨session, hsession, hhash, hbound⟩ := hcode
      cases hexchanges with
      | exchangeAuthorizationCode ambient client code issued =>
          obtain ⟨found, grant, hfound, hgrant, hconnector, -, hactive, hsame, -⟩ :=
            exchangeAuthorizationCode_ok (commit_ok.mp hstep)
          obtain rfl := eq_of_column_eq (List.mem_singleton.mpr rfl) hfound hsession hsame hhash
          exact hauthority.not_active_of_withdrawn hwithdrawn hgrant
            (Option.some.inj (hconnector.symm.trans hbound)) hactive
  | connection ambient keyring authorization settings hconnector =>
      have hresolve : EncryptedConnectionRepository.resolveAuthorized deployment.cipher
          deployment.acceptsUrl keyring ambient authorization store = .ok (some settings, later) :=
        commit_ok.mp hstep
      obtain ⟨row, -, -, hid, -, ⟨grant, hgrant, hgrantConnector, hactive⟩, -⟩ :=
        resolveAuthorized_readFrom hresolve
      exact hauthority.not_active_of_withdrawn hwithdrawn hgrant
        (hgrantConnector.trans (hid.trans hconnector)) hactive

/-- **Revocation is final.** Once an operation has revoked a connector, no later operation of the
run accepts a token of it, exchanges a code of it, or resolves its connection. -/
theorem revocation_is_final {before between : List SharedEvent} {revoking honouring : SharedEvent}
    {revoked state after : SharedStore} {connectorId : String}
    (hbefore : deployment.Run .empty before store)
    (hrevokes : revoking.Revokes deployment.sha256 store connectorId)
    (hrevoking : deployment.Step store revoking revoked)
    (hbetween : deployment.Run revoked between state)
    (hstep : deployment.Step state honouring after) :
    ¬honouring.Honours deployment.sha256 state connectorId := by
  have hreachable : deployment.Reachable store := ⟨before, hbefore⟩
  have hrevoked : deployment.Reachable revoked :=
    SharedDeployment.Run.reachable (.cons hrevoking (.nil revoked)) hreachable
  have hwithdrawn := hrevokes.withdrawn hreachable hrevoking
  intro hhonours
  exact hhonours.not_withdrawn (hbetween.reachable hrevoked) hstep
    ((Evolves.of_run hbetween).withdrawn hwithdrawn)

/-! ### The sample connector is revoked -/

def sampleAuthorization : ConnectorAuthorization where
  tenantId := "connector:c0"
  connectionId := "c0"
  authenticatedSubject := "c0"
  mcpClient := "app"
  permissions := []

/-- The answer to the revocation of the sample connector, and the store behind it. -/
def sampleRevocation : Except SharedError Unit × SharedStore :=
  sampleDeployment.execute (sampleAmbient 7 "v") (.revokeConnector sampleAuthorization) sampleStore

theorem sampleRevocation_answer : sampleRevocation.1 = .ok () := by
  decide +kernel

/-- The sample's access token, presented a minute after its connector was revoked. -/
def sampleToken : SharedEvent where
  ambient := sampleAmbient 8 "w"
  request := .loadAccessToken "u0"
  answer := (sampleDeployment.execute (sampleAmbient 8 "w") (.loadAccessToken "u0")
    sampleRevocation.2).1

theorem revocation_is_final_sample :
    sampleRevocation.1 = .ok () ∧
      ¬sampleToken.Honours sampleDeployment.sha256 sampleRevocation.2 "c0" :=
  ⟨sampleRevocation_answer, revocation_is_final sampleRun
    (.revokeConnector (sampleAmbient 7 "v") sampleAuthorization)
    (sampleDeployment.step_of_answer rfl sampleRevocation_answer) (.nil sampleRevocation.2)
    (sampleDeployment.step_execute sampleToken.ambient sampleToken.request sampleRevocation.2)⟩

end OdooMcp
