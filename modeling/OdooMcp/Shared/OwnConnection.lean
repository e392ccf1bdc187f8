import OdooMcp.Shared.Evolution

/-!
# Callers reach their own connection

An access token stands for the connector that its grant was given for. The authorization it yields,
and the connection that this authorization resolves to later, are of this connector alone.
-/

namespace OdooMcp

open Effect Statements UniqueTable

variable {deployment : SharedDeployment} {store later : SharedStore}

/-! ### What an authorization says -/

theorem authorizationForAccessToken_ok {ambient : Ambient} {token : String}
    {authorization : ConnectorAuthorization}
    (hauthorize : deployment.provider.authorizationForAccessToken deployment.sha256 ambient token
      store = .ok (some authorization, later)) :
    ∃ row grant, (row, grant) ∈ SharedOAuthProvider.tokenGrants store ambient.now
        (deployment.sha256 token) .access ∧
      authorization.tenantId = grant.tenantId ∧ authorization.connectionId = grant.connectorId ∧
        authorization.mcpClient = grant.clientId ∧
          ∀ permission ∈ authorization.permissions, permission ∈ row.scopes := by
  obtain ⟨live, _, hlive, hpure⟩ := bind_ok.mp hauthorize
  obtain ⟨hloaded, -⟩ := pure_ok.mp hpure
  obtain ⟨⟨row, grant⟩, hfound, hvalue⟩ := Option.map_eq_some_iff.mp hloaded
  refine ⟨row, grant, (tokenRow_ok hlive).2 row grant hfound, ?_⟩
  rw [← hvalue]
  exact ⟨rfl, rfl, rfl, fun permission hpermission => (List.mem_filter.mp hpermission).1⟩

/-! ### What a connection resolves to -/

/-- The settings are those of the row: its address and user, its opened API key, its selection. -/
structure OdooConnectionSettings.ReadFrom (cipher : AesGcm) (keyring : EncryptionKeyring)
    (row : ConnectorRow) (settings : OdooConnectionSettings) : Prop where
  url : settings.url = row.odooUrl
  database : settings.database = strip row.databaseName
  username : settings.username = strip row.username
  apiKey : keyring.decrypt cipher row.tenantId row.id row.encryptedApiKey row.keyVersion =
    .ok settings.apiKey
  allowed : row.allowedCompanyIds = some settings.allowedCompanyIds
  default : row.defaultCompanyId = some settings.defaultCompanyId

theorem modelValidate_some {acceptsUrl : String → Bool} {given settings : OdooConnectionSettings}
    (hvalid : given.modelValidate acceptsUrl = some settings) :
    settings = { given with
      database := strip given.database
      username := strip given.username } := by
  unfold OdooConnectionSettings.modelValidate at hvalid
  split at hvalid
  · exact (Option.some.inj hvalid).symm
  · cases hvalid

theorem resolveRow_ok {cipher : AesGcm} {acceptsUrl : String → Bool} {keyring : EncryptionKeyring}
    {row : ConnectorRow} {settings : OdooConnectionSettings}
    (hresolve : EncryptedConnectionRepository.resolveRow cipher acceptsUrl keyring row =
      .ok settings) : settings.ReadFrom cipher keyring row := by
  obtain ⟨apiKey, hkey, hsettings⟩ := except_bind_ok.mp hresolve
  cases hallowed : row.allowedCompanyIds with
  | none =>
      rw [hallowed] at hsettings
      cases hsettings
  | some allowed =>
      cases hdefault : row.defaultCompanyId with
      | none =>
          rw [hallowed, hdefault] at hsettings
          cases hsettings
      | some default =>
          rw [hallowed, hdefault] at hsettings
          simp only [Option.bind_eq_bind, Option.bind_some] at hsettings
          split at hsettings
          · rename_i valid hvalid
            obtain rfl := Except.ok.inj hsettings
            obtain rfl := modelValidate_some hvalid
            exact ⟨rfl, rfl, rfl, hkey, hallowed, hdefault⟩
          · cases hsettings

theorem resolveAuthorized_readFrom {keyring : EncryptionKeyring} {ambient : Ambient}
    {authorization : ConnectorAuthorization} {settings : OdooConnectionSettings}
    (hresolve : EncryptedConnectionRepository.resolveAuthorized deployment.cipher
      deployment.acceptsUrl keyring ambient authorization store = .ok (some settings, later)) :
    ∃ row ∈ store.connectors, row.tenantId = authorization.tenantId ∧
      row.id = authorization.connectionId ∧ row.status = .active ∧
        (∃ grant ∈ store.grants, grant.connectorId = row.id ∧ grant.status = .active) ∧
          settings.ReadFrom deployment.cipher keyring row := by
  simp only [EncryptedConnectionRepository.resolveAuthorized, bind_ok, get_ok] at hresolve
  obtain ⟨_, _, ⟨rfl, rfl⟩, hresolve⟩ := hresolve
  cases hfetched : fetchone ambient.order
      (EncryptedConnectionRepository.authorizedRows store authorization) with
  | none =>
      rw [hfetched] at hresolve
      cases (pure_ok.mp hresolve).1
  | some row =>
      rw [hfetched] at hresolve
      simp only [bind_ok, lift_ok, pure_ok] at hresolve
      obtain ⟨found, _, ⟨hfound, -⟩, hsettings, -⟩ := hresolve
      obtain rfl := Option.some.inj hsettings
      obtain ⟨hrow, hmatches⟩ := fetchone_filter hfetched
      simp only [Bool.and_eq_true, decide_eq_true_eq, List.any_eq_true, GrantRow.activeFor]
        at hmatches
      obtain ⟨⟨⟨htenant, hid⟩, hactive⟩, grant, hgrant, ⟨⟨hconnector, -⟩, hgranted⟩, -⟩ := hmatches
      exact ⟨row, hrow, htenant, hid, hactive, ⟨grant, hgrant, hconnector, hgranted⟩,
        resolveRow_ok hfound⟩

/-! ### From the token to the connection -/

/-- The store holds this access token under this grant, of this client. -/
structure SharedStore.Holds (sha256 : String → String) (store : SharedStore) (token : String)
    (row : TokenRow) (grant : GrantRow) : Prop where
  token_mem : row ∈ store.tokens
  hash : row.tokenHash = sha256 token
  type : row.tokenType = .access
  grant_mem : grant ∈ store.grants
  issued : grant.id = row.grantId

/-- **Callers reach their own connection.** An access token that yields an authorization is stored
under a grant, and the authorization is for the client of this grant, with scopes of it. Whenever it
resolves to settings, in whatever state a run has reached since, they are those of the grant's own
connector, the only one of its identifier: its address, its user, its API key, and companies that
were discovered for it. -/
theorem callers_reach_own_connection {before : List SharedEvent} {asked : Ambient} {token : String}
    {authorization : ConnectorAuthorization} (hbefore : deployment.Run .empty before store)
    (hauthorize : deployment.Step store
      ⟨asked, .authorizationForAccessToken token, .ok (some authorization)⟩ later) :
    ∃ row grant, store.Holds deployment.sha256 token row grant ∧
      authorization.mcpClient = grant.clientId ∧
        (∀ permission ∈ authorization.permissions, permission ∈ grant.scopes) ∧
          ∀ between state answered keyring settings resolved,
            deployment.Run later between state →
              deployment.Step state
                ⟨answered, .resolveAuthorized keyring authorization, .ok (some settings)⟩ resolved →
              ∃ connector ∈ state.connectors, connector.id = grant.connectorId ∧
                connector.tenantId = grant.tenantId ∧ connector.status = .active ∧
                  settings.ReadFrom deployment.cipher keyring connector ∧
                    (∀ company ∈ settings.allowedCompanyIds,
                      company ∈ connector.discoveredCompanyIds) ∧
                      ∀ other ∈ state.connectors, other.id = grant.connectorId →
                        other = connector := by
  have hreachable : deployment.Reachable store := ⟨before, hbefore⟩
  have hasked : deployment.provider.authorizationForAccessToken deployment.sha256 asked token
      store = .ok (some authorization, later) := commit_ok.mp hauthorize
  obtain ⟨row, grant, hpair, htenant, hconnection, hclient, hpermissions⟩ :=
    authorizationForAccessToken_ok hasked
  obtain ⟨hrow, hgrant, hissued, hhash, htype, -⟩ := mem_tokenGrants.mp hpair
  obtain ⟨issuer, hissuer, hsame, hscopes⟩ :=
    (Authority.of_reachable hreachable).tokenScopes row hrow
  obtain rfl := eq_of_key_eq hissuer hgrant (hsame.trans hissued.symm)
  refine ⟨row, issuer, ⟨hrow, hhash, htype, hgrant, hissued⟩, hclient,
    fun permission hpermission => hscopes permission (hpermissions permission hpermission), ?_⟩
  intro between state answered keyring settings resolved hbetween hresolve
  have hstate : deployment.Reachable state := by
    refine hbetween.reachable ?_
    exact SharedDeployment.Run.reachable (.cons hauthorize (.nil later)) hreachable
  have hreached := Authority.of_reachable hstate
  have hanswered : EncryptedConnectionRepository.resolveAuthorized deployment.cipher
      deployment.acceptsUrl keyring answered authorization state = .ok (some settings, resolved) :=
    commit_ok.mp hresolve
  obtain ⟨connector, hmem, hconnectorTenant, hid, hactive, -, hread⟩ :=
    resolveAuthorized_readFrom hanswered
  obtain ⟨-, hdiscovered, -⟩ := (hreached.consistent connector hmem).selected _ hread.allowed
  have hown : connector.id = issuer.connectorId := hid.trans hconnection
  refine ⟨connector, hmem, hown, hconnectorTenant.trans htenant, hactive, hread, hdiscovered, ?_⟩
  intro other hother hotherId
  exact hreached.eq_of_id hother hmem (hotherId.trans hown.symm)

/-! ### The sample's access token -/

def sampleCaller : ConnectorAuthorization where
  tenantId := "connector:c0"
  connectionId := "c0"
  authenticatedSubject := "c0"
  mcpClient := "app"
  permissions := ["accounting_read", "core_read"]

def sampleSettings : OdooConnectionSettings where
  url := "https://erp.example"
  database := "erp"
  username := "bookkeeper"
  apiKey := "key"
  allowedCompanyIds := [2, 1]
  defaultCompanyId := 2

def sampleAsked : Except SharedError (Option ConnectorAuthorization) × SharedStore :=
  sampleDeployment.execute (sampleAmbient 7 "a") (.authorizationForAccessToken "u0") sampleStore

/-- The answer to the authorization of the sample's caller, and the store behind it. -/
def sampleResolved : Except SharedError (Option OdooConnectionSettings) × SharedStore :=
  sampleDeployment.execute (sampleAmbient 8 "b") (.resolveAuthorized sampleKeyring sampleCaller)
    sampleAsked.2

theorem sampleAsked_answer : sampleAsked.1 = .ok (some sampleCaller) := by
  decide +kernel

theorem sampleResolved_answer : sampleResolved.1 = .ok (some sampleSettings) := by
  decide +kernel

theorem callers_reach_own_connection_sample :
    ∃ row grant, sampleStore.Holds sampleDeployment.sha256 "u0" row grant ∧
      sampleCaller.mcpClient = grant.clientId ∧
        ∃ connector ∈ sampleAsked.2.connectors, connector.id = grant.connectorId ∧
          sampleSettings.ReadFrom sampleDeployment.cipher sampleKeyring connector := by
  have hasked : sampleDeployment.Step sampleStore
      ⟨sampleAmbient 7 "a", .authorizationForAccessToken "u0", .ok (some sampleCaller)⟩
      sampleAsked.2 := sampleDeployment.step_of_answer rfl sampleAsked_answer
  have hresolved : sampleDeployment.Step sampleAsked.2
      ⟨sampleAmbient 8 "b", .resolveAuthorized sampleKeyring sampleCaller,
        .ok (some sampleSettings)⟩ sampleResolved.2 :=
    sampleDeployment.step_of_answer rfl sampleResolved_answer
  obtain ⟨row, grant, hholds, hclient, -, hresolves⟩ :=
    callers_reach_own_connection sampleRun hasked
  obtain ⟨connector, hmem, hid, -, -, hread, -⟩ :=
    hresolves [] _ _ _ _ _ (.nil sampleAsked.2) hresolved
  exact ⟨row, grant, hholds, hclient, connector, hmem, hid, hread⟩

end OdooMcp
