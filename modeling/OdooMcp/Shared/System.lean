import OdooMcp.Effect.Interleaving
import OdooMcp.Shared.Connections

/-!
# Runs of the shared operations

The operations of the provider, of the connector lifecycle and of the stored connections, each one
transaction, and the runs they make when the transactions are serialised. The arguments, the clock
and the random values of every operation are arbitrary.
-/

namespace OdooMcp

open Effect

/-- What a deployment does not change: its hash and cipher, the URLs its settings accept, and the
configuration of its provider. -/
structure SharedDeployment where
  sha256 : String → String
  cipher : AesGcm
  acceptsUrl : String → Bool
  provider : SharedOAuthProvider

inductive SharedRequest
  | registerClient (client : OAuthClientInformation)
  | invalidateClient (clientId : String)
  | storeClient (clientId : String) (metadata : OAuthClientInformation)
  | authorize (client : OAuthClientInformation) (params : AuthorizationParams)
  | sessionSummary (session : String)
  | bindConnector (session connectorId : String)
  | authorizeReplacement (session : String) (authorization : ConnectorAuthorization)
  | activateConnector (session : String) (consent : Bool)
  | revokeConnector (authorization : ConnectorAuthorization)
  | loadAuthorizationCode (client : OAuthClientInformation) (authorizationCode : String)
  | exchangeAuthorizationCode (client : OAuthClientInformation)
      (authorizationCode : AuthorizationCode)
  | loadRefreshToken (client : OAuthClientInformation) (token : String)
  | exchangeRefreshToken (client : OAuthClientInformation) (refreshToken : RefreshToken)
      (scopes : List String)
  | loadAccessToken (token : String)
  | authorizationForAccessToken (token : String)
  | loadToken (token : String) (tokenType : TokenType) (clientId : String)
  | revokeToken (token : String)
  | findPrepared (keyring : EncryptionKeyring) (credentials : OdooEnrollmentCredentials)
      (handle : String) (verified : VerifiedEnrollment)
  | insertPrepared (keyring : EncryptionKeyring) (credentials : OdooEnrollmentCredentials)
      (handle : String) (verified : VerifiedEnrollment)
  | commitEnrollment (handle : String) (allowedCompanyIds : List Int) (defaultCompanyId : Int)
  | expirePending
  | discardPending (tenantId connectorId : String)
  | resolveAuthorized (keyring : EncryptionKeyring) (authorization : ConnectorAuthorization)
  | rotate (keyring : EncryptionKeyring)
      (tenantId connectionId requestId authenticatedSubject mcpClient : String)

def SharedRequest.Result : SharedRequest → Type
  | .registerClient .. => Unit
  | .invalidateClient .. => Unit
  | .storeClient .. => OAuthClientInformation
  | .authorize .. => String
  | .sessionSummary .. => SessionSummary
  | .bindConnector .. => Unit
  | .authorizeReplacement .. => Unit
  | .activateConnector .. => Redirect
  | .revokeConnector .. => Unit
  | .loadAuthorizationCode .. => Option AuthorizationCode
  | .exchangeAuthorizationCode .. => OAuthToken
  | .loadRefreshToken .. => Option RefreshToken
  | .exchangeRefreshToken .. => OAuthToken
  | .loadAccessToken .. => Option AccessToken
  | .authorizationForAccessToken .. => Option ConnectorAuthorization
  | .loadToken .. => Option (TokenRow × GrantRow)
  | .revokeToken .. => Unit
  | .findPrepared .. => Option PreparedEnrollment
  | .insertPrepared .. => PreparedEnrollment
  | .commitEnrollment .. => CommittedEnrollment
  | .expirePending => Nat
  | .discardPending .. => Unit
  | .resolveAuthorized .. => Option OdooConnectionSettings
  | .rotate .. => Bool

namespace SharedDeployment

open SharedOAuthProvider SharedConnectorLifecycle EncryptedConnectionRepository

variable (deployment : SharedDeployment)

def statements (ambient : Ambient) : (request : SharedRequest) → SharedStatements request.Result
  | .registerClient client => deployment.provider.registerClient ambient.now client
  | .invalidateClient clientId => invalidateClient ambient.now clientId
  | .storeClient clientId metadata => storeClient ambient.now clientId metadata
  | .authorize client params =>
      deployment.provider.authorize deployment.sha256 ambient client params
  | .sessionSummary session => sessionSummary deployment.sha256 ambient session
  | .bindConnector session connectorId =>
      bindConnector deployment.sha256 ambient.now session connectorId
  | .authorizeReplacement session authorization =>
      authorizeReplacement deployment.sha256 ambient.now session authorization
  | .activateConnector session consent =>
      deployment.provider.activateConnector deployment.sha256 ambient session consent
  | .revokeConnector authorization =>
      deployment.provider.revokeConnector deployment.sha256 ambient authorization
  | .loadAuthorizationCode client authorizationCode =>
      loadAuthorizationCode deployment.sha256 ambient client authorizationCode
  | .exchangeAuthorizationCode client authorizationCode =>
      exchangeAuthorizationCode deployment.sha256 ambient client authorizationCode
  | .loadRefreshToken client token => loadRefreshToken deployment.sha256 ambient client token
  | .exchangeRefreshToken client refreshToken scopes =>
      exchangeRefreshToken deployment.sha256 ambient client refreshToken scopes
  | .loadAccessToken token => loadAccessToken deployment.sha256 ambient token
  | .authorizationForAccessToken token =>
      deployment.provider.authorizationForAccessToken deployment.sha256 ambient token
  | .loadToken token tokenType clientId =>
      tokenRow deployment.sha256 ambient token tokenType (some clientId)
  | .revokeToken token => deployment.provider.revokeToken deployment.sha256 ambient token
  | .findPrepared keyring credentials handle verified =>
      findPrepared deployment.sha256 deployment.cipher keyring ambient credentials handle verified
  | .insertPrepared keyring credentials handle verified =>
      insertPrepared deployment.sha256 deployment.cipher keyring ambient credentials handle
        verified
  | .commitEnrollment handle allowedCompanyIds defaultCompanyId =>
      commitEnrollment deployment.sha256 ambient handle allowedCompanyIds defaultCompanyId
  | .expirePending => expirePending ambient.now
  | .discardPending tenantId connectorId => discardPending tenantId connectorId
  | .resolveAuthorized keyring authorization =>
      resolveAuthorized deployment.cipher deployment.acceptsUrl keyring ambient authorization
  | .rotate keyring tenantId connectionId requestId authenticatedSubject mcpClient =>
      rotate deployment.sha256 deployment.cipher keyring ambient tenantId connectionId requestId
        authenticatedSubject mcpClient

def execute (ambient : Ambient) (request : SharedRequest) (store : SharedStore) :
    Except SharedError request.Result × SharedStore :=
  (deployment.statements ambient request).commit store

end SharedDeployment

/-- An operation with what it took from outside and how it ended. -/
structure SharedEvent where
  ambient : Ambient
  request : SharedRequest
  answer : Except SharedError request.Result

namespace SharedDeployment

variable (deployment : SharedDeployment)

def Step (store : SharedStore) (event : SharedEvent) (later : SharedStore) : Prop :=
  deployment.execute event.ambient event.request store = (event.answer, later)

abbrev Run : SharedStore → List SharedEvent → SharedStore → Prop := StepPath deployment.Step

def Reachable (store : SharedStore) : Prop := ∃ events, deployment.Run .empty events store

variable {deployment}

theorem Run.reachable {store later : SharedStore} {events : List SharedEvent}
    (hrun : deployment.Run store events later) (hstore : deployment.Reachable store) :
    deployment.Reachable later := by
  obtain ⟨earlier, hearlier⟩ := hstore
  exact ⟨earlier ++ events, hearlier.append hrun⟩

theorem step_execute (deployment : SharedDeployment) (ambient : Ambient) (request : SharedRequest)
    (store : SharedStore) : deployment.Step store
      ⟨ambient, request, (deployment.execute ambient request store).1⟩
      (deployment.execute ambient request store).2 := rfl

theorem step_of_answer (deployment : SharedDeployment) {ambient : Ambient} {request : SharedRequest}
    {store : SharedStore} {answer : Except SharedError request.Result}
    {outcome : Except SharedError request.Result × SharedStore}
    (houtcome : deployment.execute ambient request store = outcome) (hanswer : outcome.1 = answer) :
    deployment.Step store ⟨ambient, request, answer⟩ outcome.2 :=
  houtcome.trans (Prod.ext hanswer rfl)

def played (deployment : SharedDeployment) :
    SharedStore → List (Ambient × SharedRequest) → SharedStore
  | store, [] => store
  | store, (ambient, request) :: requests =>
      deployment.played (deployment.execute ambient request store).2 requests

/-- The events of these operations, run one after the other. -/
def playedEvents (deployment : SharedDeployment) :
    SharedStore → List (Ambient × SharedRequest) → List SharedEvent
  | _, [] => []
  | store, (ambient, request) :: requests =>
      let outcome := deployment.execute ambient request store
      ⟨ambient, request, outcome.1⟩ :: deployment.playedEvents outcome.2 requests

theorem run_played (deployment : SharedDeployment) (store : SharedStore)
    (requests : List (Ambient × SharedRequest)) :
    deployment.Run store (deployment.playedEvents store requests)
      (deployment.played store requests) := by
  induction requests generalizing store with
  | nil => exact .nil store
  | cons first requests ih => exact .cons (deployment.step_execute _ _ _) (ih _)

end SharedDeployment

end OdooMcp
