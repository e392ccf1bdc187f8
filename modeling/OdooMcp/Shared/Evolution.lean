import OdooMcp.Shared.Authority

/-!
# How the authority evolves

What later operations can make of the rows of a store: no session, grant or token is deleted, a
status never moves back, and what an authorized session or a token is bound to stays as it is. A
connector is deleted only while it is pending.
-/

namespace OdooMcp

open Effect Statements UniqueTable

/-! ### Rows -/

theorem ConnectorStatus.legal_refl (status : ConnectorStatus) : status.legal status = true := by
  cases status <;> rfl

theorem ConnectorStatus.legal_trans {first second third : ConnectorStatus}
    (hfirst : first.legal second = true) (hsecond : second.legal third = true) :
    first.legal third = true := by
  revert hfirst hsecond
  cases first <;> cases second <;> cases third <;> decide

theorem ConnectorStatus.legal_of_pending {first second : ConnectorStatus}
    (hlegal : first.legal second = true) (hsecond : second = .pending) : first = .pending := by
  subst hsecond
  revert hlegal
  cases first <;> decide

/-- A connector, and what later operations may have made of it. -/
structure ConnectorRow.Becomes (row kept : ConnectorRow) : Prop where
  key : kept.key = row.key
  status : row.status.legal kept.status = true

/-- A session, and what later operations may have made of it. -/
structure SessionRow.Becomes (row kept : SessionRow) : Prop where
  stateHash : kept.stateHash = row.stateHash
  client : kept.clientId = row.clientId
  scopes : kept.scopes = row.scopes
  status : kept.status = row.status ∨ row.status = .pending ∨
    row.status = .authorized ∧ kept.status = .consumed
  bound : row.status ≠ .pending → kept.connectorId = row.connectorId
  code : row.status ≠ .pending → kept.authorizationCodeHash = row.authorizationCodeHash

/-- A grant, and what later operations may have made of it. -/
structure GrantRow.Becomes (row kept : GrantRow) : Prop where
  id : kept.id = row.id
  connector : kept.connectorId = row.connectorId
  tenant : kept.tenantId = row.tenantId
  client : kept.clientId = row.clientId
  scopes : kept.scopes = row.scopes
  status : kept.status = row.status ∨ kept.status = .revoked

/-- A token, and what later operations may have made of it. -/
structure TokenRow.Becomes (row kept : TokenRow) : Prop where
  hash : kept.tokenHash = row.tokenHash
  issuer : kept.grantId = row.grantId
  type : kept.tokenType = row.tokenType
  scopes : kept.scopes = row.scopes
  expires : kept.expiresAt = row.expiresAt
  rotated : row.rotatedAt.isSome → kept.rotatedAt.isSome
  revoked : row.revokedAt.isSome → kept.revokedAt.isSome

theorem ConnectorRow.Becomes.refl (row : ConnectorRow) : row.Becomes row :=
  ⟨rfl, row.status.legal_refl⟩

theorem SessionRow.Becomes.refl (row : SessionRow) : row.Becomes row :=
  ⟨rfl, rfl, rfl, .inl rfl, fun _ => rfl, fun _ => rfl⟩

theorem GrantRow.Becomes.refl (row : GrantRow) : row.Becomes row :=
  ⟨rfl, rfl, rfl, rfl, rfl, .inl rfl⟩

theorem TokenRow.Becomes.refl (row : TokenRow) : row.Becomes row :=
  ⟨rfl, rfl, rfl, rfl, rfl, id, id⟩

theorem ConnectorRow.Becomes.trans {first second third : ConnectorRow}
    (hfirst : first.Becomes second) (hsecond : second.Becomes third) : first.Becomes third :=
  ⟨hsecond.key.trans hfirst.key, ConnectorStatus.legal_trans hfirst.status hsecond.status⟩

theorem SessionRow.Becomes.trans {first second third : SessionRow}
    (hfirst : first.Becomes second) (hsecond : second.Becomes third) : first.Becomes third := by
  have hleft (hnot : first.status ≠ .pending) : second.status ≠ .pending := by
    rcases hfirst.status with hsame | hpending | ⟨-, hconsumed⟩
    · rwa [hsame]
    · exact absurd hpending hnot
    · simp [hconsumed]
  refine ⟨hsecond.stateHash.trans hfirst.stateHash, hsecond.client.trans hfirst.client,
    hsecond.scopes.trans hfirst.scopes, ?_,
    fun hnot => (hsecond.bound (hleft hnot)).trans (hfirst.bound hnot),
    fun hnot => (hsecond.code (hleft hnot)).trans (hfirst.code hnot)⟩
  rcases hfirst.status with hsame | hpending | ⟨hauthorized, hconsumed⟩
  · rw [← hsame]
    exact hsecond.status
  · exact .inr (.inl hpending)
  · refine .inr (.inr ⟨hauthorized, ?_⟩)
    rcases hsecond.status with hsame | hpending | ⟨hother, -⟩
    · exact hsame.trans hconsumed
    · simp [hconsumed] at hpending
    · simp [hconsumed] at hother

theorem SessionRow.Becomes.consumed {row kept : SessionRow} (hbecomes : row.Becomes kept)
    (hconsumed : row.status = .consumed) : kept.status = .consumed := by
  rcases hbecomes.status with hsame | hpending | ⟨hauthorized, -⟩
  · exact hsame.trans hconsumed
  · simp [hconsumed] at hpending
  · simp [hconsumed] at hauthorized

theorem GrantRow.Becomes.trans {first second third : GrantRow}
    (hfirst : first.Becomes second) (hsecond : second.Becomes third) : first.Becomes third := by
  refine ⟨hsecond.id.trans hfirst.id, hsecond.connector.trans hfirst.connector,
    hsecond.tenant.trans hfirst.tenant, hsecond.client.trans hfirst.client,
    hsecond.scopes.trans hfirst.scopes, ?_⟩
  rcases hsecond.status with hsame | hrevoked
  · rw [hsame]
    exact hfirst.status
  · exact .inr hrevoked

theorem TokenRow.Becomes.trans {first second third : TokenRow}
    (hfirst : first.Becomes second) (hsecond : second.Becomes third) : first.Becomes third :=
  ⟨hsecond.hash.trans hfirst.hash, hsecond.issuer.trans hfirst.issuer,
    hsecond.type.trans hfirst.type, hsecond.scopes.trans hfirst.scopes,
    hsecond.expires.trans hfirst.expires, fun hset => hsecond.rotated (hfirst.rotated hset),
    fun hset => hsecond.revoked (hfirst.revoked hset)⟩

theorem Revocation.grants_become {now : Instant} {connectorId : String} {store later : SharedStore}
    (hrevocation : Revocation now connectorId store later) :
    ∀ grant ∈ store.grants, ∃ kept ∈ later.grants, grant.Becomes kept :=
  hrevocation.grants.related .refl fun _ _ => ⟨rfl, rfl, rfl, rfl, rfl, .inr rfl⟩

/-! ### Stores -/

/-- What became of the rows of an earlier store. -/
structure Evolves (store later : SharedStore) : Prop where
  connectors : ∀ row ∈ store.connectors,
    (∃ kept ∈ later.connectors, row.Becomes kept) ∨ row.status = .pending
  sessions : ∀ row ∈ store.sessions, ∃ kept ∈ later.sessions, row.Becomes kept
  grants : ∀ row ∈ store.grants, ∃ kept ∈ later.grants, row.Becomes kept
  tokens : ∀ row ∈ store.tokens, ∃ kept ∈ later.tokens, row.Becomes kept

namespace Evolves

variable {store middle later : SharedStore} {now : Instant} {validScopes : List String}

theorem refl (store : SharedStore) : Evolves store store where
  connectors row hrow := .inl ⟨row, hrow, .refl row⟩
  sessions row hrow := ⟨row, hrow, .refl row⟩
  grants row hrow := ⟨row, hrow, .refl row⟩
  tokens row hrow := ⟨row, hrow, .refl row⟩

theorem trans (hfirst : Evolves store middle) (hsecond : Evolves middle later) :
    Evolves store later where
  connectors row hrow := by
    rcases hfirst.connectors row hrow with ⟨kept, hkept, hbecomes⟩ | hpending
    · rcases hsecond.connectors kept hkept with ⟨last, hlast, hlater⟩ | hpending
      · exact .inl ⟨last, hlast, hbecomes.trans hlater⟩
      · exact .inr (ConnectorStatus.legal_of_pending hbecomes.status hpending)
    · exact .inr hpending
  sessions row hrow := by
    obtain ⟨kept, hkept, hbecomes⟩ := hfirst.sessions row hrow
    obtain ⟨last, hlast, hlater⟩ := hsecond.sessions kept hkept
    exact ⟨last, hlast, hbecomes.trans hlater⟩
  grants row hrow := by
    obtain ⟨kept, hkept, hbecomes⟩ := hfirst.grants row hrow
    obtain ⟨last, hlast, hlater⟩ := hsecond.grants kept hkept
    exact ⟨last, hlast, hbecomes.trans hlater⟩
  tokens row hrow := by
    obtain ⟨kept, hkept, hbecomes⟩ := hfirst.tokens row hrow
    obtain ⟨last, hlast, hlater⟩ := hsecond.tokens kept hkept
    exact ⟨last, hlast, hbecomes.trans hlater⟩

theorem of_connectors {connectors : Connectors}
    (hconnectors : ∀ row ∈ store.connectors,
      (∃ kept ∈ connectors, row.Becomes kept) ∨ row.status = .pending) :
    Evolves store { store with connectors := connectors } :=
  { refl store with connectors := hconnectors }

theorem of_updated {connectors : Connectors} {condition : ConnectorRow → Bool}
    {change : ConnectorRow → ConnectorRow}
    (hupdated : Updated condition change store.connectors connectors)
    (hchange : ∀ row, condition row = true → row.Becomes (change row)) :
    Evolves store { store with connectors := connectors } :=
  .of_connectors fun row hrow => .inl (hupdated.related .refl hchange row hrow)

theorem of_sessions {sessions : Sessions}
    (hsessions : ∀ row ∈ store.sessions, ∃ kept ∈ sessions, row.Becomes kept) :
    Evolves store { store with sessions := sessions } :=
  { refl store with sessions := hsessions }

theorem of_tokens {tokens : Tokens}
    (htokens : ∀ row ∈ store.tokens, ∃ kept ∈ tokens, row.Becomes kept) :
    Evolves store { store with tokens := tokens } :=
  { refl store with tokens := htokens }

theorem of_issued {grant : GrantRow} {tokens : Tokens}
    (hissued : Issued grant now store.tokens tokens) :
    Evolves store { store with tokens := tokens } := by
  obtain ⟨access, refresh, middle, -, -, hmiddle, htokens⟩ := hissued
  exact .of_tokens fun row hrow => ⟨row, htokens.mem (hmiddle.mem hrow), .refl row⟩

theorem of_activation {connector : ConnectorRow} {grant : GrantRow}
    (hactivation : Activation now connector grant store later) : Evolves store later where
  connectors row hrow := by
    refine .inl (hactivation.connectors.related .refl (fun other hcondition => ⟨rfl, ?_⟩) row hrow)
    simp only [Bool.and_eq_true, decide_eq_true_eq] at hcondition
    rw [hcondition.2]
    rfl
  sessions := by
    rw [hactivation.sessions]
    exact (refl store).sessions
  grants := hactivation.grants.related .refl
  tokens := by
    rw [hactivation.tokens]
    exact (refl store).tokens

theorem of_revocation {connectorId : String}
    (hrevocation : Revocation now connectorId store later) : Evolves store later where
  connectors row hrow := by
    refine .inl (hrevocation.connectors.related .refl (fun other hcondition => ⟨rfl, ?_⟩) row hrow)
    simp only [Bool.and_eq_true, Bool.or_eq_true, decide_eq_true_eq] at hcondition
    rcases hcondition.2 with hpending | hactive
    · rw [hpending]
      rfl
    · rw [hactive]
      rfl
  sessions := by
    rw [hrevocation.sessions]
    exact (refl store).sessions
  grants := hrevocation.grants_become
  tokens := hrevocation.tokens.related .refl
    fun _ _ => ⟨rfl, rfl, rfl, rfl, rfl, id, fun _ => rfl⟩

/-- **A move never takes a row back.** -/
theorem of_move (hmove : Move validScopes now store later) : Evolves store later := by
  cases hmove with
  | journal journal => exact { refl store with }
  | clients hkept => exact { refl store with }
  | openSession _ _ hinserted => exact .of_sessions (hinserted.related .refl)
  | bind stateHash connectorId hupdated =>
      refine .of_sessions (hupdated.related .refl fun row hcondition => ?_)
      simp only [SessionRow.isOpen, Bool.and_eq_true, decide_eq_true_eq] at hcondition
      exact ⟨rfl, rfl, rfl, .inl rfl, fun hnot => absurd hcondition.1.1.2 hnot, fun _ => rfl⟩
  | supersede stateHash clientId connectorId _ hupdated =>
      exact .of_sessions (hupdated.related .refl fun row _ =>
        ⟨rfl, rfl, rfl, .inl rfl, fun _ => rfl, fun _ => rfl⟩)
  | prepare _ _ hinserted =>
      exact .of_connectors fun row hrow => .inl (hinserted.related .refl row hrow)
  | select _ _ _ _ _ _ hupdated =>
      exact .of_updated hupdated fun row _ => ⟨rfl, row.status.legal_refl⟩
  | expire hupdated =>
      refine .of_updated hupdated fun row hcondition => ⟨rfl, ?_⟩
      simp only [Bool.and_eq_true, decide_eq_true_eq] at hcondition
      rw [hcondition.1]
      rfl
  | discard _ hkept =>
      refine .of_connectors fun row hrow => ?_
      rcases hkept row hrow with hmem | ⟨hpending, -⟩
      · exact .inl ⟨row, hmem, .refl row⟩
      · exact .inr hpending
  | reseal tenantId connectorId oldVersion sealed hupdated =>
      exact .of_updated hupdated fun row _ => ⟨rfl, row.status.legal_refl⟩
  | @activate granted revoked _ session connector grant codeHash hactivatable hactivation
      hsuperseded hsessions hconnectors hgrants htokens hclients =>
      have hgranted := of_activation hactivation
      have hrevoked : Evolves store revoked ∧ revoked.sessions = store.sessions := by
        rcases hsuperseded with ⟨-, rfl⟩ | ⟨superseded, -, hrevocation⟩
        · exact ⟨hgranted, hactivation.sessions⟩
        · exact ⟨hgranted.trans (of_revocation hrevocation),
            hrevocation.sessions.trans hactivation.sessions⟩
      constructor
      · rw [hconnectors]
        exact hrevoked.1.connectors
      · refine hsessions.related .refl fun row hcondition => ?_
        simp only [Bool.and_eq_true, decide_eq_true_eq] at hcondition
        exact ⟨rfl, rfl, rfl, .inr (.inl hcondition.2), fun _ => rfl,
          fun hnot => absurd hcondition.2 hnot⟩
      · rw [hgrants]
        exact hrevoked.1.grants
      · rw [htokens]
        exact hrevoked.1.tokens
  | revoke _ hrevocation => exact of_revocation hrevocation
  | exchange _ _ _ _ _ hsessions htokens =>
      refine (of_sessions (hsessions.related .refl fun row hcondition => ?_)).trans
        (of_issued htokens)
      simp only [Bool.and_eq_true, decide_eq_true_eq] at hcondition
      exact ⟨rfl, rfl, rfl, .inr (.inr ⟨hcondition.2, rfl⟩), fun _ => rfl, fun _ => rfl⟩
  | refresh _ _ _ _ _ _ _ _ hrotated hrevoked htokens =>
      have hfirst := of_tokens (hrotated.related .refl fun _ _ =>
        ⟨rfl, rfl, rfl, rfl, rfl, fun _ => rfl, id⟩)
      have hsecond := hfirst.trans (of_tokens (hrevoked.related .refl fun _ _ =>
        ⟨rfl, rfl, rfl, rfl, rfl, id, fun _ => rfl⟩))
      exact hsecond.trans (of_issued htokens)

theorem of_run {deployment : SharedDeployment} {events : List SharedEvent}
    (hrun : deployment.Run store events later) : Evolves store later :=
  hrun.preserves_of_move (fun _ _ _ hmove hevolves => hevolves.trans (of_move hmove)) (refl store)

end Evolves

/-- **The authority of a connector.** At the end of every run: an active connector has exactly one
grant, active and in its tenant, a selection among its discovered companies with a default in it,
and a consumed handle; no grant of any other connector is active; a connector is the subject of at
most one grant; and the scopes of a token lie within those of its grant, which are valid. Whatever
runs from there, a connector that is no longer pending stays, and its status never moves back. -/
theorem connector_authority {deployment : SharedDeployment} {events : List SharedEvent}
    {store : SharedStore} (hrun : deployment.Run .empty events store) :
    (∀ row ∈ store.connectors, row.status = .active →
      (∃ grant ∈ store.grants, grant.connectorId = row.id ∧ grant.tenantId = row.tenantId ∧
        grant.status = .active) ∧
        ∃ allowed default, row.allowedCompanyIds = some allowed ∧
          row.defaultCompanyId = some default ∧ default ∈ allowed ∧
            (∀ company ∈ allowed, company ∈ row.discoveredCompanyIds) ∧
              row.consumedEnrollmentHandleHash.isSome) ∧
      (∀ row ∈ store.connectors, row.status ≠ .active →
        ∀ grant ∈ store.grants, grant.connectorId = row.id → grant.status ≠ .active) ∧
        (∀ first ∈ store.grants, ∀ second ∈ store.grants,
          first.connectorId = second.connectorId → first = second) ∧
          (∀ token ∈ store.tokens, ∃ grant ∈ store.grants, grant.id = token.grantId ∧
            (∀ scope ∈ token.scopes, scope ∈ grant.scopes) ∧
              ∀ scope ∈ grant.scopes, scope ∈ deployment.provider.validScopes) ∧
            ∀ rest later, deployment.Run store rest later →
              ∀ row ∈ store.connectors, row.status ≠ .pending →
                ∃ kept ∈ later.connectors, kept.key = row.key ∧
                  row.status.legal kept.status = true := by
  have hauthority := Authority.of_reachable ⟨events, hrun⟩
  refine ⟨fun row hrow hactive => ⟨?_, ?_⟩, fun row hrow hnot grant hgrant hconnector => ?_,
    hauthority.single, fun token htoken => ?_, fun rest later hrest row hrow hnot => ?_⟩
  · obtain ⟨grant, hgrant, hconnector, hstatus⟩ := hauthority.granted row hrow hactive
    obtain ⟨subject, hsubject, hid, htenant, -⟩ := hauthority.subject grant hgrant
    obtain rfl := hauthority.eq_of_id hsubject hrow (hid.trans hconnector)
    exact ⟨grant, hgrant, hconnector, htenant.symm, hstatus⟩
  · obtain ⟨allowed, hallowed⟩ :=
      Option.isSome_iff_exists.mp ((hauthority.consistent row hrow).complete hactive)
    obtain ⟨-, hdiscovered, ⟨default, hmem, hdefault⟩, hconsumed⟩ :=
      (hauthority.consistent row hrow).selected allowed hallowed
    exact ⟨allowed, default, hallowed, hdefault, hmem, hdiscovered, hconsumed⟩
  · intro hactive
    obtain ⟨subject, hsubject, hid, -, hstatus⟩ := hauthority.subject grant hgrant
    obtain rfl := hauthority.eq_of_id hsubject hrow (hid.trans hconnector)
    rw [hactive] at hstatus
    exact hnot hstatus
  · obtain ⟨grant, hgrant, hid, hscopes⟩ := hauthority.tokenScopes token htoken
    exact ⟨grant, hgrant, hid, hscopes, hauthority.grantScopes grant hgrant⟩
  · rcases (Evolves.of_run hrest).connectors row hrow with ⟨kept, hkept, hbecomes⟩ | hpending
    · exact ⟨kept, hkept, hbecomes.key, hbecomes.status⟩
    · exact absurd hpending hnot

/-! ### An assistant is connected -/

def paddedCipher : AesGcm where
  encrypt _ _ data _ := data ++ List.replicate 16 0
  decrypt _ _ ciphertext _ := some (ciphertext.take (ciphertext.length - 16))

def sampleKeys : List (Int × List UInt8) := [(1, List.replicate 32 7)]

theorem sampleKeys_versioned : ∀ entry ∈ sampleKeys, 0 < entry.1 ∧ entry.2.length = 32 := by
  simp [sampleKeys]

def sampleKeyring : EncryptionKeyring where
  activeVersion := 1
  keys := sampleKeys
  active_known := rfl
  versioned := sampleKeys_versioned

def sampleDeployment : SharedDeployment where
  sha256 value := value
  cipher := paddedCipher
  acceptsUrl _ := true
  provider :=
    { issuerUrl := "https://connector.example"
      resourceUrl := "https://connector.example/mcp"
      validScopes := ["accounting_read", "core_read"]
      audit := true }

/-- An operation at this minute; its random values are named after it. -/
def sampleAmbient (minute : Nat) (operation : String) : Ambient where
  now := minute * 60000000
  random index := operation ++ toString index
  nonce _ := 7
  order := 0

def sampleClient : OAuthClientInformation where
  clientId := "app"
  clientSecret := none
  tokenEndpointAuthMethod := some "none"
  redirectUris := some [⟨"https://assistant.example/callback", "https", "assistant.example",
    "/callback", "", none, none, some "assistant.example"⟩]
  scope := some "core_read accounting_read"

def sampleParams : AuthorizationParams where
  state := some "state"
  scopes := some ["core_read"]
  codeChallenge := "0123456789012345678901234567890123456789012"
  redirectUri := "https://assistant.example/callback"
  resource := some "https://connector.example/mcp"

def sampleCode : AuthorizationCode where
  code := "e0"
  scopes := ["accounting_read", "core_read"]
  expiresAt := 0
  clientId := "app"
  codeChallenge := "0123456789012345678901234567890123456789012"
  redirectUri := "https://assistant.example/callback"
  redirectUriProvidedExplicitly := true
  resource := "https://connector.example/mcp"
  subject := "c0"

def sampleRefreshToken : RefreshToken where
  token := "t1"
  clientId := "app"
  scopes := ["accounting_read", "core_read"]
  expiresAt := 0
  resource := "https://connector.example/mcp"
  subject := "c0"

/-- An assistant is connected to two companies, and refreshes its tokens. -/
def sampleRequests : List (Ambient × SharedRequest) :=
  [(sampleAmbient 1 "r", .registerClient sampleClient),
    (sampleAmbient 2 "s", .authorize sampleClient sampleParams),
    (sampleAmbient 3 "c", .insertPrepared sampleKeyring
      ⟨"https://erp.example", "erp", "bookkeeper", "key"⟩ "enroll:s0"
      ⟨18, "json_rpc", [⟨1, "One", none, none⟩, ⟨2, "Two", none, none⟩]⟩),
    (sampleAmbient 3 "b", .bindConnector "s0" "c0"),
    (sampleAmbient 4 "m", .commitEnrollment "enroll:s0" [2, 1] 2),
    (sampleAmbient 4 "e", .activateConnector "s0" true),
    (sampleAmbient 5 "t", .exchangeAuthorizationCode sampleClient sampleCode),
    (sampleAmbient 6 "u", .exchangeRefreshToken sampleClient sampleRefreshToken [])]

def SharedEvent.succeeded (event : SharedEvent) : Bool := event.answer.isOk

def sampleEvents : List SharedEvent := sampleDeployment.playedEvents .empty sampleRequests

def sampleStore : SharedStore := sampleDeployment.played .empty sampleRequests

theorem sampleRun : sampleDeployment.Run .empty sampleEvents sampleStore :=
  sampleDeployment.run_played .empty sampleRequests

/-- Every operation of the sample succeeds. -/
theorem sampleEvents_succeed : sampleEvents.all SharedEvent.succeeded = true := by
  decide +kernel

theorem connector_authority_sample :
    sampleEvents.all SharedEvent.succeeded = true ∧
      ∀ row ∈ sampleStore.connectors, row.status = .active →
        (∃ grant ∈ sampleStore.grants, grant.connectorId = row.id ∧
          grant.tenantId = row.tenantId ∧ grant.status = .active) ∧
          ∃ allowed default, row.allowedCompanyIds = some allowed ∧
            row.defaultCompanyId = some default ∧ default ∈ allowed ∧
              (∀ company ∈ allowed, company ∈ row.discoveredCompanyIds) ∧
                row.consumedEnrollmentHandleHash.isSome :=
  ⟨sampleEvents_succeed, (connector_authority sampleRun).1⟩

end OdooMcp
