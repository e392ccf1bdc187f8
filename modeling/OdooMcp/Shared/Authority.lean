import OdooMcp.Shared.Moves

/-!
# The authority of connectors

A grant has exactly one connector, of its own tenant, and the two are active together; a connector
is the subject of at most one grant; scopes only shrink on the way from the deployment to a token.
Every move keeps these conditions, so they hold in every reachable store.
-/

namespace OdooMcp

open Effect Statements UniqueTable

/-- The selection of a row lies within its discovered companies, and an active row has one. -/
structure ConnectorRow.Consistent (row : ConnectorRow) : Prop where
  selected : ∀ allowed, row.allowedCompanyIds = some allowed → allowed ≠ [] ∧
    (∀ company ∈ allowed, company ∈ row.discoveredCompanyIds) ∧
      (∃ default ∈ allowed, row.defaultCompanyId = some default) ∧
        row.consumedEnrollmentHandleHash.isSome
  complete : row.status = .active → row.allowedCompanyIds.isSome

/-- The status of the connector of a grant with this status. -/
def GrantStatus.connector : GrantStatus → ConnectorStatus
  | .active => .active
  | .revoked => .revoked

theorem GrantStatus.connector_ne_pending (status : GrantStatus) : status.connector ≠ .pending := by
  cases status <;> simp [connector]

/-- The joint invariant of the four tables. -/
structure Authority (validScopes : List String) (store : SharedStore) : Prop where
  tenant : ∀ row ∈ store.connectors, row.tenantId = tenantOf row.id
  consistent : ∀ row ∈ store.connectors, row.Consistent
  granted : ∀ row ∈ store.connectors, row.status = .active →
    ∃ grant ∈ store.grants, grant.connectorId = row.id ∧ grant.status = .active
  subject : ∀ grant ∈ store.grants, ∃ row ∈ store.connectors,
    row.id = grant.connectorId ∧ row.tenantId = grant.tenantId ∧
      row.status = grant.status.connector
  single : ∀ first ∈ store.grants, ∀ second ∈ store.grants,
    first.connectorId = second.connectorId → first = second
  sessionScopes : ∀ session ∈ store.sessions, ∀ scope ∈ session.scopes, scope ∈ validScopes
  superseded : ∀ session ∈ store.sessions, ∀ connectorId,
    session.supersededConnectorId = some connectorId →
      ∃ grant ∈ store.grants, grant.connectorId = connectorId
  grantScopes : ∀ grant ∈ store.grants, ∀ scope ∈ grant.scopes, scope ∈ validScopes
  tokenScopes : ∀ token ∈ store.tokens, ∃ grant ∈ store.grants,
    grant.id = token.grantId ∧ ∀ scope ∈ token.scopes, scope ∈ grant.scopes

namespace Authority

variable {validScopes : List String} {store later : SharedStore} {now : Instant}

theorem empty : Authority validScopes .empty := by
  constructor <;> simp [SharedStore.empty]

/-- The identifier alone determines a connector. -/
theorem eq_of_id (hauthority : Authority validScopes store) {first second : ConnectorRow}
    (hfirst : first ∈ store.connectors) (hsecond : second ∈ store.connectors)
    (hid : first.id = second.id) : first = second := by
  refine eq_of_key_eq hfirst hsecond ?_
  rw [ConnectorRow.key, ConnectorRow.key, hauthority.tenant first hfirst,
    hauthority.tenant second hsecond, hid]

/-- A connector that is the subject of a grant is not pending. -/
theorem not_pending_of_grant (hauthority : Authority validScopes store) {row : ConnectorRow}
    {grant : GrantRow} (hrow : row ∈ store.connectors) (hgrant : grant ∈ store.grants)
    (hconnector : grant.connectorId = row.id) : row.status ≠ .pending := by
  obtain ⟨subject, hsubject, hid, -, hstatus⟩ := hauthority.subject grant hgrant
  rw [← hauthority.eq_of_id hsubject hrow (hid.trans hconnector), hstatus]
  exact grant.status.connector_ne_pending

/-! ### Updates of one table -/

theorem update_connectors (hauthority : Authority validScopes store) {connectors : Connectors}
    {condition : ConnectorRow → Bool} {change : ConnectorRow → ConnectorRow}
    (hupdated : Updated condition change store.connectors connectors)
    (hkey : ∀ row, (change row).id = row.id ∧ (change row).tenantId = row.tenantId)
    (hconsistent : ∀ row ∈ store.connectors, condition row = true → row.Consistent →
      (change row).Consistent)
    (hstatus : ∀ row ∈ store.connectors, condition row = true →
      (change row).status = row.status ∨ row.status = .pending ∧ (change row).status ≠ .active) :
    Authority validScopes { store with connectors := connectors } where
  tenant := hupdated.forall_mem hauthority.tenant fun row hrow _ => by
    rw [(hkey row).1, (hkey row).2]
    exact hauthority.tenant row hrow
  consistent := hupdated.forall_mem hauthority.consistent fun row hrow hcondition =>
    hconsistent row hrow hcondition (hauthority.consistent row hrow)
  granted := hupdated.forall_mem hauthority.granted fun row hrow hcondition hactive => by
    rw [(hkey row).1]
    rcases hstatus row hrow hcondition with hsame | ⟨-, hnot⟩
    · exact hauthority.granted row hrow (hsame.symm.trans hactive)
    · exact absurd hactive hnot
  subject := by
    intro grant hgrant
    obtain ⟨row, hrow, hid, htenant, hgranted⟩ := hauthority.subject grant hgrant
    refine ⟨_, hupdated.mem hrow, ?_⟩
    split
    · rename_i hcondition
      rcases hstatus row hrow hcondition with hsame | ⟨hpending, -⟩
      · exact ⟨(hkey row).1.trans hid, (hkey row).2.trans htenant, hsame.trans hgranted⟩
      · exact absurd (hgranted.symm.trans hpending) grant.status.connector_ne_pending
    · exact ⟨hid, htenant, hgranted⟩
  single := hauthority.single
  sessionScopes := hauthority.sessionScopes
  superseded := hauthority.superseded
  grantScopes := hauthority.grantScopes
  tokenScopes := hauthority.tokenScopes

theorem update_sessions (hauthority : Authority validScopes store) {sessions : Sessions}
    {condition : SessionRow → Bool} {change : SessionRow → SessionRow}
    (hupdated : Updated condition change store.sessions sessions)
    (hscopes : ∀ row, (change row).scopes = row.scopes)
    (hsuperseded : ∀ row connectorId, (change row).supersededConnectorId = some connectorId →
      row.supersededConnectorId = some connectorId ∨
        ∃ grant ∈ store.grants, grant.connectorId = connectorId) :
    Authority validScopes { store with sessions := sessions } where
  tenant := hauthority.tenant
  consistent := hauthority.consistent
  granted := hauthority.granted
  subject := hauthority.subject
  single := hauthority.single
  sessionScopes := hupdated.forall_mem hauthority.sessionScopes fun row hrow _ => by
    rw [hscopes row]
    exact hauthority.sessionScopes row hrow
  superseded := hupdated.forall_mem hauthority.superseded fun row hrow _ connectorId hchanged => by
    rcases hsuperseded row connectorId hchanged with hold | hgrant
    · exact hauthority.superseded row hrow connectorId hold
    · exact hgrant
  grantScopes := hauthority.grantScopes
  tokenScopes := hauthority.tokenScopes

theorem change_tokens (hauthority : Authority validScopes store) {tokens : Tokens}
    (hscopes : ∀ token ∈ tokens, ∃ grant ∈ store.grants,
      grant.id = token.grantId ∧ ∀ scope ∈ token.scopes, scope ∈ grant.scopes) :
    Authority validScopes { store with tokens := tokens } :=
  { hauthority with tokenScopes := hscopes }

theorem tokenScopes_updated (hauthority : Authority validScopes store) {tokens : Tokens}
    {condition : TokenRow → Bool} {change : TokenRow → TokenRow}
    (hupdated : Updated condition change store.tokens tokens)
    (hkept : ∀ row, (change row).grantId = row.grantId ∧ (change row).scopes = row.scopes) :
    Authority validScopes { store with tokens := tokens } :=
  hauthority.change_tokens (hupdated.forall_mem hauthority.tokenScopes fun row hrow _ => by
    rw [(hkept row).1, (hkept row).2]
    exact hauthority.tokenScopes row hrow)

theorem issued (hauthority : Authority validScopes store) {tokens : Tokens} {grant : GrantRow}
    (hgrant : grant ∈ store.grants) (hissued : Issued grant now store.tokens tokens) :
    Authority validScopes { store with tokens := tokens } := by
  obtain ⟨access, refresh, middle, haccess, hrefresh, hmiddle, htokens⟩ := hissued
  have hfresh : ∀ {token : TokenRow} {tokenType : TokenType}, token.Fresh grant tokenType now →
      ∃ grant ∈ store.grants, grant.id = token.grantId ∧
        ∀ scope ∈ token.scopes, scope ∈ grant.scopes :=
    fun hfresh => ⟨grant, hgrant, hfresh.issuer.symm, hfresh.scopes⟩
  exact hauthority.change_tokens
    (htokens.forall_mem (hmiddle.forall_mem hauthority.tokenScopes (hfresh haccess))
      (hfresh hrefresh))

/-! ### Activation and revocation -/

theorem activation (hauthority : Authority validScopes store) {session : SessionRow}
    {connector : ConnectorRow} {grant : GrantRow}
    (hactivatable : Activatable now store session connector grant)
    (hactivation : Activation now connector grant store later) : Authority validScopes later where
  tenant := hactivation.connectors.forall_mem hauthority.tenant fun row hrow _ =>
    hauthority.tenant row hrow
  consistent := hactivation.connectors.forall_mem hauthority.consistent
    fun row hrow hcondition => by
      simp only [Bool.and_eq_true, decide_eq_true_eq] at hcondition
      obtain rfl := hauthority.eq_of_id hrow hactivatable.connector_mem hcondition.1.2
      exact ⟨(hauthority.consistent row hrow).selected, fun _ => hactivatable.allowed⟩
  granted := hactivation.connectors.forall_mem
    (fun row hrow hactive => by
      obtain ⟨held, hheld, hconnector⟩ := hauthority.granted row hrow hactive
      exact ⟨held, hactivation.grants.mem hheld, hconnector⟩)
    fun row hrow hcondition _ => by
      simp only [Bool.and_eq_true, decide_eq_true_eq] at hcondition
      exact ⟨grant, hactivation.grants.mem_self,
        hactivatable.grant_connector.trans hcondition.1.2.symm, hactivatable.grant_active⟩
  subject := by
    refine hactivation.grants.forall_mem (fun held hheld => ?_) ?_
    · obtain ⟨row, hrow, hid, htenant, hstatus⟩ := hauthority.subject held hheld
      refine ⟨row, hactivation.connectors.mem_kept hrow ?_, hid, htenant, hstatus⟩
      have hpending := held.status.connector_ne_pending
      rw [← hstatus] at hpending
      simp [hpending]
    · refine ⟨_, hactivation.connectors.mem_changed hactivatable.connector_mem ?_,
        hactivatable.grant_connector.symm, hactivatable.grant_tenant.symm, ?_⟩
      · simp [hactivatable.connector_pending]
      · rw [hactivatable.grant_active]
        rfl
  single := by
    have hnew : ∀ held ∈ store.grants, held.connectorId ≠ grant.connectorId := by
      intro held hheld hsame
      exact hauthority.not_pending_of_grant hactivatable.connector_mem hheld
        (hsame.trans hactivatable.grant_connector) hactivatable.connector_pending
    intro first hfirst second hsecond hsame
    rcases (hactivation.grants.2 first).mp hfirst with hfirst | rfl <;>
      rcases (hactivation.grants.2 second).mp hsecond with hsecond | rfl
    · exact hauthority.single first hfirst second hsecond hsame
    · exact absurd hsame (hnew first hfirst)
    · exact absurd hsame.symm (hnew second hsecond)
    · rfl
  sessionScopes := by
    rw [hactivation.sessions]
    exact hauthority.sessionScopes
  superseded := by
    rw [hactivation.sessions]
    intro session hsession connectorId hsuperseded
    obtain ⟨held, hheld, hconnector⟩ :=
      hauthority.superseded session hsession connectorId hsuperseded
    exact ⟨held, hactivation.grants.mem hheld, hconnector⟩
  grantScopes := hactivation.grants.forall_mem hauthority.grantScopes (by
    rw [hactivatable.grant_scopes]
    exact hauthority.sessionScopes session hactivatable.session_mem)
  tokenScopes := by
    rw [hactivation.tokens]
    intro token htoken
    obtain ⟨held, hheld, hscopes⟩ := hauthority.tokenScopes token htoken
    exact ⟨held, hactivation.grants.mem hheld, hscopes⟩

theorem revocation (hauthority : Authority validScopes store) {connectorId : String}
    (hrevocation : Revocation now connectorId store later) : Authority validScopes later := by
  have hgrants : ∀ held ∈ store.grants, ∃ kept ∈ later.grants, kept.id = held.id ∧
      kept.connectorId = held.connectorId ∧ kept.scopes = held.scopes := by
    intro held hheld
    refine ⟨_, hrevocation.grants.mem hheld, ?_⟩
    split <;> exact ⟨rfl, rfl, rfl⟩
  constructor
  · exact hrevocation.connectors.forall_mem hauthority.tenant fun row hrow _ =>
      hauthority.tenant row hrow
  · exact hrevocation.connectors.forall_mem hauthority.consistent fun row hrow _ =>
      ⟨(hauthority.consistent row hrow).selected, fun hactive => by cases hactive⟩
  · intro row hrow hactive
    obtain ⟨old, hold, rfl⟩ := (hrevocation.connectors row).mp hrow
    split at hactive
    · cases hactive
    · rename_i hcondition
      rw [if_neg hcondition]
      obtain ⟨held, hheld, hconnector, hstatus⟩ := hauthority.granted old hold hactive
      refine ⟨held, hrevocation.grants.mem_kept hheld ?_, hconnector, hstatus⟩
      simp only [hactive, Bool.and_eq_true, decide_eq_true_eq, Bool.or_eq_true] at hcondition
      simp only [hconnector, Bool.and_eq_false_iff, decide_eq_false_iff_not]
      exact .inl fun hid => hcondition ⟨hid, .inr trivial⟩
  · intro grant hgrant
    obtain ⟨old, hold, rfl⟩ := (hrevocation.grants grant).mp hgrant
    obtain ⟨row, hrow, hid, htenant, hstatus⟩ := hauthority.subject old hold
    by_cases hcondition : old.connectorId = connectorId ∧ old.status = .active
    · refine ⟨_, hrevocation.connectors.mem_changed hrow ?_, ?_⟩
      · simp [hid, hcondition.1, hstatus, hcondition.2, GrantStatus.connector]
      · simp [hcondition, hid, htenant, GrantStatus.connector]
    · refine ⟨row, hrevocation.connectors.mem_kept hrow ?_, ?_⟩
      · cases hheld : old.status with
        | revoked => simp [hstatus, hheld, GrantStatus.connector]
        | active =>
            have hother : row.id ≠ connectorId := fun hsame =>
              hcondition ⟨hid.symm.trans hsame, hheld⟩
            simp [hother]
      · have hkept : ¬(decide (old.connectorId = connectorId) &&
            decide (old.status = .active)) = true := by
          simpa using hcondition
        rw [if_neg hkept]
        exact ⟨hid, htenant, hstatus⟩
  · intro first hfirst second hsecond hsame
    obtain ⟨one, hone, rfl⟩ := (hrevocation.grants first).mp hfirst
    obtain ⟨two, htwo, rfl⟩ := (hrevocation.grants second).mp hsecond
    have hconnectors : one.connectorId = two.connectorId := by
      revert hsame
      split <;> split <;> exact id
    rw [hauthority.single one hone two htwo hconnectors]
  · rw [hrevocation.sessions]
    exact hauthority.sessionScopes
  · rw [hrevocation.sessions]
    intro session hsession superseded hsuperseded
    obtain ⟨held, hheld, hconnector⟩ :=
      hauthority.superseded session hsession superseded hsuperseded
    obtain ⟨kept, hkept, -, hsame, -⟩ := hgrants held hheld
    exact ⟨kept, hkept, hsame.trans hconnector⟩
  · exact hrevocation.grants.forall_mem hauthority.grantScopes fun row hrow _ =>
      hauthority.grantScopes row hrow
  · have htokens : ∀ token ∈ store.tokens, ∃ grant ∈ later.grants,
        grant.id = token.grantId ∧ ∀ scope ∈ token.scopes, scope ∈ grant.scopes := by
      intro token htoken
      obtain ⟨held, hheld, hid, hscopes⟩ := hauthority.tokenScopes token htoken
      obtain ⟨kept, hkept, hsame, -, hkeptScopes⟩ := hgrants held hheld
      exact ⟨kept, hkept, hsame.trans hid, by rwa [hkeptScopes]⟩
    exact hrevocation.tokens.forall_mem htokens fun row hrow _ => htokens row hrow

/-! ### Every move -/

/-- The invariant reads the tables of the authority only. -/
theorem congr (hauthority : Authority validScopes store)
    (hconnectors : later.connectors = store.connectors)
    (hsessions : later.sessions = store.sessions)
    (hgrants : later.grants = store.grants) (htokens : later.tokens = store.tokens) :
    Authority validScopes later := by
  obtain ⟨htenant, hconsistent, hgranted, hsubject, hsingle, hscopes, hsuperseded, hgrantScopes,
    htokenScopes⟩ := hauthority
  constructor <;> simp only [hconnectors, hsessions, hgrants, htokens] <;> assumption

theorem prepared (hauthority : Authority validScopes store) {connectors : Connectors}
    {row : ConnectorRow} (hprepared : row.Prepared now)
    (hinserted : Inserted row store.connectors connectors) :
    Authority validScopes { store with connectors := connectors } where
  tenant := hinserted.forall_mem hauthority.tenant hprepared.tenant
  consistent := by
    refine hinserted.forall_mem hauthority.consistent
      ⟨fun allowed hallowed => ?_, fun hactive => ?_⟩
    · rw [hprepared.allowed] at hallowed
      cases hallowed
    · rw [hprepared.status] at hactive
      cases hactive
  granted := by
    refine hinserted.forall_mem hauthority.granted fun hactive => ?_
    rw [hprepared.status] at hactive
    cases hactive
  subject := by
    intro grant hgrant
    obtain ⟨subject, hmem, hsubject⟩ := hauthority.subject grant hgrant
    exact ⟨subject, hinserted.mem hmem, hsubject⟩
  single := hauthority.single
  sessionScopes := hauthority.sessionScopes
  superseded := hauthority.superseded
  grantScopes := hauthority.grantScopes
  tokenScopes := hauthority.tokenScopes

theorem opened (hauthority : Authority validScopes store) {sessions : Sessions} {row : SessionRow}
    (hopened : row.Opened validScopes now) (hinserted : Inserted row store.sessions sessions) :
    Authority validScopes { store with sessions := sessions } :=
  { hauthority with
    sessionScopes := hinserted.forall_mem hauthority.sessionScopes hopened.scopes
    superseded := by
      refine hinserted.forall_mem hauthority.superseded fun connectorId hsuperseded => ?_
      rw [hopened.superseded] at hsuperseded
      cases hsuperseded }

theorem selection (hauthority : Authority validScopes store) {row : ConnectorRow}
    {selected : List Int} {default : Int} {handleHash : String} {connectors : Connectors}
    (hrow : row ∈ store.connectors) (hselected : row.Selects selected default)
    (hupdated : Updated
      (fun other => other.tenantId = row.tenantId && other.id = row.id && other.status = .pending)
      (fun other => { other with
        allowedCompanyIds := some selected
        defaultCompanyId := some default
        enrollmentHandleHash := none
        consumedEnrollmentHandleHash := some handleHash
        updatedAt := now })
      store.connectors connectors) :
    Authority validScopes { store with connectors := connectors } := by
  refine hauthority.update_connectors hupdated (fun _ => ⟨rfl, rfl⟩) ?_ fun _ _ _ => .inl rfl
  intro other hother hcondition _
  simp only [Bool.and_eq_true, decide_eq_true_eq] at hcondition
  obtain rfl := hauthority.eq_of_id hother hrow hcondition.1.2
  refine ⟨?_, fun _ => rfl⟩
  rintro _ ⟨⟩
  exact ⟨hselected.nonempty, hselected.discovered, ⟨default, hselected.default, rfl⟩, rfl⟩

/-- **Every move keeps the authority.** -/
theorem of_move (hmove : Move validScopes now store later)
    (hauthority : Authority validScopes store) : Authority validScopes later := by
  cases hmove with
  | journal journal => exact hauthority.congr rfl rfl rfl rfl
  | clients hkept => exact hauthority.congr rfl rfl rfl rfl
  | openSession hopened _ hinserted => exact hauthority.opened hopened hinserted
  | bind stateHash connectorId hupdated =>
      exact hauthority.update_sessions hupdated (fun _ => rfl) fun _ _ hsame => .inl hsame
  | supersede stateHash clientId connectorId hgrant hupdated =>
      refine hauthority.update_sessions hupdated (fun _ => rfl) ?_
      rintro row _ ⟨⟩
      exact .inr hgrant
  | prepare hprepared _ hinserted => exact hauthority.prepared hprepared hinserted
  | select hrow _ _ _ _ hselected hupdated => exact hauthority.selection hrow hselected hupdated
  | expire hupdated =>
      refine hauthority.update_connectors hupdated (fun _ => ⟨rfl, rfl⟩) ?_ ?_
      · exact fun row _ _ hconsistent => ⟨hconsistent.selected, fun hactive => by cases hactive⟩
      · intro row _ hcondition
        simp only [Bool.and_eq_true, decide_eq_true_eq] at hcondition
        exact .inr ⟨hcondition.1, nofun⟩
  | discard hsubset hkept =>
      exact { hauthority with
        tenant := fun row hrow => hauthority.tenant row (hsubset row hrow)
        consistent := fun row hrow => hauthority.consistent row (hsubset row hrow)
        granted := fun row hrow => hauthority.granted row (hsubset row hrow)
        subject := by
          intro grant hgrant
          obtain ⟨row, hrow, hid, htenant, hstatus⟩ := hauthority.subject grant hgrant
          rcases hkept row hrow with hmem | ⟨hpending, -⟩
          · exact ⟨row, hmem, hid, htenant, hstatus⟩
          · exact absurd (hstatus.symm.trans hpending) grant.status.connector_ne_pending }
  | reseal tenantId connectorId oldVersion sealed hupdated =>
      exact hauthority.update_connectors hupdated (fun _ => ⟨rfl, rfl⟩)
        (fun _ _ _ hconsistent => ⟨hconsistent.selected, hconsistent.complete⟩)
        fun _ _ _ => .inl rfl
  | @activate granted revoked _ session connector grant codeHash hactivatable hactivation
      hsuperseded hsessions hconnectors hgrants htokens hclients =>
      have hgranted := hauthority.activation hactivatable hactivation
      have hrevoked : Authority validScopes revoked ∧ revoked.sessions = store.sessions := by
        rcases hsuperseded with ⟨-, rfl⟩ | ⟨superseded, -, hrevocation⟩
        · exact ⟨hgranted, hactivation.sessions⟩
        · exact ⟨hgranted.revocation hrevocation, hrevocation.sessions.trans hactivation.sessions⟩
      rw [← hrevoked.2] at hsessions
      have hupdated := hrevoked.1.update_sessions hsessions (fun _ => rfl)
        fun _ _ hsame => .inl hsame
      exact hupdated.congr hconnectors rfl hgrants htokens
  | revoke _ hrevocation => exact hauthority.revocation hrevocation
  | exchange hsession _ hgrant _ _ hsessions htokens =>
      have hupdated := hauthority.update_sessions hsessions (fun _ => rfl)
        fun _ _ hsame => .inl hsame
      exact hupdated.issued hgrant htokens
  | refresh hrow _ _ _ _ hgrant _ _ hrotated hrevoked htokens =>
      have hfirst := hauthority.tokenScopes_updated hrotated fun _ => ⟨rfl, rfl⟩
      have hsecond := hfirst.tokenScopes_updated hrevoked fun _ => ⟨rfl, rfl⟩
      exact (hsecond.issued hgrant htokens).congr rfl rfl rfl rfl

/-- Every reachable store has the authority. -/
theorem of_reachable {deployment : SharedDeployment} (hreachable : deployment.Reachable store) :
    Authority deployment.provider.validScopes store :=
  hreachable.of_move empty fun _ _ _ hmove hauthority => of_move hmove hauthority

end Authority

end OdooMcp
