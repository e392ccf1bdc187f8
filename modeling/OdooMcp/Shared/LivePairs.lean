import OdooMcp.Effect.Precedence
import OdooMcp.Shared.Evolution

/-!
# One live pair of tokens for a grant

A code is exchanged for the first pair of its grant, and a rotation replaces the pair it is asked
with. Every move keeps a grant from having two live tokens of one type, and a code or a refresh
token that has been used is never accepted again.
-/

namespace OdooMcp

open Effect Statements UniqueTable

/-- An access token that is not revoked, or a refresh token that is neither rotated nor revoked. -/
def TokenRow.Live (row : TokenRow) : Prop :=
  row.revokedAt = none ∧ (row.tokenType = .refresh → row.rotatedAt = none)

def SessionRow.Settled (row : SessionRow) : Prop :=
  row.status = .authorized ∨ row.status = .consumed

theorem SessionRow.Settled.ne_pending {row : SessionRow} (hsettled : row.Settled) :
    row.status ≠ .pending := by
  rcases hsettled with hstatus | hstatus <;> simp [hstatus]

/-- A settled session stands for the grant of its connector, and only after its code was exchanged
are there tokens under the grant: at most one of each type that is live. -/
structure LivePairs (store : SharedStore) : Prop where
  granted : ∀ session ∈ store.sessions, session.Settled →
    ∃ grant ∈ store.grants, session.connectorId = some grant.connectorId
  single : ∀ first ∈ store.sessions, ∀ second ∈ store.sessions, first.Settled → second.Settled →
    first.connectorId = second.connectorId → first = second
  exchanged : ∀ token ∈ store.tokens, ∃ grant ∈ store.grants, grant.id = token.grantId ∧
    ∃ session ∈ store.sessions, session.status = .consumed ∧
      session.connectorId = some grant.connectorId
  live : ∀ first ∈ store.tokens, ∀ second ∈ store.tokens, first.Live → second.Live →
    first.grantId = second.grantId → first.tokenType = second.tokenType → first = second

namespace LivePairs

variable {validScopes : List String} {store later : SharedStore} {now : Instant}

theorem empty : LivePairs .empty := by
  constructor <;> simp [SharedStore.empty]

/-! ### Grants, and tokens that die -/

/-- Tokens may be revoked or rotated, and grants may be added or revoked. -/
theorem weaken (hlive : LivePairs store)
    (hgrants : ∀ grant ∈ store.grants, ∃ kept ∈ later.grants, grant.Becomes kept)
    (hsessions : later.sessions = store.sessions)
    (htokens : ∀ token ∈ later.tokens, ∃ old ∈ store.tokens, old.Becomes token ∧
      (token.Live → token = old)) : LivePairs later where
  granted := by
    rw [hsessions]
    intro session hsession hsettled
    obtain ⟨grant, hgrant, hbound⟩ := hlive.granted session hsession hsettled
    obtain ⟨kept, hkept, hbecomes⟩ := hgrants grant hgrant
    exact ⟨kept, hkept, by rw [hbound, hbecomes.connector]⟩
  single := by
    rw [hsessions]
    exact hlive.single
  exchanged := by
    rw [hsessions]
    intro token htoken
    obtain ⟨old, hold, hbecomes, -⟩ := htokens token htoken
    obtain ⟨grant, hgrant, hid, session, hsession, hconsumed, hbound⟩ := hlive.exchanged old hold
    obtain ⟨kept, hkept, hlater⟩ := hgrants grant hgrant
    refine ⟨kept, hkept, ?_, session, hsession, hconsumed, ?_⟩
    · rw [hlater.id, hid, hbecomes.issuer]
    · rw [hbound, hlater.connector]
  live := by
    intro first hfirst second hsecond hfirstLive hsecondLive
    obtain ⟨one, hone, -, hfirstSame⟩ := htokens first hfirst
    obtain ⟨two, htwo, -, hsecondSame⟩ := htokens second hsecond
    obtain rfl := hfirstSame hfirstLive
    obtain rfl := hsecondSame hsecondLive
    exact hlive.live first hone second htwo hfirstLive hsecondLive

/-- The tables of the invariant are the same. -/
theorem congr (hlive : LivePairs store) (hgrants : later.grants = store.grants)
    (hsessions : later.sessions = store.sessions) (htokens : later.tokens = store.tokens) :
    LivePairs later := by
  refine hlive.weaken ?_ hsessions ?_
  · rw [hgrants]
    exact fun grant hgrant => ⟨grant, hgrant, .refl grant⟩
  · rw [htokens]
    exact fun token htoken => ⟨token, htoken, .refl token, fun _ => rfl⟩

theorem activation (hlive : LivePairs store) {connector : ConnectorRow} {grant : GrantRow}
    (hactivation : Activation now connector grant store later) : LivePairs later := by
  refine hlive.weaken (hactivation.grants.related .refl) hactivation.sessions ?_
  rw [hactivation.tokens]
  exact fun token htoken => ⟨token, htoken, .refl token, fun _ => rfl⟩

theorem revocation (hlive : LivePairs store) {connectorId : String}
    (hrevocation : Revocation now connectorId store later) : LivePairs later := by
  refine hlive.weaken hrevocation.grants_become hrevocation.sessions fun token htoken => ?_
  obtain ⟨old, hold, rfl⟩ := (hrevocation.tokens token).mp htoken
  refine ⟨old, hold, ?_⟩
  split
  · exact ⟨⟨rfl, rfl, rfl, rfl, rfl, id, fun _ => rfl⟩, fun hrevoked => by cases hrevoked.1⟩
  · exact ⟨.refl old, fun _ => rfl⟩

/-! ### Sessions -/

/-- Sessions that are not settled may change, and stay so. -/
theorem update_sessions (hlive : LivePairs store) {sessions : Sessions}
    {condition : SessionRow → Bool} {change : SessionRow → SessionRow}
    (hupdated : Updated condition change store.sessions sessions)
    (hunsettled : ∀ row, condition row = true → ¬row.Settled ∧ ¬(change row).Settled) :
    LivePairs { store with sessions := sessions } := by
  have hsettled : ∀ session ∈ sessions, session.Settled → session ∈ store.sessions := by
    intro session hsession hsettled
    obtain ⟨old, hold, rfl⟩ := (hupdated session).mp hsession
    split at hsettled
    · exact absurd hsettled (hunsettled old ‹_›).2
    · rwa [if_neg ‹_›]
  constructor
  · intro session hsession hstatus
    exact hlive.granted session (hsettled session hsession hstatus) hstatus
  · intro first hfirst second hsecond hfirstSettled hsecondSettled
    exact hlive.single first (hsettled first hfirst hfirstSettled) second
      (hsettled second hsecond hsecondSettled) hfirstSettled hsecondSettled
  · intro token htoken
    obtain ⟨grant, hgrant, hid, session, hsession, hconsumed, hbound⟩ :=
      hlive.exchanged token htoken
    refine ⟨grant, hgrant, hid, session, hupdated.mem_kept hsession ?_, hconsumed, hbound⟩
    by_contra hcondition
    rw [Bool.not_eq_false] at hcondition
    exact (hunsettled session hcondition).1 (.inr hconsumed)
  · exact hlive.live

theorem opened (hlive : LivePairs store) {sessions : Sessions} {row : SessionRow}
    (hopened : row.Opened validScopes now) (hinserted : Inserted row store.sessions sessions) :
    LivePairs { store with sessions := sessions } := by
  have hsettled : ∀ session ∈ sessions, session.Settled → session ∈ store.sessions := by
    intro session hsession hsettled
    rcases (hinserted.2 session).mp hsession with hold | rfl
    · exact hold
    · exact absurd hopened.status hsettled.ne_pending
  constructor
  · intro session hsession hstatus
    exact hlive.granted session (hsettled session hsession hstatus) hstatus
  · intro first hfirst second hsecond hfirstSettled hsecondSettled
    exact hlive.single first (hsettled first hfirst hfirstSettled) second
      (hsettled second hsecond hsecondSettled) hfirstSettled hsecondSettled
  · intro token htoken
    obtain ⟨grant, hgrant, hid, session, hsession, hconsumed⟩ := hlive.exchanged token htoken
    exact ⟨grant, hgrant, hid, session, hinserted.mem hsession, hconsumed⟩
  · exact hlive.live

/-- The session of a new grant is settled. -/
theorem authorized (hlive : LivePairs store) {sessions : Sessions} {session : SessionRow}
    {grant : GrantRow} {codeHash : String} (hsession : session ∈ store.sessions)
    (hgrant : grant ∈ store.grants) (hbound : session.connectorId = some grant.connectorId)
    (hfirst : ∀ other ∈ store.sessions, other.Settled →
      other.connectorId ≠ some grant.connectorId)
    (hupdated : Updated
      (fun other => other.stateHash = session.stateHash && other.status = .pending)
      (fun other => { other with
        authorizationCodeHash := some codeHash
        status := .authorized })
      store.sessions sessions) : LivePairs { store with sessions := sessions } := by
  -- a settled row is one that was settled, or the one that has just been authorized
  have hsettled : ∀ row ∈ sessions, row.Settled → row ∈ store.sessions ∧ row.Settled ∨
      row = { session with
        authorizationCodeHash := some codeHash
        status := .authorized } := by
    intro row hrow hstatus
    obtain ⟨old, hold, rfl⟩ := (hupdated row).mp hrow
    by_cases hcondition : (old.stateHash = session.stateHash && old.status = .pending) = true
    · right
      rw [if_pos hcondition]
      simp only [Bool.and_eq_true, decide_eq_true_eq] at hcondition
      rw [eq_of_key_eq hold hsession hcondition.1]
    · left
      rw [if_neg hcondition] at hstatus ⊢
      exact ⟨hold, hstatus⟩
  constructor
  · intro row hrow hstatus
    rcases hsettled row hrow hstatus with ⟨hold, hstatus⟩ | rfl
    · exact hlive.granted row hold hstatus
    · exact ⟨grant, hgrant, hbound⟩
  · intro first hfirstRow second hsecondRow hfirstSettled hsecondSettled hsame
    rcases hsettled first hfirstRow hfirstSettled with ⟨hone, hone'⟩ | rfl <;>
      rcases hsettled second hsecondRow hsecondSettled with ⟨htwo, htwo'⟩ | rfl
    · exact hlive.single first hone second htwo hone' htwo' hsame
    · exact absurd (hsame.trans hbound) (hfirst first hone hone')
    · exact absurd (hsame.symm.trans hbound) (hfirst second htwo htwo')
    · rfl
  · intro token htoken
    obtain ⟨held, hheld, hid, consumed, hmem, hconsumed, hconnector⟩ := hlive.exchanged token htoken
    exact ⟨held, hheld, hid, consumed, hupdated.mem_kept hmem (by simp [hconsumed]), hconsumed,
      hconnector⟩
  · exact hlive.live

/-- The session whose code is exchanged stays settled. -/
theorem consumed (hlive : LivePairs store) {sessions : Sessions} {session : SessionRow}
    (hupdated : Updated
      (fun other => other.stateHash = session.stateHash && other.status = .authorized)
      (fun other => { other with
        status := .consumed
        consumedAt := some now })
      store.sessions sessions) : LivePairs { store with sessions := sessions } := by
  have hrows : ∀ row ∈ sessions, row.Settled → ∃ old ∈ store.sessions, old.Settled ∧
      row.connectorId = old.connectorId ∧
        row = if old.stateHash = session.stateHash && old.status = .authorized then
          { old with
            status := .consumed
            consumedAt := some now }
        else old := by
    intro row hrow hsettled
    obtain ⟨old, hold, rfl⟩ := (hupdated row).mp hrow
    refine ⟨old, hold, ?_⟩
    split at hsettled
    · rename_i hcondition
      rw [if_pos hcondition]
      simp only [Bool.and_eq_true, decide_eq_true_eq] at hcondition
      exact ⟨.inl hcondition.2, rfl, rfl⟩
    · rename_i hcondition
      rw [if_neg hcondition]
      exact ⟨hsettled, rfl, rfl⟩
  constructor
  · intro row hrow hsettled
    obtain ⟨old, hold, hsettled, hconnector, -⟩ := hrows row hrow hsettled
    rw [hconnector]
    exact hlive.granted old hold hsettled
  · intro first hfirst second hsecond hfirstSettled hsecondSettled hsame
    obtain ⟨one, hone, honeSettled, honeBound, hfirstRow⟩ := hrows first hfirst hfirstSettled
    obtain ⟨two, htwo, htwoSettled, htwoBound, hsecondRow⟩ := hrows second hsecond hsecondSettled
    rw [honeBound, htwoBound] at hsame
    rw [hfirstRow, hsecondRow, hlive.single one hone two htwo honeSettled htwoSettled hsame]
  · intro token htoken
    obtain ⟨grant, hgrant, hid, consumed, hmem, hconsumed, hbound⟩ := hlive.exchanged token htoken
    exact ⟨grant, hgrant, hid, consumed, hupdated.mem_kept hmem (by simp [hconsumed]), hconsumed,
      hbound⟩
  · exact hlive.live

/-! ### New pairs -/

/-- A pair may be issued under a grant that has no live token. -/
theorem issued (hlive : LivePairs store) {tokens : Tokens} {grant : GrantRow}
    (hgrant : grant ∈ store.grants)
    (hsession : ∃ session ∈ store.sessions, session.status = .consumed ∧
      session.connectorId = some grant.connectorId)
    (hdead : ∀ token ∈ store.tokens, token.grantId = grant.id → ¬token.Live)
    (hissued : Issued grant now store.tokens tokens) :
    LivePairs { store with tokens := tokens } := by
  obtain ⟨access, refresh, middle, haccess, hrefresh, hmiddle, htokens⟩ := hissued
  have hrows : ∀ token ∈ tokens, token ∈ store.tokens ∨ token = access ∨ token = refresh := by
    intro token htoken
    rcases (htokens.2 token).mp htoken with hmem | rfl
    · rcases (hmiddle.2 token).mp hmem with hold | rfl
      · exact .inl hold
      · exact .inr (.inl rfl)
    · exact .inr (.inr rfl)
  refine ⟨hlive.granted, hlive.single, fun token htoken => ?_, ?_⟩
  · rcases hrows token htoken with hold | rfl | rfl
    · exact hlive.exchanged token hold
    · exact ⟨grant, hgrant, haccess.issuer.symm, hsession⟩
    · exact ⟨grant, hgrant, hrefresh.issuer.symm, hsession⟩
  · intro first hfirst second hsecond hfirstLive hsecondLive hissuer htype
    rcases hrows first hfirst with hone | rfl | rfl <;>
      rcases hrows second hsecond with htwo | rfl | rfl
    · exact hlive.live first hone second htwo hfirstLive hsecondLive hissuer htype
    · exact absurd hfirstLive (hdead first hone (hissuer.trans haccess.issuer))
    · exact absurd hfirstLive (hdead first hone (hissuer.trans hrefresh.issuer))
    · exact absurd hsecondLive (hdead second htwo (hissuer.symm.trans haccess.issuer))
    · rfl
    · rw [haccess.type, hrefresh.type] at htype
      cases htype
    · exact absurd hsecondLive (hdead second htwo (hissuer.symm.trans hrefresh.issuer))
    · rw [haccess.type, hrefresh.type] at htype
      cases htype
    · rfl

/-- A grant whose session is authorized has no tokens yet. -/
theorem unissued (hlive : LivePairs store) {session : SessionRow} {grant : GrantRow}
    (hsession : session ∈ store.sessions) (hauthorized : session.status = .authorized)
    (hgrant : grant ∈ store.grants) (hbound : session.connectorId = some grant.connectorId) :
    ∀ token ∈ store.tokens, token.grantId ≠ grant.id := by
  intro token htoken hissuer
  obtain ⟨held, hheld, hid, consumed, hmem, hconsumed, hconnector⟩ := hlive.exchanged token htoken
  obtain rfl := eq_of_key_eq hheld hgrant (hid.trans hissuer)
  obtain rfl := hlive.single consumed hmem session hsession (.inr hconsumed) (.inl hauthorized)
    (hconnector.trans hbound.symm)
  rw [hconsumed] at hauthorized
  cases hauthorized

/-- After a rotation has dropped the pair it was asked with, no token of the grant is live. -/
theorem dropped (hlive : LivePairs store) {rotated revoked : Tokens} {row : TokenRow}
    {grant : GrantRow} (hrow : row ∈ store.tokens) (htype : row.tokenType = .refresh)
    (hunrotated : row.rotatedAt = none) (hunrevoked : row.revokedAt = none)
    (hof : grant.id = row.grantId)
    (hrotated : Updated (fun other => other.tokenHash = row.tokenHash)
      (fun other => { other with rotatedAt := some now }) store.tokens rotated)
    (hrevoked : Updated
      (fun other => other.grantId = grant.id && other.tokenType = .access &&
        other.revokedAt.isNone)
      (fun other => { other with revokedAt := some now }) rotated revoked) :
    ∀ token ∈ revoked, token.grantId = grant.id → ¬token.Live := by
  intro token htoken hissuer htokenLive
  obtain ⟨middle, hmiddle, rfl⟩ := (hrevoked token).mp htoken
  split at htokenLive
  · cases htokenLive.1
  · rename_i hcondition
    rw [if_neg hcondition] at hissuer
    have hrefresh : middle.tokenType = .refresh := by
      cases htype : middle.tokenType with
      | refresh => rfl
      | access => simp [hissuer, htype, htokenLive.1] at hcondition
    obtain ⟨old, hold, rfl⟩ := (hrotated middle).mp hmiddle
    split at htokenLive
    · rename_i hsame
      rw [if_pos hsame] at hrefresh
      cases htokenLive.2 hrefresh
    · rename_i hother
      rw [if_neg hother] at hissuer hrefresh
      refine hother (decide_eq_true (congrArg TokenRow.tokenHash ?_))
      exact hlive.live old hold row hrow htokenLive ⟨hunrevoked, fun _ => hunrotated⟩
        (hissuer.trans hof) (hrefresh.trans htype.symm)

/-! ### Every move -/

theorem rotated (hlive : LivePairs store) {tokens : Tokens} {condition : TokenRow → Bool}
    {change : TokenRow → TokenRow} (hupdated : Updated condition change store.tokens tokens)
    (hbecomes : ∀ row, condition row = true → row.Becomes (change row))
    (hdead : ∀ row ∈ store.tokens, condition row = true → ¬(change row).Live) :
    LivePairs { store with tokens := tokens } := by
  refine hlive.weaken (fun grant hgrant => ⟨grant, hgrant, .refl grant⟩) rfl fun token htoken => ?_
  obtain ⟨old, hold, rfl⟩ := (hupdated token).mp htoken
  refine ⟨old, hold, ?_⟩
  split
  · exact ⟨hbecomes old ‹_›, fun hchanged => absurd hchanged (hdead old hold ‹_›)⟩
  · exact ⟨.refl old, fun _ => rfl⟩

theorem of_move (hmove : Move validScopes now store later)
    (hauthority : Authority validScopes store) (hlive : LivePairs store) : LivePairs later := by
  cases hmove with
  | journal journal => exact hlive.congr rfl rfl rfl
  | clients hkept => exact hlive.congr rfl rfl rfl
  | openSession hopened _ hinserted => exact hlive.opened hopened hinserted
  | bind stateHash connectorId hupdated =>
      refine hlive.update_sessions hupdated fun row hcondition => ?_
      simp only [SessionRow.isOpen, Bool.and_eq_true, decide_eq_true_eq] at hcondition
      exact ⟨fun hsettled => hsettled.ne_pending hcondition.1.1.2,
        fun hsettled => hsettled.ne_pending hcondition.1.1.2⟩
  | supersede stateHash clientId connectorId _ hupdated =>
      refine hlive.update_sessions hupdated fun row hcondition => ?_
      simp only [SessionRow.isOpen, Bool.and_eq_true, decide_eq_true_eq] at hcondition
      exact ⟨fun hsettled => hsettled.ne_pending hcondition.1.1.2,
        fun hsettled => hsettled.ne_pending hcondition.1.1.2⟩
  | prepare _ _ _ => exact hlive.congr rfl rfl rfl
  | select _ _ _ _ _ _ _ => exact hlive.congr rfl rfl rfl
  | expire _ => exact hlive.congr rfl rfl rfl
  | discard _ _ => exact hlive.congr rfl rfl rfl
  | reseal _ _ _ _ _ => exact hlive.congr rfl rfl rfl
  | @activate granted revoked _ session connector grant codeHash hactivatable hactivation
      hsuperseded hsessions hconnectors hgrants htokens hclients =>
      have hgranted := hlive.activation hactivation
      have hrevoked : LivePairs revoked ∧ revoked.sessions = store.sessions ∧
          ∃ kept ∈ revoked.grants, grant.Becomes kept := by
        rcases hsuperseded with ⟨-, rfl⟩ | ⟨superseded, -, hrevocation⟩
        · exact ⟨hgranted, hactivation.sessions, grant, hactivation.grants.mem_self, .refl grant⟩
        · exact ⟨hgranted.revocation hrevocation,
            hrevocation.sessions.trans hactivation.sessions,
            hrevocation.grants_become grant hactivation.grants.mem_self⟩
      obtain ⟨hrevoked, hsame, kept, hkept, hbecomes⟩ := hrevoked
      have hconnector : kept.connectorId = connector.id :=
        hbecomes.connector.trans hactivatable.grant_connector
      rw [← hsame] at hsessions
      have hauthorized := hrevoked.authorized (hsame ▸ hactivatable.session_mem) hkept
        (by rw [hactivatable.bound, hconnector]) ?_ hsessions
      · exact hauthorized.congr hgrants rfl htokens
      · rw [hsame, hconnector]
        intro other hother hsettled hbound
        obtain ⟨held, hheld, hother⟩ := hlive.granted other hother hsettled
        refine hauthority.not_pending_of_grant hactivatable.connector_mem hheld ?_
          hactivatable.connector_pending
        exact Option.some.inj (hother.symm.trans hbound)
  | revoke _ hrevocation => exact hlive.revocation hrevocation
  | @exchange sessions tokens session grant hsession hauthorized hgrant hbound _ hsessions
      htokens =>
      have hconsumed := hlive.consumed hsessions
      refine hconsumed.issued hgrant ⟨_, hsessions.mem_changed hsession ?_, rfl, hbound⟩ ?_ htokens
      · simp [hauthorized]
      · intro token htoken hissuer
        exact absurd hissuer (hlive.unissued hsession hauthorized hgrant hbound token htoken)
  | @refresh rotated revoked tokens row grant hrow htype hunrotated hunrevoked _ hgrant hof _
      hrotated hrevoked htokens =>
      have hdropped := hlive.dropped hrow htype hunrotated hunrevoked hof hrotated hrevoked
      have hfirst := hlive.rotated hrotated
        (fun other _ => ⟨rfl, rfl, rfl, rfl, rfl, fun _ => rfl, id⟩) ?_
      · have hsecond := hfirst.rotated hrevoked
          (fun other _ => ⟨rfl, rfl, rfl, rfl, rfl, id, fun _ => rfl⟩)
          fun other _ _ hother => by cases hother.1
        obtain ⟨held, hheld, hid, hsession⟩ := hlive.exchanged row hrow
        obtain rfl := eq_of_key_eq hheld hgrant (hid.trans hof.symm)
        exact (hsecond.issued hgrant hsession hdropped htokens).congr rfl rfl rfl
      · intro other hother hcondition hotherLive
        obtain rfl := eq_of_key_eq hother hrow (of_decide_eq_true hcondition)
        cases hotherLive.2 htype

theorem of_reachable {deployment : SharedDeployment} (hreachable : deployment.Reachable store) :
    LivePairs store := by
  have hkept : ∀ now first second, Move deployment.provider.validScopes now first second →
      Authority deployment.provider.validScopes first ∧ LivePairs first →
        Authority deployment.provider.validScopes second ∧ LivePairs second := by
    intro now first second hmove hboth
    exact ⟨Authority.of_move hmove hboth.1, of_move hmove hboth.1 hboth.2⟩
  have hboth := hreachable.of_move (And.intro Authority.empty empty) hkept
  exact hboth.2

end LivePairs

/-! ### Over a run -/

/-- The event accepted a token of this hash: it loaded the token, or exchanged it. -/
inductive SharedEvent.Accepts (sha256 : String → String) : SharedEvent → String → Prop
  | loadRefreshToken (ambient : Ambient) (client : OAuthClientInformation) (token : String)
      (loaded : RefreshToken) :
      Accepts sha256 ⟨ambient, .loadRefreshToken client token, .ok (some loaded)⟩ (sha256 token)
  | exchangeRefreshToken (ambient : Ambient) (client : OAuthClientInformation)
      (refreshToken : RefreshToken) (scopes : List String) (issued : OAuthToken) :
      Accepts sha256 ⟨ambient, .exchangeRefreshToken client refreshToken scopes, .ok issued⟩
        (sha256 refreshToken.token)
  | loadAccessToken (ambient : Ambient) (token : String) (loaded : AccessToken) :
      Accepts sha256 ⟨ambient, .loadAccessToken token, .ok (some loaded)⟩ (sha256 token)
  | authorizationForAccessToken (ambient : Ambient) (token : String)
      (authorization : ConnectorAuthorization) :
      Accepts sha256 ⟨ambient, .authorizationForAccessToken token, .ok (some authorization)⟩
        (sha256 token)
  | loadToken (ambient : Ambient) (token : String) (tokenType : TokenType) (clientId : String)
      (loaded : TokenRow × GrantRow) :
      Accepts sha256 ⟨ambient, .loadToken token tokenType clientId, .ok (some loaded)⟩
        (sha256 token)

/-- The event replaced a refresh token of this hash by a new pair. -/
inductive SharedEvent.Rotates (sha256 : String → String) : SharedEvent → String → Prop
  | exchangeRefreshToken (ambient : Ambient) (client : OAuthClientInformation)
      (refreshToken : RefreshToken) (scopes : List String) (issued : OAuthToken) :
      Rotates sha256 ⟨ambient, .exchangeRefreshToken client refreshToken scopes, .ok issued⟩
        (sha256 refreshToken.token)

/-- The event exchanged a code of this hash for tokens. -/
inductive SharedEvent.Exchanges (sha256 : String → String) : SharedEvent → String → Prop
  | exchangeAuthorizationCode (ambient : Ambient) (client : OAuthClientInformation)
      (code : AuthorizationCode) (issued : OAuthToken) :
      Exchanges sha256 ⟨ambient, .exchangeAuthorizationCode client code, .ok issued⟩
        (sha256 code.code)

section Runs

variable {deployment : SharedDeployment} {store later : SharedStore} {event : SharedEvent}

/-- A token that is accepted is live, unexpired, and of an active grant. -/
theorem SharedEvent.Accepts.tokenGrants {tokenHash : String}
    (haccepts : event.Accepts deployment.sha256 tokenHash)
    (hstep : deployment.Step store event later) :
    ∃ row grant tokenType, (row, grant) ∈
      SharedOAuthProvider.tokenGrants store event.ambient.now tokenHash tokenType := by
  cases haccepts with
  | loadRefreshToken ambient client token loaded =>
      obtain ⟨live, _, hlive, hpure⟩ := bind_ok.mp (commit_ok.mp hstep)
      obtain ⟨hloaded, -⟩ := pure_ok.mp hpure
      obtain ⟨⟨row, grant⟩, hfound, -⟩ := Option.map_eq_some_iff.mp hloaded
      exact ⟨row, grant, .refresh, (tokenRow_ok hlive).2 row grant hfound⟩
  | exchangeRefreshToken ambient client refreshToken scopes issued =>
      obtain ⟨row, grant, hpair, -⟩ := exchangeRefreshToken_ok (commit_ok.mp hstep)
      exact ⟨row, grant, .refresh, hpair⟩
  | loadAccessToken ambient token loaded =>
      obtain ⟨live, _, hlive, hpure⟩ := bind_ok.mp (commit_ok.mp hstep)
      obtain ⟨hloaded, -⟩ := pure_ok.mp hpure
      obtain ⟨⟨row, grant⟩, hfound, -⟩ := Option.map_eq_some_iff.mp hloaded
      exact ⟨row, grant, .access, (tokenRow_ok hlive).2 row grant hfound⟩
  | authorizationForAccessToken ambient token authorization =>
      obtain ⟨live, _, hlive, hpure⟩ := bind_ok.mp (commit_ok.mp hstep)
      obtain ⟨hloaded, -⟩ := pure_ok.mp hpure
      obtain ⟨⟨row, grant⟩, hfound, -⟩ := Option.map_eq_some_iff.mp hloaded
      exact ⟨row, grant, .access, (tokenRow_ok hlive).2 row grant hfound⟩
  | loadToken ambient token tokenType clientId loaded =>
      exact ⟨loaded.1, loaded.2, tokenType,
        (tokenRow_ok (commit_ok.mp hstep)).2 loaded.1 loaded.2 rfl⟩

theorem SharedDeployment.Step.evolves (hstep : deployment.Step store event later) :
    Evolves store later :=
  Evolves.of_run (.cons hstep (.nil later))

theorem SharedEvent.Exchanges.consumed {codeHash : String}
    (hexchanges : event.Exchanges deployment.sha256 codeHash)
    (hstep : deployment.Step store event later) :
    (∃ session ∈ store.sessions, session.authorizationCodeHash = some codeHash ∧
      session.status = .authorized) ∧
      ∃ session ∈ later.sessions, session.authorizationCodeHash = some codeHash ∧
        session.status = .consumed := by
  cases hexchanges with
  | exchangeAuthorizationCode ambient client code issued =>
      obtain ⟨session, grant, hsession, -, -, -, -, hcode, -, hauthorized, sessions, hsessions,
        hissue⟩ := exchangeAuthorizationCode_ok (commit_ok.mp hstep)
      obtain ⟨-, -, tokens, rfl, -⟩ := issueTokens_ok hissue
      exact ⟨⟨session, hsession, hcode, hauthorized⟩, _,
        hsessions.mem_changed hsession (by simp [hauthorized]), hcode, rfl⟩

theorem SharedEvent.Rotates.rotated {tokenHash : String}
    (hrotates : event.Rotates deployment.sha256 tokenHash)
    (hstep : deployment.Step store event later) :
    ∃ row ∈ later.tokens, row.tokenHash = tokenHash ∧ row.rotatedAt.isSome := by
  cases hrotates with
  | exchangeRefreshToken ambient client refreshToken scopes issued =>
      obtain ⟨row, grant, hpair, rotated, revoked, hrotated, hrevoked, hissue⟩ :=
        exchangeRefreshToken_ok (commit_ok.mp hstep)
      obtain ⟨hrow, -, -, hhash, -⟩ := mem_tokenGrants.mp hpair
      obtain ⟨-, -, tokens, rfl, access, refresh, middle, -, -, -, -, -, hmiddle, htokens⟩ :=
        issueTokens_ok hissue
      have hchanged := hrotated.mem_changed hrow (decide_eq_true rfl)
      refine ⟨_, htokens.mem (hmiddle.mem (hrevoked.mem hchanged)), ?_⟩
      split <;> exact ⟨hhash, rfl⟩

/-- A code is exchanged once. -/
theorem codes_exchanged_once {events : List SharedEvent}
    (hrun : deployment.Run store events later) :
    events.Pairwise fun first second => ∀ codeHash,
      first.Exchanges deployment.sha256 codeHash →
        ¬second.Exchanges deployment.sha256 codeHash := by
  refine StepPath.pairwise (fun event state => ∀ codeHash,
    event.Exchanges deployment.sha256 codeHash → ∃ session ∈ state.sessions,
      session.authorizationCodeHash = some codeHash ∧ session.status = .consumed) hrun ?_ ?_ ?_
  · intro before event later hstep codeHash hexchanges
    exact (hexchanges.consumed hstep).2
  · intro event before other later hsettled hstep codeHash hexchanges
    obtain ⟨session, hsession, hcode, hconsumed⟩ := hsettled codeHash hexchanges
    obtain ⟨kept, hkept, hbecomes⟩ := hstep.evolves.sessions session hsession
    refine ⟨kept, hkept, ?_, hbecomes.consumed hconsumed⟩
    rw [hbecomes.code (by simp [hconsumed]), hcode]
  · intro event before other later hsettled hstep codeHash hexchanges hagain
    obtain ⟨session, hsession, hcode, hconsumed⟩ := hsettled codeHash hexchanges
    obtain ⟨⟨second, hsecond, hsame, hauthorized⟩, -⟩ := hagain.consumed hstep
    obtain rfl := eq_of_column_eq (List.mem_singleton.mpr rfl) hsession hsecond hcode hsame
    rw [hconsumed] at hauthorized
    cases hauthorized

/-- A refresh token that has been rotated is not accepted again. -/
theorem rotated_tokens_refused {events : List SharedEvent}
    (hrun : deployment.Run store events later) :
    events.Pairwise fun first second => ∀ tokenHash,
      first.Rotates deployment.sha256 tokenHash → ¬second.Accepts deployment.sha256 tokenHash := by
  refine StepPath.pairwise (fun event state => ∀ tokenHash,
    event.Rotates deployment.sha256 tokenHash → ∃ row ∈ state.tokens,
      row.tokenHash = tokenHash ∧ row.rotatedAt.isSome) hrun ?_ ?_ ?_
  · exact fun before event later hstep tokenHash hrotates => hrotates.rotated hstep
  · intro event before other later hsettled hstep tokenHash hrotates
    obtain ⟨row, hrow, hhash, hrotated⟩ := hsettled tokenHash hrotates
    obtain ⟨kept, hkept, hbecomes⟩ := hstep.evolves.tokens row hrow
    exact ⟨kept, hkept, hbecomes.hash.trans hhash, hbecomes.rotated hrotated⟩
  · intro event before other later hsettled hstep tokenHash hrotates haccepts
    obtain ⟨row, hrow, hhash, hrotated⟩ := hsettled tokenHash hrotates
    obtain ⟨live, grant, tokenType, hpair⟩ := haccepts.tokenGrants hstep
    obtain ⟨hlive, -, -, hsame, -, -, hunrotated, -⟩ := mem_tokenGrants.mp hpair
    obtain rfl := eq_of_key_eq hlive hrow (hsame.trans hhash.symm)
    rw [hunrotated] at hrotated
    cases hrotated

end Runs

/-- **One live pair for a grant.** At the end of every run no grant has two live tokens of one type;
no code was exchanged twice; and no refresh token was accepted after it had been rotated. -/
theorem one_live_pair_per_grant {deployment : SharedDeployment} {events : List SharedEvent}
    {store : SharedStore} (hrun : deployment.Run .empty events store) :
    (∀ first ∈ store.tokens, ∀ second ∈ store.tokens, first.Live → second.Live →
      first.grantId = second.grantId → first.tokenType = second.tokenType → first = second) ∧
      (events.Pairwise fun first second => ∀ codeHash,
        first.Exchanges deployment.sha256 codeHash →
          ¬second.Exchanges deployment.sha256 codeHash) ∧
        events.Pairwise fun first second => ∀ tokenHash,
          first.Rotates deployment.sha256 tokenHash →
            ¬second.Accepts deployment.sha256 tokenHash :=
  ⟨(LivePairs.of_reachable ⟨events, hrun⟩).live, codes_exchanged_once hrun,
    rotated_tokens_refused hrun⟩

theorem one_live_pair_per_grant_sample :
    sampleEvents.all SharedEvent.succeeded = true ∧
      (∀ first ∈ sampleStore.tokens, ∀ second ∈ sampleStore.tokens, first.Live → second.Live →
        first.grantId = second.grantId → first.tokenType = second.tokenType → first = second) ∧
        (sampleEvents.Pairwise fun first second => ∀ codeHash,
          first.Exchanges sampleDeployment.sha256 codeHash →
            ¬second.Exchanges sampleDeployment.sha256 codeHash) ∧
          sampleEvents.Pairwise fun first second => ∀ tokenHash,
            first.Rotates sampleDeployment.sha256 tokenHash →
              ¬second.Accepts sampleDeployment.sha256 tokenHash :=
  ⟨sampleEvents_succeed, one_live_pair_per_grant sampleRun⟩

end OdooMcp
