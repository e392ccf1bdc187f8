import OdooMcp.Shared.LivePairs

/-!
# Lifetimes of credentials

Sessions, enrollments and tokens carry the instant at which they expire, a fixed time after they
were created, and no move changes either. A session is bound and authorized, an enrollment selected
and activated, and a token accepted only before that instant.
-/

namespace OdooMcp

open Effect Statements UniqueTable

/-! ### Rows within one operation -/

/-- A session before and after the moves of an operation at this clock reading. -/
structure SessionRow.Continues (now : Instant) (row kept : SessionRow) : Prop where
  stateHash : kept.stateHash = row.stateHash
  created : kept.createdAt = row.createdAt
  expires : kept.expiresAt = row.expiresAt
  bound : kept.connectorId = row.connectorId ∨ now < row.expiresAt
  authorized : kept.status = .authorized → row.status = .authorized ∨ now < row.expiresAt

/-- A connector before and after the moves of an operation at this clock reading. -/
structure ConnectorRow.Continues (now : Instant) (row kept : ConnectorRow) : Prop where
  key : kept.key = row.key
  created : kept.createdAt = row.createdAt
  expires : kept.enrollmentExpiresAt = row.enrollmentExpiresAt
  selected : kept.allowedCompanyIds = row.allowedCompanyIds ∨
    row.enrollmentExpiresAt.any (now < ·) = true
  activated : kept.status = .active → row.status = .active ∨
    row.enrollmentExpiresAt.any (now < ·) = true

/-- A token before and after the moves of an operation. -/
structure TokenRow.Continues (row kept : TokenRow) : Prop where
  hash : kept.tokenHash = row.tokenHash
  type : kept.tokenType = row.tokenType
  created : kept.createdAt = row.createdAt
  expires : kept.expiresAt = row.expiresAt

structure SessionRow.New (now : Instant) (row : SessionRow) : Prop where
  status : row.status = .pending
  unbound : row.connectorId = none
  created : row.createdAt = now
  expires : row.expiresAt = now + authorizationTtl

structure ConnectorRow.New (now : Instant) (row : ConnectorRow) : Prop where
  status : row.status = .pending
  unselected : row.allowedCompanyIds = none
  created : row.createdAt = now
  expires : row.enrollmentExpiresAt = some (now + sessionTtl)

structure TokenRow.New (now : Instant) (row : TokenRow) : Prop where
  created : row.createdAt = now
  expires : row.expiresAt = now + row.tokenType.ttl

theorem SessionRow.Continues.trans {now : Instant} {first second third : SessionRow}
    (hfirst : first.Continues now second) (hsecond : second.Continues now third) :
    first.Continues now third where
  stateHash := hsecond.stateHash.trans hfirst.stateHash
  created := hsecond.created.trans hfirst.created
  expires := hsecond.expires.trans hfirst.expires
  bound := by
    rcases hsecond.bound with hsame | hopen
    · rw [hsame]
      exact hfirst.bound
    · exact .inr (hfirst.expires ▸ hopen)
  authorized := by
    intro hauthorized
    rcases hsecond.authorized hauthorized with hbefore | hopen
    · exact hfirst.authorized hbefore
    · exact .inr (hfirst.expires ▸ hopen)

theorem ConnectorRow.Continues.trans {now : Instant} {first second third : ConnectorRow}
    (hfirst : first.Continues now second) (hsecond : second.Continues now third) :
    first.Continues now third where
  key := hsecond.key.trans hfirst.key
  created := hsecond.created.trans hfirst.created
  expires := hsecond.expires.trans hfirst.expires
  selected := by
    rcases hsecond.selected with hsame | hopen
    · rw [hsame]
      exact hfirst.selected
    · exact .inr (hfirst.expires ▸ hopen)
  activated := by
    intro hactive
    rcases hsecond.activated hactive with hbefore | hopen
    · exact hfirst.activated hbefore
    · exact .inr (hfirst.expires ▸ hopen)

theorem SessionRow.continuation (now : Instant) :
    Continuation SessionRow.stateHash (SessionRow.Continues now) where
  refl _ := ⟨rfl, rfl, rfl, .inl rfl, .inl⟩
  trans := .trans
  key hkeeps := hkeeps.stateHash

theorem ConnectorRow.continuation (now : Instant) :
    Continuation ConnectorRow.key (ConnectorRow.Continues now) where
  refl _ := ⟨rfl, rfl, rfl, .inl rfl, .inl⟩
  trans := .trans
  key hkeeps := hkeeps.key

theorem TokenRow.continuation : Continuation TokenRow.tokenHash TokenRow.Continues where
  refl _ := ⟨rfl, rfl, rfl, rfl⟩
  trans hfirst hsecond :=
    ⟨hsecond.hash.trans hfirst.hash, hsecond.type.trans hfirst.type,
      hsecond.created.trans hfirst.created, hsecond.expires.trans hfirst.expires⟩
  key hkeeps := hkeeps.hash

theorem TokenRow.New.of_continues {now : Instant} {row kept : TokenRow} (hnew : row.New now)
    (hkeeps : row.Continues kept) : kept.New now where
  created := hkeeps.created.trans hnew.created
  expires := by rw [hkeeps.expires, hnew.expires, hkeeps.type]

/-! ### Stores within one operation -/

/-- The rows after an operation are new, or continue a row from before. -/
structure Timely (now : Instant) (store later : SharedStore) : Prop where
  sessions : Succession (SessionRow.New now)
    (SessionRow.Continues now) store.sessions later.sessions
  connectors : Succession (ConnectorRow.New now) (ConnectorRow.Continues now) store.connectors
    later.connectors
  tokens : Succession (TokenRow.New now) TokenRow.Continues store.tokens later.tokens

namespace Timely

variable {validScopes : List String} {store later : SharedStore} {now : Instant}

theorem refl (store : SharedStore) : Timely now store store where
  sessions := (SessionRow.continuation now).succession_refl store.sessions
  connectors := (ConnectorRow.continuation now).succession_refl store.connectors
  tokens := TokenRow.continuation.succession_refl store.tokens

theorem journaled (htimely : Timely now store later) (journal : Store) :
    Timely now store { later with journal := journal } where
  sessions := htimely.sessions
  connectors := htimely.connectors
  tokens := htimely.tokens

theorem of_sessions {sessions : Sessions} {condition : SessionRow → Bool}
    {change : SessionRow → SessionRow}
    (hupdated : Updated condition change store.sessions sessions)
    (hchange : ∀ row, condition row = true → row.Continues now (change row)) :
    Timely now store { store with sessions := sessions } :=
  { refl store with
    sessions := hupdated.succession (SessionRow.continuation now) fun row _ => hchange row }

theorem of_connectors {connectors : Connectors} {condition : ConnectorRow → Bool}
    {change : ConnectorRow → ConnectorRow}
    (hupdated : Updated condition change store.connectors connectors)
    (hchange : ∀ row ∈ store.connectors, condition row = true → row.Continues now (change row)) :
    Timely now store { store with connectors := connectors } :=
  { refl store with
    connectors := hupdated.succession (ConnectorRow.continuation now) hchange }

/-- A pair of tokens is new where there was none of their hashes. -/
theorem succession_of_issued {grant : GrantRow} {tokens kept : Tokens}
    (hissued : Issued grant now tokens kept) :
    Succession (TokenRow.New now) TokenRow.Continues tokens kept := by
  obtain ⟨access, refresh, middle, haccess, hrefresh, hfirst, hsecond⟩ := hissued
  have hnewAccess : access.New now := ⟨haccess.created, by rw [haccess.expires, haccess.type]⟩
  have hnewRefresh : refresh.New now := ⟨hrefresh.created, by rw [hrefresh.expires, hrefresh.type]⟩
  have hafter := hsecond.succession TokenRow.continuation hnewRefresh
  exact hafter.after_insert TokenRow.continuation hfirst fun _ => hnewAccess.of_continues

/-- What a revocation makes of a connector expires as before. -/
theorem continues_revoked (row : ConnectorRow) : row.Continues now { row with
    status := .revoked
    revokedAt := some now
    updatedAt := now } :=
  ⟨rfl, rfl, rfl, .inl rfl, fun hactive => by cases hactive⟩

theorem of_revocation {connectorId : String}
    (hrevocation : Revocation now connectorId store later) : Timely now store later where
  sessions := by
    rw [hrevocation.sessions]
    exact (refl store).sessions
  connectors := hrevocation.connectors.succession (ConnectorRow.continuation now)
    fun row _ _ => continues_revoked row
  tokens := hrevocation.tokens.succession TokenRow.continuation
    fun _ _ _ => ⟨rfl, rfl, rfl, rfl⟩

/-- The connector that an activation changes is the one that can be activated. -/
theorem continues_activated (hauthority : Authority validScopes store) {session : SessionRow}
    {connector : ConnectorRow} {grant : GrantRow}
    (hactivatable : Activatable now store session connector grant) :
    ∀ row ∈ store.connectors, (row.tenantId = connector.tenantId && row.id = connector.id &&
      row.status = .pending) = true → row.Continues now (row.activated now) := by
  intro row hrow hcondition
  simp only [Bool.and_eq_true, decide_eq_true_eq] at hcondition
  obtain rfl := hauthority.eq_of_id hrow hactivatable.connector_mem hcondition.1.2
  exact ⟨rfl, rfl, rfl, .inl rfl, fun _ => .inr hactivatable.unexpired⟩

theorem of_move (hmove : Move validScopes now store later)
    (hauthority : Authority validScopes store) : Timely now store later := by
  cases hmove with
  | journal journal => exact (refl store).journaled journal
  | clients hkept => exact { refl store with }
  | openSession hopened _ hinserted =>
      have hnew : SessionRow.New now _ :=
        ⟨hopened.status, hopened.connector, hopened.created, hopened.expires⟩
      exact { refl store with
        sessions := hinserted.succession (SessionRow.continuation now) hnew }
  | bind stateHash connectorId hupdated =>
      refine of_sessions hupdated fun row hcondition => ?_
      simp only [SessionRow.isOpen, Bool.and_eq_true, decide_eq_true_eq] at hcondition
      exact ⟨rfl, rfl, rfl, .inr hcondition.1.2, .inl⟩
  | supersede stateHash clientId connectorId _ hupdated =>
      exact of_sessions hupdated fun row _ => ⟨rfl, rfl, rfl, .inl rfl, .inl⟩
  | prepare hprepared _ hinserted =>
      have hnew : ConnectorRow.New now _ :=
        ⟨hprepared.status, hprepared.allowed, hprepared.created, hprepared.expires⟩
      exact { refl store with
        connectors := hinserted.succession (ConnectorRow.continuation now) hnew }
  | select hrow _ hunexpired _ _ _ hupdated =>
      refine of_connectors hupdated fun row hmem hcondition => ?_
      simp only [Bool.and_eq_true, decide_eq_true_eq] at hcondition
      obtain rfl := hauthority.eq_of_id hmem hrow hcondition.1.2
      exact ⟨rfl, rfl, rfl, .inr hunexpired, .inl⟩
  | expire hupdated =>
      exact of_connectors hupdated fun row _ _ =>
        ⟨rfl, rfl, rfl, .inl rfl, fun hactive => by cases hactive⟩
  | discard hsubset _ =>
      exact { refl store with
        connectors := fun kept hkept =>
          .inr ⟨kept, hsubset kept hkept, (ConnectorRow.continuation now).refl kept⟩ }
  | reseal tenantId connectorId oldVersion sealed hupdated =>
      exact of_connectors hupdated fun row _ _ => ⟨rfl, rfl, rfl, .inl rfl, .inl⟩
  | @activate granted revoked _ session connector grant codeHash hactivatable hactivation
      hsuperseded hsessions hconnectors hgrants htokens hclients =>
      have hrevoked : Timely now granted revoked := by
        rcases hsuperseded with ⟨-, rfl⟩ | ⟨superseded, -, hrevocation⟩
        · exact refl revoked
        · exact of_revocation hrevocation
      constructor
      · refine hsessions.succession (SessionRow.continuation now) fun row hrow hcondition => ?_
        simp only [Bool.and_eq_true, decide_eq_true_eq] at hcondition
        obtain rfl := eq_of_key_eq hrow hactivatable.session_mem hcondition.1
        exact ⟨rfl, rfl, rfl, .inl rfl, fun _ => .inr hactivatable.session_open⟩
      · rw [hconnectors]
        exact hrevoked.connectors.after_update (ConnectorRow.continuation now)
          hactivation.connectors (continues_activated hauthority hactivatable)
      · rw [htokens, ← hactivation.tokens]
        exact hrevoked.tokens
  | revoke _ hrevocation => exact of_revocation hrevocation
  | exchange _ _ _ _ _ hsessions htokens =>
      have hconsumed : Timely now store _ := of_sessions hsessions fun row _ =>
        ⟨rfl, rfl, rfl, .inl rfl, fun hauthorized => by cases hauthorized⟩
      exact { hconsumed with tokens := succession_of_issued htokens }
  | @refresh rotated revoked tokens row grant _ _ _ _ _ _ _ _ hrotated hrevoked htokens =>
      have hissued := (succession_of_issued htokens).after_update TokenRow.continuation hrevoked
        fun _ _ _ => ⟨rfl, rfl, rfl, rfl⟩
      have hlater := hissued.after_update TokenRow.continuation hrotated
        fun _ _ _ => ⟨rfl, rfl, rfl, rfl⟩
      exact { refl store with tokens := hlater }

theorem of_moves (hmoves : Moves validScopes now store later)
    (hauthority : Authority validScopes store) : Timely now store later := by
  cases hmoves with
  | refl => exact refl store
  | single hmove => exact of_move hmove hauthority
  | journaled hmove journal => exact (of_move hmove hauthority).journaled journal

end Timely

/-! ### Over a run -/

/-- What expires does so a fixed time after it was created. -/
structure Lifetimes (store : SharedStore) : Prop where
  sessions : ∀ row ∈ store.sessions, row.expiresAt = row.createdAt + authorizationTtl
  connectors : ∀ row ∈ store.connectors,
    row.enrollmentExpiresAt = some (row.createdAt + sessionTtl)
  tokens : ∀ row ∈ store.tokens, row.expiresAt = row.createdAt + row.tokenType.ttl

theorem Lifetimes.of_timely {now : Instant} {store later : SharedStore}
    (hlifetimes : Lifetimes store) (htimely : Timely now store later) : Lifetimes later where
  sessions kept hkept := by
    rcases htimely.sessions kept hkept with ⟨-, hnew⟩ | ⟨row, hrow, hcontinues⟩
    · rw [hnew.expires, hnew.created]
    · rw [hcontinues.expires, hcontinues.created, hlifetimes.sessions row hrow]
  connectors kept hkept := by
    rcases htimely.connectors kept hkept with ⟨-, hnew⟩ | ⟨row, hrow, hcontinues⟩
    · rw [hnew.expires, hnew.created]
    · rw [hcontinues.expires, hcontinues.created, hlifetimes.connectors row hrow]
  tokens kept hkept := by
    rcases htimely.tokens kept hkept with ⟨-, hnew⟩ | ⟨row, hrow, hcontinues⟩
    · rw [hnew.expires, hnew.created]
    · rw [hcontinues.expires, hcontinues.created, hcontinues.type, hlifetimes.tokens row hrow]

/-- The event loaded a code of this hash. -/
inductive SharedEvent.LoadsCode (sha256 : String → String) : SharedEvent → String → Prop
  | loadAuthorizationCode (ambient : Ambient) (client : OAuthClientInformation) (code : String)
      (loaded : AuthorizationCode) :
      LoadsCode sha256 ⟨ambient, .loadAuthorizationCode client code, .ok (some loaded)⟩
        (sha256 code)

section Runs

variable {deployment : SharedDeployment} {store later : SharedStore} {event : SharedEvent}

theorem SharedDeployment.Step.timely (hreachable : deployment.Reachable store)
    (hstep : deployment.Step store event later) : Timely event.ambient.now store later :=
  Timely.of_moves hstep.moves (Authority.of_reachable hreachable)

theorem Lifetimes.of_reachable (hreachable : deployment.Reachable store) : Lifetimes store := by
  have hkept : ∀ now first second, Move deployment.provider.validScopes now first second →
      Authority deployment.provider.validScopes first ∧ Lifetimes first →
        Authority deployment.provider.validScopes second ∧ Lifetimes second := by
    intro now first second hmove hboth
    exact ⟨Authority.of_move hmove hboth.1, hboth.2.of_timely (Timely.of_move hmove hboth.1)⟩
  have hempty : Lifetimes .empty := by
    constructor <;> simp [SharedStore.empty]
  have hboth := hreachable.of_move (And.intro Authority.empty hempty) hkept
  exact hboth.2

/-- **Credentials expire.** In every step of a run a session keeps the instant of its creation, and
is bound to a connector or authorized only within ten minutes of it; a session that was not there is
created at this instant, pending and bound to nothing. A connector keeps its instant, and its
enrollment is selected or activated only within ten minutes of it. A token keeps its own too. A code
is loaded only within ten minutes of its session's creation, and an access or refresh token is
accepted only within an hour or thirty days of its issue. -/
theorem credentials_expire {events : List SharedEvent} (hrun : deployment.Run .empty events store)
    (hstep : deployment.Step store event later) :
    (∀ kept ∈ later.sessions,
      (∀ row ∈ store.sessions, row.stateHash = kept.stateHash →
        kept.createdAt = row.createdAt ∧
          (kept.connectorId ≠ row.connectorId ∨
              kept.status = .authorized ∧ row.status ≠ .authorized →
            event.ambient.now < row.createdAt + authorizationTtl)) ∧
        ((∀ row ∈ store.sessions, row.stateHash ≠ kept.stateHash) →
          kept.createdAt = event.ambient.now ∧ kept.status = .pending ∧
            kept.connectorId = none)) ∧
      (∀ kept ∈ later.connectors,
        (∀ row ∈ store.connectors, row.key = kept.key →
          kept.createdAt = row.createdAt ∧
            (kept.allowedCompanyIds ≠ row.allowedCompanyIds ∨
                kept.status = .active ∧ row.status ≠ .active →
              event.ambient.now < row.createdAt + sessionTtl)) ∧
          ((∀ row ∈ store.connectors, row.key ≠ kept.key) →
            kept.createdAt = event.ambient.now ∧ kept.status = .pending ∧
              kept.allowedCompanyIds = none)) ∧
        (∀ kept ∈ later.tokens,
          (∀ row ∈ store.tokens, row.tokenHash = kept.tokenHash →
            kept.createdAt = row.createdAt ∧ kept.tokenType = row.tokenType) ∧
            ((∀ row ∈ store.tokens, row.tokenHash ≠ kept.tokenHash) →
              kept.createdAt = event.ambient.now)) ∧
          (∀ codeHash, event.LoadsCode deployment.sha256 codeHash →
            ∃ row ∈ store.sessions, row.authorizationCodeHash = some codeHash ∧
              event.ambient.now < row.createdAt + authorizationTtl) ∧
            ∀ tokenHash, event.Accepts deployment.sha256 tokenHash →
              ∃ row ∈ store.tokens, row.tokenHash = tokenHash ∧
                event.ambient.now < row.createdAt + row.tokenType.ttl := by
  have hreachable : deployment.Reachable store := ⟨events, hrun⟩
  have htimely := hstep.timely hreachable
  have hlifetimes := Lifetimes.of_reachable hreachable
  refine ⟨fun kept hkept => ⟨fun row hrow hsame => ?_, fun hfresh => ?_⟩,
    fun kept hkept => ⟨fun row hrow hsame => ?_, fun hfresh => ?_⟩,
    fun kept hkept => ⟨fun row hrow hsame => ?_, fun hfresh => ?_⟩,
    fun codeHash hloads => ?_, fun tokenHash haccepts => ?_⟩
  · have hcontinues := htimely.sessions.continues_of_key_eq (SessionRow.continuation _) hrow hkept
      hsame.symm
    refine ⟨hcontinues.created, ?_⟩
    rw [← hlifetimes.sessions row hrow]
    rintro (hbound | ⟨hauthorized, hbefore⟩)
    · exact hcontinues.bound.resolve_left hbound
    · exact (hcontinues.authorized hauthorized).resolve_left hbefore
  · have hnew := htimely.sessions.new_of_key_ne (SessionRow.continuation _) hkept hfresh
    exact ⟨hnew.created, hnew.status, hnew.unbound⟩
  · have hcontinues := htimely.connectors.continues_of_key_eq (ConnectorRow.continuation _) hrow
      hkept hsame.symm
    refine ⟨hcontinues.created, fun hchanged => ?_⟩
    have hopen : row.enrollmentExpiresAt.any (event.ambient.now < ·) = true := by
      rcases hchanged with hselected | ⟨hactive, hbefore⟩
      · exact hcontinues.selected.resolve_left hselected
      · exact (hcontinues.activated hactive).resolve_left hbefore
    rw [hlifetimes.connectors row hrow, Option.any_some] at hopen
    exact of_decide_eq_true hopen
  · have hnew := htimely.connectors.new_of_key_ne (ConnectorRow.continuation _) hkept hfresh
    exact ⟨hnew.created, hnew.status, hnew.unselected⟩
  · have hcontinues := htimely.tokens.continues_of_key_eq TokenRow.continuation hrow hkept
      hsame.symm
    exact ⟨hcontinues.created, hcontinues.type⟩
  · exact (htimely.tokens.new_of_key_ne TokenRow.continuation hkept hfresh).created
  · cases hloads with
    | loadAuthorizationCode ambient client code loaded =>
        obtain ⟨-, hfound⟩ := loadAuthorizationCode_ok (commit_ok.mp hstep)
        obtain ⟨-, row, hrow, hhash, -, -, hopen, -⟩ := hfound loaded rfl
        rw [hlifetimes.sessions row hrow] at hopen
        exact ⟨row, hrow, hhash, hopen⟩
  · obtain ⟨row, grant, tokenType, hpair⟩ := haccepts.tokenGrants hstep
    obtain ⟨hrow, -, -, hhash, -, -, -, hunexpired, -⟩ := mem_tokenGrants.mp hpair
    rw [hlifetimes.tokens row hrow] at hunexpired
    exact ⟨row, hrow, hhash, hunexpired⟩

end Runs

/-! ### The sample's deadlines -/

def sampleStoreAfter (count : Nat) : SharedStore :=
  sampleDeployment.played .empty (sampleRequests.take count)

/-- The sample's enrollment is activated a minute after it was prepared. -/
def sampleActivation : Except SharedError Redirect × SharedStore :=
  sampleDeployment.execute (sampleAmbient 4 "e") (.activateConnector "s0" true) (sampleStoreAfter 5)

def sampleLoad : Except SharedError (Option AccessToken) × SharedStore :=
  sampleDeployment.execute (sampleAmbient 7 "w") (.loadAccessToken "u0") sampleStore

theorem sampleActivation_activates :
    (∃ row ∈ (sampleStoreAfter 5).sessions.rows, ∃ kept ∈ sampleActivation.2.sessions.rows,
      row.stateHash = kept.stateHash ∧ row.status = .pending ∧ kept.status = .authorized) ∧
      ∃ row ∈ (sampleStoreAfter 5).connectors.rows, ∃ kept ∈ sampleActivation.2.connectors.rows,
        row.key = kept.key ∧ row.status = .pending ∧ kept.status = .active := by
  decide +kernel

theorem sampleLoad_answer : ∃ loaded, sampleLoad.1 = .ok (some loaded) := by
  have hloaded : sampleLoad.1.toOption.join.isSome = true := by
    decide +kernel
  obtain ⟨loaded, hjoin⟩ := Option.isSome_iff_exists.mp hloaded
  have hfound := Option.join_eq_some_iff.mp hjoin
  cases hanswer : sampleLoad.1 with
  | error error =>
      rw [hanswer] at hfound
      cases hfound
  | ok value =>
      rw [hanswer] at hfound
      cases hfound
      exact ⟨loaded, rfl⟩

theorem credentials_expire_sample :
    (∃ row ∈ (sampleStoreAfter 5).sessions, ∃ kept ∈ sampleActivation.2.sessions,
      row.status = .pending ∧ kept.status = .authorized ∧ kept.createdAt = row.createdAt ∧
        (sampleAmbient 4 "e").now < row.createdAt + authorizationTtl) ∧
      (∃ row ∈ (sampleStoreAfter 5).connectors, ∃ kept ∈ sampleActivation.2.connectors,
        row.status = .pending ∧ kept.status = .active ∧ kept.createdAt = row.createdAt ∧
          (sampleAmbient 4 "e").now < row.createdAt + sessionTtl) ∧
        ∃ row ∈ sampleStore.tokens, row.tokenHash = sampleDeployment.sha256 "u0" ∧
          (sampleAmbient 7 "w").now < row.createdAt + row.tokenType.ttl := by
  have hrun : sampleDeployment.Run .empty
      (sampleDeployment.playedEvents .empty (sampleRequests.take 5)) (sampleStoreAfter 5) :=
    sampleDeployment.run_played .empty (sampleRequests.take 5)
  have hactivated : sampleDeployment.Step (sampleStoreAfter 5)
      ⟨sampleAmbient 4 "e", .activateConnector "s0" true, sampleActivation.1⟩ sampleActivation.2 :=
    sampleDeployment.step_execute _ _ _
  refine ⟨?_, ?_, ?_⟩
  · obtain ⟨row, hrow, kept, hkept, hsame, hpending, hauthorized⟩ :=
      sampleActivation_activates.1
    have hchanged : row.status ≠ .authorized := by simp [hpending]
    have hkeeps := ((credentials_expire hrun hactivated).1 kept (mem_rows.mp hkept)).1 row
      (mem_rows.mp hrow) hsame
    exact ⟨row, mem_rows.mp hrow, kept, mem_rows.mp hkept, hpending, hauthorized, hkeeps.1,
      hkeeps.2 (.inr ⟨hauthorized, hchanged⟩)⟩
  · obtain ⟨row, hrow, kept, hkept, hsame, hpending, hactive⟩ :=
      sampleActivation_activates.2
    have hchanged : row.status ≠ .active := by simp [hpending]
    have hkeeps := ((credentials_expire hrun hactivated).2.1 kept (mem_rows.mp hkept)).1 row
      (mem_rows.mp hrow) hsame
    exact ⟨row, mem_rows.mp hrow, kept, mem_rows.mp hkept, hpending, hactive, hkeeps.1,
      hkeeps.2 (.inr ⟨hactive, hchanged⟩)⟩
  · obtain ⟨loaded, hanswer⟩ := sampleLoad_answer
    have hstep : sampleDeployment.Step sampleStore
        ⟨sampleAmbient 7 "w", .loadAccessToken "u0", .ok (some loaded)⟩ sampleLoad.2 :=
      sampleDeployment.step_of_answer rfl hanswer
    exact (credentials_expire sampleRun hstep).2.2.2.2 _ (.loadAccessToken _ _ loaded)

end OdooMcp
