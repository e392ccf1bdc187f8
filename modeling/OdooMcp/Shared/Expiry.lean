import OdooMcp.DateTimeOrder
import OdooMcp.Shared.Auth

/-!
# Expiry on stored texts

The expiry columns hold texts that `isoformat` wrote. Some statements compare these texts with the
text of the clock, and some operations read them first and compare instants. The operations here
are written on the texts; they do what the operations on instants do.
-/

namespace OdooMcp

open Effect Statements

/-- `_now()` and `parse_timestamp(value)` compared: an aware date-time by its instant. -/
def DateTime.utc (moment : DateTime) : Int := moment.wall - moment.offset.getD 0

def SessionRow.expiresText (row : SessionRow) : String := isoText row.expiresAt

def TokenRow.expiresText (row : TokenRow) : String := isoText row.expiresAt

def ConnectorRow.expiresText (row : ConnectorRow) : Option String :=
  row.enrollmentExpiresAt.map isoText

/-- `parse_timestamp(value) <= now` -/
def parsedUntil (value : String) (now : Instant) : Except SharedError Bool :=
  match parseTimestamp value with
  | .ok moment => .ok (moment.utc ≤ now)
  | .error error => .error (.journal error)

namespace TextExpiry

variable (sha256 : String → String)

/-! ### Texts compared by a statement -/

/-- `status = 'pending' AND expires_at > ?` of a session. -/
def isOpen (row : SessionRow) (stateHash now : String) : Bool :=
  row.stateHash = stateHash && row.status = .pending && now < row.expiresText

theorem stateHash_bound (connectorId : String) (row : SessionRow) :
    { row with connectorId := some connectorId }.stateHash = row.stateHash := rfl

def bindConnector (now : Instant) (session connectorId : String) : SharedStatements Unit := do
  let rowcount ← updateSessions
    (fun row => isOpen row (sha256 session) (timestamp now) && row.connectorId.isNone)
    (fun row => { row with connectorId := some connectorId }) (stateHash_bound connectorId)
  if rowcount = 1 then
    return ()
  else
    let store ← get
    let row ← found (store.sessions.find (sha256 session)) invalidSession
    require (row.connectorId.getD "None" = connectorId) invalidSession

def sessionSummary (ambient : Ambient) (session : String) : SharedStatements SessionSummary := do
  let store ← get
  let row ← found (fetchone ambient.order (store.sessions.rows.filter fun row =>
    isOpen row (sha256 session) (timestamp ambient.now))) invalidSession
  return SharedOAuthProvider.summaryOf row (fetchone ambient.order
    (store.connectors.rows.filter fun connector => some connector.id = row.connectorId))

/-- The tokens of this value and type that are live, with their grants. -/
def tokenGrants (store : SharedStore) (now tokenHash : String) (tokenType : TokenType) :
    List (TokenRow × GrantRow) :=
  (store.tokens.rows.product store.grants.rows).filter fun pair =>
    pair.2.id = pair.1.grantId && pair.1.tokenHash = tokenHash && pair.1.tokenType = tokenType &&
      pair.1.revokedAt.isNone && pair.1.rotatedAt.isNone && now < pair.1.expiresText &&
        pair.2.status = .active && store.connectors.rows.any fun connector =>
          connector.tenantId = pair.2.tenantId && connector.id = pair.2.connectorId &&
            connector.status = .active

/-- `_token_row` -/
def tokenRow (ambient : Ambient) (token : String) (tokenType : TokenType)
    (clientId : Option String) : SharedStatements (Option (TokenRow × GrantRow)) := do
  let store ← get
  return (fetchone ambient.order
    (tokenGrants store (timestamp ambient.now) (sha256 token) tokenType)).filter
      fun pair => clientId.all (pair.2.clientId = ·)

theorem key_expired (now : Instant) (row : ConnectorRow) :
    { row with
      status := .expired
      enrollmentHandleHash := none
      updatedAt := now : ConnectorRow }.key = row.key := rfl

def expirePending (now : Instant) : SharedStatements Nat :=
  updateConnectors (fun row => row.status = .pending && row.expiresText.any (· ≤ isoText now))
    (fun row => { row with
      status := .expired
      enrollmentHandleHash := none
      updatedAt := now })
    (key_expired now)

/-! ### Texts that are read first -/

/-- `_is_expired` -/
def isExpired (now : Instant) (row : ConnectorRow) : Except SharedError Bool :=
  match row.expiresText with
  | none => .ok true
  | some expires => parsedUntil expires now

/-- The connector that a session activates, in `activate_connector`. -/
def activationTarget (ambient : Ambient) (session : String) :
    SharedStatements (SessionRow × ConnectorRow) := do
  let store ← get
  let row ← found (store.sessions.find (sha256 session)) invalidSession
  require (row.status = .pending) invalidSession
  let expired ← liftM (parsedUntil row.expiresText ambient.now)
  require (!expired) invalidSession
  let connectorId ← found row.connectorId invalidSession
  let connector ← found (fetchone ambient.order (store.connectors.rows.filter fun connector =>
      connector.id = connectorId && connector.status = .pending &&
        connector.allowedCompanyIds.isSome && connector.defaultCompanyId.isSome))
    (.value "The connector enrollment is incomplete")
  let enrollmentExpired ← liftM (parsedUntil (connector.expiresText.getD "None") ambient.now)
  require (!enrollmentExpired) (.value "The connector enrollment is expired")
  return (row, connector)

end TextExpiry

/-- Every session, token and pending connector has an expiry in the years that texts can hold. -/
structure SharedStore.Dated (store : SharedStore) : Prop where
  sessions : ∀ row ∈ store.sessions, row.expiresAt < endOfTime
  tokens : ∀ row ∈ store.tokens, row.expiresAt < endOfTime
  connectors : ∀ row ∈ store.connectors, row.status = .pending →
    ∃ expires, row.enrollmentExpiresAt = some expires ∧ expires < endOfTime

theorem parsedUntil_isoText {expires : Instant} (hexpires : expires < endOfTime) (now : Instant) :
    parsedUntil (isoText expires) now = .ok (expires ≤ now) := by
  rw [parsedUntil, parseTimestamp_isoText hexpires]
  simp [DateTime.utc]

/-! ### Statements whose conditions agree -/

section Statements

variable {store : SharedStore}

theorem update?_congr {ρ κ : Type} [DecidableEq κ] {key : ρ → κ}
    {columns : List (ρ → Option String)} {table : UniqueTable key columns}
    {condition other : ρ → Bool} {set : ρ → ρ} {hkey : ∀ row, key (set row) = key row}
    (hsame : ∀ row ∈ table, condition row = other row) :
    table.update? condition set hkey = table.update? other set hkey := by
  have hrows : table.toTable.update condition set hkey = table.toTable.update other set hkey := by
    unfold Table.update
    congr 1
    exact List.map_congr_left fun row hrow => by rw [hsame row hrow]
  rw [UniqueTable.update?, UniqueTable.update?, hrows]

theorem count_congr {ρ κ : Type} [DecidableEq κ] {key : ρ → κ}
    {columns : List (ρ → Option String)} {table : UniqueTable key columns}
    {condition other : ρ → Bool} (hsame : ∀ row ∈ table, condition row = other row) :
    table.count condition = table.count other :=
  List.countP_congr fun row hrow => by rw [hsame row hrow]

theorem all_congr {ρ : Type} {rows : List ρ} {condition other : ρ → Bool}
    (hsame : ∀ row ∈ rows, condition row = other row) : rows.all condition = rows.all other := by
  rw [Bool.eq_iff_iff, List.all_eq_true, List.all_eq_true]
  exact forall₂_congr fun row hrow => by rw [hsame row hrow]

/-- Bodies that do the same on a store can be exchanged there. -/
theorem bind_congr_on {α β : Type} {body other : SharedStatements α}
    {next : α → SharedStatements β} (hsame : body store = other store) :
    (body >>= next) store = (other >>= next) store := by
  change (body store >>= fun reached => next reached.1 reached.2) = _
  rw [hsame]
  rfl

section Steps

variable {α β : Type} {value : α} {error : SharedError}

theorem get_then {next : SharedStore → SharedStatements β} :
    (get >>= next) store = next store store :=
  rfl

theorem found_some_then {next : α → SharedStatements β} :
    (found (some value) error >>= next) store = next value store := rfl

theorem found_none_then {next : α → SharedStatements β} :
    (found none error >>= next) store = .error error := rfl

theorem require_then {condition : Bool} {next : Unit → SharedStatements β} :
    (require condition error >>= next) store =
      if condition then next () store else .error error := by
  cases condition <;> rfl

theorem lift_then {next : α → SharedStatements β} :
    ((liftM (.ok value : Except SharedError α) : SharedStatements α) >>= next) store =
      next value store := rfl

end Steps

theorem updateSessions_congr {condition other : SessionRow → Bool}
    {change : SessionRow → SessionRow} {hkey : ∀ row, (change row).stateHash = row.stateHash}
    (hsame : ∀ row ∈ store.sessions, condition row = other row) :
    updateSessions condition change hkey store = updateSessions other change hkey store := by
  have hlegal : (store.sessions.rows.all fun row =>
      !condition row || row.status.legal (change row).status) =
        store.sessions.rows.all fun row => !other row || row.status.legal (change row).status :=
    all_congr fun row hrow => by rw [hsame row hrow]
  unfold updateSessions
  change (Statements.require (store.sessions.rows.all fun row =>
    !condition row || row.status.legal (change row).status) _ >>= fun _ =>
      Statements.found (store.sessions.update? condition change hkey) _ >>= fun sessions =>
        set { store with sessions := sessions } >>= fun _ =>
          pure (store.sessions.count condition)) store = _
  rw [hlegal, update?_congr hsame, count_congr hsame]
  rfl

theorem updateConnectors_congr {condition other : ConnectorRow → Bool}
    {change : ConnectorRow → ConnectorRow} {hkey : ∀ row, (change row).key = row.key}
    (hsame : ∀ row ∈ store.connectors, condition row = other row) :
    updateConnectors condition change hkey store = updateConnectors other change hkey store := by
  have hcomplete : (store.connectors.rows.all fun row =>
      !condition row || store.connectorUpdate row (change row)) =
        store.connectors.rows.all fun row => !other row || store.connectorUpdate row (change row) :=
    all_congr fun row hrow => by rw [hsame row hrow]
  unfold updateConnectors
  change (Statements.require (store.connectors.rows.all fun row =>
    !condition row || store.connectorUpdate row (change row)) _ >>= fun _ =>
      Statements.found (store.connectors.update? condition change hkey) _ >>= fun connectors =>
        set { store with connectors := connectors } >>= fun _ =>
          pure (store.connectors.count condition)) store = _
  rw [hcomplete, update?_congr hsame, count_congr hsame]
  rfl

end Statements

/-! ### Agreement -/

section Agreement

variable (sha256 : String → String) {store : SharedStore} (hdated : store.Dated)
  {now : Instant} (hnow : now < endOfTime)

include hnow

theorem isOpen_eq {row : SessionRow} (hrow : row.expiresAt < endOfTime) (stateHash : String) :
    TextExpiry.isOpen row stateHash (timestamp now) = row.isOpen stateHash now := by
  have htext : decide (timestamp now < row.expiresText) = decide (now < row.expiresAt) :=
    decide_eq_decide.mpr (timestamp_lt_isoText_iff hnow hrow)
  rw [TextExpiry.isOpen, SessionRow.isOpen, htext]

include hdated

theorem bindConnector_eq (session connectorId : String) :
    TextExpiry.bindConnector sha256 now session connectorId store =
      SharedOAuthProvider.bindConnector sha256 now session connectorId store := by
  refine bind_congr_on (updateSessions_congr fun row hrow => ?_)
  rw [isOpen_eq hnow (hdated.sessions row hrow)]

theorem sessionSummary_eq {ambient : Ambient} (hclock : ambient.now = now) (session : String) :
    TextExpiry.sessionSummary sha256 ambient session store =
      SharedOAuthProvider.sessionSummary sha256 ambient session store := by
  subst hclock
  have hopen : (store.sessions.rows.filter fun row =>
      TextExpiry.isOpen row (sha256 session) (timestamp ambient.now)) =
        store.sessions.rows.filter (·.isOpen (sha256 session) ambient.now) :=
    List.filter_congr fun row hrow => isOpen_eq hnow (hdated.sessions row hrow) _
  change (found (fetchone ambient.order (store.sessions.rows.filter fun row =>
    TextExpiry.isOpen row (sha256 session) (timestamp ambient.now))) invalidSession >>= fun row =>
      pure (SharedOAuthProvider.summaryOf row (fetchone ambient.order
        (store.connectors.rows.filter fun connector => some connector.id = row.connectorId))))
          store = _
  rw [hopen]
  rfl

theorem tokenGrants_eq (tokenHash : String) (tokenType : TokenType) :
    TextExpiry.tokenGrants store (timestamp now) tokenHash tokenType =
      SharedOAuthProvider.tokenGrants store now tokenHash tokenType := by
  refine List.filter_congr fun pair hpair => ?_
  have hrow : pair.1.expiresAt < endOfTime :=
    hdated.tokens pair.1 (List.pair_mem_product.mp hpair).1
  have htext : decide (timestamp now < pair.1.expiresText) = decide (now < pair.1.expiresAt) :=
    decide_eq_decide.mpr (timestamp_lt_isoText_iff hnow hrow)
  rw [htext]

theorem tokenRow_eq {ambient : Ambient} (hclock : ambient.now = now) (token : String)
    (tokenType : TokenType) (clientId : Option String) :
    TextExpiry.tokenRow sha256 ambient token tokenType clientId store =
      SharedOAuthProvider.tokenRow sha256 ambient token tokenType clientId store := by
  subst hclock
  have hlive := tokenGrants_eq hdated hnow (sha256 token) tokenType
  change Except.ok ((fetchone ambient.order (TextExpiry.tokenGrants store (timestamp ambient.now)
    (sha256 token) tokenType)).filter _, store) = _
  rw [hlive]
  rfl

theorem expirePending_eq :
    TextExpiry.expirePending now store = SharedConnectorLifecycle.expirePending now store := by
  refine updateConnectors_congr fun row hrow => ?_
  by_cases hpending : row.status = .pending
  · obtain ⟨expires, hexpires, hend⟩ := hdated.connectors row hrow hpending
    have htext : decide (isoText expires ≤ isoText now) = decide (expires ≤ now) := by
      rw [decide_eq_decide, ← not_lt, ← not_lt, isoText_lt_isoText_iff hnow hend]
    rw [ConnectorRow.expiresText, hexpires, Option.map_some, Option.any_some, Option.any_some,
      htext]
  · simp [hpending]

omit hnow in
theorem isExpired_eq {row : ConnectorRow} (hrow : row ∈ store.connectors)
    (hpending : row.status = .pending) :
    TextExpiry.isExpired now row = .ok (SharedConnectorLifecycle.isExpired now row) := by
  obtain ⟨expires, hexpires, hend⟩ := hdated.connectors row hrow hpending
  rw [TextExpiry.isExpired, ConnectorRow.expiresText, hexpires, Option.map_some]
  change parsedUntil (isoText expires) now = _
  rw [parsedUntil_isoText hend, SharedConnectorLifecycle.isExpired, hexpires, Option.all_some]

omit hnow in
/-- The connector that an activation finds, with its expiry read or compared. -/
theorem enrollment_eq {ambient : Ambient} {row : SessionRow} (connectorId : String) :
    (found (fetchone ambient.order (store.connectors.rows.filter fun connector =>
        connector.id = connectorId && connector.status = .pending &&
          connector.allowedCompanyIds.isSome && connector.defaultCompanyId.isSome))
      (.value "The connector enrollment is incomplete") >>= fun connector =>
        (liftM (parsedUntil (connector.expiresText.getD "None") ambient.now) :
          SharedStatements Bool) >>= fun enrollmentExpired =>
            require (!enrollmentExpired) (.value "The connector enrollment is expired") >>= fun _ =>
              (pure (row, connector) : SharedStatements (SessionRow × ConnectorRow))) store =
    (found (fetchone ambient.order (store.connectors.rows.filter fun connector =>
        connector.id = connectorId && connector.status = .pending &&
          connector.allowedCompanyIds.isSome && connector.defaultCompanyId.isSome))
      (.value "The connector enrollment is incomplete") >>= fun connector =>
        require (connector.enrollmentExpiresAt.any (ambient.now < ·))
          (.value "The connector enrollment is expired") >>= fun _ =>
            (pure (row, connector) : SharedStatements (SessionRow × ConnectorRow))) store := by
  cases hfound : fetchone ambient.order (store.connectors.rows.filter fun connector =>
      connector.id = connectorId && connector.status = .pending &&
        connector.allowedCompanyIds.isSome && connector.defaultCompanyId.isSome) with
  | none => rw [found_none_then, found_none_then]
  | some connector =>
      obtain ⟨hmem, hselected⟩ := List.mem_filter.mp (mem_of_fetchone hfound)
      simp only [Bool.and_eq_true, decide_eq_true_eq] at hselected
      obtain ⟨expires, hexpires, hend⟩ := hdated.connectors connector hmem hselected.1.1.2
      rw [found_some_then, found_some_then, ConnectorRow.expiresText, hexpires, Option.map_some,
        Option.getD_some, parsedUntil_isoText hend, lift_then, Option.any_some]
      have hlive : (!decide (expires ≤ ambient.now)) = decide (ambient.now < expires) := by
        rw [← decide_not, decide_eq_decide, not_le]
      rw [hlive]

omit hnow in
theorem activationTarget_eq (ambient : Ambient) (session : String) :
    TextExpiry.activationTarget sha256 ambient session store =
      SharedOAuthProvider.activationTarget sha256 ambient session store := by
  unfold TextExpiry.activationTarget SharedOAuthProvider.activationTarget
  rw [get_then, get_then]
  cases hfind : store.sessions.find (sha256 session) with
  | none => rw [found_none_then, found_none_then]
  | some row =>
      have hrow : row ∈ store.sessions := (Table.find_eq_some_iff.mp hfind).1
      have hend := hdated.sessions row hrow
      rw [found_some_then, found_some_then, require_then, require_then]
      by_cases hpending : row.status = .pending
      · rw [if_pos (decide_eq_true hpending), SessionRow.expiresText, parsedUntil_isoText hend,
          lift_then, require_then]
        by_cases hlive : ambient.now < row.expiresAt
        · rw [if_pos (by simp [hlive]), if_pos (by simp [hpending, hlive])]
          cases row.connectorId with
          | none => rw [found_none_then, found_none_then]
          | some connectorId =>
              rw [found_some_then, found_some_then]
              exact enrollment_eq hdated _
        · rw [if_neg (by simpa using hlive), if_neg (by simp [hlive])]
      · simp [hpending]

end Agreement

/-- Both spellings of the clock compare with a stored text as the instants do. -/
theorem clockTexts_iff {stored now : Instant} (hstored : stored < endOfTime)
    (hnow : now < endOfTime) : ∀ text ∈ [isoText now, timestamp now],
      (text < isoText stored ↔ now < stored) ∧ (isoText stored ≤ text ↔ ¬now < stored) := by
  intro text htext
  have hafter : text < isoText stored ↔ now < stored := by
    rcases List.mem_cons.mp htext with rfl | hlast
    · exact isoText_lt_isoText_iff hnow hstored
    · rw [List.mem_singleton.mp hlast]
      exact timestamp_lt_isoText_iff hnow hstored
  exact ⟨hafter, by rw [← not_lt, hafter]⟩

/-- **Expiry comparisons agree.** A stored text lies after the text of the clock exactly if the
instants do, in both spellings of the clock. The operations that compare texts and those that read
them first do on every dated store what the comparison of instants says. -/
theorem expiry_comparisons_agree (sha256 : String → String) :
    (∀ stored now : Instant, stored < endOfTime → now < endOfTime →
      ∀ text ∈ [isoText now, timestamp now],
        (text < isoText stored ↔ now < stored) ∧ (isoText stored ≤ text ↔ ¬now < stored)) ∧
    ∀ (store : SharedStore) (ambient : Ambient), store.Dated → ambient.now < endOfTime →
      (∀ token tokenType clientId,
        TextExpiry.tokenRow sha256 ambient token tokenType clientId store =
          SharedOAuthProvider.tokenRow sha256 ambient token tokenType clientId store) ∧
      (∀ session connectorId,
        TextExpiry.bindConnector sha256 ambient.now session connectorId store =
          SharedOAuthProvider.bindConnector sha256 ambient.now session connectorId store) ∧
      (∀ session, TextExpiry.sessionSummary sha256 ambient session store =
        SharedOAuthProvider.sessionSummary sha256 ambient session store) ∧
      TextExpiry.expirePending ambient.now store =
        SharedConnectorLifecycle.expirePending ambient.now store ∧
      (∀ session, TextExpiry.activationTarget sha256 ambient session store =
        SharedOAuthProvider.activationTarget sha256 ambient session store) ∧
      (∀ row ∈ store.connectors, row.status = .pending →
        TextExpiry.isExpired ambient.now row =
          .ok (SharedConnectorLifecycle.isExpired ambient.now row)) := by
  refine ⟨fun stored now hstored hnow => clockTexts_iff hstored hnow, ?_⟩
  intro store ambient hdated hnow
  exact ⟨tokenRow_eq sha256 hdated hnow rfl, bindConnector_eq sha256 hdated hnow,
    sessionSummary_eq sha256 hdated hnow rfl, expirePending_eq hdated hnow,
    activationTarget_eq sha256 hdated ambient, fun row hrow => isExpired_eq hdated hrow⟩

/-- A session that expires on the turn of a second. -/
def secondSession : SessionRow where
  stateHash := "session"
  clientId := "client"
  connectorId := none
  supersededConnectorId := none
  redirectUri := "https://client.example/callback"
  resource := "https://server.example/mcp"
  scopes := ["accounting:read"]
  codeChallenge := "challenge"
  clientState := none
  authorizationCodeHash := none
  status := .pending
  expiresAt := 63844848000000000
  consumedAt := none
  createdAt := 63844847400000000

def secondStore : SharedStore :=
  { SharedStore.empty with sessions := ⟨⟨[secondSession], by simp⟩, by simp [secondSession]⟩ }

theorem secondStore_dated : secondStore.Dated where
  sessions row hrow := by
    rw [List.mem_singleton.mp hrow]
    decide
  tokens row hrow := absurd hrow List.not_mem_nil
  connectors row hrow := absurd hrow List.not_mem_nil

theorem expiry_comparisons_agree_second :
    (timestamp 63844847999999999 < isoText 63844848000000000 ↔
      63844847999999999 < 63844848000000000) ∧
    TextExpiry.bindConnector id 63844848000000000 "session" "connector" secondStore =
      SharedOAuthProvider.bindConnector id 63844848000000000 "session" "connector" secondStore :=
  ⟨((expiry_comparisons_agree id).1 63844848000000000 63844847999999999 (by decide) (by decide)
      (timestamp 63844847999999999) (by simp)).1,
    ((expiry_comparisons_agree id).2 secondStore ⟨63844848000000000, fun _ => "", fun _ => 0, 0⟩
      secondStore_dated (by decide)).2.1 "session" "connector"⟩

end OdooMcp
