import OdooMcp.Storage.Models

/-!
# The idempotency repository
-/

namespace OdooMcp

open Effect

variable (sha256 : String → String)

/-- `_TTL`: twenty-four hours. -/
def idempotencyTtl : Nat := 24 * 60 * 60 * 1000000

def required (value label : String) : Except PyException Unit :=
  ensure (!isBlank value) (valueError (label ++ " is required"))

def requiredCompany (companyId : Int) : Except PyException Unit :=
  ensure (0 < companyId) (valueError "company_id must be positive")

/-- The identity and company checks that reserving and finishing share. -/
def requiredIdentity (companyId : Int) (key : IdempotencyKey) (ownerRequestId : String) :
    Except PyException Unit := do
  required key.tenantId "tenant_id"
  requiredCompany companyId
  required key.toolName "tool_name"
  required key.idempotencyKey "idempotency_key"
  required ownerRequestId "owner_request_id"

def invalidReplayState : PyException :=
  .exception "Stored idempotency replay state is invalid"

namespace IdempotencyRepository

def requestHash (companyId : Int) (requestPayload : Payload) : Except PyException String :=
  return sha256 (← canonicalJson
    (.dict [(.str "company_id", .int companyId), (.str "payload", requestPayload.toValue)])).text

/-- The response a row stores, once its column agrees with the row's state. -/
def existingResponse (row : IdempotencyRow) : Except PyException (Option Payload) := do
  let response ← row.responseJson.mapM parseMapping
  ensure (decide (row.state = .inProgress) = response.isNone) invalidReplayState
  return response

/-- The rule under which a row is deleted: it has expired, and its outcome is certain. -/
def isExpired (now : Instant) (row : IdempotencyRow) : Bool :=
  row.expiresAt ≤ now && (row.state = .succeeded || row.state = .failed)

def insertReservation (now : Instant) (companyId : Int) (key : IdempotencyKey)
    (requestHash ownerRequestId : String) : Transaction IdempotencyDecision := do
  let store ← get
  let row : IdempotencyRow :=
    { id := store.idempotencyKeys.nextId
      tenantId := key.tenantId
      companyId := companyId
      toolName := key.toolName
      idempotencyKey := key.idempotencyKey
      requestHash := requestHash
      state := .inProgress
      ownerRequestId := ownerRequestId
      responseJson := none
      expiresAt := now + idempotencyTtl
      createdAt := now
      updatedAt := now }
  let keys ← orRaise (store.idempotencyKeys.insert? row)
    (.exception "UNIQUE constraint failed: idempotency_keys")
  set { store with idempotencyKeys := keys }
  return {
    disposition := .reserved
    state := .inProgress
    ownerRequestId := ownerRequestId
    response := none
    expiresAt := now + idempotencyTtl }

def reserveInTransaction (now : Instant) (companyId : Int) (key : IdempotencyKey)
    (requestPayload : Payload) (ownerRequestId : String) : Transaction IdempotencyDecision := do
  requiredIdentity companyId key ownerRequestId
  let hash ← requestHash sha256 companyId requestPayload
  match (← get).idempotencyKeys.table.find key with
  | none => insertReservation now companyId key hash ownerRequestId
  | some row =>
      let response ← existingResponse row
      if isExpired now row then
        modify fun store => { store with idempotencyKeys := store.idempotencyKeys.delete row.id }
        insertReservation now companyId key hash ownerRequestId
      else if row.requestHash ≠ hash then
        throw .idempotencyPayloadMismatch
      else
        return {
          disposition := if row.state = .inProgress then .inProgress else .replay
          state := row.state
          ownerRequestId := row.ownerRequestId
          response := response
          expiresAt := row.expiresAt }

/-- The `WHERE` clause of the outcome update: the caller's own reservation, still open. -/
def ownsReservation (companyId : Int) (key : IdempotencyKey) (ownerRequestId : String)
    (row : IdempotencyRow) : Bool :=
  row.key = key && row.companyId = companyId && row.ownerRequestId = ownerRequestId &&
    row.state = .inProgress

def requiredOutcome (state : IdempotencyState) (response : Option Payload) :
    Except PyException Payload := do
  ensure (state ≠ .inProgress) (.exception "An idempotency outcome must be final")
  orRaise response (.exception "A final idempotency state requires a replayable response")

theorem requiredOutcome_final {state : IdempotencyState} {response : Option Payload}
    {payload : Payload} (hrequired : requiredOutcome state response = .ok payload) :
    state ≠ .inProgress := by
  unfold requiredOutcome at hrequired
  cases state <;> simp_all [ensure, bind, Except.bind]

def finishInTransaction (now : Instant) (companyId : Int) (key : IdempotencyKey)
    (ownerRequestId : String) (state : IdempotencyState) (response : Option Payload) :
    Transaction Unit := do
  requiredIdentity companyId key ownerRequestId
  let payload ← requiredOutcome state response
  let json ← canonicalJson payload.toValue
  let store ← get
  let condition := ownsReservation companyId key ownerRequestId
  let rowcount := store.idempotencyKeys.table.count condition
  set { store with idempotencyKeys := store.idempotencyKeys.update condition state json now }
  ensure (rowcount = 1)
    (.exception "The idempotency reservation is not owned or is already final")

/-! ### What a reservation and an outcome do -/

variable {sha256}

/-- The row a successful reservation stores. -/
structure IsReservation (companyId : Int) (key : IdempotencyKey) (ownerRequestId : String)
    (row : IdempotencyRow) : Prop where
  key : row.key = key
  companyId : row.companyId = companyId
  owner : row.ownerRequestId = ownerRequestId
  state : row.state = .inProgress
  response : row.responseJson = none

theorem insertReservation_ok {now : Instant} {companyId : Int} {key : IdempotencyKey}
    {hash ownerRequestId : String} {store later : Store} {decision : IdempotencyDecision}
    (hinsert : insertReservation now companyId key hash ownerRequestId store =
      .ok (decision, later)) :
    decision.disposition = .reserved ∧ later.auditLog = store.auditLog ∧
      ∃ row, IsReservation companyId key ownerRequestId row ∧
        row.id = store.idempotencyKeys.nextId ∧
        later.idempotencyKeys.find =
          Function.update store.idempotencyKeys.find key (some row) := by
  simp only [insertReservation, Statements.bind_ok, Statements.get_ok, Statements.lift_ok,
    Statements.set_ok, Statements.pure_ok, orRaise_ok] at hinsert
  obtain ⟨_, _, ⟨rfl, rfl⟩, keys, _, ⟨hkeys, rfl⟩, _, _, rfl, rfl, rfl⟩ := hinsert
  exact ⟨rfl, rfl, _, ⟨rfl, rfl, rfl, rfl, rfl⟩, rfl, IdempotencyKeys.find_insert? hkeys⟩

/-- A reservation that does not raise either stores a fresh row, in place of none or of an expired
row with a certain outcome, or leaves the store alone and reports the row it found. -/
theorem reserveInTransaction_ok {now : Instant} {companyId : Int} {key : IdempotencyKey}
    {requestPayload : Payload} {ownerRequestId : String} {store later : Store}
    {decision : IdempotencyDecision}
    (hreserve : reserveInTransaction sha256 now companyId key requestPayload ownerRequestId store =
      .ok (decision, later)) :
    (decision.disposition = .reserved ∧ later.auditLog = store.auditLog ∧
      (∀ row, store.idempotencyKeys.find key = some row → isExpired now row = true) ∧
      ∃ row, IsReservation companyId key ownerRequestId row ∧
        row.id = store.idempotencyKeys.nextId ∧
        later.idempotencyKeys.find =
          Function.update store.idempotencyKeys.find key (some row)) ∨
    (decision.disposition ≠ .reserved ∧ later = store ∧
      ∃ row, store.idempotencyKeys.find key = some row ∧ isExpired now row = false ∧
        existingResponse row = .ok decision.response ∧
        decision.disposition = if row.state = .inProgress then .inProgress else .replay) := by
  simp only [reserveInTransaction, Statements.bind_ok, Statements.get_ok,
    Statements.lift_ok] at hreserve
  obtain ⟨_, _, ⟨-, rfl⟩, hash, _, ⟨-, rfl⟩, _, _, ⟨rfl, rfl⟩, hreserve⟩ := hreserve
  cases hfind : store.idempotencyKeys.table.find key with
  | none =>
      rw [hfind] at hreserve
      obtain ⟨hdisposition, hlog, row, hrow, hid, hlater⟩ := insertReservation_ok hreserve
      refine .inl ⟨hdisposition, hlog, ?_, row, hrow, hid, hlater⟩
      intro other hother
      rw [IdempotencyKeys.find, hfind] at hother
      cases hother
  | some row =>
      have hrow : store.idempotencyKeys.find row.key = some row := by
        rw [IdempotencyKeys.key_of_find hfind]
        exact hfind
      rw [hfind] at hreserve
      simp only [Statements.bind_ok, Statements.lift_ok] at hreserve
      obtain ⟨response, _, ⟨hresponse, rfl⟩, hreserve⟩ := hreserve
      cases hexpired : isExpired now row with
      | true =>
          simp only [hexpired, if_true, Statements.bind_ok, Statements.modify_ok] at hreserve
          obtain ⟨_, _, rfl, hreserve⟩ := hreserve
          obtain ⟨hdisposition, hlog, inserted, hinserted, hid, hlater⟩ :=
            insertReservation_ok hreserve
          refine .inl ⟨hdisposition, hlog, ?_, inserted, hinserted, hid, ?_⟩
          · intro other hother
            rw [IdempotencyKeys.find, hfind] at hother
            cases hother
            exact hexpired
          · have hkey : row.key = key := IdempotencyKeys.key_of_find hfind
            rw [hlater, IdempotencyKeys.find_delete hrow, hkey, Function.update_idem]
      | false =>
          simp only [hexpired, Bool.false_eq_true, if_false] at hreserve
          split at hreserve
          · cases hreserve
          · rw [Statements.pure_ok] at hreserve
            obtain ⟨rfl, rfl⟩ := hreserve
            refine .inr ⟨?_, rfl, row, hfind, hexpired, hresponse, rfl⟩
            simp only
            split <;> simp

theorem company_of_identity {companyId : Int} {key : IdempotencyKey} {ownerRequestId : String}
    (hidentity : requiredIdentity companyId key ownerRequestId = .ok ()) : 0 < companyId := by
  simp only [requiredIdentity, except_bind_ok] at hidentity
  obtain ⟨_, -, _, hcompany, -⟩ := hidentity
  simpa [requiredCompany] using hcompany

/-- What a call is told that finds the key's row there, unexpired and for the same request. -/
theorem reserveInTransaction_found {now : Instant} {companyId : Int} {key : IdempotencyKey}
    {requestPayload : Payload} {ownerRequestId : String} {store : Store} {row : IdempotencyRow}
    {response : Option Payload}
    (hidentity : requiredIdentity companyId key ownerRequestId = .ok ())
    (hhash : requestHash sha256 companyId requestPayload = .ok row.requestHash)
    (hrow : store.idempotencyKeys.find key = some row)
    (hresponse : existingResponse row = .ok response) (hexpired : isExpired now row = false) :
    reserveInTransaction sha256 now companyId key requestPayload ownerRequestId store = .ok
      ({ disposition := if row.state = .inProgress then .inProgress else .replay
         state := row.state
         ownerRequestId := row.ownerRequestId
         response := response
         expiresAt := row.expiresAt }, store) := by
  rw [reserveInTransaction, Statements.bind_ok]
  refine ⟨(), store, Statements.lift_ok.mpr ⟨hidentity, rfl⟩, ?_⟩
  rw [Statements.bind_ok]
  refine ⟨row.requestHash, store, Statements.lift_ok.mpr ⟨hhash, rfl⟩, ?_⟩
  rw [Statements.bind_ok]
  refine ⟨store, store, Statements.get_ok.mpr ⟨rfl, rfl⟩, ?_⟩
  have hfind : store.idempotencyKeys.table.find key = some row := hrow
  simp only [hfind, hexpired, Bool.false_eq_true, if_false, ne_eq, not_true_eq_false]
  rw [Statements.bind_ok]
  exact ⟨response, store, Statements.lift_ok.mpr ⟨hresponse, rfl⟩,
    Statements.pure_ok.mpr ⟨rfl, rfl⟩⟩

/-- An outcome that does not raise is written to the caller's own open reservation, and to nothing
else. -/
theorem finishInTransaction_ok {now : Instant} {companyId : Int} {key : IdempotencyKey}
    {ownerRequestId : String} {state : IdempotencyState} {response : Option Payload}
    {store later : Store}
    (hfinish : finishInTransaction now companyId key ownerRequestId state response store =
      .ok ((), later)) :
    state ≠ .inProgress ∧ later.auditLog = store.auditLog ∧
      ∃ row json, store.idempotencyKeys.find key = some row ∧
        row.ownerRequestId = ownerRequestId ∧ row.state = .inProgress ∧
        later.idempotencyKeys.find = Function.update store.idempotencyKeys.find key
          (some (IdempotencyKeys.setOutcome state json now row)) := by
  simp only [finishInTransaction, Statements.bind_ok, Statements.get_ok, Statements.lift_ok,
    Statements.set_ok, ensure_ok, decide_eq_true_eq] at hfinish
  obtain ⟨_, _, ⟨-, rfl⟩, payload, _, ⟨hpayload, rfl⟩, json, _, ⟨-, rfl⟩, _, _, ⟨rfl, rfl⟩, _, _,
    rfl, hcount, rfl⟩ := hfinish
  obtain ⟨row, hrow, howns⟩ := Table.count_pos_iff.mp (hcount ▸ Nat.one_pos)
  have howned := howns
  simp only [ownsReservation, Bool.and_eq_true, decide_eq_true_eq] at howned
  obtain ⟨⟨⟨hkey, -⟩, howner⟩, hstate⟩ := howned
  have hfind : store.idempotencyKeys.find key = some row := Table.find_eq_some_iff.mpr ⟨hrow, hkey⟩
  refine ⟨requiredOutcome_final hpayload, rfl, row, json, hfind, howner, hstate, ?_⟩
  funext other
  rw [IdempotencyKeys.find_update]
  by_cases hother : other = key
  · subst hother
    rw [hfind, Function.update_self, Option.map_some, if_pos howns]
  · rw [Function.update_of_ne hother]
    cases hrest : store.idempotencyKeys.find other with
    | none => rfl
    | some found =>
        have hne : found.key ≠ key := by
          rw [IdempotencyKeys.key_of_find hrest]
          exact hother
        simp [ownsReservation, hne]

end IdempotencyRepository

end OdooMcp
