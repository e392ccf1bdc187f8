import OdooMcp.Effect.Relational
import OdooMcp.Storage.AuditTamper
import OdooMcp.Storage.Execution

/-!
# Two stores side by side

Two stores are the same if their rows are, except for the hash of a request and for what is derived
from the clock: timestamps, and the chain hashes that cover one. The statements of the journal keep
them the same when they are given the same events and outcomes.

Entry hashes differ between the stores, so that the unique index over them could refuse an entry in
one of them only. It refuses none: in a chain whose hashes determine what they cover, no hash occurs
twice.
-/

namespace OdooMcp

open Effect

def named : PyException → Option PyException
  | .exception _ => none
  | .payrollWriteRejected _ => none
  | error => some error

/-- Two exceptions that every handler treats alike, with the same error fields. -/
def SameError (first second : PyException) : Prop := named first = named second

theorem SameError.refl (error : PyException) : SameError error error := rfl

theorem sameError_of_ordinary {α β : Type} {first : Except PyException α}
    {second : Except PyException β} (hfirst : Ordinary first) (hsecond : Ordinary second)
    {one other : PyException} (hone : first = .error one) (hother : second = .error other) :
    SameError one other := by
  obtain ⟨message, rfl⟩ := hfirst one hone
  obtain ⟨text, rfl⟩ := hsecond other hother
  rfl

/-- Computations that raise nothing a handler names end alike if both return or neither does. -/
theorem sameOutcome_of_ordinary {α β : Type} {first : Except PyException α}
    {second : Except PyException β} (hfirst : Ordinary first) (hsecond : Ordinary second)
    (hreturns : (∃ value, first = .ok value) ↔ ∃ value, second = .ok value) :
    SameOutcome SameError (fun _ _ => True) first second := by
  cases hone : first with
  | ok value =>
      obtain ⟨other, hother⟩ := hreturns.mp ⟨value, hone⟩
      rw [hother]
      trivial
  | error error =>
      cases htwo : second with
      | ok value =>
          obtain ⟨other, hother⟩ := hreturns.mpr ⟨value, htwo⟩
          rw [hother] at hone
          cases hone
      | error other => exact sameError_of_ordinary hfirst hsecond hone htwo

theorem sameOutcome_orRaise {α β : Type} {related : α → β → Prop} {first : Option α}
    {second : Option β} (hrelated : Option.Rel related first second) (error : PyException) :
    SameOutcome SameError related (orRaise first error) (orRaise second error) := by
  cases hrelated with
  | some hvalues => exact hvalues
  | none => exact SameError.refl error

/-! ### Rows -/

/-- The columns of an audit row that are not derived from the clock. -/
def AuditRow.masked (row : AuditRow) : AuditRow :=
  { row with previousHash := "", entryHash := "", createdAt := "" }

/-- The columns of an idempotency row that are neither the request hash nor derived from the
clock. -/
def IdempotencyRow.masked (row : IdempotencyRow) : IdempotencyRow :=
  { row with requestHash := "", expiresAt := 0, createdAt := 0, updatedAt := 0 }

def SameAuditRow (first second : AuditRow) : Prop := first.masked = second.masked

def SameIdempotencyRow (first second : IdempotencyRow) : Prop := first.masked = second.masked

/-- Two stores that differ in request hashes and in what is derived from the clock at most. -/
structure SameStore (first second : Store) : Prop where
  audit : List.Forall₂ SameAuditRow first.auditLog.rows second.auditLog.rows
  keys : List.Forall₂ SameIdempotencyRow first.idempotencyKeys.table.rows
    second.idempotencyKeys.table.rows
  nextId : first.idempotencyKeys.nextId = second.idempotencyKeys.nextId

theorem SameIdempotencyRow.columns {first second : IdempotencyRow}
    (hsame : SameIdempotencyRow first second) :
    first.key = second.key ∧ first.id = second.id ∧ first.companyId = second.companyId ∧
      first.ownerRequestId = second.ownerRequestId ∧ first.state = second.state ∧
      first.responseJson = second.responseJson := by
  have hmasked : first.masked = second.masked := hsame
  simp only [IdempotencyRow.masked, IdempotencyRow.mk.injEq] at hmasked
  obtain ⟨hid, htenant, hcompany, htool, hkey, -, hstate, howner, hresponse, -⟩ := hmasked
  exact ⟨by simp [IdempotencyRow.key, htenant, htool, hkey], hid, hcompany, howner, hstate,
    hresponse⟩

theorem SameIdempotencyRow.setOutcome {first second : IdempotencyRow}
    (hsame : SameIdempotencyRow first second) (state : IdempotencyState) (response : Json)
    (now later : Instant) :
    SameIdempotencyRow (IdempotencyKeys.setOutcome state response now first)
      (IdempotencyKeys.setOutcome state response later second) := by
  have hmasked : first.masked = second.masked := hsame
  exact congrArg (fun row : IdempotencyRow =>
    ({ row with state := state, responseJson := some response } : IdempotencyRow)) hmasked

/-! ### Statements on idempotency keys -/

/-- Two tables of idempotency rows that are the same, and give out the same ids. -/
structure SameKeys (first second : IdempotencyKeys) : Prop where
  rows : List.Forall₂ SameIdempotencyRow first.table.rows second.table.rows
  nextId : first.nextId = second.nextId

namespace SameKeys

variable {first second : IdempotencyKeys}

theorem key_eq (row same : IdempotencyRow) (hsame : SameIdempotencyRow row same) :
    row.key = same.key :=
  hsame.columns.1

theorem find (hkeys : SameKeys first second) (key : IdempotencyKey) :
    Option.Rel SameIdempotencyRow (first.find key) (second.find key) :=
  Table.find_related key_eq hkeys.rows key

theorem delete (hkeys : SameKeys first second) (id : Nat) :
    SameKeys (first.delete id) (second.delete id) := by
  refine ⟨Table.delete_related (fun row same hsame => ?_) hkeys.rows, hkeys.nextId⟩
  rw [hsame.columns.2.1]

theorem update (hkeys : SameKeys first second) {condition : IdempotencyRow → Bool}
    (hcondition : ∀ row same, SameIdempotencyRow row same → condition row = condition same)
    (state : IdempotencyState) (response : Json) (now later : Instant) :
    SameKeys (first.update condition state response now)
      (second.update condition state response later) := by
  have hkeep (moment : Instant) (row : IdempotencyRow) :
      (IdempotencyKeys.setOutcome state response moment row).key = row.key := rfl
  exact ⟨Table.update_related (hkeep now) (hkeep later) hcondition
    (fun _ _ hsame => hsame.setOutcome state response now later) hkeys.rows, hkeys.nextId⟩

theorem insert? (hkeys : SameKeys first second) {row same : IdempotencyRow}
    (hrow : SameIdempotencyRow row same) :
    Option.Rel SameKeys (first.insert? row) (second.insert? same) := by
  have hstored : SameIdempotencyRow { row with id := first.nextId }
      { same with id := second.nextId } := by
    have hmasked : row.masked = same.masked := hrow
    rw [hkeys.nextId]
    exact congrArg (fun given : IdempotencyRow => { given with id := second.nextId }) hmasked
  have htables := Table.insert?_related key_eq hkeys.rows hstored
  cases htable : first.table.insert? { row with id := first.nextId } with
  | none =>
      cases htwin : second.table.insert? { same with id := second.nextId } with
      | none =>
          rw [IdempotencyKeys.insert?_none htable, IdempotencyKeys.insert?_none htwin]
          exact .none
      | some twin =>
          rw [htable, htwin] at htables
          cases htables
  | some table =>
      cases htwin : second.table.insert? { same with id := second.nextId } with
      | none =>
          rw [htable, htwin] at htables
          cases htables
      | some twin =>
          rw [htable, htwin] at htables
          obtain ⟨later, hlater, rfl, hnext⟩ := IdempotencyKeys.insert?_some htable
          obtain ⟨after, hafter, rfl, htwinNext⟩ := IdempotencyKeys.insert?_some htwin
          rw [hlater, hafter]
          cases htables with
          | some hrows => exact .some ⟨hrows, by rw [hnext, htwinNext, hkeys.nextId]⟩

end SameKeys

theorem SameStore.sameKeys {first second : Store} (hsame : SameStore first second) :
    SameKeys first.idempotencyKeys second.idempotencyKeys :=
  ⟨hsame.keys, hsame.nextId⟩

/-! ### Intact logs -/

variable (sha256 : String → String)

/-- A log as appends leave it: the ids count its rows, and every tenant's rows form a chain. -/
structure IntactLog (log : Table AuditRow.key) : Prop where
  ids : ∀ row ∈ log.rows, row.id ≤ log.rows.length
  chained : ∀ tenantId, Chained sha256 (tenantRows tenantId log.rows)

variable {sha256}

open HashChain AuditRepository IdempotencyRepository

theorem IntactLog.empty : IntactLog sha256 .empty :=
  ⟨by simp [Table.empty], fun _ => .nil⟩

theorem previousHash_eq_head (log : Table AuditRow.key) (tenantId : String) :
    previousHash log tenantId =
      head AuditRow.entryHash genesisHash (tenantRows tenantId log.rows) := by
  rw [head_eq_getLast?]
  unfold previousHash tenantRows
  cases (log.rows.filter fun row => decide (row.tenantId = tenantId)).getLast? with
  | none => rfl
  | some row => rfl

theorem IntactLog.insert {log later : Table AuditRow.key} (hintact : IntactLog sha256 log)
    {now : Instant} {event : AuditEvent} {row : AuditRow}
    (hrow : auditRow sha256 log now event = .ok row) (hinsert : log.insert? row = some later) :
    IntactLog sha256 later := by
  have hrows := Table.rows_insert? hinsert
  obtain ⟨hid, htenant, -⟩ := auditEntry_verified hrow
  refine ⟨?_, fun tenantId => ?_⟩
  · intro other hother
    rw [hrows, List.mem_append, List.mem_singleton] at hother
    rw [hrows, List.length_append, List.length_singleton]
    rcases hother with hold | rfl
    · exact Nat.le_succ_of_le (hintact.ids other hold)
    · exact hid.le
  · rw [hrows, tenantRows_append]
    by_cases hsame : event.tenantId = tenantId
    · subst hsame
      have hnew : tenantRows event.tenantId [row] = [row] := by simp [tenantRows, htenant]
      rw [auditRow, previousHash_eq_head] at hrow
      rw [hnew]
      refine (hintact.chained event.tenantId).append hrow fun other hother => ?_
      exact Nat.lt_succ_of_le (hintact.ids other (List.mem_of_mem_filter hother))
    · have hnone : tenantRows tenantId [row] = [] := by simp [tenantRows, htenant, hsame]
      rw [hnone, List.append_nil]
      exact hintact.chained tenantId

/-- The row of a new entry meets no unique index: its hash is the hash of no other entry. -/
theorem IntactLog.insert?_eq_some (hinjective : Function.Injective sha256)
    (hgenesis : ∀ text, sha256 text ≠ genesisHash) {log : Table AuditRow.key}
    (hintact : IntactLog sha256 log) {now : Instant} {event : AuditEvent} {row : AuditRow}
    (hrow : auditRow sha256 log now event = .ok row) : ∃ later, log.insert? row = some later := by
  have hdetermines : ∀ one other : AuditRow,
      (∃ record, rowToRecord one = .ok record ∧ ∀ now, Verified sha256 now record) →
        (∃ record, rowToRecord other = .ok record ∧ ∀ now, Verified sha256 now record) →
          one.entryHash = other.entryHash → one.previousHash = other.previousHash := by
    rintro one other ⟨record, hrecord, hverified⟩ ⟨read, hread, hreadVerified⟩ hhash
    have hone := read_of_rowToRecord hrecord
    have hother := read_of_rowToRecord hread
    obtain ⟨_, _, _, _, _, -, -, -, -, -, rfl⟩ := rowToRecord_ok.mp hrecord
    obtain ⟨_, _, _, _, _, -, -, -, -, -, rfl⟩ := rowToRecord_ok.mp hread
    exact (normal_eq_of_entryHash hinjective hone hother (hverified now) (hreadVerified now)
      hhash).1
  have hnever : ∀ one : AuditRow,
      (∃ record, rowToRecord one = .ok record ∧ ∀ now, Verified sha256 now record) →
        one.entryHash ≠ genesisHash := by
    rintro one ⟨record, hrecord, hverified⟩
    obtain ⟨_, -, hhash⟩ := hverified now
    obtain ⟨_, -, hentry⟩ := hashPayload_ok.mp hhash
    obtain ⟨_, _, _, _, _, -, -, -, -, -, rfl⟩ := rowToRecord_ok.mp hrecord
    intro heq
    exact hgenesis _ (hentry.symm.trans heq)
  obtain ⟨-, htenant, record, hrecord, hverified, hprevious, -⟩ := auditEntry_verified hrow
  have hrowPrevious : row.previousHash =
      head AuditRow.entryHash genesisHash (tenantRows event.tenantId log.rows) := by
    rw [← previousHash_eq_head, ← hprevious]
    obtain ⟨_, _, _, _, _, -, -, -, -, -, rfl⟩ := rowToRecord_ok.mp hrecord
    rfl
  have hchained := hintact.chained event.tenantId
  have hfresh := digest_ne_of_linked hdetermines hnever hchained.linked hchained.verified
    ⟨record, hrecord, hverified⟩ hrowPrevious
  refine Table.insert?_eq_some fun other hother hkey => ?_
  have hsameTenant : other.tenantId = event.tenantId :=
    (congrArg Prod.fst hkey).trans htenant
  refine hfresh other ?_ (congrArg Prod.snd hkey)
  exact List.mem_filter.mpr ⟨hother, by simpa using hsameTenant⟩

/-- Two stores that are the same, with logs as appends leave them. -/
structure Paired (sha256 : String → String) (first second : Store) : Prop where
  same : SameStore first second
  intactFirst : IntactLog sha256 first.auditLog
  intactSecond : IntactLog sha256 second.auditLog

/-! ### Statements of the audit log -/

theorem instantText_of_lt {now : Instant} (hnow : now < endOfTime) :
    instantText now = .ok (timestamp now) := by
  unfold instantText
  have hrange : (0 ≤ (now : Int) && decide ((now : Int) < (endOfTime : Int))) = true := by
    simpa using hnow
  rw [if_pos hrange]
  rfl

theorem createdAtText_same {now later : Instant} (hnow : now < endOfTime)
    (hlater : later < endOfTime) (createdAt : Option DateTime) :
    SameOutcome SameError (fun _ _ => True) (createdAtText now createdAt)
      (createdAtText later createdAt) := by
  cases createdAt with
  | none =>
      rw [createdAtText, createdAtText, instantText_of_lt hnow, instantText_of_lt hlater]
      trivial
  | some moment =>
      exact (SameOutcome.of_eq SameError.refl rfl).mono fun _ _ _ => trivial

/-- Whether an entry can be hashed depends neither on its predecessor nor on its time. -/
theorem hashPayload_same (event : AuditEvent) (previous other createdAt moment : String) :
    SameOutcome SameError (fun _ _ => True)
      (hashPayload sha256 (eventValues event previous createdAt))
      (hashPayload sha256 (eventValues event other moment)) := by
  refine sameOutcome_of_ordinary (hashPayload_ordinary _) (hashPayload_ordinary _) ?_
  have hreturns (values : Payload) : (∃ hash, hashPayload sha256 values = .ok hash) ↔
      ∃ json, canonicalJson values.toValue = .ok json := by
    constructor
    · rintro ⟨hash, hhash⟩
      obtain ⟨json, hjson, -⟩ := hashPayload_ok.mp hhash
      exact ⟨json, hjson⟩
    · rintro ⟨json, hjson⟩
      exact ⟨_, hashPayload_ok.mpr ⟨json, hjson, rfl⟩⟩
  have hstrings (values : Payload) :
      ∀ entry ∈ values.map fun entry => ((.str entry.1 : PyKey), entry.2),
        entry.1.isStr = true := by
    intro entry hentry
    obtain ⟨original, -, rfl⟩ := List.mem_map.mp hentry
    rfl
  rw [hreturns, hreturns, Payload.toValue, Payload.toValue,
    canonicalJson_dict_isOk_iff (hstrings _), canonicalJson_dict_isOk_iff (hstrings _)]
  simp [eventValues, valuesWithError, canonicalJson]

/-- One event is stored as the same row in both stores. -/
theorem auditRow_same {log other : Table AuditRow.key}
    (hlogs : List.Forall₂ SameAuditRow log.rows other.rows) {now later : Instant}
    (hnow : now < endOfTime) (hlater : later < endOfTime) (event : AuditEvent) :
    SameOutcome SameError SameAuditRow (auditRow sha256 log now event)
      (auditRow sha256 other later event) := by
  unfold auditRow auditEntry
  rw [hlogs.length_eq]
  refine SameOutcome.bind (createdAtText_same hnow hlater event.createdAt) fun _ _ _ => ?_
  refine SameOutcome.bind (hashPayload_same event _ _ _ _) fun _ _ _ => ?_
  refine SameOutcome.bind (SameOutcome.of_eq SameError.refl rfl) fun _ _ hinput => ?_
  refine SameOutcome.bind (SameOutcome.of_eq SameError.refl rfl) fun _ _ hproposed => ?_
  refine SameOutcome.bind (SameOutcome.of_eq SameError.refl rfl) fun _ _ hactual => ?_
  refine SameOutcome.bind (SameOutcome.of_eq SameError.refl rfl) fun _ _ haffected => ?_
  subst hinput hproposed hactual haffected
  exact rfl

/-! ### Transactions side by side -/

namespace Transaction

variable {α β γ δ : Type} {before between after : Store → Store → Prop} {returned : α → β → Prop}
  {later : γ → δ → Prop}

/-- From related stores the two transactions end alike, and in related stores if they return. -/
def Coupled (before : Store → Store → Prop) (first : Transaction α) (second : Transaction β)
    (returned : α → β → Prop) (after : Store → Store → Prop) : Prop :=
  ∀ store other, before store other →
    SameOutcome SameError (fun one two => returned one.1 two.1 ∧ after one.2 two.2) (first store)
      (second other)

theorem Coupled.bind {first : Transaction α} {second : Transaction β} {next : α → Transaction γ}
    {other : β → Transaction δ} (hfirst : Coupled before first second returned between)
    (hnext : ∀ one two, returned one two → Coupled between (next one) (other two) later after) :
    Coupled before (first >>= next) (second >>= other) later after := by
  intro store twin hstores
  refine SameOutcome.bind (hfirst store twin hstores) fun one two hreached => ?_
  exact hnext one.1 two.1 hreached.1 one.2 two.2 hreached.2

theorem Coupled.from {first : Transaction α} {second : Transaction β}
    {stronger : Store → Store → Prop} (hcoupled : Coupled before first second returned after)
    (hbefore : ∀ store other, stronger store other → before store other) :
    Coupled stronger first second returned after :=
  fun store other hstores => hcoupled store other (hbefore store other hstores)

theorem Coupled.weaken {first : Transaction α} {second : Transaction β} {weaker : α → β → Prop}
    (hcoupled : Coupled before first second returned after)
    (hreturned : ∀ one two, returned one two → weaker one two) :
    Coupled before first second weaker after := by
  intro store other hstores
  refine (hcoupled store other hstores).mono fun one two hreached => ?_
  exact ⟨hreturned one.1 two.1 hreached.1, hreached.2⟩

theorem coupled_lift {first : Except PyException α} {second : Except PyException β}
    (hsame : SameOutcome SameError returned first second) :
    Coupled after (liftM first : Transaction α) (liftM second : Transaction β) returned after := by
  intro store other hstores
  exact SameOutcome.bind hsame fun one two hreturned => ⟨hreturned, hstores⟩

theorem coupled_get : Coupled after (get : Transaction Store)
    (get : Transaction Store) after after :=
  fun _ _ hstores => ⟨hstores, hstores⟩

theorem coupled_set {first second : Store} (hstores : after first second) :
    Coupled before (set first : Transaction PUnit) (set second : Transaction PUnit)
      (fun _ _ => True) after :=
  fun _ _ _ => ⟨trivial, hstores⟩

theorem coupled_modify {first second : Store → Store}
    (hstores : ∀ store other, before store other → after (first store) (second other)) :
    Coupled before (modify first : Transaction PUnit) (modify second : Transaction PUnit)
      (fun _ _ => True) after :=
  fun store other hbefore => ⟨trivial, hstores store other hbefore⟩

theorem coupled_throw (error : PyException) :
    Coupled before (throw error : Transaction α) (throw error : Transaction β) returned after :=
  fun _ _ _ => SameError.refl error

theorem coupled_pure {one : α} {other : β} (hreturned : returned one other) :
    Coupled after (pure one : Transaction α) (pure other : Transaction β) returned after :=
  fun _ _ hstores => ⟨hreturned, hstores⟩

/-- A transaction commits in both stores or is rolled back in both. -/
theorem transaction_same {first : Transaction α} {second : Transaction β} {store other : Store}
    (hstores : after store other)
    (hbodies : SameOutcome SameError (fun one two => returned one.1 two.1 ∧ after one.2 two.2)
      (first store) (second other)) :
    SameOutcome SameError returned (transaction first store).1 (transaction second other).1 ∧
      after (transaction first store).2 (transaction second other).2 := by
  unfold transaction Statements.commit
  rcases hbodies.cases with ⟨one, two, hone, htwo, hreached⟩ | ⟨error, raised, hone, htwo, hsame⟩
  · rw [hone, htwo]
    exact hreached
  · rw [hone, htwo]
    exact ⟨hsame, hstores⟩

end Transaction

open Transaction

section Statements

variable (hinjective : Function.Injective sha256) (hgenesis : ∀ text, sha256 text ≠ genesisHash)

include hinjective hgenesis in
/-- One event is appended to both stores or to neither. -/
theorem appendInTransaction_same {now later : Instant} (hnow : now < endOfTime)
    (hlater : later < endOfTime) (event : AuditEvent) :
    Coupled (Paired sha256) (appendInTransaction sha256 now event)
      (appendInTransaction sha256 later event) (fun _ _ => True) (Paired sha256) := by
  refine Coupled.bind (coupled_lift (SameOutcome.of_eq SameError.refl rfl)) fun _ _ _ => ?_
  refine Coupled.bind coupled_get fun store other hstores => ?_
  refine Coupled.bind (coupled_lift
    (auditRow_same hstores.same.audit hnow hlater event).returned) fun row same hrows => ?_
  obtain ⟨hsame, hrow, htwin⟩ := hrows
  obtain ⟨log, hlog⟩ := hstores.intactFirst.insert?_eq_some hinjective hgenesis hrow
  obtain ⟨twin, htwinLog⟩ := hstores.intactSecond.insert?_eq_some hinjective hgenesis htwin
  rw [hlog, htwinLog]
  have hreached : Paired sha256 { store with auditLog := log } { other with auditLog := twin } := by
    refine ⟨⟨?_, hstores.same.keys, hstores.same.nextId⟩, hstores.intactFirst.insert hrow hlog,
      hstores.intactSecond.insert htwin htwinLog⟩
    change List.Forall₂ SameAuditRow log.rows twin.rows
    rw [Table.rows_insert? hlog, Table.rows_insert? htwinLog]
    exact List.rel_append hstores.same.audit (.cons hsame .nil)
  have hinserted : SameOutcome SameError (fun one two => one = log ∧ two = twin)
      (.ok log : Except PyException (Table AuditRow.key)) (.ok twin) := ⟨rfl, rfl⟩
  refine Coupled.bind (coupled_lift hinserted) fun one two htables => ?_
  obtain ⟨rfl, rfl⟩ := htables
  refine Coupled.bind (coupled_set hreached) fun _ _ _ => ?_
  exact coupled_pure trivial

/-! ### Statements of the journal -/

/-- Two decisions that differ in the time of expiry at most. -/
structure SameDecision (first second : IdempotencyDecision) : Prop where
  disposition : first.disposition = second.disposition
  state : first.state = second.state
  owner : first.ownerRequestId = second.ownerRequestId
  response : first.response = second.response

/-- Two requests under one key are taken alike: both can be hashed or neither, the row stored for
the key has expired in both stores or in neither, and an unexpired one is for the given request in
both or in neither. -/
structure ComparesAlike (sha256 : String → String) (now later : Instant) (companyId : Int)
    (key : IdempotencyKey) (payload other : Payload) (first second : Store) : Prop where
  hashes : (∃ hash, requestHash sha256 companyId payload = .ok hash) ↔
    ∃ hash, requestHash sha256 companyId other = .ok hash
  expires : ∀ row same, first.idempotencyKeys.find key = some row →
    second.idempotencyKeys.find key = some same → isExpired now row = isExpired later same
  agrees : ∀ row same hash twin, first.idempotencyKeys.find key = some row →
    second.idempotencyKeys.find key = some same → isExpired now row = false →
      requestHash sha256 companyId payload = .ok hash →
        requestHash sha256 companyId other = .ok twin →
          (row.requestHash = hash ↔ same.requestHash = twin)

theorem requestHash_ordinary (companyId : Int) (payload : Payload) :
    Ordinary (requestHash sha256 companyId payload) :=
  (canonicalJson_ordinary _).bind fun _ => ordinary_ok _

theorem Paired.withKeys {first second : Store} (hstores : Paired sha256 first second)
    {keys twin : IdempotencyKeys} (hkeys : SameKeys keys twin) :
    Paired sha256 { first with idempotencyKeys := keys } { second with idempotencyKeys := twin } :=
  ⟨⟨hstores.same.audit, hkeys.rows, hkeys.nextId⟩, hstores.intactFirst, hstores.intactSecond⟩

theorem insertReservation_same (now later : Instant) (companyId : Int) (key : IdempotencyKey)
    (hash twin owner : String) :
    Coupled (Paired sha256) (insertReservation now companyId key hash owner)
      (insertReservation later companyId key twin owner) SameDecision (Paired sha256) := by
  refine Coupled.bind coupled_get fun store other hstores => ?_
  have hkeys := hstores.same.sameKeys
  have hrow : SameIdempotencyRow
      ⟨store.idempotencyKeys.nextId, key.tenantId, companyId, key.toolName,
        key.idempotencyKey, hash,
        .inProgress, owner, none, now + idempotencyTtl, now, now⟩
      ⟨other.idempotencyKeys.nextId, key.tenantId, companyId, key.toolName, key.idempotencyKey,
        twin, .inProgress, owner, none, later + idempotencyTtl, later, later⟩ := by
    rw [hkeys.nextId]
    exact rfl
  have hinserted := sameOutcome_orRaise (hkeys.insert? hrow)
    (.exception "UNIQUE constraint failed: idempotency_keys")
  refine Coupled.bind (coupled_lift hinserted) fun keys same hsame => ?_
  refine Coupled.bind (coupled_set (hstores.withKeys hsame)) fun _ _ _ => ?_
  exact coupled_pure ⟨rfl, rfl, rfl, rfl⟩

theorem existingResponse_same {row same : IdempotencyRow} (hrow : SameIdempotencyRow row same) :
    existingResponse row = existingResponse same := by
  obtain ⟨-, -, -, -, hstate, hresponse⟩ := hrow.columns
  unfold existingResponse
  rw [hstate, hresponse]

/-- A key is reserved in both stores, found in both, or refused in both. -/
theorem reserveInTransaction_same {now later : Instant} {companyId : Int} {key : IdempotencyKey}
    {payload other : Payload} {first second : Store} (hstores : Paired sha256 first second)
    (halike : ComparesAlike sha256 now later companyId key payload other first second)
    (owner : String) :
    Coupled (fun store twin => store = first ∧ twin = second)
      (reserveInTransaction sha256 now companyId key payload owner)
      (reserveInTransaction sha256 later companyId key other owner) SameDecision
      (Paired sha256) := by
  refine Coupled.bind (coupled_lift (SameOutcome.of_eq SameError.refl rfl)) fun _ _ _ => ?_
  refine Coupled.bind
    (coupled_lift (sameOutcome_of_ordinary (requestHash_ordinary companyId payload)
    (requestHash_ordinary companyId other) halike.hashes).returned) fun hash twin hhashes => ?_
  obtain ⟨-, hhash, htwin⟩ := hhashes
  refine Coupled.bind coupled_get fun store same hreached => ?_
  obtain ⟨rfl, rfl⟩ := hreached
  have hinitial : ∀ one two, (one = store ∧ two = same) → Paired sha256 one two := by
    rintro one two ⟨rfl, rfl⟩
    exact hstores
  have hfound := hstores.same.sameKeys.find key
  cases hrow : store.idempotencyKeys.find key with
  | none =>
      cases hsame : same.idempotencyKeys.find key with
      | some row =>
          rw [hrow, hsame] at hfound
          cases hfound
      | none =>
          have hone : store.idempotencyKeys.table.find key = none := hrow
          have htwo : same.idempotencyKeys.table.find key = none := hsame
          rw [hone, htwo]
          exact (insertReservation_same now later companyId key hash twin owner).from hinitial
  | some row =>
      cases hsame : same.idempotencyKeys.find key with
      | none =>
          rw [hrow, hsame] at hfound
          cases hfound
      | some stored =>
          rw [hrow, hsame] at hfound
          obtain ⟨hrows⟩ := hfound
          have hone : store.idempotencyKeys.table.find key = some row := hrow
          have htwo : same.idempotencyKeys.table.find key = some stored := hsame
          rw [hone, htwo]
          obtain ⟨-, hid, -, howner, hstate, -⟩ := hrows.columns
          have hexpired := halike.expires row stored hrow hsame
          refine Coupled.bind (coupled_lift (SameOutcome.of_eq SameError.refl
            (existingResponse_same hrows))) fun response read hresponse => ?_
          subst hresponse
          rw [← hexpired]
          split
          · have hdeleted : ∀ one two : Store, (one = store ∧ two = same) → Paired sha256
                { one with idempotencyKeys := one.idempotencyKeys.delete row.id }
                { two with idempotencyKeys := two.idempotencyKeys.delete stored.id } := by
              rintro one two ⟨rfl, rfl⟩
              rw [← hid]
              exact hstores.withKeys (hstores.same.sameKeys.delete row.id)
            refine Coupled.bind (coupled_modify hdeleted) fun _ _ _ => ?_
            exact insertReservation_same now later companyId key hash twin owner
          · rename_i hunexpired
            have hagrees := halike.agrees row stored hash twin hrow hsame
              (Bool.eq_false_iff.mpr hunexpired) hhash htwin
            by_cases hmatch : row.requestHash = hash
            · rw [if_neg (not_not.mpr hmatch), if_neg (not_not.mpr (hagrees.mp hmatch)), hstate,
                howner]
              exact (coupled_pure ⟨rfl, rfl, rfl, rfl⟩).from hinitial
            · rw [if_pos hmatch, if_pos fun hother => hmatch (hagrees.mpr hother)]
              exact coupled_throw _

include hinjective hgenesis

/-- A reservation is made in both stores with the event of its attempt, or in neither. -/
theorem begin_same {clock other : ExecutionJournal.Clock} (hclock : clock.audit < endOfTime)
    (hother : other.audit < endOfTime) (event : AuditEvent) (idempotencyKey : String)
    {payload twin : Payload} {first second : Store} (hstores : Paired sha256 first second)
    (halike : ∀ companyId, event.companyId = some companyId →
      ComparesAlike sha256 clock.repository other.repository companyId
        (event.idempotencyKey idempotencyKey) payload twin first second) :
    SameOutcome SameError SameDecision
        (ExecutionJournal.begin sha256 clock event idempotencyKey payload first).1
        (ExecutionJournal.begin sha256 other event idempotencyKey twin second).1 ∧
      Paired sha256 (ExecutionJournal.begin sha256 clock event idempotencyKey payload first).2
        (ExecutionJournal.begin sha256 other event idempotencyKey twin second).2 := by
  unfold ExecutionJournal.begin
  cases hcompany : event.companyId with
  | none => exact ⟨SameError.refl _, hstores⟩
  | some companyId =>
      refine transaction_same hstores ?_
      have hreserve := reserveInTransaction_same hstores (halike companyId hcompany) event.requestId
      have hbody : Coupled (fun store same => store = first ∧ same = second)
          (ExecutionJournal.beginInTransaction sha256 clock event companyId idempotencyKey payload)
          (ExecutionJournal.beginInTransaction sha256 other event companyId idempotencyKey twin)
          SameDecision (Paired sha256) := by
        refine Coupled.bind hreserve fun decision same hsame => ?_
        by_cases hdisposition : decision.disposition = .reserved
        · rw [if_pos hdisposition, if_pos (hsame.disposition ▸ hdisposition)]
          refine Coupled.bind (appendInTransaction_same hinjective hgenesis hclock hother event)
            fun _ _ _ => ?_
          exact coupled_pure hsame
        · rw [if_neg hdisposition, if_neg (hsame.disposition ▸ hdisposition)]
          exact coupled_pure hsame
      exact hbody first second ⟨rfl, rfl⟩

/-- An outcome is recorded in both stores with its event, or in neither. -/
theorem finish_same {clock other : ExecutionJournal.Clock} (hclock : clock.audit < endOfTime)
    (hother : other.audit < endOfTime) (event : AuditEvent) (idempotencyKey : String)
    (state : IdempotencyState) (response : Option Payload) {first second : Store}
    (hstores : Paired sha256 first second) :
    SameOutcome SameError (fun _ _ => True)
        (ExecutionJournal.finish sha256 clock event idempotencyKey state response first).1
        (ExecutionJournal.finish sha256 other event idempotencyKey state response second).1 ∧
      Paired sha256
        (ExecutionJournal.finish sha256 clock event idempotencyKey state response first).2
        (ExecutionJournal.finish sha256 other event idempotencyKey state response second).2 := by
  unfold ExecutionJournal.finish
  cases hcompany : event.companyId with
  | none => exact ⟨SameError.refl _, hstores⟩
  | some companyId =>
      refine transaction_same hstores ?_
      have hupdate : Coupled (Paired sha256)
          (IdempotencyRepository.finishInTransaction clock.repository companyId
            (event.idempotencyKey idempotencyKey) event.requestId state response)
          (IdempotencyRepository.finishInTransaction other.repository companyId
            (event.idempotencyKey idempotencyKey) event.requestId state response)
          (fun _ _ => True) (Paired sha256) := by
        refine Coupled.bind (coupled_lift (SameOutcome.of_eq SameError.refl rfl)) fun _ _ _ => ?_
        refine Coupled.bind (coupled_lift (SameOutcome.of_eq SameError.refl rfl))
          fun written same hwritten => ?_
        subst hwritten
        refine Coupled.bind (coupled_lift (SameOutcome.of_eq SameError.refl rfl))
          fun json same hjson => ?_
        subst hjson
        refine Coupled.bind coupled_get fun store same hreached => ?_
        have hcondition : ∀ row twin, SameIdempotencyRow row twin →
            ownsReservation companyId (event.idempotencyKey idempotencyKey) event.requestId row =
              ownsReservation companyId (event.idempotencyKey idempotencyKey) event.requestId
                twin := by
          intro row twin hrows
          obtain ⟨hkey, -, hrowCompany, howner, hstate, -⟩ := hrows.columns
          unfold ownsReservation
          rw [hkey, hrowCompany, howner, hstate]
        have hkeys := hreached.same.sameKeys
        refine Coupled.bind (coupled_set (hreached.withKeys (hkeys.update hcondition state json
          clock.repository other.repository))) fun _ _ _ => ?_
        rw [Table.count_related hcondition hkeys.rows]
        exact (coupled_lift (SameOutcome.of_eq SameError.refl rfl)).weaken fun _ _ _ => trivial
      have hbody : Coupled (Paired sha256)
          (ExecutionJournal.finishInTransaction sha256 clock event companyId idempotencyKey state
            response)
          (ExecutionJournal.finishInTransaction sha256 other event companyId idempotencyKey state
            response) (fun _ _ => True) (Paired sha256) := by
        refine Coupled.bind hupdate fun _ _ _ => ?_
        refine Coupled.bind (appendInTransaction_same hinjective hgenesis hclock hother event)
          fun _ _ _ => ?_
        exact coupled_pure trivial
      exact hbody first second hstores

/-- One event is appended to both stores, or to neither. -/
theorem append_same {now later : Instant} (hnow : now < endOfTime) (hlater : later < endOfTime)
    (event : AuditEvent) {first second : Store} (hstores : Paired sha256 first second) :
    SameOutcome SameError (fun _ _ => True) (append sha256 now event first).1
        (append sha256 later event second).1 ∧
      Paired sha256 (append sha256 now event first).2 (append sha256 later event second).2 :=
  transaction_same hstores
    (appendInTransaction_same hinjective hgenesis hnow hlater event first second hstores)

end Statements

end OdooMcp
