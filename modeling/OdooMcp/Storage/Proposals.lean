import OdooMcp.AutoTable
import OdooMcp.Effect.Statements
import OdooMcp.Storage.AuditChain
import OdooMcp.Storage.Idempotency

/-!
# The proposal repository

A proposal is stored in the state `proposed` and moves along a table of transitions. A transition
names the state it expects to leave, and its update selects the row in that state only.
-/

namespace OdooMcp

open Effect

inductive ProposalState
  | proposed
  | executing
  | executed
  | failed
  | unknown
  | expired
  deriving DecidableEq, Repr

/-- A row of `proposals`. -/
structure ProposalRow where
  id : Nat
  requestId : String
  tenantId : String
  companyId : Int
  toolName : String
  module : String
  proposalType : String
  payloadJson : Json
  status : ProposalState
  executedAt : Option Instant
  erpRecordRefs : Json
  createdAt : Instant

structure ProposalRecord where
  id : Nat
  requestId : String
  tenantId : String
  companyId : Int
  toolName : String
  module : String
  proposalType : String
  payload : Payload
  status : ProposalState
  executedAt : Option Instant
  erpRecordRefs : List String
  createdAt : Instant

/-- A row of `artifacts`. -/
structure ArtifactRow where
  id : Nat
  requestId : String
  tenantId : String
  companyId : Int
  toolName : String
  module : String
  artifactType : String
  artifactFormat : String
  content : String
  createdAt : Instant

structure ProposalStore where
  proposals : AutoTable ProposalRow.id
  artifacts : AutoTable ArtifactRow.id

def ProposalStore.empty : ProposalStore := ⟨.empty, .empty⟩

theorem parseStringTuple_tuple {texts : List String} {json : Json}
    (hjson : canonicalJson (.tuple (texts.map .str)) = .ok json) :
    parseStringTuple json = .ok texts := by
  have hlist : canonicalJson (affectedValue texts) = .ok json := hjson
  exact parseStringTuple_affected hlist

/-- `_proposal` -/
def proposalRecord (row : ProposalRow) : Except PyException ProposalRecord := do
  let payload ← parseMapping row.payloadJson
  let erpRecordRefs ← parseStringTuple row.erpRecordRefs
  return {
    id := row.id
    requestId := row.requestId
    tenantId := row.tenantId
    companyId := row.companyId
    toolName := row.toolName
    module := row.module
    proposalType := row.proposalType
    payload := payload
    status := row.status
    executedAt := row.executedAt
    erpRecordRefs := erpRecordRefs
    createdAt := row.createdAt }

def proposalTransitionError (message : String) : PyException :=
  .exception ("ProposalTransitionError: " ++ message)

structure ProposalInput where
  requestId : String
  tenantId : String
  companyId : Int
  toolName : String
  module : String
  proposalType : String
  payload : Payload

namespace ProposalRepository

/-- `_TRANSITIONS` -/
def transitions : ProposalState → List ProposalState
  | .proposed => [.executing, .expired]
  | .executing => [.executed, .failed, .unknown]
  | _ => []

def requireInput (input : ProposalInput) : Except PyException Unit := do
  required input.requestId "request_id"
  required input.tenantId "tenant_id"
  requiredCompany input.companyId
  required input.toolName "tool_name"
  required input.module "module"
  required input.proposalType "proposal_type"

def proposedRow (id : Nat) (now : Instant) (input : ProposalInput) (payloadJson : Json) :
    ProposalRow where
  id := id
  requestId := input.requestId
  tenantId := input.tenantId
  companyId := input.companyId
  toolName := input.toolName
  module := input.module
  proposalType := input.proposalType
  payloadJson := payloadJson
  status := .proposed
  executedAt := none
  erpRecordRefs := .arr []
  createdAt := now

/-- `SELECT * FROM proposals WHERE tenant_id = ? AND id = ?` -/
def select (store : ProposalStore) (tenantId : String) (proposalId : Int) : Option ProposalRow :=
  store.proposals.rows.find? fun row => row.tenantId = tenantId && row.id = proposalId

def createInTransaction (now : Instant) (input : ProposalInput) :
    Statements ProposalStore PyException ProposalRecord := do
  liftM (requireInput input)
  let payloadJson ← liftM (canonicalJson input.payload.toValue)
  let store ← get
  let lastrowid := store.proposals.nextId
  set { store with
    proposals := store.proposals.insert (proposedRow lastrowid now input payloadJson) rfl }
  let row ← Statements.found (select (← get) input.tenantId lastrowid)
    (proposalTransitionError "Proposal creation failed")
  liftM (proposalRecord row)

/-- `create` -/
def create (now : Instant) (input : ProposalInput) (store : ProposalStore) :
    Except PyException ProposalRecord × ProposalStore :=
  match requireInput input with
  | .error error => (.error error, store)
  | .ok () => (createInTransaction now input).commit store

/-- The `WHERE` clause of a transition. -/
def leaves (tenantId : String) (proposalId : Int) (expected : ProposalState) (row : ProposalRow) :
    Bool :=
  row.tenantId = tenantId && row.id = proposalId && row.status = expected

def enter (target : ProposalState) (executedAt : Option Instant) (erpRecordRefs : Json)
    (row : ProposalRow) : ProposalRow :=
  { row with status := target, executedAt := executedAt, erpRecordRefs := erpRecordRefs }

def executedAt (now : Instant) (target : ProposalState) : Option Instant :=
  if target = .executed then some now else none

def transitionInTransaction (now : Instant) (tenantId : String) (proposalId : Int)
    (expected target : ProposalState) (erpRecordRefs : List String) :
    Statements ProposalStore PyException (Option ProposalRow) := do
  let references ← liftM (canonicalJson (.tuple (erpRecordRefs.map .str)))
  let store ← get
  let condition := leaves tenantId proposalId expected
  let rowcount := store.proposals.toTable.count condition
  set { store with
    proposals := store.proposals.update condition
      (enter target (executedAt now target) references) fun _ => rfl }
  Statements.require (rowcount = 1)
    (proposalTransitionError "The proposal state changed concurrently")
  return select (← get) tenantId proposalId

def requireTransition (tenantId : String) (expected target : ProposalState) :
    Except PyException Unit := do
  required tenantId "tenant_id"
  ensure (target ∈ transitions expected)
    (proposalTransitionError "The proposal state transition is not allowed")

/-- `transition` -/
def transition (now : Instant) (tenantId : String) (proposalId : Int)
    (expected target : ProposalState) (erpRecordRefs : List String) (store : ProposalStore) :
    Except PyException ProposalRecord × ProposalStore :=
  match requireTransition tenantId expected target with
  | .error error => (.error error, store)
  | .ok () =>
      match (transitionInTransaction now tenantId proposalId expected target
          erpRecordRefs).commit store with
      | (.error error, reached) => (.error error, reached)
      | (.ok none, reached) =>
          (.error (proposalTransitionError "The proposal could not be resolved"), reached)
      | (.ok (some row), reached) => (proposalRecord row, reached)

end ProposalRepository

namespace ArtifactRepository

def createInTransaction (now : Instant) (input : ProposalInput) (artifactFormat content : String) :
    Statements ProposalStore PyException ArtifactRow := do
  liftM (required input.requestId "request_id")
  liftM (required input.tenantId "tenant_id")
  liftM (requiredCompany input.companyId)
  liftM (required input.toolName "tool_name")
  liftM (required input.module "module")
  liftM (required input.proposalType "artifact_type")
  liftM (required artifactFormat "artifact_format")
  let store ← get
  let row : ArtifactRow :=
    { id := store.artifacts.nextId
      requestId := input.requestId
      tenantId := input.tenantId
      companyId := input.companyId
      toolName := input.toolName
      module := input.module
      artifactType := input.proposalType
      artifactFormat := artifactFormat
      content := content
      createdAt := now }
  set { store with artifacts := store.artifacts.insert row rfl }
  return row

end ArtifactRepository

namespace ProposalJournal

/-- `record`: a proposal and its artifact in one transaction. -/
def record (now artifactNow : Instant) (input : ProposalInput) (artifactMarkdown : String)
    (store : ProposalStore) : Except PyException ProposalRecord × ProposalStore :=
  Statements.commit (σ := ProposalStore) (ε := PyException) (do
    let proposal ← ProposalRepository.createInTransaction now input
    let _ ← ArtifactRepository.createInTransaction artifactNow input "markdown" artifactMarkdown
    return proposal) store

end ProposalJournal

/-! ### What a creation and a transition do -/

/-- A stored proposal can be read back, and it says when it was executed if it was. -/
structure ProposalRow.Valid (row : ProposalRow) : Prop where
  readable : ∃ record, proposalRecord row = .ok record
  executed : row.executedAt.isSome ↔ row.status = .executed

namespace ProposalRepository

theorem select_eq_some_iff {store : ProposalStore} {tenantId : String} {proposalId : Int}
    {row : ProposalRow} :
    select store tenantId proposalId = some row ↔
      row ∈ store.proposals ∧ row.tenantId = tenantId ∧ row.id = proposalId := by
  constructor
  · intro hselect
    have hselected := List.find?_some hselect
    rw [Bool.and_eq_true, decide_eq_true_eq, decide_eq_true_eq] at hselected
    exact ⟨List.mem_of_find?_eq_some hselect, hselected⟩
  · rintro ⟨hrow, htenant, hid⟩
    cases hselect : select store tenantId proposalId with
    | none =>
        have hmissing := List.find?_eq_none.mp hselect row hrow
        simp [htenant, hid] at hmissing
    | some found =>
        have hselected := List.find?_some hselect
        rw [Bool.and_eq_true, decide_eq_true_eq, decide_eq_true_eq] at hselected
        have hsame : found.id = row.id := by
          have heq := hselected.2.trans hid.symm
          omega
        exact congrArg some
          (AutoTable.eq_of_id_eq (List.mem_of_find?_eq_some hselect) hrow hsame)

theorem proposedRow_valid {id : Nat} {now : Instant} {input : ProposalInput} {payloadJson : Json}
    {record : ProposalRecord}
    (hrecord : proposalRecord (proposedRow id now input payloadJson) = .ok record) :
    (proposedRow id now input payloadJson).Valid :=
  ⟨⟨record, hrecord⟩, by simp [proposedRow]⟩

/-- A creation inserts one row in the initial state, which is read back. -/
theorem createInTransaction_ok {now : Instant} {input : ProposalInput}
    {store later : ProposalStore} {record : ProposalRecord}
    (hcreate : createInTransaction now input store = .ok (record, later)) :
    ∃ payloadJson,
      later = { store with
        proposals := store.proposals.insert
          (proposedRow store.proposals.nextId now input payloadJson) rfl } ∧
      proposalRecord (proposedRow store.proposals.nextId now input payloadJson) = .ok record := by
  simp only [createInTransaction, Statements.bind_ok, Statements.lift_ok, Statements.get_ok,
    Statements.set_ok, Statements.found_ok] at hcreate
  obtain ⟨_, _, ⟨-, rfl⟩, payloadJson, _, ⟨-, rfl⟩, _, _, ⟨rfl, rfl⟩, _, _, rfl, _, _,
    ⟨rfl, rfl⟩, row, _, ⟨hselect, rfl⟩, hrecord, rfl⟩ := hcreate
  refine ⟨payloadJson, rfl, ?_⟩
  obtain ⟨hrow, -, hid⟩ := select_eq_some_iff.mp hselect
  rcases (AutoTable.mem_insert rfl).mp hrow with hold | rfl
  · exact absurd (Int.ofNat_inj.mp hid) (store.proposals.id_lt row hold).ne
  · exact hrecord

theorem proposalRecord_enter {row : ProposalRow} (hrow : row.Valid) {target : ProposalState}
    {instant : Option Instant} {texts : List String} {references : Json}
    (hreferences : canonicalJson (.tuple (texts.map .str)) = .ok references) :
    ∃ record, proposalRecord (enter target instant references row) = .ok record := by
  obtain ⟨record, hrecord⟩ := hrow.readable
  obtain ⟨payload, hpayload, -⟩ := except_bind_ok.mp hrecord
  exact ⟨_, except_bind_ok.mpr ⟨payload, hpayload,
    except_bind_ok.mpr ⟨texts, parseStringTuple_tuple hreferences, rfl⟩⟩⟩

theorem enter_valid {row : ProposalRow} (hrow : row.Valid) {now : Instant}
    {target : ProposalState} {texts : List String} {references : Json}
    (hreferences : canonicalJson (.tuple (texts.map .str)) = .ok references) :
    (enter target (executedAt now target) references row).Valid where
  readable := proposalRecord_enter hrow hreferences
  executed := by
    change (executedAt now target).isSome ↔ target = .executed
    unfold executedAt
    split <;> simp [*]

theorem canonicalJson_texts (texts : List String) :
    ∃ references, canonicalJson (.tuple (texts.map .str)) = .ok references := by
  have hitems : ∃ items, canonicalJsonItems (texts.map .str) = .ok items := by
    induction texts with
    | nil => exact ⟨[], rfl⟩
    | cons text texts ih =>
        obtain ⟨items, hitems⟩ := ih
        exact ⟨_, canonicalJsonItems_cons_ok.mpr ⟨_, rfl, items, hitems, rfl⟩⟩
  obtain ⟨items, hitems⟩ := hitems
  exact ⟨.arr items, except_bind_ok.mpr ⟨items, hitems, rfl⟩⟩

/-- The state expected is the state found. -/
def Finds (store : ProposalStore) (tenantId : String) (proposalId : Int)
    (expected : ProposalState) (row : ProposalRow) : Prop :=
  row ∈ store.proposals ∧ row.tenantId = tenantId ∧ row.id = proposalId ∧ row.status = expected

theorem leaves_iff {tenantId : String} {proposalId : Int} {expected : ProposalState}
    {row : ProposalRow} : leaves tenantId proposalId expected row = true ↔
      row.tenantId = tenantId ∧ row.id = proposalId ∧ row.status = expected := by
  simp only [leaves, Bool.and_eq_true, decide_eq_true_eq, and_assoc]

/-- The row that a transition enters its target with. -/
theorem find_transition {store : ProposalStore} {tenantId : String} {proposalId : Int}
    {expected : ProposalState} {row : ProposalRow} {set : ProposalRow → ProposalRow}
    {hid : ∀ row, (set row).id = row.id} (hfinds : Finds store tenantId proposalId expected row) :
    (store.proposals.update (leaves tenantId proposalId expected) set hid).find =
      Function.update store.proposals.find row.id (some (set row)) := by
  obtain ⟨hrow, hleaves⟩ := hfinds
  funext number
  rw [AutoTable.find_update]
  by_cases hnumber : number = row.id
  · subst hnumber
    rw [Function.update_self, AutoTable.find_eq_some_iff.mpr ⟨hrow, rfl⟩, Option.map_some,
      if_pos (leaves_iff.mpr hleaves)]
  · rw [Function.update_of_ne hnumber]
    cases hfind : store.proposals.find number with
    | none => rfl
    | some other =>
        obtain ⟨-, hother⟩ := AutoTable.find_eq_some_iff.mp hfind
        have hstays : ¬leaves tenantId proposalId expected other = true := by
          intro hselected
          have hsame := (leaves_iff.mp hselected).2.1.trans hleaves.2.1.symm
          omega
        rw [Option.map_some, if_neg hstays]

theorem requireTransition_ok {tenantId : String} {expected target : ProposalState} :
    requireTransition tenantId expected target = .ok () ↔
      isBlank tenantId = false ∧ target ∈ transitions expected := by
  simp only [requireTransition, except_bind_ok, required, ensure_ok, decide_eq_true_eq,
    Bool.not_eq_true']
  constructor
  · rintro ⟨_, hblank, htarget⟩
    exact ⟨hblank, htarget⟩
  · rintro ⟨hblank, htarget⟩
    exact ⟨(), hblank, htarget⟩

theorem rowcount_eq_one_iff {store : ProposalStore} {tenantId : String} {proposalId : Int}
    {expected : ProposalState} :
    store.proposals.toTable.count (leaves tenantId proposalId expected) = 1 ↔
      ∃ row, Finds store tenantId proposalId expected row := by
  rw [AutoTable.count_eq_one_iff]
  · simp only [leaves_iff, Finds]
  · intro first hfirst second hsecond hfirstLeaves hsecondLeaves
    have hid := (leaves_iff.mp hfirstLeaves).2.1.trans (leaves_iff.mp hsecondLeaves).2.1.symm
    exact AutoTable.eq_of_id_eq hfirst hsecond (Int.ofNat_inj.mp hid)

def entered (store : ProposalStore) (now : Instant) (tenantId : String) (proposalId : Int)
    (expected target : ProposalState) (references : Json) : ProposalStore :=
  { store with
    proposals := store.proposals.update (leaves tenantId proposalId expected)
      (enter target (executedAt now target) references) fun _ => rfl }

theorem transitionInTransaction_ok {now : Instant} {tenantId : String} {proposalId : Int}
    {expected target : ProposalState} {texts : List String} {store later : ProposalStore}
    {selected : Option ProposalRow} :
    transitionInTransaction now tenantId proposalId expected target texts store =
        .ok (selected, later) ↔
      ∃ references, canonicalJson (.tuple (texts.map .str)) = .ok references ∧
        (∃ row, Finds store tenantId proposalId expected row) ∧
        later = entered store now tenantId proposalId expected target references ∧
        selected = select later tenantId proposalId := by
  simp only [transitionInTransaction, Statements.bind_ok, Statements.lift_ok, Statements.get_ok,
    Statements.set_ok, Statements.require_ok, Statements.pure_ok, decide_eq_true_eq,
    rowcount_eq_one_iff]
  constructor
  · rintro ⟨references, _, ⟨hreferences, rfl⟩, _, _, ⟨rfl, rfl⟩, _, _, rfl, _, _, ⟨hfinds, rfl⟩,
      _, _, ⟨rfl, rfl⟩, rfl, rfl⟩
    exact ⟨references, hreferences, hfinds, rfl, rfl⟩
  · rintro ⟨references, hreferences, hfinds, rfl, rfl⟩
    exact ⟨references, store, ⟨hreferences, rfl⟩, store, store, ⟨rfl, rfl⟩, (), _, rfl, (), _,
      ⟨hfinds, rfl⟩, _, _, ⟨rfl, rfl⟩, rfl, rfl⟩

theorem select_entered {store : ProposalStore} {now : Instant} {tenantId : String}
    {proposalId : Int} {expected target : ProposalState} {references : Json} {row : ProposalRow}
    (hfinds : Finds store tenantId proposalId expected row) :
    select (entered store now tenantId proposalId expected target references) tenantId
      proposalId = some (enter target (executedAt now target) references row) := by
  obtain ⟨hrow, htenant, hid, hstatus⟩ := hfinds
  refine select_eq_some_iff.mpr ⟨AutoTable.mem_update.mpr ⟨row, hrow, ?_⟩, htenant, hid⟩
  rw [if_pos (leaves_iff.mpr ⟨htenant, hid, hstatus⟩)]

/-- What the transaction of a transition commits. -/
theorem commit_transition {now : Instant} {tenantId : String} {proposalId : Int}
    {expected target : ProposalState} {texts : List String} {store : ProposalStore}
    {references : Json} {row : ProposalRow}
    (hreferences : canonicalJson (.tuple (texts.map .str)) = .ok references)
    (hfinds : Finds store tenantId proposalId expected row) :
    (transitionInTransaction now tenantId proposalId expected target texts).commit store =
      (.ok (some (enter target (executedAt now target) references row)),
        entered store now tenantId proposalId expected target references) :=
  Statements.commit_ok.mpr (transitionInTransaction_ok.mpr
    ⟨references, hreferences, ⟨row, hfinds⟩, rfl, (select_entered hfinds).symm⟩)

/-- A transition that its table has and that finds the state it expects changes the row found. -/
theorem transition_of_finds {now : Instant} {tenantId : String} {proposalId : Int}
    {expected target : ProposalState} (texts : List String) {store : ProposalStore}
    (hblank : isBlank tenantId = false) (htarget : target ∈ transitions expected)
    {row : ProposalRow} (hfinds : Finds store tenantId proposalId expected row)
    (hrow : row.Valid) :
    ∃ record references, canonicalJson (.tuple (texts.map .str)) = .ok references ∧
      transition now tenantId proposalId expected target texts store =
        (.ok record, entered store now tenantId proposalId expected target references) := by
  obtain ⟨references, hreferences⟩ := canonicalJson_texts texts
  have hentered : (enter target (executedAt now target) references row).Valid :=
    enter_valid hrow hreferences
  obtain ⟨record, hrecord⟩ := hentered.readable
  refine ⟨record, references, hreferences, ?_⟩
  rw [transition, requireTransition_ok.mpr ⟨hblank, htarget⟩, commit_transition hreferences hfinds,
    ← hrecord]

/-- Any other transition leaves the store as it was. -/
theorem transition_of_not_finds (now : Instant) {tenantId : String} {proposalId : Int}
    {expected target : ProposalState} (texts : List String) {store : ProposalStore}
    (hnot : ¬(isBlank tenantId = false ∧ target ∈ transitions expected ∧
      ∃ row, Finds store tenantId proposalId expected row)) :
    ∃ error, transition now tenantId proposalId expected target texts store =
      (.error error, store) := by
  cases hrequire : requireTransition tenantId expected target with
  | error error => exact ⟨error, by rw [transition, hrequire]⟩
  | ok =>
      obtain ⟨hblank, htarget⟩ := requireTransition_ok.mp hrequire
      cases hbody : transitionInTransaction now tenantId proposalId expected target texts store with
      | error error =>
          refine ⟨error, ?_⟩
          rw [transition, hrequire]
          simp only [Statements.commit, hbody]
      | ok reached =>
          obtain ⟨references, -, hfinds, -⟩ := transitionInTransaction_ok.mp hbody
          exact absurd ⟨hblank, htarget, hfinds⟩ hnot

end ProposalRepository

end OdooMcp
