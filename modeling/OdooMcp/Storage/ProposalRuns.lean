import OdooMcp.Lifecycle
import OdooMcp.Storage.Proposals

/-!
# Runs of proposal calls

Each call makes one transaction at most, so that an interleaving of calls is an order of their
transactions.
-/

namespace OdooMcp

open ProposalRepository

inductive ProposalCall
  | create (now : Instant) (input : ProposalInput)
  | record (now artifactNow : Instant) (input : ProposalInput) (artifactMarkdown : String)
  | transition (now : Instant) (tenantId : String) (proposalId : Int)
      (expected target : ProposalState) (erpRecordRefs : List String)

namespace ProposalCall

def run : ProposalCall → ProposalStore → Except PyException ProposalRecord × ProposalStore
  | .create now input => ProposalRepository.create now input
  | .record now artifactNow input artifactMarkdown =>
      ProposalJournal.record now artifactNow input artifactMarkdown
  | .transition now tenantId proposalId expected target erpRecordRefs =>
      ProposalRepository.transition now tenantId proposalId expected target erpRecordRefs

def tenantId : ProposalCall → String
  | .create _ input => input.tenantId
  | .record _ _ input _ => input.tenantId
  | .transition _ tenantId _ _ _ _ => tenantId

def creates : ProposalCall → Bool
  | .transition .. => false
  | _ => true

/-- The row is the one that the call is to move. -/
def Names (row : ProposalRow) : ProposalCall → Prop
  | .transition _ tenantId proposalId _ _ _ => row.tenantId = tenantId ∧ row.id = proposalId
  | _ => False

/-- The call is to move a proposal out of a state. -/
def Competes (proposalId : Int) (expected : ProposalState) : ProposalCall → Prop
  | .transition _ _ named leaving _ _ => named = proposalId ∧ leaving = expected
  | _ => False

def Succeeds (call : ProposalCall) (store : ProposalStore) : Prop :=
  ∃ record, (call.run store).1 = .ok record

end ProposalCall

def visited (store : ProposalStore) : List ProposalCall → List ProposalStore
  | [] => []
  | call :: calls => (call.run store).2 :: visited (call.run store).2 calls

def reached (store : ProposalStore) (calls : List ProposalCall) : ProposalStore :=
  calls.foldl (fun store call => (call.run store).2) store

def statusOf (id : Nat) (store : ProposalStore) : Option ProposalState :=
  (store.proposals.find id).map (·.status)

/-- The table of transitions. -/
def proposalLifecycle : Lifecycle ProposalState where
  initial := .proposed
  next state target := target ∈ transitions state

def ProposalState.rank : ProposalState → Nat
  | .proposed => 0
  | .executing => 1
  | _ => 2

theorem rank_lt_of_next (state target : ProposalState)
    (hnext : proposalLifecycle.next state target) :
    state.rank < target.rank := by
  change target ∈ transitions state at hnext
  revert hnext
  cases state <;> cases target <;> decide

/-! ### One call -/

inductive Outcome (store : ProposalStore) (call : ProposalCall) :
    Except PyException ProposalRecord → ProposalStore → Prop
  | rejected (error : PyException) : Outcome store call (.error error) store
  | created {later : ProposalStore} (record : ProposalRecord) (row : ProposalRow)
      (hproposed : row.status = .proposed) (hvalid : row.Valid)
      (htenant : row.tenantId = call.tenantId)
      (hfresh : store.proposals.find row.id = none)
      (hfind : later.proposals.find = Function.update store.proposals.find row.id (some row))
      (hcreates : call.creates = true) : Outcome store call (.ok record) later
  | moved {later : ProposalStore} (record : ProposalRecord) (row after : ProposalRow)
      (hrow : store.proposals.find row.id = some row) (hid : after.id = row.id)
      (hnext : proposalLifecycle.next row.status after.status) (hvalid : after.Valid)
      (hnames : call.Names row) (htenant : after.tenantId = call.tenantId)
      (hcompetes : call.Competes row.id row.status)
      (hfind : later.proposals.find = Function.update store.proposals.find row.id (some after)) :
      Outcome store call (.ok record) later

section Calls

variable {store : ProposalStore}

theorem outcome_of_insert {call : ProposalCall} {later : ProposalStore} {now : Instant}
    {input : ProposalInput} {payloadJson : Json} {record : ProposalRecord}
    (hlater : later.proposals = store.proposals.insert
      (proposedRow store.proposals.nextId now input payloadJson) rfl)
    (hrecord : proposalRecord (proposedRow store.proposals.nextId now input payloadJson) =
      .ok record)
    (htenant : input.tenantId = call.tenantId) (hcreates : call.creates = true) :
    Outcome store call (.ok record) later :=
  .created record (proposedRow store.proposals.nextId now input payloadJson) rfl
    (proposedRow_valid hrecord) htenant AutoTable.find_nextId
    (by rw [hlater]; exact AutoTable.find_insert) hcreates

theorem outcome_create (now : Instant) (input : ProposalInput) :
    Outcome store (.create now input) (create now input store).1 (create now input store).2 := by
  unfold create
  split
  · exact .rejected _
  · cases hbody : (createInTransaction now input).commit store with
    | mk result later =>
        cases result with
        | error error =>
            obtain ⟨-, rfl⟩ := Effect.Statements.commit_error.mp hbody
            exact .rejected error
        | ok record =>
            obtain ⟨payloadJson, rfl, hrecord⟩ :=
              createInTransaction_ok (Effect.Statements.commit_ok.mp hbody)
            exact outcome_of_insert rfl hrecord rfl rfl

theorem artifact_keeps_proposals {now : Instant} {input : ProposalInput}
    {artifactFormat content : String} {artifact : ArtifactRow} {later : ProposalStore}
    (hartifact : ArtifactRepository.createInTransaction now input artifactFormat content store =
      .ok (artifact, later)) : later.proposals = store.proposals := by
  simp only [ArtifactRepository.createInTransaction, Effect.Statements.bind_ok,
    Effect.Statements.lift_ok, Effect.Statements.get_ok, Effect.Statements.set_ok,
    Effect.Statements.pure_ok] at hartifact
  obtain ⟨_, _, ⟨-, rfl⟩, _, _, ⟨-, rfl⟩, _, _, ⟨-, rfl⟩, _, _, ⟨-, rfl⟩, _, _, ⟨-, rfl⟩, _, _,
    ⟨-, rfl⟩, _, _, ⟨-, rfl⟩, _, _, ⟨rfl, rfl⟩, _, _, rfl, -, rfl⟩ := hartifact
  rfl

theorem outcome_record (now artifactNow : Instant) (input : ProposalInput)
    (artifactMarkdown : String) :
    Outcome store (.record now artifactNow input artifactMarkdown)
      (ProposalJournal.record now artifactNow input artifactMarkdown store).1
      (ProposalJournal.record now artifactNow input artifactMarkdown store).2 := by
  cases hbody : ProposalJournal.record now artifactNow input artifactMarkdown store with
  | mk result later =>
      cases result with
      | error error =>
          obtain ⟨-, rfl⟩ := Effect.Statements.commit_error.mp hbody
          exact .rejected error
      | ok record =>
          have hdone := Effect.Statements.commit_ok.mp hbody
          simp only [Effect.Statements.bind_ok, Effect.Statements.pure_ok] at hdone
          obtain ⟨_, _, hcreate, _, _, hartifact, rfl, rfl⟩ := hdone
          obtain ⟨payloadJson, rfl, hrecord⟩ := createInTransaction_ok hcreate
          exact outcome_of_insert (artifact_keeps_proposals hartifact) hrecord rfl rfl

theorem outcome_transition (now : Instant) (tenantId : String) (proposalId : Int)
    (expected target : ProposalState) (texts : List String)
    (hvalid : ∀ row ∈ store.proposals, row.Valid) :
    Outcome store (.transition now tenantId proposalId expected target texts)
      (transition now tenantId proposalId expected target texts store).1
      (transition now tenantId proposalId expected target texts store).2 := by
  by_cases hfound : isBlank tenantId = false ∧ target ∈ transitions expected ∧
      ∃ row, Finds store tenantId proposalId expected row
  · obtain ⟨hblank, htarget, row, hfinds⟩ := hfound
    obtain ⟨hrow, htenant, hid, hstatus⟩ := hfinds
    obtain ⟨record, references, hreferences, htransition⟩ :=
      transition_of_finds texts hblank htarget ⟨hrow, htenant, hid, hstatus⟩ (hvalid row hrow)
    rw [htransition]
    refine .moved record row (enter target (executedAt now target) references row)
      (AutoTable.find_eq_some_iff.mpr ⟨hrow, rfl⟩) rfl ?_
        (enter_valid (hvalid row hrow) hreferences)
      ⟨htenant, hid⟩ htenant ⟨hid.symm, hstatus.symm⟩
      (find_transition ⟨hrow, htenant, hid, hstatus⟩)
    rw [hstatus]
    exact htarget
  · obtain ⟨error, htransition⟩ := transition_of_not_finds now texts hfound
    rw [htransition]
    exact .rejected error

theorem outcome_run (call : ProposalCall) (hvalid : ∀ row ∈ store.proposals, row.Valid) :
    Outcome store call (call.run store).1 (call.run store).2 := by
  cases call with
  | create now input => exact outcome_create now input
  | record now artifactNow input artifactMarkdown =>
      exact outcome_record now artifactNow input artifactMarkdown
  | transition now tenantId proposalId expected target texts =>
      exact outcome_transition now tenantId proposalId expected target texts hvalid

variable {call : ProposalCall} {later : ProposalStore} {result : Except PyException ProposalRecord}

theorem find_of_mem {row : ProposalRow} (hrow : row ∈ store.proposals) :
    store.proposals.find row.id = some row :=
  AutoTable.find_eq_some_iff.mpr ⟨hrow, rfl⟩

/-- What happened to a row: it stays, or it is the one that the call names, moved. -/
theorem Outcome.kept (houtcome : Outcome store call result later) {row : ProposalRow}
    (hrow : row ∈ store.proposals) :
    row ∈ later.proposals ∨
      ∃ after, later.proposals.find row.id = some after ∧
        proposalLifecycle.next row.status after.status ∧ call.Names row := by
  cases houtcome with
  | rejected error => exact .inl hrow
  | created record inserted hproposed hvalid htenant hfresh hfind hcreates =>
      left
      have hne : row.id ≠ inserted.id := by
        intro hid
        rw [← hid, find_of_mem hrow] at hfresh
        cases hfresh
      have hfound : later.proposals.find row.id = some row := by
        rw [hfind, Function.update_of_ne hne, find_of_mem hrow]
      exact (AutoTable.find_eq_some_iff.mp hfound).1
  | moved record named after hnamed hid hnext hvalid hnames htenant hcompetes hfind =>
      by_cases hsame : row.id = named.id
      · have heq : row = named := by
          rw [← hsame, find_of_mem hrow] at hnamed
          exact Option.some.inj hnamed
        subst heq
        exact .inr ⟨after, by rw [hfind, Function.update_self], hnext, hnames⟩
      · left
        have hfound : later.proposals.find row.id = some row := by
          rw [hfind, Function.update_of_ne hsame, find_of_mem hrow]
        exact (AutoTable.find_eq_some_iff.mp hfound).1

/-- Where a row came from: it was there, or the call made or moved it, in its own tenant. -/
theorem Outcome.origin (houtcome : Outcome store call result later) {row : ProposalRow}
    (hrow : row ∈ later.proposals) :
    row ∈ store.proposals ∨
      row.Valid ∧ row.tenantId = call.tenantId ∧
        (call.creates = true ∨
          ∃ before ∈ store.proposals, before.id = row.id ∧ call.Names before) := by
  have hchanged : ∀ {changed : ProposalRow},
      later.proposals.find =
        Function.update store.proposals.find changed.id (some changed) →
      row = changed ∨ row ∈ store.proposals := by
    intro changed hfind
    have hfound := find_of_mem hrow
    rw [hfind] at hfound
    by_cases hid : row.id = changed.id
    · rw [hid, Function.update_self] at hfound
      exact .inl (Option.some.inj hfound).symm
    · rw [Function.update_of_ne hid] at hfound
      exact .inr (AutoTable.find_eq_some_iff.mp hfound).1
  cases houtcome with
  | rejected error => exact .inl hrow
  | created record inserted hproposed hvalid htenant hfresh hfind hcreates =>
      rcases hchanged hfind with rfl | hold
      · exact .inr ⟨hvalid, htenant, .inl hcreates⟩
      · exact .inl hold
  | moved record named after hnamed hid hnext hvalid hnames htenant hcompetes hfind =>
      rcases hchanged (hid ▸ hfind) with rfl | hold
      · exact .inr ⟨hvalid, htenant,
          .inr ⟨named, (AutoTable.find_eq_some_iff.mp hnamed).1, hid.symm, hnames⟩⟩
      · exact .inl hold

theorem Outcome.keeps_valid (houtcome : Outcome store call result later)
    (hvalid : ∀ row ∈ store.proposals, row.Valid) : ∀ row ∈ later.proposals, row.Valid := by
  intro row hrow
  rcases houtcome.origin hrow with hold | ⟨hnew, -⟩
  · exact hvalid row hold
  · exact hnew

/-- **One call.** A call shows one step of the lifecycle of each proposal. -/
theorem Outcome.step (houtcome : Outcome store call result later) (id : Nat) :
    proposalLifecycle.Step (statusOf id store) (statusOf id later) := by
  have hstays (status : Option ProposalState) : proposalLifecycle.Step status status := by
    cases status with
    | none => exact .absent
    | some state => exact .stays state
  cases houtcome with
  | rejected error => exact hstays _
  | created record inserted hproposed hvalid htenant hfresh hfind hcreates =>
      unfold statusOf
      rw [hfind]
      by_cases hid : id = inserted.id
      · subst hid
        rw [Function.update_self, hfresh, Option.map_none, Option.map_some, hproposed]
        exact .created
      · rw [Function.update_of_ne hid]
        exact hstays _
  | moved record named after hnamed hafter hnext hvalid hnames htenant hcompetes hfind =>
      unfold statusOf
      rw [hfind]
      by_cases hid : id = named.id
      · subst hid
        rw [Function.update_self, hnamed, Option.map_some, Option.map_some]
        exact .moves hnext
      · rw [Function.update_of_ne hid]
        exact hstays _

/-- A rejected call has changed nothing. -/
theorem Outcome.unchanged {error : PyException}
    (houtcome : Outcome store call (.error error) later) : later = store := by
  cases houtcome
  rfl

/-- A call that takes a proposal out of a state has found it there, and leaves it elsewhere. -/
theorem Outcome.takes {record : ProposalRecord} {id : Nat} {expected : ProposalState}
    (houtcome : Outcome store call (.ok record) later) (hcompetes : call.Competes id expected) :
    statusOf id store = some expected ∧
      ∃ target, statusOf id later = some target ∧ proposalLifecycle.next expected target := by
  cases houtcome with
  | created _ inserted hproposed hvalid htenant hfresh hfind hcreates =>
      cases call with
      | create => exact hcompetes.elim
      | record => exact hcompetes.elim
      | transition => cases hcreates
  | moved _ named after hnamed hafter hnext hvalid hnames htenant hown hfind =>
      cases call with
      | create => exact hcompetes.elim
      | record => exact hcompetes.elim
      | transition now tenantId proposalId leaving target texts =>
          obtain ⟨hnamedId, rfl⟩ := hcompetes
          obtain ⟨hid, hstatus⟩ := hown
          have hsame : id = named.id := Int.ofNat_inj.mp (hnamedId.symm.trans hid)
          subst hsame
          unfold statusOf
          rw [hfind, Function.update_self, hnamed, Option.map_some, Option.map_some, hstatus]
          exact ⟨rfl, after.status, rfl, hnext⟩

end Calls

/-! ### Runs -/

section Runs

variable {store : ProposalStore} (hvalid : ∀ row ∈ store.proposals, row.Valid)

theorem reached_append (store : ProposalStore) (before after : List ProposalCall) :
    reached store (before ++ after) = reached (reached store before) after :=
  List.foldl_append

/-- The last store of a run is one of those visited, or the first. -/
theorem reached_mem (calls : List ProposalCall) (store : ProposalStore) :
    reached store calls = store ∨ reached store calls ∈ visited store calls := by
  induction calls generalizing store with
  | nil => exact .inl rfl
  | cons call calls ih =>
      right
      rcases ih (call.run store).2 with hfirst | hlater
      · exact List.mem_cons.mpr (.inl hfirst)
      · exact List.mem_cons_of_mem _ hlater

include hvalid

theorem valid_reached (calls : List ProposalCall) :
    ∀ row ∈ (reached store calls).proposals, row.Valid := by
  induction calls generalizing store with
  | nil => exact hvalid
  | cons call calls ih => exact ih ((outcome_run call hvalid).keeps_valid hvalid)

theorem isChain_visited (id : Nat) (calls : List ProposalCall) :
    (statusOf id store :: (visited store calls).map (statusOf id)).IsChain
      proposalLifecycle.Step := by
  induction calls generalizing store with
  | nil => exact List.isChain_singleton _
  | cons call calls ih =>
      have houtcome := outcome_run call hvalid
      exact List.isChain_cons_cons.mpr ⟨houtcome.step id, ih (houtcome.keeps_valid hvalid)⟩

/-- A proposal that has left a state is not found in it again. -/
theorem statusOf_ne {id : Nat} {state expected : ProposalState}
    (hstate : statusOf id store = some state) (hnext : proposalLifecycle.next expected state)
    (calls : List ProposalCall) : statusOf id (reached store calls) ≠ some expected := by
  have hrank := rank_lt_of_next expected state hnext
  have hchain := isChain_visited hvalid id calls
  rw [hstate] at hchain
  have hlater : ∃ later, statusOf id (reached store calls) = some later ∧
      (later = state ∨ state.rank < later.rank) := by
    rcases reached_mem calls store with hsame | hvisited
    · rw [hsame]
      exact ⟨state, hstate, .inl rfl⟩
    · exact Lifecycle.rank_le_of_steps rank_lt_of_next hchain _ (List.mem_map_of_mem hvisited)
  obtain ⟨later, hfound, hranks⟩ := hlater
  rw [hfound]
  rintro ⟨⟩
  rcases hranks with rfl | hlt
  · exact lt_irrefl _ hrank
  · exact lt_asymm hrank hlt

/-- A proposal in a state without transitions stays as it is. -/
theorem terminal_kept {row : ProposalRow} (hterminal : transitions row.status = [])
    (hrow : row ∈ store.proposals) (calls : List ProposalCall) :
    row ∈ (reached store calls).proposals := by
  induction calls generalizing store with
  | nil => exact hrow
  | cons call calls ih =>
      have houtcome := outcome_run call hvalid
      refine ih (houtcome.keeps_valid hvalid) ?_
      rcases houtcome.kept hrow with hkept | ⟨after, -, hnext, -⟩
      · exact hkept
      · change after.status ∈ transitions row.status at hnext
        rw [hterminal] at hnext
        exact absurd hnext List.not_mem_nil

/-- A transition succeeds exactly if its table has it and it finds the state it expects. -/
theorem transition_succeeds_iff (now : Instant) (tenantId : String) (proposalId : Int)
    (expected target : ProposalState) (texts : List String) :
    (ProposalCall.transition now tenantId proposalId expected target texts).Succeeds store ↔
      isBlank tenantId = false ∧ target ∈ transitions expected ∧
        ∃ row, Finds store tenantId proposalId expected row := by
  constructor
  · rintro ⟨record, hrecord⟩
    by_contra hnot
    obtain ⟨error, htransition⟩ := transition_of_not_finds now texts hnot
    rw [ProposalCall.run, htransition] at hrecord
    cases hrecord
  · rintro ⟨hblank, htarget, row, hfinds⟩
    obtain ⟨record, references, -, htransition⟩ :=
      transition_of_finds texts hblank htarget hfinds (hvalid row hfinds.1)
    refine ⟨record, ?_⟩
    rw [ProposalCall.run, htransition]

/-- Once a call has taken a proposal out of a state, no later one does. -/
theorem not_succeeds_again {first second : ProposalCall} {id : Nat} {expected : ProposalState}
    (hfirst : first.Competes id expected) (hsucceeds : first.Succeeds store)
    (middle : List ProposalCall) (hsecond : second.Competes id expected) :
    ¬second.Succeeds (reached (first.run store).2 middle) := by
  rintro ⟨record, hrecord⟩
  obtain ⟨taken, htaken⟩ := hsucceeds
  have houtcome := outcome_run first hvalid
  have hmiddle := houtcome.keeps_valid hvalid
  rw [htaken] at houtcome
  obtain ⟨-, target, htarget, hnext⟩ := houtcome.takes hfirst
  have hagain := outcome_run second (valid_reached hmiddle middle)
  rw [hrecord] at hagain
  exact statusOf_ne hmiddle htarget hnext middle (hagain.takes hsecond).1

theorem unchanged_of_fails {call : ProposalCall} (hfails : ¬call.Succeeds store) :
    (call.run store).2 = store := by
  have houtcome := outcome_run call hvalid
  cases hresult : (call.run store).1 with
  | error error =>
      rw [hresult] at houtcome
      exact houtcome.unchanged
  | ok record => exact absurd ⟨record, hresult⟩ hfails

end Runs

theorem valid_empty : ∀ row ∈ ProposalStore.empty.proposals, row.Valid :=
  fun _ hrow => absurd hrow AutoTable.not_mem_empty

/-- **The proposal state machine.** In every order of calls on an empty store: the states of a
proposal are a path of the transition table from the initial state; a transition succeeds exactly
if the table has it and it finds the state it expects, and so one call at most takes a proposal out
of a state; `executed_at` is set exactly in the state `executed`; a proposal in a terminal state
stays; a rejected call changes nothing, and no call touches a row but the one it names or makes, in
its own tenant. -/
theorem proposal_state_machine (calls : List ProposalCall) :
    (∀ id, proposalLifecycle.IsPath (Lifecycle.seen ((visited .empty calls).map (statusOf id)))) ∧
    (∀ row ∈ (reached .empty calls).proposals, row.executedAt.isSome ↔ row.status = .executed) ∧
    (∀ before after, calls = before ++ after → ∀ row ∈ (reached .empty before).proposals,
      transitions row.status = [] → row ∈ (reached .empty calls).proposals) ∧
    (∀ before call after, calls = before ++ call :: after →
      (∀ now tenantId proposalId expected target texts,
        call = .transition now tenantId proposalId expected target texts →
        (call.Succeeds (reached .empty before) ↔
          isBlank tenantId = false ∧ target ∈ transitions expected ∧
            ∃ row, Finds (reached .empty before) tenantId proposalId expected row)) ∧
      (∀ (id : Nat) expected, call.Competes id expected → call.Succeeds (reached .empty before) →
        ∀ middle other rest, after = middle ++ other :: rest → other.Competes id expected →
          ¬other.Succeeds (reached .empty (before ++ call :: middle))) ∧
      (¬call.Succeeds (reached .empty before) →
        (call.run (reached .empty before)).2 = reached .empty before) ∧
      (∀ row ∈ (reached .empty before).proposals, ¬call.Names row →
        row ∈ (call.run (reached .empty before)).2.proposals) ∧
      (∀ row ∈ (call.run (reached .empty before)).2.proposals,
        row ∉ (reached .empty before).proposals →
        row.tenantId = call.tenantId ∧
          (call.creates = true ∨
            ∃ former ∈ (reached .empty before).proposals, former.id = row.id ∧
              call.Names former))) := by
  refine ⟨fun id => ?_, ?_, ?_, ?_⟩
  · refine Lifecycle.isPath_seen ?_
    exact isChain_visited valid_empty id calls
  · exact fun row hrow => (valid_reached valid_empty calls row hrow).executed
  · rintro before after rfl row hrow hterminal
    rw [reached_append]
    exact terminal_kept (valid_reached valid_empty before) hterminal hrow after
  · rintro before call after rfl
    have hvalid := valid_reached valid_empty before
    have houtcome := outcome_run call hvalid
    refine ⟨?_, ?_, unchanged_of_fails hvalid, ?_, ?_⟩
    · rintro now tenantId proposalId expected target texts rfl
      exact transition_succeeds_iff hvalid now tenantId proposalId expected target texts
    · rintro id expected hcompetes hsucceeds middle other rest rfl hother
      rw [reached_append]
      exact not_succeeds_again hvalid hcompetes hsucceeds middle hother
    · intro row hrow hnames
      rcases houtcome.kept hrow with hkept | ⟨_, _, _, hnamed⟩
      · exact hkept
      · exact absurd hnamed hnames
    · intro row hrow hnew
      rcases houtcome.origin hrow with hold | ⟨-, htenant, horigin⟩
      · exact absurd hold hnew
      · exact ⟨htenant, horigin⟩

end OdooMcp
