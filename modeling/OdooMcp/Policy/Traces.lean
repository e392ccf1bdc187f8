import OdooMcp.Policy.WriteSystem

/-!
# What the trace of a call contains

The phase of a call determines what its trace holds: whether the key was reserved, what `execute`
answered, and which outcome was recorded.
-/

namespace OdooMcp

open Effect

variable {sha256 : String → String}

abbrev WriteEvent := Event writeSignature PyException

/-! ### What a trace contains, by the phase it has led to -/

def execution : WriteEvent → Option (Except PyException ExecuteReturn)
  | ⟨.execute, answer⟩ => some answer
  | _ => none

/-- The answers of `execute` in a trace. -/
def executions (trace : List WriteEvent) : List (Except PyException ExecuteReturn) :=
  trace.filterMap execution

def outcome : WriteEvent → Option (IdempotencyState × Bool)
  | ⟨.finish _ _ state _, answer⟩ => some (state, answer.isOk)
  | _ => none

/-- The outcomes a trace asked to record, and whether each was committed. -/
def outcomes (trace : List WriteEvent) : List (IdempotencyState × Bool) :=
  trace.filterMap outcome

/-- The answer of `begin` that makes the call the owner of its key. -/
def isReservation : WriteEvent → Bool
  | ⟨.begin _ _ _, .ok decision⟩ => decision.disposition = .reserved
  | _ => false

def reserved (trace : List WriteEvent) : Bool := trace.any isReservation

theorem executions_snoc (trace : List WriteEvent) (event : WriteEvent) :
    executions (trace ++ [event]) = executions trace ++ (execution event).toList := by
  cases hevent : execution event <;> simp [executions, hevent]

theorem outcomes_snoc (trace : List WriteEvent) (event : WriteEvent) :
    outcomes (trace ++ [event]) = outcomes trace ++ (outcome event).toList := by
  cases hevent : outcome event <;> simp [outcomes, hevent]

theorem reserved_snoc (trace : List WriteEvent) (event : WriteEvent) :
    reserved (trace ++ [event]) = (reserved trace || isReservation event) := by
  simp [reserved]

/-- What the trace of a call contains when it has led to a phase. -/
def TraceOf : Phase → List WriteEvent → Prop
  | .declined, trace => reserved trace = false ∧ executions trace = []
  | .submitting, trace =>
      reserved trace = false ∧ executions trace = [] ∧ outcomes trace = []
  | .refused, trace => reserved trace = false ∧ executions trace = []
  | .owner, trace => reserved trace = true ∧ executions trace = [] ∧ outcomes trace = []
  | .executed answer, trace =>
      reserved trace = true ∧ executions trace = [answer] ∧ outcomes trace = []
  | .settled executed state committed, trace =>
      reserved trace = true ∧ executions trace = executed.toList ∧
        outcomes trace = [(state, committed)] ∧
        ∀ answer, executed = some answer → state = (settlement answer).1

theorem traceOf_next {call : WriteCall} {id : String} {phase : Phase} {trace : List WriteEvent}
    {event : WriteEvent} (htrace : TraceOf phase trace)
    (hallows : call.allows id phase event.request) :
    TraceOf (WriteCall.next phase event.request event.answer) (trace ++ [event]) := by
  -- An event of no interest to `TraceOf`, in a phase it does not move.
  have hunmoved (hreservation : isReservation event = false) (hexecution : execution event = none)
      (houtcome : outcome event = none) : TraceOf phase (trace ++ [event]) := by
    cases phase <;>
      simpa [TraceOf, executions_snoc, outcomes_snoc, reserved_snoc, hreservation, hexecution,
        houtcome] using htrace
  obtain ⟨request, answer⟩ := event
  cases request with
  | prepare => cases phase <;> first | exact hallows.elim | exact hunmoved rfl rfl rfl
  | validateCurrentState =>
      cases phase <;> first | exact hallows.elim | exact hunmoved rfl rfl rfl
  | append attempted =>
      rcases (allows_append hallows).1 with rfl | rfl <;> exact hunmoved rfl rfl rfl
  | begin attempted idempotencyKey requestPayload =>
      obtain ⟨rfl, -⟩ := allows_begin hallows
      obtain ⟨hreserved, hexecutions, houtcomes⟩ := htrace
      cases answer with
      | error error =>
          simp [WriteCall.next, TraceOf, executions_snoc, reserved_snoc, hreserved, hexecutions,
            isReservation, execution]
      | ok decision =>
          by_cases hdisposition : decision.disposition = .reserved <;>
            simp [WriteCall.next, hdisposition, TraceOf, executions_snoc, outcomes_snoc,
              reserved_snoc, hreserved, hexecutions, houtcomes, isReservation, execution, outcome]
  | execute =>
      obtain rfl := allows_execute hallows
      obtain ⟨hreserved, hexecutions, houtcomes⟩ := htrace
      simp [WriteCall.next, TraceOf, executions_snoc, outcomes_snoc, reserved_snoc, hreserved,
        hexecutions, houtcomes, execution, outcome]
  | finish attempted idempotencyKey state response =>
      rcases allows_finish hallows with ⟨rfl, rfl, -⟩ | ⟨executed, rfl, rfl, -⟩ <;>
        obtain ⟨hreserved, hexecutions, houtcomes⟩ := htrace <;>
        simp [WriteCall.next, TraceOf, executions_snoc, outcomes_snoc, reserved_snoc, hreserved,
          hexecutions, houtcomes, execution, outcome]

variable {state : (writeMachine sha256).State} {id : String} {thread : (writeMachine sha256).Thread}

theorem traceOf_reachable (hreachable : (writeMachine sha256).Reachable state)
    (hthread : state.threads id = some thread) :
    TraceOf ((writeDiscipline sha256).phase id thread) thread.trace := by
  refine (hreachable.allowed (writeDiscipline sha256) id thread hthread).relates TraceOf ?_ ?_
  · change TraceOf (WriteCall.opening thread.call) []
    unfold WriteCall.opening
    split <;> simp [TraceOf, reserved, executions, outcomes]
  · intro phase trace event htrace hallows
    exact traceOf_next htrace hallows

theorem mem_executions {trace : List WriteEvent} {answer : Except PyException ExecuteReturn} :
    answer ∈ executions trace ↔ (⟨.execute, answer⟩ : WriteEvent) ∈ trace := by
  rw [executions, List.mem_filterMap]
  constructor
  · rintro ⟨⟨request, given⟩, hmem, hexecution⟩
    cases request <;> cases hexecution
    exact hmem
  · intro hmem
    exact ⟨_, hmem, rfl⟩

theorem mem_outcomes {trace : List WriteEvent} {final : IdempotencyState} :
    (final, true) ∈ outcomes trace ↔ ∃ event idempotencyKey response,
      (⟨.finish event idempotencyKey final response, .ok ()⟩ : WriteEvent) ∈ trace := by
  rw [outcomes, List.mem_filterMap]
  constructor
  · rintro ⟨⟨request, given⟩, hmem, houtcome⟩
    cases request with
    | finish event idempotencyKey asked response =>
        cases given with
        | ok value =>
            cases houtcome
            exact ⟨event, idempotencyKey, response, hmem⟩
        | error error => cases houtcome
    | _ => cases houtcome
  · rintro ⟨event, idempotencyKey, response, hmem⟩
    exact ⟨_, hmem, rfl⟩

theorem exists_execute_iff {trace : List WriteEvent} :
    (∃ event ∈ trace, event.request = .execute) ↔ executions trace ≠ [] := by
  constructor
  · rintro ⟨⟨request, answer⟩, hmem, rfl⟩
    exact List.ne_nil_of_mem (mem_executions.mpr hmem)
  · intro hne
    obtain ⟨answer, hanswer⟩ := List.exists_mem_of_ne_nil _ hne
    exact ⟨_, mem_executions.mp hanswer, rfl⟩

/-- Before `execute` has been invoked the call is in another phase than after it. -/
theorem phase_of_invoked (hreachable : (writeMachine sha256).Reachable state)
    (hthread : state.threads id = some thread) (hinvoked : thread.Invoked .execute) :
    ((writeDiscipline sha256).phase id thread = .owner ∧ thread.status.pending = some .execute) ∨
    (∃ answer, (writeDiscipline sha256).phase id thread = .executed answer ∧
      executions thread.trace = [answer]) ∨
    ∃ answer committed, (writeDiscipline sha256).phase id thread =
        .settled (some answer) (settlement answer).1 committed ∧
      executions thread.trace = [answer] ∧
      outcomes thread.trace = [((settlement answer).1, committed)] := by
  have htrace := traceOf_reachable hreachable hthread
  rcases hinvoked with hmem | hpending
  · have hexecutions := exists_execute_iff.mp hmem
    cases hphase : (writeDiscipline sha256).phase id thread with
    | executed answer =>
        rw [hphase] at htrace
        exact .inr (.inl ⟨answer, rfl, htrace.2.1⟩)
    | settled executed final committed =>
        rw [hphase] at htrace
        cases executed with
        | none => exact absurd htrace.2.1 hexecutions
        | some answer =>
            obtain ⟨-, hanswers, hrecorded, hfinal⟩ := htrace
            obtain rfl := hfinal answer rfl
            exact .inr (.inr ⟨answer, committed, rfl, hanswers, hrecorded⟩)
    | declined => exact absurd (hphase ▸ htrace).2 hexecutions
    | submitting => exact absurd (hphase ▸ htrace).2.1 hexecutions
    | refused => exact absurd (hphase ▸ htrace).2 hexecutions
    | owner => exact absurd (hphase ▸ htrace).2.1 hexecutions
  · have hallows := hreachable.allows_pending (writeDiscipline sha256) id thread hthread .execute
      hpending
    exact .inl ⟨allows_execute hallows, hpending⟩

end OdooMcp
