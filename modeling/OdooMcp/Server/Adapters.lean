import OdooMcp.Effect.Custody
import OdooMcp.Server.WriteTools

/-!
# Which adapters a tool call leaves open

The runners close their first adapter on the path that succeeds and in the handlers of
`Exception`; the later adapters of a write are closed in `finally` blocks. A cancellation is no
`Exception`, and only the Payroll evidence runner handles it: whether every adapter is closed is
decided by the answers that the awaits on the first adapter receive.
-/

namespace OdooMcp

open Effect ToolBody

variable {State α β : Type}

/-! ### Tool calls -/

/-- A call of a tool, with valid input or with invalid input. -/
inductive ToolCall (State : Type)
  | capabilities (call : CapabilitiesCall)
  | accountingReport (call : ReportCall)
  | invalidAccountingReport (call : ReportCall)
  | payrollEvidence (call : EvidenceCall)
  | invalidPayrollEvidence (call : EvidenceCall)
  | accountingWrite (call : AccountingWriteCall)
  | invalidAccountingWrite (call : AccountingWriteCall) (inputPayload : Payload)
  | reconciliation (call : ReconciliationCall) (views : ProposalViews State)
  | invalidReconciliation (call : ReconciliationCall)
  | payrollWrite (call : PayrollWriteCall)
  | invalidPayrollWrite (call : PayrollWriteCall)

namespace ToolCall

def Response : ToolCall State → Type
  | .capabilities _ | .accountingReport _ | .invalidAccountingReport _ | .payrollEvidence _
  | .invalidPayrollEvidence _ => ToolResponse
  | _ => WriteSafetyResponse

def body (requestId : String) : (call : ToolCall State) → ToolBody State call.Response
  | .capabilities call => call.capabilitiesTool requestId
  | .accountingReport call => call.accountingReport requestId
  | .invalidAccountingReport call => call.invalidAccountingReport requestId
  | .payrollEvidence call => call.run requestId
  | .invalidPayrollEvidence call => call.invalidRequest requestId
  | .accountingWrite call => call.accountingWrite requestId
  | .invalidAccountingWrite call inputPayload => call.invalidAccountingWrite requestId inputPayload
  | .reconciliation call views => call.reconcileBankStatementLinesTool requestId views
  | .invalidReconciliation call => call.invalidRequest requestId
  | .payrollWrite call => call.runWrite requestId
  | .invalidPayrollWrite call => call.invalidRequest requestId

def program (call : ToolCall State) (requestId : String) :
    Program (toolSignature State) PyException call.Response :=
  (call.body requestId).run {}

def handlesCancellation : ToolCall State → Bool
  | .payrollEvidence _ => true
  | _ => false

end ToolCall

/-! ### Adapters in custody -/

def openedAdapter : ToolEvent State → Option AdapterHandle
  | ⟨.connect _, .ok adapter⟩ => some adapter
  | _ => none

def closedAdapter : ToolEvent State → Option AdapterHandle
  | ⟨.close adapter, _⟩ => some adapter
  | _ => none

/-- The factory's adapters: an answered `close` was started, whatever its answer. -/
def adapterCustody : Custody (ToolEvent State) AdapterHandle := ⟨openedAdapter, closedAdapter⟩

/-- An await on the first adapter, before its close, was answered with a cancellation. -/
def firstAdapterCancelled (trace : List (ToolEvent State)) : Bool :=
  ((trace.dropWhile fun event => (openedAdapter event).isNone).takeWhile fun event =>
    (closedAdapter event).isNone).any fun event => isCancelled event.answer

inductive FirstAdapter
  | unopened
  | inUse (cancelled : Bool)
  | closed (cancelled : Bool)
  deriving DecidableEq

namespace FirstAdapter

def cancelled : FirstAdapter → Bool
  | .unopened => false
  | .inUse cancelled => cancelled
  | .closed cancelled => cancelled

def next (first : FirstAdapter) (event : ToolEvent State) : FirstAdapter :=
  match first with
  | .unopened => if (openedAdapter event).isNone then .unopened else .inUse false
  | .inUse cancelled =>
      if (closedAdapter event).isNone then .inUse (cancelled || isCancelled event.answer)
      else .closed cancelled
  | .closed cancelled => .closed cancelled

end FirstAdapter

structure CustodyPhase where
  held : List AdapterHandle
  first : FirstAdapter
  deriving DecidableEq

def CustodyPhase.next (phase : CustodyPhase) (event : ToolEvent State) : CustodyPhase :=
  ⟨adapterCustody.step phase.held event, phase.first.next event⟩

/-- Every request is allowed; the phase keeps account of the adapters. -/
def custodyProtocol : Protocol (toolSignature State) PyException CustodyPhase where
  allows _ _ := True
  next phase request answer := phase.next ⟨request, answer⟩

theorem after_custody (phase : CustodyPhase) (trace : List (ToolEvent State)) :
    custodyProtocol.after phase trace =
      ⟨adapterCustody.after phase.held trace, trace.foldl FirstAdapter.next phase.first⟩ := by
  induction trace generalizing phase with
  | nil => rfl
  | cons event trace ih => exact ih _

theorem cancelled_closed (trace : List (ToolEvent State)) (cancelled : Bool) :
    (trace.foldl FirstAdapter.next (.closed cancelled)).cancelled = cancelled := by
  induction trace with
  | nil => rfl
  | cons event trace ih => exact ih

theorem cancelled_inUse (trace : List (ToolEvent State)) (cancelled : Bool) :
    (trace.foldl FirstAdapter.next (.inUse cancelled)).cancelled =
      (cancelled || (trace.takeWhile fun event => (closedAdapter event).isNone).any fun event =>
        isCancelled event.answer) := by
  induction trace generalizing cancelled with
  | nil => simp [FirstAdapter.cancelled]
  | cons event trace ih =>
      rw [List.foldl_cons]
      cases hclosed : (closedAdapter event).isNone with
      | true =>
          rw [show FirstAdapter.next (.inUse cancelled) event =
            .inUse (cancelled || isCancelled event.answer) by simp [FirstAdapter.next, hclosed], ih,
            List.takeWhile_cons, if_pos hclosed, List.any_cons, Bool.or_assoc]
      | false =>
          rw [show FirstAdapter.next (.inUse cancelled) event = .closed cancelled by
            simp [FirstAdapter.next, hclosed], cancelled_closed, List.takeWhile_cons,
            if_neg (by simp [hclosed]), List.any_nil, Bool.or_false]

theorem isCancelled_of_openedAdapter {event : ToolEvent State}
    (hopened : (openedAdapter event).isNone = false) :
    isCancelled event.answer = false ∧ (closedAdapter event).isNone = true := by
  obtain ⟨request, answer⟩ := event
  cases request <;> cases answer <;> first | exact ⟨rfl, rfl⟩ | cases hopened

theorem cancelled_unopened (trace : List (ToolEvent State)) :
    (trace.foldl FirstAdapter.next .unopened).cancelled = firstAdapterCancelled trace := by
  unfold firstAdapterCancelled
  induction trace with
  | nil => rfl
  | cons event trace ih =>
      rw [List.foldl_cons]
      cases hopened : (openedAdapter event).isNone with
      | true =>
          rw [List.dropWhile_cons, if_pos hopened, ← ih]
          simp [FirstAdapter.next, hopened]
      | false =>
          obtain ⟨hanswer, hclosed⟩ := isCancelled_of_openedAdapter hopened
          rw [List.dropWhile_cons, if_neg (by simp [hopened]), List.takeWhile_cons, if_pos hclosed,
            List.any_cons, hanswer, ← cancelled_inUse]
          simp [FirstAdapter.next, hopened]

/-! ### Steps that neither open nor close an adapter -/

def isQuiet : ToolRequest State → Bool
  | .connect _ | .close _ => false
  | _ => true

theorem next_quiet {phase : CustodyPhase} {event : ToolEvent State}
    (hquiet : isQuiet event.request = true) :
    phase.next event =
      ⟨phase.held, match phase.first with
        | .inUse cancelled => .inUse (cancelled || isCancelled event.answer)
        | other => other⟩ := by
  obtain ⟨request, answer⟩ := event
  have hopened : openedAdapter (⟨request, answer⟩ : ToolEvent State) = none := by
    cases request <;> first | rfl | cases hquiet
  have hclosed : closedAdapter (⟨request, answer⟩ : ToolEvent State) = none := by
    cases request <;> first | rfl | cases hquiet
  obtain ⟨held, first⟩ := phase
  cases first <;>
    simp [CustodyPhase.next, FirstAdapter.next, adapterCustody, Custody.step, hopened, hclosed]

theorem next_close {first : FirstAdapter} {adapter : AdapterHandle}
    {answer : Except PyException Unit} :
    CustodyPhase.next ⟨[adapter], first⟩ (⟨.close adapter, answer⟩ : ToolEvent State) =
      ⟨[], match first with
        | .inUse cancelled => .closed cancelled
        | other => other⟩ := by
  cases first <;>
    simp [CustodyPhase.next, FirstAdapter.next, adapterCustody, Custody.step, openedAdapter,
      closedAdapter]

def CustodyPhase.IsIdle (phase : CustodyPhase) : Prop := ∀ cancelled, phase.first ≠ .inUse cancelled

section Keeps

variable {phase : CustodyPhase}

theorem keeps_ask {request : ToolRequest State} (hidle : phase.IsIdle)
    (hquiet : isQuiet request = true) : Scoped.Keeps custodyProtocol phase (ask request) := by
  refine Scoped.Keeps.await trivial fun answer => (next_quiet hquiet).trans ?_
  obtain ⟨held, first⟩ := phase
  cases first with
  | inUse cancelled => exact absurd rfl (hidle cancelled)
  | unopened => rfl
  | closed cancelled => rfl

theorem keeps_authorize {definition : ToolDefinition} {companyId : Int} {message hint : String}
    (hidle : phase.IsIdle) :
    Scoped.Keeps custodyProtocol phase
      (authorize definition companyId message hint : ToolBody State ConnectionBinding) :=
  (keeps_ask hidle rfl).bind fun _ =>
    Scoped.Keeps.assign.bind fun _ =>
      Scoped.Keeps.ofExcept.bind fun _ =>
        Scoped.Keeps.ofExcept.bind fun _ => .pure

theorem keeps_findCompany {adapter : AdapterHandle} {companyId : Int} (hidle : phase.IsIdle) :
    Scoped.Keeps custodyProtocol phase
      (findCompany adapter companyId : ToolBody State Company) :=
  (keeps_ask hidle rfl).bind fun _ => .ofExcept

theorem keeps_auditFailure {storage : Bool}
    {event : ConnectionBinding → Option CapabilitySnapshot → Except PyException AuditEvent}
    (hidle : phase.IsIdle) :
    Scoped.Keeps custodyProtocol phase (auditFailure storage event : ToolBody State Unit) := by
  refine Scoped.Keeps.current.bind fun locals => ?_
  split
  · exact keeps_orElse
      (Scoped.Keeps.ofExcept.bind fun _ => (keeps_ask hidle rfl).bind fun _ => .pure)
      fun _ => .pure
  · exact .pure

theorem keeps_invalidRequest {definition : ToolDefinition} {companyId : Int}
    {message hint : String} {invalid unexpected : ErrorResponse} {storage : Bool}
    {event : ErrorResponse → ConnectionBinding → Option CapabilitySnapshot →
      Except PyException AuditEvent} {requestId : String} (hidle : phase.IsIdle) :
    Scoped.Keeps custodyProtocol phase
      (invalidRequest definition companyId message hint invalid unexpected storage event requestId :
        ToolBody State ErrorResponse) :=
  (keeps_orElse ((keeps_authorize hidle).bind fun _ => .pure) fun _ => .pure).bind fun _ =>
    (keeps_auditFailure hidle).bind fun _ => .pure

end Keeps

/-! ### The later adapters of a write -/

/-- The first adapter has been closed in time, and these are in custody. -/
def later (held : List AdapterHandle) : CustodyPhase := ⟨held, .closed false⟩

theorem isIdle_later (held : List AdapterHandle) : (later held).IsIdle := nofun

theorem keeps_withAdapter {binding : ConnectionBinding} {use : AdapterHandle → ToolBody State α}
    (huse : ∀ adapter, Scoped.Keeps custodyProtocol (later [adapter]) (use adapter)) :
    Scoped.Keeps custodyProtocol (later []) (withAdapter binding use) := by
  intro locals
  unfold withAdapter
  rw [Scoped.meets_bind]
  refine Scoped.meets_await.mpr ⟨trivial, fun answer => ?_⟩
  cases answer with
  | error error => rfl
  | ok adapter =>
      refine Scoped.meets_ensuring.mpr ((huse adapter locals).mono ?_)
      rintro _ after outcome rfl
      refine Scoped.meets_await.mpr ⟨trivial, fun answer => ?_⟩
      cases answer <;> exact next_close

theorem keeps_operationCallbacks {binding : ConnectionBinding} {companyId : Int}
    {version : Option Int} {notPrepared : String} {known : PyException → PyException}
    (request : WriteRequest) :
    Scoped.Keeps custodyProtocol (later [])
      ((operationCallbacks binding companyId version notPrepared known :
        Callbacks State).answer request) := by
  cases request with
  | prepare =>
      exact keeps_withAdapter fun adapter =>
        (keeps_findCompany (isIdle_later _)).bind fun _ =>
          (keeps_ask (isIdle_later _) rfl).bind fun _ => Scoped.Keeps.assign.bind fun _ => .pure
  | validateCurrentState =>
      exact Scoped.Keeps.current.bind fun _ => Scoped.Keeps.ofExcept.bind fun state =>
        keeps_withAdapter fun adapter =>
          (keeps_findCompany (isIdle_later _)).bind fun _ => keeps_ask (isIdle_later _) rfl
  | execute =>
      exact Scoped.Keeps.current.bind fun _ => Scoped.Keeps.ofExcept.bind fun state =>
        keeps_withAdapter fun adapter =>
          ((keeps_findCompany (isIdle_later _)).bind fun _ =>
            keeps_ask (isIdle_later _) rfl).attempt.bind fun _ => .ofExcept
  | _ => exact keeps_ask (isIdle_later _) rfl

theorem keeps_loadProposal {binding : ConnectionBinding} {company : Company} :
    Scoped.Keeps custodyProtocol (later [])
      (ReconciliationCall.loadProposal binding company : ToolBody State State) :=
  keeps_withAdapter fun _ => Scoped.Keeps.ofExcept.bind fun _ => keeps_ask (isIdle_later _) rfl

theorem keeps_proposalCallbacks {call : ReconciliationCall} {views : ProposalViews State}
    {binding : ConnectionBinding} {company : Company} (request : WriteRequest) :
    Scoped.Keeps custodyProtocol (later [])
      ((call.callbacks views binding company).answer request) := by
  cases request with
  | prepare => exact keeps_loadProposal.bind fun _ => Scoped.Keeps.assign.bind fun _ => .pure
  | validateCurrentState =>
      exact keeps_loadProposal.bind fun _ => Scoped.Keeps.current.bind fun _ =>
        Scoped.Keeps.ofExcept.bind fun _ => .assign
  | execute =>
      exact Scoped.Keeps.current.bind fun _ => Scoped.Keeps.ofExcept.bind fun _ =>
        (keeps_ask (isIdle_later _) rfl).bind fun _ => .pure
  | _ => exact keeps_ask (isIdle_later _) rfl

theorem keeps_submit {call : PayrollWriteCall} {requestId : String} {binding : ConnectionBinding}
    {snapshot : CapabilitySnapshot} {preflightError : Option OdooMcpError} :
    Scoped.Keeps custodyProtocol (later [])
      (call.submit requestId binding snapshot preflightError : ToolBody State _) :=
  .serve keeps_operationCallbacks _

theorem keeps_underLock {call : PayrollWriteCall} {requestId : String}
    {binding : ConnectionBinding} {snapshot : CapabilitySnapshot} :
    Scoped.Keeps custodyProtocol (later [])
      (call.underLock requestId binding snapshot : ToolBody State _) := by
  refine (keeps_ask (isIdle_later _) rfl).bind fun acquired => .ensuring keeps_submit ?_
  split
  · exact keeps_ask (isIdle_later _) rfl
  · exact .pure

/-! ### The first adapter -/

section FirstAdapter

variable {adapter : AdapterHandle}

/-- Nothing is in custody, and the first adapter is not in use. -/
structure CustodyPhase.Settled (phase : CustodyPhase) (cancelled : Bool) : Prop where
  held : phase.held = []
  idle : phase.IsIdle
  cancelled : phase.first.cancelled = cancelled

theorem settled_unopened : CustodyPhase.Settled ⟨[], .unopened⟩ false := ⟨rfl, nofun, rfl⟩

theorem settled_later : (later []).Settled false := ⟨rfl, isIdle_later [], rfl⟩

/-- The first adapter is open, and the handlers know it. -/
structure InUse (adapter : AdapterHandle) (cancelled : Bool) (phase : CustodyPhase)
    (locals : ToolLocals State) : Prop where
  known : locals.adapter = some adapter
  phase : phase = ⟨[adapter], .inUse cancelled⟩

/-- The body uses the open adapter, and leaves it open. -/
def Uses (adapter : AdapterHandle) (body : ToolBody State α) : Prop :=
  ∀ locals, locals.adapter = some adapter →
    Scoped.Meets custodyProtocol ⟨[adapter], .inUse false⟩ locals body fun reached left outcome =>
      InUse adapter (isCancelled outcome) reached left

theorem uses_pure {value : α} : Uses adapter (pure value : ToolBody State α) :=
  fun _ hknown => Scoped.meets_pure.mpr ⟨hknown, rfl⟩

theorem uses_ofExcept {outcome : Except PyException α} (houtcome : isCancelled outcome = false) :
    Uses adapter (Scoped.ofExcept outcome : ToolBody State α) :=
  fun _ hknown => Scoped.meets_ofExcept.mpr ⟨hknown, by rw [houtcome]⟩

theorem uses_ask {request : ToolRequest State} (hquiet : isQuiet request = true) :
    Uses adapter (ask request) :=
  fun _ hknown => Scoped.meets_await.mpr
    ⟨trivial, fun _ => ⟨hknown, (next_quiet hquiet).trans rfl⟩⟩

theorem Uses.bind {body : ToolBody State α} {next : α → ToolBody State β}
    (hbody : Uses adapter body) (hnext : ∀ value, Uses adapter (next value)) :
    Uses adapter (body >>= next) := by
  intro locals hknown
  rw [Scoped.meets_bind]
  refine (hbody locals hknown).mono fun reached left outcome hleft => ?_
  obtain ⟨hleft, rfl⟩ := hleft
  cases outcome with
  | ok value => exact hnext value left hleft
  | error error => exact ⟨hleft, rfl⟩

theorem isCancelled_ensure {condition : Bool} {error : OdooMcpError} :
    isCancelled (ensure condition (.odooMcpError error)) = false := by
  cases condition <;> rfl

theorem isCancelled_mapError (outcome : Except String α) :
    isCancelled (outcome.mapError PyException.exception) = false := by
  cases outcome <;> rfl

theorem uses_findCompany {companyId : Int} :
    Uses adapter (findCompany adapter companyId : ToolBody State Company) := by
  refine (uses_ask rfl).bind fun companies => uses_ofExcept ?_
  cases hfound : (companies : List Company).find? fun item => item.id = companyId <;> rfl

theorem uses_readCapabilities :
    Uses adapter (readCapabilities adapter : ToolBody State CapabilitySnapshot) :=
  (uses_ask rfl).bind fun _ => Uses.bind (fun _ hknown => Scoped.meets_assign.mpr ⟨hknown, rfl⟩)
    fun _ => uses_pure

/-- How the body of a runner is left: with an exception either before the adapter was opened or
after its close began, or with the adapter open and known. -/
def Left (returned : CustodyPhase → ToolLocals State → Prop) (reached : CustodyPhase)
    (left : ToolLocals State) : Except PyException α → Prop
  | .ok _ => returned reached left
  | .error error =>
      reached.Settled false ∨ ∃ adapter, InUse adapter (isCancellation error) reached left

/-- How a body that starts with the adapter open is left. -/
def Leaves (adapter : AdapterHandle) (returned : CustodyPhase → ToolLocals State → Prop)
    (body : ToolBody State α) : Prop :=
  ∀ locals, locals.adapter = some adapter →
    Scoped.Meets custodyProtocol ⟨[adapter], .inUse false⟩ locals body (Left returned)

variable {returned : CustodyPhase → ToolLocals State → Prop}

theorem Uses.leaves {body : ToolBody State α} (hbody : Uses adapter body) :
    Leaves adapter (fun reached left => ∃ opened, InUse opened false reached left) body := by
  refine fun locals hknown => (hbody locals hknown).mono fun reached left outcome hleft => ?_
  cases outcome with
  | ok value => exact ⟨adapter, hleft⟩
  | error error => exact .inr ⟨adapter, hleft⟩

theorem Uses.bind_leaves {body : ToolBody State α} {next : α → ToolBody State β}
    (hbody : Uses adapter body) (hnext : ∀ value, Leaves adapter returned (next value)) :
    Leaves adapter returned (body >>= next) := by
  intro locals hknown
  rw [Scoped.meets_bind]
  refine (hbody locals hknown).mono fun reached left outcome hleft => ?_
  obtain ⟨hleft, rfl⟩ := hleft
  cases outcome with
  | ok value => exact hnext value left hleft
  | error error => exact .inr ⟨adapter, hleft, rfl⟩

/-- Once the close has begun, nothing is in custody any more. -/
theorem leaves_closeAdapter {next : Unit → ToolBody State α}
    (hnext : Scoped.Keeps custodyProtocol (later []) (next ())) :
    Leaves adapter (fun reached _ => reached = later []) (closeAdapter adapter >>= next) := by
  intro locals _
  unfold closeAdapter
  rw [Scoped.meets_bind, Scoped.meets_bind]
  refine Scoped.meets_await.mpr ⟨trivial, fun answer => ?_⟩
  have hclosed : custodyProtocol.next ⟨[adapter], .inUse false⟩ (.close adapter) answer =
      later [] := next_close
  rw [hclosed]
  cases answer with
  | error error => exact .inl settled_later
  | ok done =>
      refine Scoped.meets_assign.mpr ((hnext _).mono ?_)
      rintro _ left outcome rfl
      cases outcome with
      | ok value => rfl
      | error error => exact .inl settled_later

/-- What comes before the adapter is opened. -/
theorem meets_before {before : ToolBody State α} {next : α → ToolBody State β}
    {locals : ToolLocals State} (hbefore : Scoped.Keeps custodyProtocol ⟨[], .unopened⟩ before)
    (hnext : ∀ value left,
      Scoped.Meets custodyProtocol ⟨[], .unopened⟩ left (next value) (Left returned)) :
    Scoped.Meets custodyProtocol ⟨[], .unopened⟩ locals (before >>= next) (Left returned) :=
  hbefore.meets_bind hnext fun _ _ => .inl settled_unopened

theorem meets_openAdapter {binding : ConnectionBinding} {next : AdapterHandle → ToolBody State α}
    {locals : ToolLocals State} (hnext : ∀ adapter, Leaves adapter returned (next adapter)) :
    Scoped.Meets custodyProtocol ⟨[], .unopened⟩ locals (openAdapter binding >>= next)
      (Left returned) := by
  unfold openAdapter
  rw [Scoped.meets_bind, Scoped.meets_bind]
  refine Scoped.meets_await.mpr ⟨trivial, fun answer => ?_⟩
  cases answer with
  | error error => exact .inl settled_unopened
  | ok adapter =>
      exact Scoped.meets_bind.mpr
        (Scoped.meets_assign.mpr (Scoped.meets_pure.mpr (hnext adapter _ rfl)))

theorem next_close_settled {phase : CustodyPhase} {cancelled : Bool}
    (hsettled : phase.Settled cancelled) (answer : Except PyException Unit) :
    phase.next (⟨.close adapter, answer⟩ : ToolEvent State) = phase := by
  obtain ⟨held, first⟩ := phase
  obtain ⟨rfl, hidle, -⟩ := hsettled
  cases first with
  | inUse cancelled => exact absurd rfl (hidle cancelled)
  | unopened => rfl
  | closed cancelled => rfl

/-- After the cleanup nothing is in custody. -/
theorem meets_cleanUp {phase : CustodyPhase} {locals : ToolLocals State} {cancelled : Bool}
    {answer : α} {onFailure : α → α}
    (hphase : phase.Settled cancelled ∨ ∃ adapter, InUse adapter cancelled phase locals) :
    Scoped.Meets custodyProtocol phase locals (cleanUp answer onFailure)
      fun reached _ _ => reached.Settled cancelled := by
  unfold cleanUp
  rw [Scoped.meets_bind, Scoped.meets_current]
  dsimp only
  cases hadapter : locals.adapter with
  | none =>
      rcases hphase with hsettled | ⟨adapter, hknown, -⟩
      · exact Scoped.meets_pure.mpr hsettled
      · rw [hknown] at hadapter
        cases hadapter
  | some adapter =>
      have hclosed (closing : Except PyException Unit) :
          (phase.next (⟨.close adapter, closing⟩ : ToolEvent State)).Settled cancelled := by
        rcases hphase with hsettled | ⟨opened, hknown, rfl⟩
        · rw [next_close_settled hsettled]
          exact hsettled
        · rw [hknown] at hadapter
          cases hadapter
          rw [next_close]
          exact ⟨rfl, nofun, rfl⟩
      dsimp only
      unfold orElse
      rw [Scoped.meets_bind, Scoped.meets_attempt, Scoped.meets_bind]
      refine Scoped.meets_await.mpr ⟨trivial, fun closing => ?_⟩
      cases closing with
      | ok done => exact Scoped.meets_pure.mpr (Scoped.meets_pure.mpr (hclosed _))
      | error error =>
          cases error with
          | cancelledError => exact Scoped.meets_throw.mpr (hclosed _)
          | _ => exact Scoped.meets_pure.mpr (hclosed _)

end FirstAdapter

/-! ### The runners -/

/-- What may be left of the adapters of a call: nothing, unless the use of the first adapter was
cancelled. -/
def Ended (phase : CustodyPhase) : Prop :=
  phase.Settled false ∨ ∃ adapter, phase = ⟨[adapter], .inUse true⟩

theorem Left.ended {returned : CustodyPhase → ToolLocals State → Prop} {reached : CustodyPhase}
    {left : ToolLocals State} {error : PyException} (hcancelled : isCancellation error = true)
    (hleft : Left returned reached left (.error error : Except PyException α)) : Ended reached := by
  rcases hleft with hsettled | ⟨adapter, hknown, rfl⟩
  · exact .inl hsettled
  · rw [hcancelled]
    exact .inr ⟨adapter, rfl⟩

theorem Left.cleanable {returned : CustodyPhase → ToolLocals State → Prop} {reached : CustodyPhase}
    {left : ToolLocals State} {error : PyException} (hcancelled : isCancellation error = false)
    (hleft : Left returned reached left (.error error : Except PyException α)) :
    reached.Settled false ∨ ∃ adapter, InUse adapter false reached left := by
  rcases hleft with hsettled | ⟨adapter, hknown, rfl⟩
  · exact .inl hsettled
  · rw [hcancelled]
    exact .inr ⟨adapter, hknown, rfl⟩

/-- The bodies that end with the close of their adapter are left like this. -/
def LeftClosed (reached : CustodyPhase) (left : ToolLocals State)
    (outcome : Except PyException α) : Prop :=
  Left (fun phase _ => phase = later []) reached left outcome

/-- The steps that three of the runners start with. -/
theorem meets_session {definition : ToolDefinition} {companyId : Int} {message hint : String}
    {next : ConnectionBinding → AdapterHandle → Company → CapabilitySnapshot → ToolBody State α}
    {returned : CustodyPhase → ToolLocals State → Prop} {locals : ToolLocals State}
    (hnext : ∀ binding adapter company snapshot,
      Leaves adapter returned (next binding adapter company snapshot)) :
    Scoped.Meets custodyProtocol ⟨[], .unopened⟩ locals
      (do
        let binding ← authorize definition companyId message hint
        let adapter ← openAdapter binding
        let company ← findCompany adapter companyId
        let snapshot ← readCapabilities adapter
        next binding adapter company snapshot)
      (Left returned) :=
  meets_before (keeps_authorize nofun) fun binding _ =>
    meets_openAdapter fun adapter =>
      uses_findCompany.bind_leaves fun company =>
        uses_readCapabilities.bind_leaves fun snapshot => hnext binding adapter company snapshot

theorem meets_capabilitiesBody (call : CapabilitiesCall) (locals : ToolLocals State) :
    Scoped.Meets custodyProtocol ⟨[], .unopened⟩ locals call.body
      (Left fun reached left => ∃ opened, InUse opened false reached left) :=
  meets_before (keeps_ask nofun rfl) fun _ _ =>
    meets_before .ofExcept fun _ _ =>
      meets_openAdapter fun _ =>
        ((uses_ask rfl).bind fun _ => (uses_ask rfl).bind fun _ =>
          (uses_ofExcept (isCancelled_mapError _)).bind fun _ => uses_pure).leaves

theorem meets_reportBody (call : ReportCall) (requestId : String) (locals : ToolLocals State) :
    Scoped.Meets custodyProtocol ⟨[], .unopened⟩ locals (call.body requestId) LeftClosed :=
  meets_session fun _ _ _ _ =>
    (uses_ofExcept isCancelled_ensure).bind_leaves fun _ =>
      (uses_ask rfl).bind_leaves fun _ =>
        leaves_closeAdapter
          (Scoped.Keeps.ofExcept.bind fun _ => Scoped.Keeps.ofExcept.bind fun _ =>
            (keeps_ask (isIdle_later _) rfl).bind fun _ => .pure)

theorem meets_evidenceBody (call : EvidenceCall) (requestId : String) (locals : ToolLocals State) :
    Scoped.Meets custodyProtocol ⟨[], .unopened⟩ locals (call.body requestId) LeftClosed :=
  meets_session fun _ _ _ _ =>
    (uses_ofExcept isCancelled_ensure).bind_leaves fun _ =>
      (uses_ask rfl).bind_leaves fun _ =>
        leaves_closeAdapter
          (Scoped.Keeps.ofExcept.bind fun _ => Scoped.Keeps.ofExcept.bind fun _ =>
            (keeps_ask (isIdle_later _) rfl).bind fun _ => .pure)

theorem meets_writeBody (runner : WriteRunner) (locals : ToolLocals State) :
    Scoped.Meets custodyProtocol ⟨[], .unopened⟩ locals runner.body LeftClosed :=
  meets_session fun _ _ _ _ => leaves_closeAdapter (Scoped.Keeps.ofExcept.bind fun _ => .pure)

/-- A handler that cleans up, and then only reports. -/
theorem meets_handler {answer : β} {onFailure : β → β} {report : β → ToolBody State α}
    {phase : CustodyPhase} {locals : ToolLocals State} {cancelled : Bool}
    (hphase : phase.Settled cancelled ∨ ∃ adapter, InUse adapter cancelled phase locals)
    (hreport : ∀ value reached, reached.IsIdle →
      Scoped.Keeps custodyProtocol reached (report value)) :
    Scoped.Meets custodyProtocol phase locals (cleanUp answer onFailure >>= report)
      fun reached _ _ => reached.Settled cancelled := by
  rw [Scoped.meets_bind]
  refine (meets_cleanUp hphase).mono fun reached left outcome hsettled => ?_
  cases outcome with
  | error error => exact hsettled
  | ok value =>
      refine (hreport value reached hsettled.idle left).mono ?_
      rintro _ _ _ rfl
      exact hsettled

/-- The body of a runner with its handler of `Exception`. -/
theorem meets_handled {body : ToolBody State α} {fallback : PyException → ToolBody State α}
    {returned : CustodyPhase → ToolLocals State → Prop} {locals : ToolLocals State}
    (hbody : Scoped.Meets custodyProtocol ⟨[], .unopened⟩ locals body (Left returned))
    (hreturned : ∀ reached left, returned reached left → Ended reached)
    (hfallback : ∀ error phase left,
      (phase.Settled false ∨ ∃ adapter, InUse adapter false phase left) →
      Scoped.Meets custodyProtocol phase left (fallback error) fun reached _ _ => Ended reached) :
    Scoped.Meets custodyProtocol ⟨[], .unopened⟩ locals (orElse body fallback)
      fun reached _ _ => Ended reached := by
  refine meets_orElse (hbody.mono fun reached left outcome hleft => ?_)
  cases outcome with
  | ok value => exact hreturned reached left hleft
  | error error =>
      dsimp only
      by_cases hcancelled : isCancellation error = true
      · rw [if_pos hcancelled]
        exact Left.ended hcancelled hleft
      · rw [if_neg hcancelled]
        exact hfallback error reached left
          (Left.cleanable (Bool.eq_false_of_not_eq_true hcancelled) hleft)

theorem keeps_reported {storage : Bool} {phase : CustodyPhase} {value : α}
    {event : ConnectionBinding → Option CapabilitySnapshot → Except PyException AuditEvent}
    (hidle : phase.IsIdle) :
    Scoped.Keeps custodyProtocol phase
      (do auditFailure storage event; return value : ToolBody State α) :=
  (keeps_auditFailure hidle).bind fun _ => .pure

theorem ended_of_closed {reached : CustodyPhase} (hreached : reached = later []) : Ended reached :=
  .inl (hreached ▸ settled_later)

theorem meets_capabilitiesTool (call : CapabilitiesCall) (requestId : String)
    (locals : ToolLocals State) :
    Scoped.Meets custodyProtocol ⟨[], .unopened⟩ locals (call.capabilitiesTool requestId)
      fun reached _ _ => Ended reached := by
  have hclean (response : ToolResponse) (reached : CustodyPhase) (left : ToolLocals State)
      (hreached : reached.Settled false ∨ ∃ opened, InUse opened false reached left) :
      Scoped.Meets custodyProtocol reached left
        (cleanUp response (CapabilitiesCall.unclosed requestId)) fun ended _ _ => Ended ended :=
    (meets_cleanUp hreached).mono fun _ _ _ hsettled => .inl hsettled
  unfold CapabilitiesCall.capabilitiesTool
  rw [Scoped.meets_bind]
  refine meets_orElse ((meets_capabilitiesBody call locals).mono
    fun reached left outcome hleft => ?_)
  cases outcome with
  | ok response => exact hclean response reached left (.inr hleft)
  | error error =>
      dsimp only
      by_cases hcancelled : isCancellation error = true
      · rw [if_pos hcancelled]
        exact Left.ended hcancelled hleft
      · rw [if_neg hcancelled]
        exact Scoped.meets_pure.mpr (hclean _ reached left
          (Left.cleanable (Bool.eq_false_of_not_eq_true hcancelled) hleft))

theorem meets_accountingReport (call : ReportCall) (requestId : String)
    (locals : ToolLocals State) :
    Scoped.Meets custodyProtocol ⟨[], .unopened⟩ locals (call.accountingReport requestId)
      fun reached _ _ => Ended reached :=
  meets_handled (meets_reportBody call requestId locals) (fun _ _ => ended_of_closed)
    fun _ _ _ hphase =>
      (meets_handler hphase fun _ _ hidle => keeps_reported hidle).mono
        fun _ _ _ hsettled => .inl hsettled

theorem meets_writeRunner {runner : WriteRunner} {requestId : String}
    {submit : ConnectionBinding → Company → CapabilitySnapshot → ToolBody State WriteSafetyResponse}
    {locals : ToolLocals State}
    (hsubmit : ∀ binding company snapshot,
      Scoped.Keeps custodyProtocol (later []) (submit binding company snapshot)) :
    Scoped.Meets custodyProtocol ⟨[], .unopened⟩ locals (runner.run requestId submit)
      fun reached _ _ => Ended reached := by
  unfold WriteRunner.run
  rw [Scoped.meets_bind, Scoped.meets_attempt]
  refine (meets_writeBody runner locals).mono fun reached left outcome hleft => ?_
  cases outcome with
  | ok opened =>
      obtain rfl : reached = later [] := hleft
      exact (hsubmit _ _ _ left).mono fun _ _ _ => ended_of_closed
  | error error =>
      have hhandle (hcancelled : isCancellation error = false) :
          Scoped.Meets custodyProtocol reached left (runner.handle requestId error)
            fun ended _ _ => Ended ended :=
        (meets_handler (Left.cleanable hcancelled hleft) fun _ _ hidle =>
          keeps_reported hidle).mono fun _ _ _ hsettled => .inl hsettled
      cases error with
      | cancelledError => exact Scoped.meets_throw.mpr (Left.ended rfl hleft)
      | _ => exact hhandle rfl

/-- The evidence runner closes its adapter even when it is cancelled. -/
theorem meets_evidence (call : EvidenceCall) (requestId : String) (locals : ToolLocals State) :
    Scoped.Meets custodyProtocol ⟨[], .unopened⟩ locals (call.run requestId)
      fun reached _ _ => reached.held = [] := by
  unfold EvidenceCall.run
  rw [Scoped.meets_bind, Scoped.meets_attempt]
  refine (meets_evidenceBody call requestId locals).mono fun reached left outcome hleft => ?_
  cases outcome with
  | ok response =>
      obtain rfl : reached = later [] := hleft
      exact Scoped.meets_pure.mpr rfl
  | error error =>
      have hphase : ∃ cancelled, reached.Settled cancelled ∨
          ∃ adapter, InUse adapter cancelled reached left := by
        rcases hleft with hsettled | hinUse
        · exact ⟨false, .inl hsettled⟩
        · exact ⟨_, .inr hinUse⟩
      obtain ⟨cancelled, hphase⟩ := hphase
      cases error with
      | cancelledError =>
          exact (meets_handler hphase fun _ _ hidle =>
            (keeps_auditFailure hidle).bind fun _ => .throw).mono
              fun _ _ _ hsettled => hsettled.held
      | _ =>
          exact (meets_handler hphase fun _ _ hidle => keeps_reported hidle).mono
            fun _ _ _ hsettled => hsettled.held

/-- Every tool call ends with nothing in custody, or was cancelled while its runner, which handles
no cancellation, used the first adapter. -/
theorem meets_body (call : ToolCall State) (requestId : String) :
    Scoped.Meets custodyProtocol ⟨[], .unopened⟩ {} (call.body requestId) fun reached _ _ =>
      if call.handlesCancellation then reached.held = [] else Ended reached := by
  have hinvalid {β : Type} {body : ToolBody State β}
      (hkeeps : Scoped.Keeps custodyProtocol ⟨[], .unopened⟩ body) :
      Scoped.Meets custodyProtocol ⟨[], .unopened⟩ {} body fun reached _ _ => Ended reached := by
    refine (hkeeps {}).mono ?_
    rintro _ _ _ rfl
    exact .inl settled_unopened
  cases call with
  | capabilities call => exact meets_capabilitiesTool call requestId {}
  | accountingReport call => exact meets_accountingReport call requestId {}
  | payrollEvidence call => exact meets_evidence call requestId {}
  | accountingWrite call =>
      exact meets_writeRunner fun _ _ _ => .serve keeps_operationCallbacks _
  | reconciliation call views =>
      exact meets_writeRunner fun _ _ _ => .serve keeps_proposalCallbacks _
  | payrollWrite call =>
      refine meets_writeRunner fun _ _ _ => ?_
      split
      · exact keeps_submit
      · exact keeps_underLock
  | _ => exact hinvalid ((keeps_invalidRequest settled_unopened.idle).bind fun _ => .pure)

theorem after_eq_nil_iff_of_ended {phase : CustodyPhase} (hended : Ended phase) :
    phase.held = [] ↔ phase.first.cancelled = false := by
  rcases hended with hsettled | ⟨adapter, rfl⟩
  · exact iff_of_true hsettled.held hsettled.cancelled
  · exact iff_of_false nofun nofun

/-- **When a tool call closes its adapters.** Whatever its awaits are answered, every adapter that
the factory returned has had its close started when the call ends, if and only if the call is one
for Payroll evidence, or no await on its first adapter before that adapter's close was answered with
a cancellation. -/
theorem adapters_closed (call : ToolCall State) (requestId : String)
    {trace : List (ToolEvent State)} {result : Except PyException call.Response}
    (hruns : (call.program requestId).Runs trace result) :
    adapterCustody.AllClosed trace ↔
      call.handlesCancellation = true ∨ firstAdapterCancelled trace = false := by
  obtain ⟨left, hended⟩ := (meets_body call requestId).follows_run.result_of_runs hruns
  rw [after_custody] at hended
  rw [Custody.allClosed_iff, ← cancelled_unopened]
  cases hhandles : call.handlesCancellation with
  | true =>
      rw [if_pos hhandles] at hended
      exact iff_of_true hended (.inl rfl)
  | false =>
      rw [if_neg (by simp [hhandles])] at hended
      rw [or_iff_right nofun]
      exact after_eq_nil_iff_of_ended hended

/-! ### A cancelled discovery -/

def discoveryBinding : ConnectionBinding where
  tenantId := "tenant"
  authenticatedSubject := "subject"
  mcpClient := "client"
  permissions := ["core_read"]
  database := "books"
  username := "accountant"
  allowedCompanyIds := [1]

/-- A call of `get_erp_capabilities`. -/
def discoveryCall : ToolCall Unit :=
  .capabilities
    { definition :=
        { name := "get_erp_capabilities"
          version := "1.0.0"
          riskLevel := .read
          requiredPermission := "core_read"
          requiredCapability := none
          annotations := ⟨some true, some false, some true, some true⟩ }
      discover := fun _ _ _ => .ok [] }

def answeredTrace : List (ToolEvent Unit) :=
  [⟨.resolve, .ok discoveryBinding⟩, ⟨.connect discoveryBinding, .ok (7 : Nat)⟩,
    ⟨.getCompanies (7 : Nat), .ok []⟩,
    ⟨.getCapabilities (7 : Nat), .ok ⟨18, "json2", []⟩⟩, ⟨.close (7 : Nat), .ok ()⟩]

/-- A discovery whose awaits are all answered closes its adapter. -/
theorem adapters_closed_discovery :
    (discoveryCall.program "request-1").Runs answeredTrace (.ok (.ok [])) ∧
      adapterCustody.AllClosed answeredTrace := by
  have hruns : (discoveryCall.program "request-1").Runs answeredTrace (.ok (.ok [])) :=
    .ask _ _ _ (.ask _ _ _ (.ask _ _ _ (.ask _ _ _ (.ask _ _ _ (.ret _)))))
  exact ⟨hruns, (adapters_closed discoveryCall "request-1" hruns).mpr (.inr rfl)⟩

def cancelledTrace : List (ToolEvent Unit) :=
  [⟨.resolve, .ok discoveryBinding⟩, ⟨.connect discoveryBinding, .ok (7 : Nat)⟩,
    ⟨.getCompanies (7 : Nat), .error .cancelledError⟩]

/-- A discovery that is cancelled while it waits for the companies leaves its adapter open. -/
theorem adapter_left_open :
    (discoveryCall.program "request-1").Runs cancelledTrace (.error .cancelledError) ∧
      ¬adapterCustody.AllClosed cancelledTrace := by
  refine ⟨.ask _ _ _ (.ask _ _ _ (.ask _ _ _ (.raise _))), fun hclosed => ?_⟩
  have hafter := adapterCustody.allClosed_iff.mp hclosed
  revert hafter
  decide

end OdooMcp
