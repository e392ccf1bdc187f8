import Mathlib.Data.Finset.Basic
import OdooMcp.Effect.Exclusion
import OdooMcp.Effect.Interleaving
import OdooMcp.Server.WriteTools

/-!
# The payslip locks

Draft Payroll writes of one process share a registry of payslips that are being written. A call
enters its payslip if no other has, and leaves it however it ends; a call that finds its payslip
entered is rejected by the write-safety boundary. Previews do not look at the registry.
-/

namespace OdooMcp

open Effect ToolBody

variable {State α : Type}

/-! ### The registry -/

/-- `_PayslipLockRegistry`: the entries of `_active`. -/
abbrev PayslipLockRegistry := Finset PayslipKey

namespace PayslipLockRegistry

/-- The first half of `hold`. -/
def acquire (active : PayslipLockRegistry) (key : PayslipKey) : Bool × PayslipLockRegistry :=
  if key ∈ active then (false, active) else (true, insert key active)

/-- The second half of `hold`, for a call that acquired its entry. -/
def release (active : PayslipLockRegistry) (key : PayslipKey) : PayslipLockRegistry :=
  active.erase key

end PayslipLockRegistry

/-- How a request of a call acts on the registry. All other requests leave it alone, and may be
answered with anything. -/
def LockPerforms : (request : ToolRequest State) → PayslipLockRegistry →
    Except PyException ((toolSignature State).Result request) → PayslipLockRegistry → Prop
  | .acquire key, active, answer, later =>
      answer = .ok (active.acquire key).1 ∧ later = (active.acquire key).2
  | .release key, active, answer, later => answer = .ok () ∧ later = active.release key
  | _, active, _, later => later = active

/-- The calls of `run_write` in one process, named by their request ids. -/
abbrev payrollMachine (State : Type) :
    Machine (toolSignature State) String PyException WriteSafetyResponse where
  Call := PayrollWriteCall
  World := PayslipLockRegistry
  initial active := active = ∅
  program id call := (call.runWrite id).run {}
  perform := LockPerforms

/-! ### What a trace says of a call -/

def resolvedBinding (trace : List (ToolEvent State)) : Option ConnectionBinding :=
  trace.foldl (fun found event =>
    match event with
    | ⟨.resolve, .ok binding⟩ => some binding
    | _ => found) none

def heldEntry (trace : List (ToolEvent State)) : Option PayslipKey :=
  trace.foldl (fun held event =>
    match event with
    | ⟨.acquire key, .ok true⟩ => some key
    | ⟨.release _, _⟩ => none
    | _ => held) none

def refusedEntry (trace : List (ToolEvent State)) : Option PayslipKey :=
  trace.foldl (fun refused event =>
    match event with
    | ⟨.acquire key, .ok false⟩ => some key
    | _ => refused) none

/-- The requests that only the holder of an entry makes: to prepare, to validate, to execute, and to
reserve the idempotency key. -/
def isOwnerRequest : ToolRequest State → Bool
  | .prepareOperation _ _ | .validateOperation _ _ | .executeOperation _ _ | .begin _ _ _ => true
  | _ => false

/-! ### The phases of a call -/

/-- A call is on its way to its payslip, holds its entry, was refused it and has audited that or
not, or has left it. -/
inductive LockPhase
  | entering (binding : Option ConnectionBinding)
  | holding (binding : ConnectionBinding) (key : PayslipKey)
  | refused (key : PayslipKey) (audited : Bool)
  | left (binding : ConnectionBinding)

namespace LockPhase

def allows (call : PayrollWriteCall) : LockPhase → ToolRequest State → Prop
  | .entering binding, .resolve => binding = none
  | .entering _, .release _ => False
  | .entering binding, .acquire key =>
      call.dryRun = false ∧ binding.map call.lockKey = some key
  | .entering _, request => isOwnerRequest request = true → call.dryRun = true
  | .holding _ _, .resolve => False
  | .holding _ _, .acquire _ => False
  | .holding _ key, .release released => released = key
  | .holding _ _, _ => True
  | .refused _ audited, .append _ => audited = false
  | .refused _ _, _ => False
  | .left _, _ => False

def next : LockPhase → ToolEvent State → LockPhase
  | .entering _, ⟨.resolve, .ok binding⟩ => .entering (some binding)
  | .entering (some binding), ⟨.acquire key, .ok true⟩ => .holding binding key
  | .entering (some _), ⟨.acquire key, .ok false⟩ => .refused key false
  | .entering (some binding), ⟨.acquire _, .error _⟩ => .left binding
  | .holding binding _, ⟨.release _, _⟩ => .left binding
  | .refused key _, ⟨.append _, _⟩ => .refused key true
  | phase, _ => phase

end LockPhase

def lockProtocol (call : PayrollWriteCall) :
    Protocol (toolSignature State) PyException LockPhase where
  allows := LockPhase.allows call
  next phase request answer := phase.next ⟨request, answer⟩

/-- A call ends outside its payslip; if it was refused, its response says that nothing was
attempted. -/
def LeftLock (phase : LockPhase) (outcome : Except PyException WriteSafetyResponse) : Prop :=
  match phase with
  | .holding _ _ => False
  | .refused _ _ => ∀ response, outcome = .ok response → response.outcome = .notAttempted
  | _ => True

/-! ### The steps of the runner -/

section Steps

variable {call : PayrollWriteCall} {requestId : String}

/-- The requests of a call that neither name its caller nor touch the registry. -/
def isInner : ToolRequest State → Bool
  | .resolve | .acquire _ | .release _ => false
  | _ => true

theorem keeps_entering {binding : Option ConnectionBinding} {request : ToolRequest State}
    (hinner : isInner request = true)
    (howner : isOwnerRequest request = true → call.dryRun = true) :
    Scoped.Keeps (lockProtocol call) (.entering binding) (ask request) := by
  refine Scoped.Keeps.await ?_ fun answer => ?_
  · cases request <;> first | exact howner | cases hinner
  · cases request <;> cases binding <;> first | (cases hinner; done) | rfl

theorem keeps_holding {binding : ConnectionBinding} {key : PayslipKey}
    {request : ToolRequest State} (hinner : isInner request = true) :
    Scoped.Keeps (lockProtocol call) (.holding binding key) (ask request) := by
  refine Scoped.Keeps.await ?_ fun answer => ?_
  · cases request <;> trivial
  · cases request <;> first | rfl | cases hinner

/-- The callbacks make inner requests only. -/
theorem keeps_innerCallbacks {φ : Type} {protocol : Protocol (toolSignature State) PyException φ}
    {phase : φ}
    (hask : ∀ request : ToolRequest State, isInner request = true →
      Scoped.Keeps protocol phase (ask request))
    {binding : ConnectionBinding} {companyId : Int} {version : Option Int} {notPrepared : String}
    {known : PyException → PyException} (request : WriteRequest) :
    Scoped.Keeps protocol phase
      ((operationCallbacks binding companyId version notPrepared known).answer request) := by
  have hcompany (adapter : AdapterHandle) :
      Scoped.Keeps protocol phase (findCompany adapter companyId : ToolBody State Company) :=
    (hask _ rfl).bind fun _ => .ofExcept
  have hadapter {α : Type} {use : AdapterHandle → ToolBody State α}
      (huse : ∀ adapter, Scoped.Keeps protocol phase (use adapter)) :
      Scoped.Keeps protocol phase (withAdapter binding use) :=
    (hask (.connect binding) rfl).bind fun adapter => (huse adapter).ensuring (hask _ rfl)
  cases request with
  | begin event idempotencyKey requestPayload => exact hask _ rfl
  | finish event idempotencyKey state response => exact hask _ rfl
  | append event => exact hask _ rfl
  | prepare =>
      refine hadapter fun adapter => (hcompany adapter).bind fun _ => ?_
      exact Scoped.Keeps.bind (hask (.prepareOperation adapter version) rfl) fun _ =>
        Scoped.Keeps.assign.bind fun _ => .pure
  | validateCurrentState =>
      refine Scoped.Keeps.current.bind fun locals => Scoped.Keeps.ofExcept.bind fun state => ?_
      refine hadapter fun adapter => (hcompany adapter).bind fun _ => ?_
      exact hask (.validateOperation adapter state) rfl
  | execute =>
      refine Scoped.Keeps.current.bind fun locals => Scoped.Keeps.ofExcept.bind fun state => ?_
      refine hadapter fun adapter => ?_
      refine Scoped.Keeps.bind (Scoped.Keeps.attempt ?_) fun _ => .ofExcept
      exact (hcompany adapter).bind fun _ => hask (.executeOperation adapter state) rfl

/-- An inner program that only appends audit entries, and one at most. -/
def auditOnly : Protocol writeSignature PyException Bool where
  allows audited request :=
    match request with
    | .append _ => audited = false
    | _ => False
  next _ _ _ := true

theorem follows_auditOnly_appendOrFail {write : WriteCall} {finalStatus : String}
    {response : WriteSafetyResponse} (hresponse : response.outcome = .notAttempted) :
    auditOnly.Follows false (write.appendOrFail requestId finalStatus response)
      fun _ outcome => ∀ shown, outcome = .ok shown → shown.outcome = .notAttempted := by
  simp only [WriteCall.appendOrFail, Program.bind_eq, Protocol.follows_bind,
    Protocol.follows_ofExcept]
  cases write.event requestId finalStatus (some response) none [] with
  | error error => rintro _ ⟨⟩
  | ok event =>
      simp only [Protocol.follows_attempt]
      refine ⟨rfl, fun answer => ?_⟩
      cases answer with
      | ok row =>
          rintro _ ⟨⟩
          exact hresponse
      | error error =>
          cases error with
          | cancelledError => rintro _ ⟨⟩
          | _ =>
              rintro _ ⟨⟩
              rfl

/-- A write whose gate is closed asks for nothing but its audit entry. -/
theorem follows_rejected {write : WriteCall} {error : OdooMcpError}
    (hgate : write.gate = some error) :
    auditOnly.Follows false (write.run requestId) fun _ outcome =>
      ∀ response, outcome = .ok response → response.outcome = .notAttempted := by
  unfold WriteCall.run
  rw [hgate, Program.bind_eq, Protocol.follows_bind, Protocol.follows_ofExcept]
  cases validateWriteToolDefinition write.definition with
  | error raised => rintro _ ⟨⟩
  | ok done => exact follows_auditOnly_appendOrFail rfl

/-- A call that was refused its payslip. -/
theorem meets_refused {binding : ConnectionBinding} {snapshot : CapabilitySnapshot}
    {key : PayslipKey} {locals : ToolLocals State} :
    Scoped.Meets (lockProtocol call) (.refused key false) locals
      (call.submit requestId binding snapshot (some PayrollWriteCall.activeElsewhere))
      fun reached _ outcome =>
        LeftLock reached outcome ∧ ∃ audited, reached = .refused key audited := by
  have hgate : WriteCall.gate ⟨binding, call.definition, "payroll", snapshot, call.command,
      some PayrollWriteCall.activeElsewhere⟩ = some PayrollWriteCall.activeElsewhere := rfl
  refine (Scoped.meets_serve_of_follows
    (fun audited reached (_ : ToolLocals State) => reached = .refused key audited) ?_
    (follows_rejected hgate) rfl).mono ?_
  · rintro audited request _ later rfl hallows
    cases request with
    | append event => exact Scoped.meets_await.mpr ⟨hallows, fun answer => rfl⟩
    | _ => exact hallows.elim
  · rintro _ left outcome ⟨audited, rfl, hends⟩
    exact ⟨hends, audited, rfl⟩

/-- Authorization leaves a call with its binding on the way to its payslip. -/
theorem meets_lockAuthorize {message hint : String} {locals : ToolLocals State} :
    Scoped.Meets (lockProtocol call) (.entering none) locals
      (authorize call.definition call.companyId message hint)
      fun reached _ outcome => ∃ binding, reached = .entering binding ∧
        ∀ authorized, outcome = .ok authorized → binding = some authorized := by
  unfold authorize
  rw [Scoped.meets_bind]
  refine Scoped.meets_await.mpr ⟨rfl, fun answer => ?_⟩
  cases answer with
  | error error => exact ⟨none, rfl, nofun⟩
  | ok binding =>
      refine Scoped.Keeps.assign.meets_bind (fun _ _ => ?_) fun _ _ => ⟨some binding, rfl, nofun⟩
      refine Scoped.Keeps.ofExcept.meets_bind (fun _ _ => ?_) fun _ _ => ⟨some binding, rfl, nofun⟩
      refine Scoped.Keeps.ofExcept.meets_bind (fun _ _ => ?_) fun _ _ => ⟨some binding, rfl, nofun⟩
      refine Scoped.meets_pure.mpr ⟨some binding, rfl, ?_⟩
      rintro _ ⟨⟩
      rfl

/-- How the first part of `run_write` is left. -/
def Approaching (reached : LockPhase) (_left : ToolLocals State)
    (outcome : Except PyException (ConnectionBinding × Company × CapabilitySnapshot)) : Prop :=
  ∃ binding, reached = .entering binding ∧
    ∀ found, outcome = .ok found → binding = some found.1

theorem meets_lockBody {locals : ToolLocals State} :
    Scoped.Meets (lockProtocol call) (.entering none) locals ((call.runner requestId).body)
      Approaching := by
  unfold WriteRunner.body
  rw [Scoped.meets_bind]
  refine meets_lockAuthorize.mono ?_
  rintro _ left outcome ⟨binding, rfl, hbinding⟩
  cases outcome with
  | error error => exact ⟨binding, rfl, nofun⟩
  | ok authorized =>
      obtain rfl := hbinding authorized rfl
      have hfailed (later : ToolLocals State) (error : PyException) :
          Approaching (.entering (some authorized)) later (.error error) :=
        ⟨some authorized, rfl, nofun⟩
      have hask {request : ToolRequest State} (hinner : isInner request = true)
          (hplain : isOwnerRequest request = false) :
          Scoped.Keeps (lockProtocol call) (.entering (some authorized)) (ask request) :=
        keeps_entering hinner fun howner => by rw [hplain] at howner; cases howner
      refine ((hask rfl rfl).bind fun _ => Scoped.Keeps.assign.bind fun _ => .pure).meets_bind
        (fun adapter _ => ?_) hfailed
      refine ((hask rfl rfl).bind fun _ => .ofExcept).meets_bind (fun company _ => ?_) hfailed
      refine ((hask rfl rfl).bind fun _ => Scoped.Keeps.assign.bind fun _ => .pure).meets_bind
        (fun snapshot _ => ?_) hfailed
      refine ((hask rfl rfl).bind fun _ => .assign).meets_bind (fun _ _ => ?_) hfailed
      refine Scoped.Keeps.ofExcept.meets_bind (fun _ _ => ?_) hfailed
      refine Scoped.meets_pure.mpr ⟨some authorized, rfl, ?_⟩
      rintro _ ⟨⟩
      rfl

theorem keeps_lockHandle {binding : Option ConnectionBinding} {exception : PyException} :
    Scoped.Keeps (lockProtocol call) (.entering binding)
      ((call.runner requestId).handle requestId exception :
        ToolBody State WriteSafetyResponse) := by
  have hask {request : ToolRequest State} (hinner : isInner request = true)
      (hplain : isOwnerRequest request = false) :
      Scoped.Keeps (lockProtocol call) (.entering binding) (ask request) :=
    keeps_entering hinner fun howner => by rw [hplain] at howner; cases howner
  refine Scoped.Keeps.bind ?_ fun error => Scoped.Keeps.bind ?_ fun _ => .pure
  · refine Scoped.Keeps.current.bind fun known => ?_
    split
    · exact .pure
    · exact keeps_orElse ((hask rfl rfl).bind fun _ => .pure) fun _ => .pure
  · refine Scoped.Keeps.current.bind fun known => ?_
    split
    · refine keeps_orElse ?_ fun _ => .pure
      exact Scoped.Keeps.ofExcept.bind fun event =>
        Scoped.Keeps.bind (@hask (.append event) rfl rfl) fun _ => .pure
    · exact .pure

theorem meets_underLock {binding : ConnectionBinding} {snapshot : CapabilitySnapshot}
    {locals : ToolLocals State} (hpreview : call.dryRun = false) :
    Scoped.Meets (lockProtocol call) (.entering (some binding)) locals
      (call.underLock requestId binding snapshot) fun reached _ outcome =>
        LeftLock reached outcome := by
  unfold PayrollWriteCall.underLock
  rw [Scoped.meets_bind]
  refine Scoped.meets_await.mpr ⟨⟨hpreview, rfl⟩, fun answer => ?_⟩
  cases answer with
  | error error => trivial
  | ok acquired =>
      dsimp only
      rw [Scoped.meets_ensuring]
      cases acquired with
      | true =>
          have hkeeps : Scoped.Keeps (lockProtocol call)
              (.holding binding (call.lockKey binding))
              (call.submit requestId binding snapshot none : ToolBody State WriteSafetyResponse) :=
            Scoped.Keeps.serve (keeps_innerCallbacks fun _ => keeps_holding) _
          refine (hkeeps locals).mono ?_
          rintro _ left outcome rfl
          refine Scoped.meets_await.mpr ⟨rfl, fun answer => ?_⟩
          cases answer <;> trivial
      | false =>
          refine meets_refused.mono ?_
          rintro _ left outcome ⟨hleft, -⟩
          exact Scoped.meets_pure.mpr hleft

/-- `run_write` follows the phases of the lock, and never ends inside its payslip. -/
theorem meets_runWrite {locals : ToolLocals State} :
    Scoped.Meets (lockProtocol call) (.entering none) locals (call.runWrite requestId)
      fun reached _ outcome => LeftLock reached outcome := by
  unfold PayrollWriteCall.runWrite WriteRunner.run
  rw [Scoped.meets_bind, Scoped.meets_attempt]
  refine meets_lockBody.mono ?_
  rintro _ left outcome ⟨binding, rfl, hbinding⟩
  cases outcome with
  | ok found =>
      obtain ⟨authorized, company, snapshot⟩ := found
      obtain rfl := hbinding _ rfl
      dsimp only
      split
      · next hpreview =>
          have hkeeps : Scoped.Keeps (lockProtocol call) (.entering (some authorized))
              (call.submit requestId authorized snapshot none :
                ToolBody State WriteSafetyResponse) :=
            Scoped.Keeps.serve (keeps_innerCallbacks fun _ hinner =>
              keeps_entering hinner fun _ => hpreview) _
          refine (hkeeps left).mono ?_
          rintro _ _ _ rfl
          trivial
      · next hexecution => exact meets_underLock (by simpa using hexecution)
  | error error =>
      have hhandle (exception : PyException) :
          Scoped.Meets (lockProtocol call) (.entering binding) left
            ((call.runner requestId).handle requestId exception :
              ToolBody State WriteSafetyResponse)
            fun reached _ outcome => LeftLock reached outcome := by
        refine (keeps_lockHandle left).mono ?_
        rintro _ _ _ rfl
        trivial
      cases error with
      | cancelledError => exact Scoped.meets_throw.mpr trivial
      | _ => exact hhandle _

end Steps

/-! ### The calls of a process -/

def lockDiscipline (State : Type) : (payrollMachine State).Discipline LockPhase where
  protocol _ call := lockProtocol call
  opening _ _ := .entering none
  post _ _ := LeftLock
  follows id call := by
    have hmeets : Scoped.Meets (lockProtocol call) (.entering none) ({} : ToolLocals State)
        (call.runWrite id) fun reached _ outcome => LeftLock reached outcome := meets_runWrite
    refine hmeets.follows_run.mono ?_
    rintro reached outcome ⟨left, hleft⟩
    exact hleft

namespace LockPhase

def held : LockPhase → Option PayslipKey
  | .holding _ key => some key
  | _ => none

def Describes (call : PayrollWriteCall) (phase : LockPhase) (trace : List (ToolEvent State)) :
    Prop :=
  heldEntry trace = phase.held ∧
    match phase with
    | .entering binding => resolvedBinding trace = binding ∧ refusedEntry trace = none
    | .holding binding key =>
        resolvedBinding trace = some binding ∧ refusedEntry trace = none ∧
          call.dryRun = false ∧ key = call.lockKey binding
    | .refused key audited =>
        (∃ binding, resolvedBinding trace = some binding ∧ key = call.lockKey binding) ∧
          refusedEntry trace = some key ∧ call.dryRun = false ∧
          (audited = false → ∃ before, trace = before ++ [⟨.acquire key, .ok false⟩])
    | .left binding =>
        resolvedBinding trace = some binding ∧ refusedEntry trace = none ∧ call.dryRun = false

/-- An allowed event moves the phase and the trace alike. -/
theorem Describes.snoc {call : PayrollWriteCall} {phase : LockPhase}
    {trace : List (ToolEvent State)} {event : ToolEvent State}
    (hdescribes : phase.Describes call trace)
    (hallows : phase.allows call event.request) :
    (phase.next event).Describes call (trace ++ [event]) := by
  obtain ⟨hheld, hphase⟩ := hdescribes
  obtain ⟨request, answer⟩ := event
  unfold Describes heldEntry resolvedBinding refusedEntry at *
  simp only [List.foldl_append, List.foldl_cons, List.foldl_nil]
  cases phase with
  | entering binding =>
      obtain ⟨hbinding, hrefused⟩ := hphase
      cases request with
      | resolve =>
          cases answer with
          | ok resolved => exact ⟨hheld, rfl, hrefused⟩
          | error error => cases binding <;> exact ⟨hheld, hbinding, hrefused⟩
      | acquire key =>
          obtain ⟨hpreview, hkey⟩ := hallows
          cases binding with
          | none => cases hkey
          | some binding =>
              have hlock : key = call.lockKey binding := (Option.some.inj hkey).symm
              cases answer with
              | ok acquired =>
                  cases acquired with
                  | true => exact ⟨rfl, hbinding, hrefused, hpreview, hlock⟩
                  | false =>
                      exact ⟨hheld, ⟨binding, hbinding, hlock⟩, rfl, hpreview,
                        fun _ => ⟨trace, rfl⟩⟩
              | error error => exact ⟨hheld, hbinding, hrefused, hpreview⟩
      | release key => exact hallows.elim
      | _ => cases binding <;> exact ⟨hheld, hbinding, hrefused⟩
  | holding binding key =>
      obtain ⟨hbinding, hrefused, hpreview, hlock⟩ := hphase
      cases request with
      | resolve => exact hallows.elim
      | acquire asked => exact hallows.elim
      | release released => exact ⟨rfl, hbinding, hrefused, hpreview⟩
      | _ => exact ⟨hheld, hbinding, hrefused, hpreview, hlock⟩
  | refused key audited =>
      obtain ⟨hbinding, hrefused, hpreview, -⟩ := hphase
      cases request with
      | append event => exact ⟨hheld, hbinding, hrefused, hpreview, nofun⟩
      | _ => exact hallows.elim
  | left binding => exact hallows.elim

end LockPhase

theorem describes_phase {call : PayrollWriteCall} {trace : List (ToolEvent State)}
    (hallowed : (lockProtocol call).Allowed (.entering none) trace) :
    ((lockProtocol call).after (.entering none) trace).Describes call trace :=
  hallowed.relates (LockPhase.Describes call) ⟨rfl, rfl, rfl⟩
    fun _ _ _ hearlier hallows => hearlier.snoc hallows

/-! ### The registry and the calls -/

def holders (phases : String → Option (PayrollWriteCall × LockPhase)) (id : String) :
    Option PayslipKey :=
  (phases id).bind fun seen => seen.2.held

theorem holders_update {phases : String → Option (PayrollWriteCall × LockPhase)} {id : String}
    {call : PayrollWriteCall} {phase : LockPhase} :
    holders (Function.update phases id (some (call, phase))) =
      Function.update (holders phases) id phase.held := by
  funext other
  by_cases hsame : other = id
  · subst hsame
    simp [holders]
  · simp [holders, Function.update_of_ne hsame]

/-- A request other than the two of the registry leaves what the call holds as it is. -/
theorem held_next {call : PayrollWriteCall} {phase : LockPhase} {request : ToolRequest State}
    {answer : Except PyException ((toolSignature State).Result request)}
    (hallows : phase.allows call request) (hacquire : ∀ key, request ≠ .acquire key)
    (hrelease : ∀ key, request ≠ .release key) :
    (phase.next ⟨request, answer⟩).held = phase.held := by
  cases phase with
  | entering binding =>
      cases request with
      | acquire key => exact absurd rfl (hacquire key)
      | resolve => cases answer <;> cases binding <;> rfl
      | _ => cases binding <;> rfl
  | holding binding key =>
      cases request with
      | release key => exact absurd rfl (hrelease key)
      | _ => rfl
  | refused key audited =>
      cases request with
      | append event => rfl
      | _ => exact hallows.elim
  | left binding => exact hallows.elim

/-- The registry has exactly the entries that calls hold, each held by one call. -/
theorem exclusive_of_reachable {state : (payrollMachine State).State}
    (hreachable : (payrollMachine State).Reachable state) :
    Exclusive state.world (holders ((lockDiscipline State).view state)) := by
  refine hreachable.view (lockDiscipline State)
    (fun active phases => Exclusive active (holders phases)) ?_ ?_ ?_
  · rintro _ rfl
    exact .empty
  · intro active phases id call hexclusive habsent
    rw [holders_update]
    refine hexclusive.keep ?_
    simp [holders, habsent, LockPhase.held, lockDiscipline]
  · intro active later phases id call phase request answer hexclusive hphase hallows hperform
    have hheld : holders phases id = phase.held := by simp [holders, hphase]
    rw [holders_update]
    change LockPhase.allows call phase request at hallows
    change Exclusive later (Function.update (holders phases) id (phase.next ⟨request, answer⟩).held)
    by_cases hacquire : ∃ key, request = .acquire key
    · obtain ⟨key, rfl⟩ := hacquire
      obtain ⟨rfl, rfl⟩ := hperform
      cases phase with
      | entering binding =>
          obtain ⟨-, hkey⟩ := hallows
          cases binding with
          | none => cases hkey
          | some binding =>
              unfold PayslipLockRegistry.acquire
              split
              · exact hexclusive.keep hheld
              · next hfree => exact hexclusive.take hheld hfree
      | _ => exact hallows.elim
    · by_cases hrelease : ∃ key, request = .release key
      · obtain ⟨key, rfl⟩ := hrelease
        obtain ⟨rfl, rfl⟩ := hperform
        cases phase with
        | holding binding held =>
            obtain rfl : key = held := hallows
            exact hexclusive.drop hheld
        | _ => exact hallows.elim
      · have hunchanged : later = active := by
          cases request with
          | acquire key => exact absurd ⟨key, rfl⟩ hacquire
          | release key => exact absurd ⟨key, rfl⟩ hrelease
          | _ => exact hperform
        rw [hunchanged, held_next hallows (fun key heq => hacquire ⟨key, heq⟩)
          fun key heq => hrelease ⟨key, heq⟩]
        exact hexclusive.keep hheld

/-! ### Mutual exclusion -/

/-- The call made this request when its trace was `past`: the request was answered, is on its way,
or is the next one. -/
def MadeAfter (thread : (payrollMachine State).Thread) (past : List (ToolEvent State))
    (request : ToolRequest State) : Prop :=
  (∃ answer rest, thread.trace = past ++ ⟨request, answer⟩ :: rest) ∨
    (thread.trace = past ∧ (thread.status.pending = some request ∨
      ∃ continuation, thread.status.remaining = some (.ask request continuation)))

def EndedWith (thread : (payrollMachine State).Thread)
    (outcome : Except PyException WriteSafetyResponse) : Prop :=
  match outcome with
  | .ok response => thread.status = .running (.ret response)
  | .error error => thread.status = .running (.raise error)

section Reachable

variable {state : (payrollMachine State).State} {id : String}
  {thread : (payrollMachine State).Thread}

/-- A request was allowed in a phase that says what the trace was. -/
theorem allows_of_madeAfter (hreachable : (payrollMachine State).Reachable state)
    (hthread : state.threads id = some thread) {past : List (ToolEvent State)}
    {request : ToolRequest State} (hmade : MadeAfter thread past request) :
    ∃ phase : LockPhase, phase.Describes thread.call past ∧ phase.allows thread.call request := by
  have hallowed := hreachable.allowed (lockDiscipline State) id thread hthread
  rcases hmade with ⟨answer, rest, htrace⟩ | ⟨rfl, hpending | ⟨continuation, hremaining⟩⟩
  · rw [htrace] at hallowed
    obtain ⟨hpast, hrequest, -⟩ := Protocol.allowed_append.mp hallowed
    exact ⟨_, describes_phase hpast, hrequest⟩
  · exact ⟨_, describes_phase hallowed,
      hreachable.allows_pending (lockDiscipline State) id thread hthread request hpending⟩
  · exact ⟨_, describes_phase hallowed,
      hreachable.allows (lockDiscipline State) hthread hremaining⟩

theorem holders_view (hreachable : (payrollMachine State).Reachable state)
    (hthread : state.threads id = some thread) :
    holders ((lockDiscipline State).view state) id = heldEntry thread.trace := by
  have hdescribes := describes_phase (hreachable.allowed (lockDiscipline State) id thread hthread)
  rw [hdescribes.1]
  simp [holders, Machine.Discipline.view, hthread, Machine.Discipline.phase, lockDiscipline]

/-- The entries of the registry are those that the traces of the calls hold. -/
theorem mem_registry_iff (hreachable : (payrollMachine State).Reachable state) (key : PayslipKey) :
    key ∈ state.world ↔
      ∃ id thread, state.threads id = some thread ∧ heldEntry thread.trace = some key := by
  rw [(exclusive_of_reachable hreachable).mem_iff]
  constructor
  · rintro ⟨id, hholds⟩
    cases hthread : state.threads id with
    | none => simp [holders, Machine.Discipline.view, hthread] at hholds
    | some thread =>
        exact ⟨id, thread, hthread, by rw [← hholds, holders_view hreachable hthread]⟩
  · rintro ⟨id, thread, hthread, hheld⟩
    exact ⟨id, by rw [holders_view hreachable hthread, hheld]⟩

/-- The phase in which a request of an owner is allowed. -/
theorem holding_of_isOwnerRequest {call : PayrollWriteCall} {phase : LockPhase}
    {request : ToolRequest State} (hallows : phase.allows call request)
    (howner : isOwnerRequest request = true) (hexecution : call.dryRun = false) :
    ∃ binding key, phase = .holding binding key := by
  cases phase with
  | entering binding =>
      cases request with
      | prepareOperation | validateOperation | executeOperation | begin =>
          have hpreview : call.dryRun = true := hallows rfl
          rw [hexecution] at hpreview
          cases hpreview
      | _ => cases howner
  | holding binding key => exact ⟨binding, key, rfl⟩
  | refused key audited =>
      cases request with
      | append event => cases howner
      | _ => exact hallows.elim
  | left binding => exact hallows.elim

end Reachable

/-- What the registry guarantees of the calls of a process. -/
structure PayslipExclusion (state : (payrollMachine State).State) : Prop where
  registry : ∀ key, key ∈ state.world ↔
    ∃ id thread, state.threads id = some thread ∧ heldEntry thread.trace = some key
  /-- An entry has one holder, and is that of the holder's payslip. -/
  exclusive : ∀ id other thread otherThread key, state.threads id = some thread →
    state.threads other = some otherThread → heldEntry thread.trace = some key →
    heldEntry otherThread.trace = some key → id = other
  held : ∀ id thread key, state.threads id = some thread → heldEntry thread.trace = some key →
    thread.call.dryRun = false ∧
      (resolvedBinding thread.trace).map thread.call.lockKey = some key
  /-- To reserve, prepare, validate and execute, a call that is no preview holds its payslip. -/
  owner : ∀ id thread past request, state.threads id = some thread →
    thread.call.dryRun = false → MadeAfter thread past request → isOwnerRequest request = true →
    heldEntry past = (resolvedBinding past).map thread.call.lockKey ∧ (heldEntry past).isSome = true
  /-- Only the holder of an entry releases it. -/
  release : ∀ id thread past key, state.threads id = some thread →
    MadeAfter thread past (.release key) → heldEntry past = some key
  /-- After a refusal a call makes at most one more request, to audit the refusal. -/
  refusal : ∀ id thread past request key, state.threads id = some thread →
    MadeAfter thread past request → refusedEntry past = some key →
    ∃ event before, request = .append event ∧ past = before ++ [⟨.acquire key, .ok false⟩]
  /-- A call that has ended holds nothing, and one that was refused attempted nothing. -/
  ended : ∀ id thread outcome, state.threads id = some thread → EndedWith thread outcome →
    heldEntry thread.trace = none ∧ ∀ response, outcome = .ok response →
      (refusedEntry thread.trace).isSome = true → response.outcome = .notAttempted
  preview : ∀ id thread past request, state.threads id = some thread →
    thread.call.dryRun = true → MadeAfter thread past request →
    ∀ key, request ≠ .acquire key ∧ request ≠ .release key

theorem payslipExclusion {state : (payrollMachine State).State}
    (hreachable : (payrollMachine State).Reachable state) : PayslipExclusion state where
  registry := mem_registry_iff hreachable
  exclusive := by
    intro id other thread otherThread key hthread hother hheld hotherHeld
    refine (exclusive_of_reachable hreachable).unique id other key ?_ ?_
    · rw [holders_view hreachable hthread, hheld]
    · rw [holders_view hreachable hother, hotherHeld]
  held := by
    intro id thread key hthread hheld
    obtain ⟨hphaseHeld, hphase⟩ :=
      describes_phase (hreachable.allowed (lockDiscipline State) id thread hthread)
    generalize (lockProtocol thread.call).after (.entering none) thread.trace = phase
      at hphaseHeld hphase
    rw [hphaseHeld] at hheld
    cases phase with
    | holding binding entry =>
        obtain rfl : entry = key := Option.some.inj hheld
        obtain ⟨hbinding, -, hexecution, hlock⟩ := hphase
        exact ⟨hexecution, by rw [hbinding, hlock]; rfl⟩
    | _ => cases hheld
  owner := by
    intro id thread past request hthread hexecution hmade howner
    obtain ⟨phase, hdescribes, hallows⟩ := allows_of_madeAfter hreachable hthread hmade
    obtain ⟨binding, key, rfl⟩ := holding_of_isOwnerRequest hallows howner hexecution
    obtain ⟨hheld, hbinding, -, -, hlock⟩ := hdescribes
    rw [hheld, hbinding, hlock]
    exact ⟨rfl, rfl⟩
  release := by
    intro id thread past key hthread hmade
    obtain ⟨phase, hdescribes, hallows⟩ := allows_of_madeAfter hreachable hthread hmade
    cases phase with
    | holding binding entry =>
        obtain rfl : key = entry := hallows
        exact hdescribes.1
    | _ => exact hallows.elim
  refusal := by
    intro id thread past request key hthread hmade hrefused
    obtain ⟨phase, ⟨hheld, hphase⟩, hallows⟩ := allows_of_madeAfter hreachable hthread hmade
    cases phase with
    | entering binding =>
        rw [hphase.2] at hrefused
        cases hrefused
    | holding binding entry =>
        rw [hphase.2.1] at hrefused
        cases hrefused
    | refused entry audited =>
        obtain ⟨-, hentry, -, hlast⟩ := hphase
        rw [hentry] at hrefused
        obtain rfl := Option.some.inj hrefused
        cases request with
        | append event =>
            obtain ⟨before, hpast⟩ := hlast hallows
            exact ⟨event, before, rfl, hpast⟩
        | _ => exact hallows.elim
    | left binding => exact hallows.elim
  ended := by
    intro id thread outcome hthread hended
    have hpost : LeftLock ((lockProtocol thread.call).after (.entering none) thread.trace)
        outcome := by
      cases outcome with
      | ok response => exact hreachable.post_of_ret (lockDiscipline State) hthread hended
      | error error => exact hreachable.post_of_raise (lockDiscipline State) hthread hended
    obtain ⟨hheld, hphase⟩ :=
      describes_phase (hreachable.allowed (lockDiscipline State) id thread hthread)
    generalize (lockProtocol thread.call).after (.entering none) thread.trace = phase
      at hpost hheld hphase
    rw [hheld]
    cases phase with
    | holding binding entry => exact hpost.elim
    | refused entry audited =>
        exact ⟨rfl, fun response hresponse _ => hpost response hresponse⟩
    | entering binding =>
        refine ⟨rfl, fun response _ hrefused => ?_⟩
        rw [hphase.2] at hrefused
        cases hrefused
    | left binding =>
        refine ⟨rfl, fun response _ hrefused => ?_⟩
        rw [hphase.2.1] at hrefused
        cases hrefused
  preview := by
    intro id thread past request hthread hpreview hmade key
    obtain ⟨phase, ⟨-, hphase⟩, hallows⟩ := allows_of_madeAfter hreachable hthread hmade
    constructor
    · rintro rfl
      cases phase with
      | entering binding =>
          have hexecution : thread.call.dryRun = false := hallows.1
          rw [hpreview] at hexecution
          cases hexecution
      | _ => exact hallows.elim
    · rintro rfl
      cases phase with
      | holding binding entry =>
          have hexecution : thread.call.dryRun = false := hphase.2.2.1
          rw [hpreview] at hexecution
          cases hexecution
      | _ => exact hallows.elim

/-- **One writer per payslip.** In every reachable state of the calls of a process, whatever their
awaits were answered, a call that is no preview reserves, prepares, validates and executes only
while it holds its payslip alone; a refused call makes no request but its audit entry and answers
that nothing was attempted; a call that has ended holds nothing. The registry grants an entry
exactly if no call holds it. -/
theorem one_writer_per_payslip {state : (payrollMachine State).State}
    (hreachable : (payrollMachine State).Reachable state) :
    PayslipExclusion state ∧
      ∀ id call key answer later,
        (payrollMachine State).Step state (.answer id call ⟨.acquire key, answer⟩) later →
        ∃ acquired, answer = .ok acquired ∧ (acquired = true ↔
          ¬∃ other thread, state.threads other = some thread ∧
            heldEntry thread.trace = some key) := by
  refine ⟨payslipExclusion hreachable, ?_⟩
  intro id call key answer later hstep
  rw [← mem_registry_iff hreachable key]
  cases hstep with
  | answer _ _ continuation _ hthread hwaiting hperform =>
      obtain ⟨rfl, -⟩ := hperform
      refine ⟨_, rfl, ?_⟩
      unfold PayslipLockRegistry.acquire
      split
      · next hactive => simp [hactive]
      · next hfree => simp [hfree]

/-- A recalculation of one payslip. -/
def recalculateCall : PayrollWriteCall where
  definition :=
    { name := "recalculate_draft_payslip"
      version := "1.0.0"
      riskLevel := .draftWrite
      requiredPermission := "payroll_draft_write"
      requiredCapability := some "hr_payroll"
      annotations := ⟨some false, some true, some true, some true⟩ }
  operation := "recalculate"
  companyId := 1
  fields := ⟨9, none, none, none, none⟩
  dryRun := false
  idempotencyKey := some "recalculate-9"
  storage := true

/-- Every identity resolves to the same connection, the database is not available, and the lock
answers from the registry. -/
def recalculateAnswer : (request : ToolRequest Unit) → PayslipLockRegistry →
    Except PyException ((toolSignature Unit).Result request) × PayslipLockRegistry
  | .acquire key, active => (.ok (active.acquire key).1, (active.acquire key).2)
  | .release key, active => (.ok (), active.release key)
  | .resolve, active =>
      (.ok
        { tenantId := "tenant"
          authenticatedSubject := "subject"
          mcpClient := "client"
          permissions := ["payroll_draft_write"]
          database := "books"
          username := "officer"
          allowedCompanyIds := [1] }, active)
  | .connect _, active => (.ok 0, active)
  | .getCompanies _, active => (.ok [⟨1, "Company", none, none⟩], active)
  | .getCapabilities _, active => (.ok ⟨18, "json2", [("hr_payroll", true)]⟩, active)
  | .close _, active => (.ok (), active)
  | _, active => (.error (.exception "not available"), active)

theorem recalculateAnswer_performs (request : ToolRequest Unit) (active : PayslipLockRegistry) :
    LockPerforms request active (recalculateAnswer request active).1
      (recalculateAnswer request active).2 := by
  cases request with
  | acquire key => exact ⟨rfl, rfl⟩
  | release key => exact ⟨rfl, rfl⟩
  | _ => rfl

/-- A recalculation that runs up to its first `count` requests. -/
def recalculate (count : Nat) (id : String) (state : (payrollMachine Unit).State) :
    (payrollMachine Unit).State :=
  (state.set id ⟨recalculateCall, [], .running ((recalculateCall.runWrite id).run {})⟩).advance
    recalculateAnswer count id

theorem reachable_recalculate (count : Nat) {id : String} {state : (payrollMachine Unit).State}
    (hreachable : (payrollMachine Unit).Reachable state) (habsent : state.threads id = none) :
    (payrollMachine Unit).Reachable (recalculate count id state) := by
  apply (hreachable.step (.start id recalculateCall habsent)).advance
  intro request active
  exact recalculateAnswer_performs request active

/-- One recalculation holds its payslip when another one asks for it. -/
def recalculations : (payrollMachine Unit).State :=
  recalculate 7 "refused" (recalculate 6 "holder" ⟨∅, fun _ => none⟩)

theorem reachable_recalculations : (payrollMachine Unit).Reachable recalculations := by
  apply reachable_recalculate
  · exact reachable_recalculate 6 ⟨∅, [], rfl, .nil _⟩ rfl
  · exact Machine.State.threads_advance (by decide) _ _

/-- What can be compared of a call: the entries it holds and was refused, and what it returned. -/
structure LockView where
  held : Option PayslipKey
  refused : Option PayslipKey
  outcome : Option WriteOutcome
  deriving DecidableEq

def lockView (state : (payrollMachine Unit).State) (id : String) : Option LockView :=
  (state.threads id).map fun thread =>
    { held := heldEntry thread.trace
      refused := refusedEntry thread.trace
      outcome :=
        match thread.status with
        | .running (.ret response) => some response.outcome
        | _ => none }

theorem lockView_recalculations :
    lockView recalculations "holder" = some ⟨some ("tenant", 1, 9), none, none⟩ ∧
    lockView recalculations "refused" =
      some ⟨none, some ("tenant", 1, 9), some .notAttempted⟩ := by
  decide +kernel

/-- The payslip has one holder, the refused call has ended without one, and whoever asks next is
refused as well. -/
theorem one_writer_per_payslip_recalculations :
    lockView recalculations "refused" =
      some ⟨none, some ("tenant", 1, 9), some .notAttempted⟩ ∧
    ("tenant", 1, 9) ∈ recalculations.world ∧
    (∀ id thread, recalculations.threads id = some thread →
      heldEntry thread.trace = some ("tenant", 1, 9) → id = "holder") ∧
    ∀ id call answer later,
      (payrollMachine Unit).Step recalculations
        (.answer id call ⟨.acquire ("tenant", 1, 9), answer⟩) later → answer = .ok false := by
  obtain ⟨hexclusion, hgrants⟩ := one_writer_per_payslip reachable_recalculations
  obtain ⟨holder, hholder, hview⟩ := Option.map_eq_some_iff.mp lockView_recalculations.1
  simp only [LockView.mk.injEq] at hview
  refine ⟨lockView_recalculations.2, ?_, ?_, ?_⟩
  · rw [hexclusion.registry]
    exact ⟨"holder", holder, hholder, hview.1⟩
  · intro id thread hthread hheld
    exact hexclusion.exclusive id "holder" thread holder _ hthread hholder hheld hview.1
  · intro id call answer later hstep
    obtain ⟨acquired, rfl, hacquired⟩ := hgrants id call _ answer later hstep
    cases acquired with
    | true => exact absurd ⟨"holder", holder, hholder, hview.1⟩ (hacquired.mp rfl)
    | false => rfl

end OdooMcp
