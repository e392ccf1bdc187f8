import Mathlib.Logic.Function.Basic
import OdooMcp.Effect.Typestate

/-!
# Interleaved calls over a shared world

Any number of calls run their programs side by side. A request is made in one step and answered in
a later one, and only the answer touches the world, atomically; between the two every other call may
move, and a call may stop for good at any point, also with a request on its way. The steps are
labelled, so that statements can count them.

When the programs follow a protocol, a state is seen well enough through the world and the phase of
each call. `Machine.Reachable.view` is the resulting induction rule: an invariant over worlds and
phases has to be preserved when a call starts and when an allowed request is answered, and nowhere
else.
-/

namespace Effect

variable {S : Signature} {ι ε α φ : Type}

/-! ### Labelled paths -/

inductive StepPath {σ label : Type} (step : σ → label → σ → Prop) : σ → List label → σ → Prop
  | nil (state : σ) : StepPath step state [] state
  | cons {first second last : σ} {action : label} {actions : List label}
      (hstep : step first action second) (hpath : StepPath step second actions last) :
      StepPath step first (action :: actions) last

theorem StepPath.append {σ label : Type} {step : σ → label → σ → Prop} {first second last : σ}
    {actions rest : List label} (hpath : StepPath step first actions second)
    (hrest : StepPath step second rest last) : StepPath step first (actions ++ rest) last := by
  induction hpath with
  | nil state => exact hrest
  | cons hfirst _ ih => exact .cons hfirst (ih hrest)

theorem StepPath.preserves {σ label : Type} {step : σ → label → σ → Prop} {first last : σ}
    {actions : List label} (invariant : σ → Prop) (hpath : StepPath step first actions last)
    (hpreserved : ∀ before action later, invariant before → step before action later →
      invariant later) (hfirst : invariant first) : invariant last := by
  induction hpath with
  | nil state => exact hfirst
  | cons hstep _ ih => exact ih (hpreserved _ _ _ hfirst hstep)

/-! ### The machine -/

structure Machine (S : Signature) (ι ε α : Type) where
  Call : Type
  World : Type
  initial : World → Prop
  program : ι → Call → Program S ε α
  perform : (request : S.Request) → World → Except ε (S.Result request) → World → Prop

inductive Status (S : Signature) (ε α : Type)
  | running (program : Program S ε α)
  | waiting (request : S.Request)
      (continuation : Except ε (S.Result request) → Program S ε α)
  | stopped (pending : Option S.Request)

def Status.pending : Status S ε α → Option S.Request
  | .running _ => none
  | .waiting request _ => some request
  | .stopped pending => pending

/-- The program a live call still has to run, its unanswered request included. -/
def Status.remaining : Status S ε α → Option (Program S ε α)
  | .running program => some program
  | .waiting request continuation => some (.ask request continuation)
  | .stopped _ => none

namespace Machine

structure Thread (machine : Machine S ι ε α) where
  call : machine.Call
  trace : List (Event S ε)
  status : Status S ε α

variable {machine : Machine S ι ε α}

/-- The call made this request, whether or not it was answered. -/
def Thread.Invoked (thread : machine.Thread) (request : S.Request) : Prop :=
  (∃ event ∈ thread.trace, event.request = request) ∨ thread.status.pending = some request

structure State (machine : Machine S ι ε α) where
  world : machine.World
  threads : ι → Option machine.Thread

inductive Label (machine : Machine S ι ε α)
  | start (id : ι) (call : machine.Call)
  | invoke (id : ι) (call : machine.Call) (request : S.Request)
  | answer (id : ι) (call : machine.Call) (event : Event S ε)
  | stop (id : ι) (call : machine.Call)

def Label.id : machine.Label → ι
  | .start id _ => id
  | .invoke id _ _ => id
  | .answer id _ _ => id
  | .stop id _ => id

variable [DecidableEq ι]

def State.set (state : machine.State) (id : ι) (thread : machine.Thread) : machine.State :=
  { state with threads := Function.update state.threads id (some thread) }

inductive Step (machine : Machine S ι ε α) : machine.State → machine.Label → machine.State → Prop
  | start {state : machine.State} (id : ι) (call : machine.Call)
      (habsent : state.threads id = none) :
      Step machine state (.start id call)
        (state.set id ⟨call, [], .running (machine.program id call)⟩)
  | invoke {state : machine.State} {thread : machine.Thread} (id : ι) (request : S.Request)
      (continuation : Except ε (S.Result request) → Program S ε α)
      (hthread : state.threads id = some thread)
      (hrunning : thread.status = .running (.ask request continuation)) :
      Step machine state (.invoke id thread.call request)
        (state.set id { thread with status := .waiting request continuation })
  | answer {state : machine.State} {thread : machine.Thread} {world : machine.World} (id : ι)
      (request : S.Request) (continuation : Except ε (S.Result request) → Program S ε α)
      (answer : Except ε (S.Result request)) (hthread : state.threads id = some thread)
      (hwaiting : thread.status = .waiting request continuation)
      (hperform : machine.perform request state.world answer world) :
      Step machine state (.answer id thread.call ⟨request, answer⟩)
        { world := world
          threads := Function.update state.threads id (some
            { thread with
              trace := thread.trace ++ [⟨request, answer⟩]
              status := .running (continuation answer) }) }
  | stop {state : machine.State} {thread : machine.Thread} (id : ι)
      (hthread : state.threads id = some thread) :
      Step machine state (.stop id thread.call)
        (state.set id { thread with status := .stopped thread.status.pending })

def Reachable (machine : Machine S ι ε α) (state : machine.State) : Prop :=
  ∃ world actions, machine.initial world ∧
    StepPath machine.Step ⟨world, fun _ => none⟩ actions state

theorem Reachable.step {first second : machine.State} {action : machine.Label}
    (hreachable : machine.Reachable first) (hstep : machine.Step first action second) :
    machine.Reachable second := by
  obtain ⟨world, actions, hinitial, hpath⟩ := hreachable
  exact ⟨world, actions ++ [action], hinitial, hpath.append (.cons hstep (.nil second))⟩

theorem reachable_start (machine : Machine S ι ε α) {world : machine.World}
    (hinitial : machine.initial world) (id : ι) (call : machine.Call) :
    machine.Reachable ((⟨world, fun _ => none⟩ : machine.State).set id
      ⟨call, [], .running (machine.program id call)⟩) :=
  ⟨world, [.start id call], hinitial, .cons (.start id call rfl) (.nil _)⟩

theorem Reachable.induct (invariant : machine.State → Prop)
    (hinitial : ∀ world, machine.initial world → invariant ⟨world, fun _ => none⟩)
    (hstep : ∀ first action second, machine.Reachable first → invariant first →
      machine.Step first action second → invariant second)
    {state : machine.State} (hreachable : machine.Reachable state) : invariant state := by
  obtain ⟨world, actions, hworld, hpath⟩ := hreachable
  have hboth : machine.Reachable state ∧ invariant state :=
    hpath.preserves (fun reached => machine.Reachable reached ∧ invariant reached)
      (fun first action second hfirst hnext =>
        ⟨hfirst.1.step hnext, hstep first action second hfirst.1 hfirst.2 hnext⟩)
      ⟨⟨world, [], hworld, .nil _⟩, hinitial world hworld⟩
  exact hboth.2

/-! ### Running one call against a handler -/

section Handler

variable (handler : (request : S.Request) → machine.World →
  Except ε (S.Result request) × machine.World)

/-- One call goes on by itself for up to `count` requests, each answered at once. -/
def State.advance (state : machine.State) (count : Nat) (id : ι) : machine.State :=
  match state.threads id with
  | some ⟨call, trace, .running program⟩ =>
      let (events, rest, world) := program.runFor handler count state.world
      ⟨world, Function.update state.threads id (some ⟨call, trace ++ events, .running rest⟩)⟩
  | _ => state

variable {handler}

theorem State.threads_advance {id other : ι} (hne : other ≠ id) (state : machine.State)
    (count : Nat) : (state.advance handler count id).threads other = state.threads other := by
  unfold State.advance
  split
  · exact Function.update_of_ne hne ..
  · rfl

theorem Reachable.runFor {state : machine.State} (hreachable : machine.Reachable state)
    (hperform : ∀ request world,
      machine.perform request world (handler request world).1 (handler request world).2)
    {id : ι} {call : machine.Call} {trace : List (Event S ε)} {program : Program S ε α}
    (hthread : state.threads id = some ⟨call, trace, .running program⟩) (count : Nat) :
    machine.Reachable
      ⟨(program.runFor handler count state.world).2.2, Function.update state.threads id
        (some ⟨call, trace ++ (program.runFor handler count state.world).1,
          .running (program.runFor handler count state.world).2.1⟩)⟩ := by
  have hsame : machine.Reachable ⟨state.world, Function.update state.threads id
      (some ⟨call, trace ++ [], .running program⟩)⟩ := by
    rw [List.append_nil, ← hthread, Function.update_eq_self]
    exact hreachable
  induction count generalizing state trace program with
  | zero => exact hsame
  | succ count ih =>
      cases program with
      | ret value => exact hsame
      | raise error => exact hsame
      | ask request continuation =>
          have hinvoke := Step.invoke id request continuation hthread rfl
          have hwaiting : (state.set id
              ⟨call, trace, .waiting request continuation⟩).threads id =
                some ⟨call, trace, .waiting request continuation⟩ := Function.update_self ..
          have hanswer := Step.answer id request continuation _ hwaiting rfl
            (hperform request state.world)
          have hnext := (hreachable.step hinvoke).step hanswer
          have hlater := ih hnext (Function.update_self ..) (by simpa using hnext)
          simpa [Program.runFor, State.set] using hlater

/-- A handler whose answers the service may give leads from reachable states to reachable ones. -/
theorem Reachable.advance {state : machine.State} (hreachable : machine.Reachable state)
    (hperform : ∀ request world,
      machine.perform request world (handler request world).1 (handler request world).2)
    (count : Nat) (id : ι) : machine.Reachable (state.advance handler count id) := by
  unfold State.advance
  split
  · next call trace program hthread => exact hreachable.runFor hperform hthread count
  · exact hreachable

end Handler

/-! ### Threads of a machine whose programs follow a protocol -/

/-- A protocol for each call, the phase it starts in, and what holds when it ends. -/
structure Discipline (machine : Machine S ι ε α) (φ : Type) where
  protocol : ι → machine.Call → Protocol S ε φ
  opening : ι → machine.Call → φ
  post : ι → machine.Call → φ → Except ε α → Prop
  follows : ∀ id call, (protocol id call).Follows (opening id call) (machine.program id call)
    (post id call)

variable (discipline : machine.Discipline φ)

namespace Discipline

def phase (id : ι) (thread : machine.Thread) : φ :=
  (discipline.protocol id thread.call).after (discipline.opening id thread.call) thread.trace

/-- What the state shows of its calls: the arguments and the phase of each. -/
def view (state : machine.State) (id : ι) : Option (machine.Call × φ) :=
  (state.threads id).map fun thread => (thread.call, discipline.phase id thread)

end Discipline

/-- A live thread still follows its protocol, from the phase its trace has brought it to. -/
def Discipline.Keeps (id : ι) (thread : machine.Thread) : Prop :=
  ∀ program, thread.status.remaining = some program →
    (discipline.protocol id thread.call).Follows (discipline.phase id thread) program
      (discipline.post id thread.call)

theorem threads_update {threads : ι → Option machine.Thread} {keeps : ι → machine.Thread → Prop}
    {id : ι} {thread : machine.Thread}
    (hthreads : ∀ other before, threads other = some before → keeps other before)
    (hthread : keeps id thread) :
    ∀ other later, Function.update threads id (some thread) other = some later →
      keeps other later := by
  intro other later hlater
  by_cases hid : other = id
  · subst hid
    simp only [Function.update_self, Option.some.injEq] at hlater
    exact hlater ▸ hthread
  · exact hthreads other later (by rwa [Function.update_of_ne hid] at hlater)

theorem Reachable.keeps {state : machine.State} (hreachable : machine.Reachable state) :
    ∀ id thread, state.threads id = some thread → discipline.Keeps id thread := by
  refine hreachable.induct (fun state => ∀ id thread, state.threads id = some thread →
    discipline.Keeps id thread) ?_ ?_
  · intro world _ id thread hthread
    cases hthread
  · intro first action second _ ih hstep
    cases hstep with
    | start id call habsent =>
        refine threads_update ih ?_
        rintro _ ⟨⟩
        exact discipline.follows id call
    | @invoke thread id request continuation hthread hrunning =>
        refine threads_update ih ?_
        rintro _ ⟨⟩
        exact ih id thread hthread _ (by rw [hrunning]; rfl)
    | @answer thread world id request continuation answer hthread hwaiting hperform =>
        refine threads_update ih ?_
        rintro _ ⟨⟩
        have hask := ih id thread hthread (.ask request continuation) (by rw [hwaiting]; rfl)
        simpa [Discipline.phase] using hask.2 answer
    | @stop thread id hthread =>
        refine threads_update ih ?_
        rintro _ ⟨⟩

theorem Reachable.follows {state : machine.State} (hreachable : machine.Reachable state)
    {id : ι} {thread : machine.Thread} (hthread : state.threads id = some thread)
    {program : Program S ε α} (hremaining : thread.status.remaining = some program) :
    (discipline.protocol id thread.call).Follows (discipline.phase id thread) program
      (discipline.post id thread.call) :=
  hreachable.keeps discipline id thread hthread program hremaining

/-- A request is only invoked in a phase that allows it. -/
theorem Reachable.allows {state : machine.State} (hreachable : machine.Reachable state)
    {id : ι} {thread : machine.Thread} (hthread : state.threads id = some thread)
    {request : S.Request} {continuation : Except ε (S.Result request) → Program S ε α}
    (hremaining : thread.status.remaining = some (.ask request continuation)) :
    (discipline.protocol id thread.call).allows (discipline.phase id thread) request :=
  (hreachable.follows discipline hthread hremaining).1

/-- What a finished call returned satisfies the condition at its end. -/
theorem Reachable.post_of_ret {state : machine.State} (hreachable : machine.Reachable state)
    {id : ι} {thread : machine.Thread} (hthread : state.threads id = some thread) {value : α}
    (hstatus : thread.status = .running (.ret value)) :
    discipline.post id thread.call (discipline.phase id thread) (.ok value) := by
  have hremaining : thread.status.remaining = some (.ret value) := by
    rw [hstatus]
    rfl
  exact hreachable.follows discipline hthread hremaining

theorem Reachable.post_of_raise {state : machine.State} (hreachable : machine.Reachable state)
    {id : ι} {thread : machine.Thread} (hthread : state.threads id = some thread) {error : ε}
    (hstatus : thread.status = .running (.raise error)) :
    discipline.post id thread.call (discipline.phase id thread) (.error error) := by
  have hremaining : thread.status.remaining = some (.raise error) := by
    rw [hstatus]
    rfl
  exact hreachable.follows discipline hthread hremaining

/-- Every answered request of a thread was allowed when it was made. -/
theorem Reachable.allowed {state : machine.State} (hreachable : machine.Reachable state) :
    ∀ id thread, state.threads id = some thread →
      (discipline.protocol id thread.call).Allowed (discipline.opening id thread.call)
        thread.trace := by
  refine hreachable.induct (fun state => ∀ id thread, state.threads id = some thread →
    (discipline.protocol id thread.call).Allowed (discipline.opening id thread.call)
      thread.trace) ?_ ?_
  · intro world _ id thread hthread
    cases hthread
  · intro first action second hfirst ih hstep
    cases hstep with
    | start id call habsent => exact threads_update ih trivial
    | @invoke thread id request continuation hthread hrunning =>
        exact threads_update ih (ih id thread hthread)
    | @answer thread world id request continuation answer hthread hwaiting hperform =>
        refine threads_update ih ?_
        have hremaining : thread.status.remaining = some (.ask request continuation) := by
          rw [hwaiting]
          rfl
        exact Protocol.allowed_append.mpr ⟨ih id thread hthread,
          hfirst.allows discipline hthread hremaining, trivial⟩
    | @stop thread id hthread => exact threads_update ih (ih id thread hthread)

/-- A request with no answer yet is allowed in the phase its call is in, also after a stop. -/
theorem Reachable.allows_pending {state : machine.State} (hreachable : machine.Reachable state) :
    ∀ id thread, state.threads id = some thread → ∀ request,
      thread.status.pending = some request →
      (discipline.protocol id thread.call).allows (discipline.phase id thread) request := by
  refine hreachable.induct (fun state => ∀ id thread, state.threads id = some thread →
    ∀ request, thread.status.pending = some request →
      (discipline.protocol id thread.call).allows (discipline.phase id thread) request) ?_ ?_
  · intro world _ id thread hthread
    cases hthread
  · intro first action second hfirst ih hstep
    cases hstep with
    | start id call habsent =>
        refine threads_update ih ?_
        rintro _ ⟨⟩
    | @invoke thread id request continuation hthread hrunning =>
        refine threads_update ih ?_
        rintro _ ⟨⟩
        exact hfirst.allows discipline hthread (by rw [hrunning]; rfl)
    | @answer thread world id request continuation answer hthread hwaiting hperform =>
        refine threads_update ih ?_
        rintro _ ⟨⟩
    | @stop thread id hthread =>
        refine threads_update ih ?_
        intro request hpending
        exact ih id thread hthread request hpending

/-- A call keeps its arguments, and what it has invoked stays invoked. -/
theorem Step.invoked {first second : machine.State} {action : machine.Label}
    (hstep : machine.Step first action second) {id : ι} {thread : machine.Thread}
    (hthread : first.threads id = some thread) {request : S.Request}
    (hinvoked : thread.Invoked request) :
    ∃ later, second.threads id = some later ∧ later.call = thread.call ∧
      later.Invoked request := by
  have hkept {other : ι} {later : machine.Thread}
      (hlater : other = id → later.call = thread.call ∧ later.Invoked request) :
      ∃ later', Function.update first.threads other (some later) id = some later' ∧
        later'.call = thread.call ∧ later'.Invoked request := by
    by_cases hid : id = other
    · subst hid
      exact ⟨later, Function.update_self .., hlater rfl⟩
    · exact ⟨thread, by rwa [Function.update_of_ne hid], rfl, hinvoked⟩
  cases hstep with
  | start other call habsent =>
      refine hkept fun heq => ?_
      rw [heq, hthread] at habsent
      cases habsent
  | @invoke before other asked continuation hbefore hrunning =>
      refine hkept fun heq => ?_
      rw [heq, hthread] at hbefore
      cases hbefore
      refine ⟨rfl, hinvoked.imp_right fun hpending => ?_⟩
      rw [hrunning] at hpending
      cases hpending
  | @answer before world other asked continuation answer hbefore hwaiting hperform =>
      refine hkept fun heq => ?_
      rw [heq, hthread] at hbefore
      cases hbefore
      refine ⟨rfl, .inl ?_⟩
      rcases hinvoked with ⟨event, hevent, hrequest⟩ | hpending
      · exact ⟨event, List.mem_append_left _ hevent, hrequest⟩
      · rw [hwaiting] at hpending
        cases hpending
        exact ⟨_, List.mem_append_right _ (List.mem_singleton_self _), rfl⟩
  | @stop before other hbefore =>
      refine hkept fun heq => ?_
      rw [heq, hthread] at hbefore
      cases hbefore
      exact ⟨rfl, hinvoked⟩

/-! ### The view induction rule -/

/-- How a step changes what is seen of the state: a call starts, an allowed request is answered, or
nothing visible happens. -/
theorem Step.view_cases {first second : machine.State} {action : machine.Label}
    (hreachable : machine.Reachable first) (hstep : machine.Step first action second) :
    (∃ id call, action = .start id call ∧ second.world = first.world ∧
      discipline.view first id = none ∧
      discipline.view second = Function.update (discipline.view first) id
        (some (call, discipline.opening id call))) ∨
    (∃ id call phase request answer, action = .answer id call ⟨request, answer⟩ ∧
      discipline.view first id = some (call, phase) ∧
      (discipline.protocol id call).allows phase request ∧
      machine.perform request first.world answer second.world ∧
      discipline.view second = Function.update (discipline.view first) id
        (some (call, (discipline.protocol id call).next phase request answer))) ∨
    (second.world = first.world ∧ discipline.view second = discipline.view first) := by
  cases hstep with
  | start id call habsent =>
      refine .inl ⟨id, call, rfl, rfl, by simp [Discipline.view, habsent], ?_⟩
      funext other
      by_cases hid : other = id
      · subst hid
        simp [Discipline.view, State.set, Discipline.phase]
      · simp [Discipline.view, State.set, Function.update_of_ne hid]
  | @invoke thread id request continuation hthread hrunning =>
      refine .inr (.inr ⟨rfl, ?_⟩)
      funext other
      by_cases hid : other = id
      · subst hid
        simp [Discipline.view, State.set, hthread, Discipline.phase]
      · simp [Discipline.view, State.set, Function.update_of_ne hid]
  | @answer thread world id request continuation answer hthread hwaiting hperform =>
      refine .inr (.inl ⟨id, thread.call, discipline.phase id thread, request, answer, rfl,
        by simp [Discipline.view, hthread], ?_, hperform, ?_⟩)
      · have hremaining : thread.status.remaining = some (.ask request continuation) := by
          rw [hwaiting]
          rfl
        exact hreachable.allows discipline hthread hremaining
      · funext other
        by_cases hid : other = id
        · subst hid
          simp [Discipline.view, Discipline.phase]
        · simp [Discipline.view, Function.update_of_ne hid]
  | @stop thread id hthread =>
      refine .inr (.inr ⟨rfl, ?_⟩)
      funext other
      by_cases hid : other = id
      · subst hid
        simp [Discipline.view, State.set, hthread, Discipline.phase]
      · simp [Discipline.view, State.set, Function.update_of_ne hid]

theorem Reachable.view (invariant : machine.World → (ι → Option (machine.Call × φ)) → Prop)
    (hinitial : ∀ world, machine.initial world → invariant world fun _ => none)
    (hstart : ∀ world phases id call, invariant world phases → phases id = none →
      invariant world (Function.update phases id (some (call, discipline.opening id call))))
    (hanswer : ∀ world later phases id call phase request answer, invariant world phases →
      phases id = some (call, phase) → (discipline.protocol id call).allows phase request →
      machine.perform request world answer later →
      invariant later (Function.update phases id
        (some (call, (discipline.protocol id call).next phase request answer))))
    {state : machine.State} (hreachable : machine.Reachable state) :
    invariant state.world (discipline.view state) := by
  refine hreachable.induct (fun state => invariant state.world (discipline.view state))
    hinitial ?_
  intro first action second hfirst ih hstep
  rcases hstep.view_cases discipline hfirst with
    ⟨id, call, -, hworld, habsent, hview⟩ |
    ⟨id, call, phase, request, answer, -, hphase, hallows, hperform, hview⟩ | ⟨hworld, hview⟩
  · rw [hworld, hview]
    exact hstart _ _ _ _ ih habsent
  · rw [hview]
    exact hanswer _ _ _ _ _ _ _ _ ih hphase hallows hperform
  · rw [hworld, hview]
    exact ih

end Machine

end Effect
