import Mathlib.Tactic.Common

/-!
# Programs that call a service

A program computes on its own until it asks the service for something. The service answers with a
value or with an error, and the program continues from either: what a caller does with an error is
part of the program. Nothing is assumed about the answers here; a run is a program together with the
answers it received.
-/

namespace Effect

/-- What a program may ask of the service, and the type of a successful answer to each request. -/
structure Signature where
  Request : Type
  Result : Request → Type

structure Event (S : Signature) (ε : Type) where
  request : S.Request
  answer : Except ε (S.Result request)

inductive Program (S : Signature) (ε α : Type)
  | ret (value : α)
  | raise (error : ε)
  | ask (request : S.Request) (continuation : Except ε (S.Result request) → Program S ε α)

namespace Program

variable {S : Signature} {ε α β γ : Type}

def bind (program : Program S ε α) (next : α → Program S ε β) : Program S ε β :=
  match program with
  | .ret value => next value
  | .raise error => .raise error
  | .ask request continuation => .ask request fun answer => (continuation answer).bind next

instance : Monad (Program S ε) where
  pure := .ret
  bind := bind

/-- Run a program and hand its error over as a value. -/
def attempt (program : Program S ε α) : Program S ε (Except ε α) :=
  match program with
  | .ret value => .ret (.ok value)
  | .raise error => .ret (.error error)
  | .ask request continuation => .ask request fun answer => (continuation answer).attempt

def ofExcept (outcome : Except ε α) : Program S ε α :=
  match outcome with
  | .ok value => .ret value
  | .error error => .raise error

/-- Ask, and raise the service's error if it answers with one. -/
def call (request : S.Request) : Program S ε (S.Result request) :=
  .ask request ofExcept

instance : MonadExceptOf ε (Program S ε) where
  throw := .raise
  tryCatch program handler := program.attempt.bind fun outcome =>
    match outcome with
    | .ok value => .ret value
    | .error error => handler error

theorem bind_eq (program : Program S ε α) (next : α → Program S ε β) :
    program >>= next = program.bind next := rfl

theorem throw_eq (error : ε) : (throw error : Program S ε α) = .raise error := rfl

theorem bind_assoc (program : Program S ε α) (next : α → Program S ε β)
    (last : β → Program S ε γ) :
    (program.bind next).bind last = program.bind fun value => (next value).bind last := by
  induction program with
  | ret value => rfl
  | raise error => rfl
  | ask request continuation ih =>
      simp only [bind]
      congr 1
      funext answer
      exact ih answer

/-! ### Runs -/

/-- A complete run: the requests asked with the answers received, and how the program ended. -/
inductive Runs : Program S ε α → List (Event S ε) → Except ε α → Prop
  | ret (value : α) : Runs (.ret value) [] (.ok value)
  | raise (error : ε) : Runs (.raise error) [] (.error error)
  | ask (request : S.Request) (continuation : Except ε (S.Result request) → Program S ε α)
      (answer : Except ε (S.Result request)) {trace : List (Event S ε)} {result : Except ε α}
      (hrest : Runs (continuation answer) trace result) :
      Runs (.ask request continuation) (⟨request, answer⟩ :: trace) result

@[simp]
theorem runs_ret {value : α} {trace : List (Event S ε)} {result : Except ε α} :
    Runs (.ret value) trace result ↔ trace = [] ∧ result = .ok value := by
  constructor
  · rintro ⟨⟩
    exact ⟨rfl, rfl⟩
  · rintro ⟨rfl, rfl⟩
    exact .ret value

@[simp]
theorem runs_raise {error : ε} {trace : List (Event S ε)} {result : Except ε α} :
    Runs (.raise error : Program S ε α) trace result ↔ trace = [] ∧ result = .error error := by
  constructor
  · rintro ⟨⟩
    exact ⟨rfl, rfl⟩
  · rintro ⟨rfl, rfl⟩
    exact .raise error

theorem runs_ask {request : S.Request}
    {continuation : Except ε (S.Result request) → Program S ε α}
    {trace : List (Event S ε)} {result : Except ε α} :
    Runs (.ask request continuation) trace result ↔
      ∃ answer rest, trace = ⟨request, answer⟩ :: rest ∧
        Runs (continuation answer) rest result := by
  constructor
  · rintro ⟨⟩
    exact ⟨_, _, rfl, ‹_›⟩
  · rintro ⟨answer, rest, rfl, hrest⟩
    exact .ask request continuation answer hrest

/-- A run of a sequence is a run of its first part, followed by one of the second if the first
returned. -/
theorem runs_bind {program : Program S ε α} {next : α → Program S ε β}
    {trace : List (Event S ε)} {result : Except ε β} :
    Runs (program.bind next) trace result ↔
      (∃ value first rest, trace = first ++ rest ∧ Runs program first (.ok value) ∧
        Runs (next value) rest result) ∨
      ∃ error, result = .error error ∧ Runs program trace (.error error) := by
  induction program generalizing trace with
  | ret value => simp [bind]
  | raise error =>
      simp only [bind, runs_raise]
      constructor
      · rintro ⟨rfl, rfl⟩
        exact .inr ⟨error, rfl, rfl, rfl⟩
      · rintro (⟨value, first, rest, rfl, ⟨-, hvalue⟩, -⟩ | ⟨error', rfl, rfl, herror⟩)
        · cases hvalue
        · cases herror
          exact ⟨rfl, rfl⟩
  | ask request continuation ih =>
      simp only [bind, runs_ask, ih]
      constructor
      · rintro ⟨answer, tail, rfl, ⟨value, first, rest, rfl, hfirst, hrest⟩ | ⟨error, rfl, htail⟩⟩
        · exact .inl ⟨value, ⟨request, answer⟩ :: first, rest, rfl,
            ⟨answer, first, rfl, hfirst⟩, hrest⟩
        · exact .inr ⟨error, rfl, answer, tail, rfl, htail⟩
      · rintro (⟨value, -, rest, rfl, ⟨answer, first, rfl, hfirst⟩, hrest⟩ |
          ⟨error, rfl, answer, tail, rfl, htail⟩)
        · exact ⟨answer, first ++ rest, rfl, .inl ⟨value, first, rest, rfl, hfirst, hrest⟩⟩
        · exact ⟨answer, tail, rfl, .inr ⟨error, rfl, htail⟩⟩

theorem runs_attempt {program : Program S ε α} {trace : List (Event S ε)}
    {result : Except ε (Except ε α)} :
    Runs program.attempt trace result ↔ ∃ outcome, result = .ok outcome ∧
      Runs program trace outcome := by
  induction program generalizing trace with
  | ret value =>
      simp only [attempt, runs_ret]
      constructor
      · rintro ⟨rfl, rfl⟩
        exact ⟨_, rfl, rfl, rfl⟩
      · rintro ⟨_, rfl, rfl, rfl⟩
        exact ⟨rfl, rfl⟩
  | raise error =>
      simp only [attempt, runs_ret, runs_raise]
      constructor
      · rintro ⟨rfl, rfl⟩
        exact ⟨_, rfl, rfl, rfl⟩
      · rintro ⟨_, rfl, rfl, rfl⟩
        exact ⟨rfl, rfl⟩
  | ask request continuation ih =>
      simp only [attempt, runs_ask, ih]
      constructor
      · rintro ⟨answer, rest, rfl, outcome, rfl, hrest⟩
        exact ⟨outcome, rfl, answer, rest, rfl, hrest⟩
      · rintro ⟨outcome, rfl, answer, rest, rfl, hrest⟩
        exact ⟨answer, rest, rfl, outcome, rfl, hrest⟩

theorem runs_ofExcept {outcome : Except ε α} {trace : List (Event S ε)} {result : Except ε α} :
    Runs (ofExcept outcome : Program S ε α) trace result ↔ trace = [] ∧ result = outcome := by
  cases outcome <;> simp [ofExcept]

/-- A run that starts with a pure step is a run of the rest, unless the step raised. -/
theorem runs_ofExcept_bind {outcome : Except ε α} {next : α → Program S ε β}
    {trace : List (Event S ε)} {result : Except ε β} :
    Runs (ofExcept outcome >>= next) trace result ↔
      (∃ value, outcome = .ok value ∧ Runs (next value) trace result) ∨
      ∃ error, outcome = .error error ∧ trace = [] ∧ result = .error error := by
  rw [bind_eq]
  cases outcome with
  | ok value => simp [ofExcept, bind]
  | error error => simp [ofExcept, bind]

/-- Every run of a sequence starts with a run of its first part. -/
theorem exists_first_of_runs {program : Program S ε α} {next : α → Program S ε β}
    {trace : List (Event S ε)} {result : Except ε β}
    (hruns : Runs (program >>= next) trace result) :
    ∃ first rest outcome, trace = first ++ rest ∧ Runs program first outcome := by
  rw [bind_eq, runs_bind] at hruns
  rcases hruns with ⟨value, first, rest, htrace, hfirst, -⟩ | ⟨error, -, herror⟩
  · exact ⟨first, rest, .ok value, htrace, hfirst⟩
  · exact ⟨trace, [], .error error, by rw [List.append_nil], herror⟩

/-- A pure step that returned leaves the rest. -/
theorem runs_of_ofExcept_ok {outcome : Except ε α} {value : α} (houtcome : outcome = .ok value)
    {next : α → Program S ε β} {trace : List (Event S ε)} {result : Except ε β}
    (hruns : Runs (ofExcept outcome >>= next) trace result) : Runs (next value) trace result := by
  rcases runs_ofExcept_bind.mp hruns with ⟨found, hfound, hrest⟩ | ⟨error, herror, -⟩
  · rw [houtcome] at hfound
    cases hfound
    exact hrest
  · rw [houtcome] at herror
    cases herror

/-- A run that returned went through all of its parts. -/
theorem runs_bind_ok {program : Program S ε α} {next : α → Program S ε β}
    {trace : List (Event S ε)} {value : β} :
    Runs (program >>= next) trace (.ok value) ↔
      ∃ first before after, trace = before ++ after ∧ Runs program before (.ok first) ∧
        Runs (next first) after (.ok value) := by
  rw [bind_eq, runs_bind]
  simp

theorem runs_ofExcept_bind_ok {outcome : Except ε α} {next : α → Program S ε β}
    {trace : List (Event S ε)} {value : β} :
    Runs (ofExcept outcome >>= next) trace (.ok value) ↔
      ∃ first, outcome = .ok first ∧ Runs (next first) trace (.ok value) := by
  rw [runs_ofExcept_bind]
  simp

theorem runs_call {request : S.Request} {trace : List (Event S ε)}
    {result : Except ε (S.Result request)} :
    Runs (call request) trace result ↔ trace = [⟨request, result⟩] := by
  simp only [call, runs_ask, runs_ofExcept]
  constructor
  · rintro ⟨answer, rest, rfl, rfl, rfl⟩
    rfl
  · rintro rfl
    exact ⟨result, [], rfl, rfl, rfl⟩

/-! ### Running against a handler -/

variable {World : Type}

/-- Run a program against a service that answers from its own state. -/
def runWith (handler : (request : S.Request) → World → Except ε (S.Result request) × World)
    (program : Program S ε α) (world : World) : Except ε α × World :=
  match program with
  | .ret value => (.ok value, world)
  | .raise error => (.error error, world)
  | .ask request continuation =>
      (continuation (handler request world).1).runWith handler (handler request world).2

variable {handler : (request : S.Request) → World → Except ε (S.Result request) × World}

theorem runWith_bind (program : Program S ε α) (next : α → Program S ε β) (world : World) :
    (program.bind next).runWith handler world =
      match program.runWith handler world with
      | (.ok value, later) => (next value).runWith handler later
      | (.error error, later) => (.error error, later) := by
  induction program generalizing world with
  | ret value => rfl
  | raise error => rfl
  | ask request continuation ih => exact ih _ _

theorem runWith_attempt (program : Program S ε α) (world : World) :
    program.attempt.runWith handler world =
      (.ok (program.runWith handler world).1, (program.runWith handler world).2) := by
  induction program generalizing world with
  | ret value => rfl
  | raise error => rfl
  | ask request continuation ih => exact ih _ _

@[simp]
theorem runWith_ofExcept (outcome : Except ε α) (world : World) :
    (ofExcept outcome : Program S ε α).runWith handler world = (outcome, world) := by
  cases outcome <;> rfl

/-- The events of `runWith`. -/
def traceWith (handler : (request : S.Request) → World → Except ε (S.Result request) × World)
    (program : Program S ε α) (world : World) : List (Event S ε) :=
  match program with
  | .ret _ => []
  | .raise _ => []
  | .ask request continuation =>
      ⟨request, (handler request world).1⟩ ::
        (continuation (handler request world).1).traceWith handler (handler request world).2

theorem runs_traceWith (program : Program S ε α) (world : World) :
    Runs program (program.traceWith handler world) (program.runWith handler world).1 := by
  induction program generalizing world with
  | ret value => exact .ret value
  | raise error => exact .raise error
  | ask request continuation ih => exact .ask _ _ _ (ih _ _)

/-- The first `count` requests of a program: their events, what is left of it, and the state. -/
def runFor (handler : (request : S.Request) → World → Except ε (S.Result request) × World) :
    Nat → Program S ε α → World → List (Event S ε) × Program S ε α × World
  | count + 1, .ask request continuation, world =>
      let (events, rest, later) := (continuation (handler request world).1).runFor handler count
        (handler request world).2
      (⟨request, (handler request world).1⟩ :: events, rest, later)
  | _, program, world => ([], program, world)

/-- The events are the handler's answers to their requests, one after the other. -/
inductive Follows (handler : (request : S.Request) → World → Except ε (S.Result request) × World) :
    World → List (Event S ε) → World → Prop
  | nil (world : World) : Follows handler world [] world
  | cons (request : S.Request) (world : World) {trace : List (Event S ε)} {later : World}
      (hrest : Follows handler (handler request world).2 trace later) :
      Follows handler world (⟨request, (handler request world).1⟩ :: trace) later

theorem follows_nil {world later : World} :
    Follows handler world [] later ↔ later = world := by
  constructor
  · rintro ⟨⟩
    rfl
  · rintro rfl
    exact .nil later

theorem follows_cons {world later : World} {event : Event S ε} {trace : List (Event S ε)} :
    Follows handler world (event :: trace) later ↔
      event.answer = (handler event.request world).1 ∧
        Follows handler (handler event.request world).2 trace later := by
  constructor
  · rintro ⟨⟩
    exact ⟨rfl, ‹_›⟩
  · obtain ⟨request, answer⟩ := event
    rintro ⟨hanswer, hrest⟩
    dsimp only at hanswer hrest
    rw [hanswer]
    exact .cons request world hrest

theorem follows_append {world later : World} {first second : List (Event S ε)} :
    Follows handler world (first ++ second) later ↔
      ∃ middle, Follows handler world first middle ∧ Follows handler middle second later := by
  induction first generalizing world with
  | nil => simp [follows_nil]
  | cons event first ih =>
      rw [List.cons_append, follows_cons, ih]
      constructor
      · rintro ⟨hanswer, middle, hfirst, hsecond⟩
        exact ⟨middle, follows_cons.mpr ⟨hanswer, hfirst⟩, hsecond⟩
      · rintro ⟨middle, hfirst, hsecond⟩
        obtain ⟨hanswer, hrest⟩ := follows_cons.mp hfirst
        exact ⟨hanswer, middle, hrest, hsecond⟩

theorem follows_traceWith (program : Program S ε α) (world : World) :
    Follows handler world (program.traceWith handler world) (program.runWith handler world).2 := by
  induction program generalizing world with
  | ret value => exact .nil world
  | raise error => exact .nil world
  | ask request continuation ih => exact .cons request world (ih _ _)

/-- A handler leaves a program one run. -/
theorem traceWith_of_runs {program : Program S ε α} {world later : World}
    {trace : List (Event S ε)} {result : Except ε α} (hruns : Runs program trace result)
    (hfollows : Follows handler world trace later) :
    program.traceWith handler world = trace ∧ program.runWith handler world = (result, later) := by
  induction hruns generalizing world with
  | ret value =>
      cases hfollows
      exact ⟨rfl, rfl⟩
  | raise error =>
      cases hfollows
      exact ⟨rfl, rfl⟩
  | ask request continuation answer _ ih =>
      cases hfollows with
      | cons request world hrest =>
          obtain ⟨htrace, hresult⟩ := ih hrest
          refine ⟨?_, hresult⟩
          rw [traceWith, htrace]

theorem forall_mem_traceWith {holds : Event S ε → Prop}
    (hanswer : ∀ request world, holds ⟨request, (handler request world).1⟩)
    (program : Program S ε α) (world : World) :
    ∀ event ∈ program.traceWith handler world, holds event := by
  induction program generalizing world with
  | ret value => simp [traceWith]
  | raise error => simp [traceWith]
  | ask request continuation ih =>
      exact List.forall_mem_cons.mpr ⟨hanswer request world, ih _ _⟩

theorem runWith_call (request : S.Request) (world : World) :
    (call request : Program S ε (S.Result request)).runWith handler world =
      handler request world :=
  runWith_ofExcept _ _

end Program

end Effect
