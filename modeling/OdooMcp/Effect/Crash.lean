import OdooMcp.Effect.Program

/-!
# Programs that may stop at any point

A process can be gone after any of its requests, and what it leaves is the world at that point.
`Program.Reaches` is a run as far as it got. `Program.Endures` follows a program through its
requests: the crash condition holds in every world on the way, the postcondition in those where it
ends. The rules compose the two along a sequence and along a handler.
-/

namespace Effect

namespace Program

variable {S : Signature} {ε α β World : Type}

/-- A run up to some point: the world it has come to and what is still to run. -/
inductive Reaches
    (perform : (request : S.Request) → World → Except ε (S.Result request) → World → Prop) :
    World → Program S ε α → World → Program S ε α → Prop
  | here (world : World) (program : Program S ε α) : Reaches perform world program world program
  | ask {world later last : World} {rest : Program S ε α} (request : S.Request)
      (continuation : Except ε (S.Result request) → Program S ε α)
      (answer : Except ε (S.Result request)) (hperform : perform request world answer later)
      (hrest : Reaches perform later (continuation answer) last rest) :
      Reaches perform world (.ask request continuation) last rest

variable {perform : (request : S.Request) → World → Except ε (S.Result request) → World → Prop}

namespace Reaches

variable {world middle last : World} {program rest : Program S ε α}

theorem trans {further : Program S ε α} (hfirst : Reaches perform world program middle further)
    (hsecond : Reaches perform middle further last rest) :
    Reaches perform world program last rest := by
  induction hfirst with
  | here world program => exact hsecond
  | ask request continuation answer hperform _ ih =>
      exact .ask request continuation answer hperform (ih hsecond)

/-- What a program reaches is reached in front of what follows it. -/
theorem bind (hprogram : Reaches perform world program last rest)
    (next : α → Program S ε β) :
    Reaches perform world (program >>= next) last (rest >>= next) := by
  induction hprogram with
  | here world program => exact .here world _
  | ask request continuation answer hperform _ ih => exact .ask request _ answer hperform ih

theorem attempt (hprogram : Reaches perform world program last rest) :
    Reaches perform world program.attempt last rest.attempt := by
  induction hprogram with
  | here world program => exact .here world _
  | ask request continuation answer hperform _ ih => exact .ask request _ answer hperform ih

theorem tryCatch (hprogram : Reaches perform world program last rest)
    (handler : ε → Program S ε α) :
    Reaches perform world (tryCatch program handler) last (tryCatch rest handler) :=
  hprogram.attempt.bind _

theorem call {request : S.Request} {answer : Except ε (S.Result request)}
    (hperform : perform request world answer last) :
    Reaches perform world (Program.call request) last (.ofExcept answer) :=
  .ask request _ answer hperform (.here last _)

theorem returned_bind {value : α} {next : α → Program S ε β} {further : Program S ε β}
    (hprogram : Reaches perform world program middle (.ret value))
    (hnext : Reaches perform middle (next value) last further) :
    Reaches perform world (program >>= next) last further :=
  (hprogram.bind next).trans hnext

end Reaches

theorem forM_append {item : Type} (first rest : List item) (visit : item → Program S ε PUnit) :
    forM (first ++ rest) visit = forM first visit >>= fun _ => forM rest visit := by
  induction first with
  | nil => rfl
  | cons one first ih =>
      rw [List.cons_append, List.forM_cons, List.forM_cons, ih]
      exact (bind_assoc _ _ _).symm

/-- A sequence that raised did so in its first part or after it. -/
theorem reaches_bind_raise {world last : World} {program : Program S ε α}
    {next : α → Program S ε β} {error : ε}
    (hreaches : Reaches perform world (program >>= next) last (.raise error)) :
    Reaches perform world program last (.raise error) ∨ ∃ value middle,
      Reaches perform world program middle (.ret value) ∧
        Reaches perform middle (next value) last (.raise error) := by
  rw [bind_eq] at hreaches
  induction program generalizing world with
  | ret value => exact .inr ⟨value, world, .here world _, hreaches⟩
  | raise raised =>
      cases hreaches
      exact .inl (.here _ _)
  | ask request continuation ih =>
      cases hreaches with
      | ask _ _ answer hperform hrest =>
          rcases ih answer hrest with hraised | ⟨value, middle, hreturned, hnext⟩
          · exact .inl (.ask request continuation answer hperform hraised)
          · exact .inr ⟨value, middle, .ask request continuation answer hperform hreturned, hnext⟩

/-- A pass over a list that raised had come to the item that raised. -/
theorem reaches_forM_raise {item : Type} {items : List item} {visit : item → Program S ε PUnit}
    {world last : World} {error : ε}
    (hreaches : Reaches perform world (forM items visit) last (.raise error)) :
    ∃ first one rest middle, items = first ++ one :: rest ∧
      Reaches perform world (forM first visit) middle (.ret ⟨⟩) ∧
      Reaches perform middle (visit one) last (.raise error) := by
  induction items generalizing world with
  | nil => cases hreaches
  | cons one items ih =>
      rw [List.forM_cons] at hreaches
      rcases reaches_bind_raise hreaches with hraised | ⟨_, middle, hvisited, hrest⟩
      · exact ⟨[], one, items, world, rfl, .here world _, hraised⟩
      · obtain ⟨first, other, rest, reached, rfl, hfirst, hraised⟩ := ih hrest
        refine ⟨one :: first, other, rest, reached, rfl, ?_, hraised⟩
        rw [List.forM_cons]
        exact hvisited.returned_bind hfirst

/-! ### Crash conditions -/

/-- Whatever the answers, the crash condition holds in every world that a run comes to, and the
postcondition where the run ends. -/
def Endures (perform : (request : S.Request) → World → Except ε (S.Result request) → World → Prop)
    (crash : World → Prop) (post : Except ε α → World → Prop) : Program S ε α → World → Prop
  | .ret value, world => crash world ∧ post (.ok value) world
  | .raise error, world => crash world ∧ post (.error error) world
  | .ask request continuation, world => crash world ∧ ∀ answer later,
      perform request world answer later → Endures perform crash post (continuation answer) later

namespace Endures

variable {crash : World → Prop} {post : Except ε α → World → Prop} {program rest : Program S ε α}
  {world last : World}

theorem crashed (hendures : Endures perform crash post program world) : crash world := by
  cases program with
  | ret value => exact hendures.1
  | raise error => exact hendures.1
  | ask request continuation => exact hendures.1

theorem of_reaches (hendures : Endures perform crash post program world)
    (hreaches : Reaches perform world program last rest) :
    Endures perform crash post rest last := by
  induction hreaches with
  | here world program => exact hendures
  | ask request continuation answer hperform _ ih => exact ih (hendures.2 answer _ hperform)

theorem returned {value : α} (hendures : Endures perform crash post program world)
    (hreaches : Reaches perform world program last (.ret value)) : post (.ok value) last :=
  (hendures.of_reaches hreaches).2

theorem raised {error : ε} (hendures : Endures perform crash post program world)
    (hreaches : Reaches perform world program last (.raise error)) : post (.error error) last :=
  (hendures.of_reaches hreaches).2

theorem mono {weaker : World → Prop} {weakerPost : Except ε α → World → Prop}
    (hendures : Endures perform crash post program world)
    (hcrash : ∀ later, crash later → weaker later)
    (hpost : ∀ outcome later, crash later → post outcome later → weakerPost outcome later) :
    Endures perform weaker weakerPost program world := by
  induction program generalizing world with
  | ret value => exact ⟨hcrash world hendures.1, hpost _ world hendures.1 hendures.2⟩
  | raise error => exact ⟨hcrash world hendures.1, hpost _ world hendures.1 hendures.2⟩
  | ask request continuation ih =>
      exact ⟨hcrash world hendures.1, fun answer later hperform =>
        ih answer (hendures.2 answer later hperform)⟩

theorem call {request : S.Request} {post : Except ε (S.Result request) → World → Prop}
    (hworld : crash world)
    (hperform : ∀ answer later, perform request world answer later →
      crash later ∧ post answer later) :
    Endures perform crash post (Program.call request) world := by
  refine ⟨hworld, fun answer later hanswer => ?_⟩
  cases answer with
  | ok value => exact hperform _ later hanswer
  | error error => exact hperform _ later hanswer

/-- An error of the first part is the error of the sequence. -/
theorem bind {between : Except ε α → World → Prop} {next : α → Program S ε β}
    {post : Except ε β → World → Prop} (hprogram : Endures perform crash between program world)
    (hnext : ∀ value later, crash later → between (.ok value) later →
      Endures perform crash post (next value) later)
    (hraise : ∀ error later, crash later → between (.error error) later →
      post (.error error) later) :
    Endures perform crash post (program >>= next) world := by
  induction program generalizing world with
  | ret value => exact hnext value world hprogram.1 hprogram.2
  | raise error => exact ⟨hprogram.1, hraise error world hprogram.1 hprogram.2⟩
  | ask request continuation ih =>
      exact ⟨hprogram.1, fun answer later hperform => ih answer (hprogram.2 answer later hperform)⟩

theorem tryCatch {between : Except ε α → World → Prop} {handler : ε → Program S ε α}
    (hprogram : Endures perform crash between program world)
    (hreturn : ∀ value later, crash later → between (.ok value) later → post (.ok value) later)
    (hhandler : ∀ error later, crash later → between (.error error) later →
      Endures perform crash post (handler error) later) :
    Endures perform crash post (tryCatch program handler) world := by
  induction program generalizing world with
  | ret value => exact ⟨hprogram.1, hreturn value world hprogram.1 hprogram.2⟩
  | raise error => exact hhandler error world hprogram.1 hprogram.2
  | ask request continuation ih =>
      exact ⟨hprogram.1, fun answer later hperform => ih answer (hprogram.2 answer later hperform)⟩

end Endures

/-! ### The requests so far, beside the world -/

/-- A service that also notes every request with its answer. -/
def Logged (perform : (request : S.Request) → World → Except ε (S.Result request) → World → Prop)
    (request : S.Request) (before : World × List (Event S ε)) (answer : Except ε (S.Result request))
    (later : World × List (Event S ε)) : Prop :=
  perform request before.1 answer later.1 ∧ later.2 = before.2 ++ [⟨request, answer⟩]

/-- What a handler leads a program to, the service may lead it to. -/
theorem reaches_runWith
    {handler : (request : S.Request) → World → Except ε (S.Result request) × World}
    (hperform : ∀ request world, perform request world (handler request world).1
      (handler request world).2)
    (program : Program S ε α) (world : World) (log : List (Event S ε)) :
    Reaches (Logged perform) (world, log) program
      ((program.runWith handler world).2, log ++ program.traceWith handler world)
      (ofExcept (program.runWith handler world).1) := by
  induction program generalizing world log with
  | ret value =>
      rw [traceWith, List.append_nil]
      exact .here _ _
  | raise error =>
      rw [traceWith, List.append_nil]
      exact .here _ _
  | ask request continuation ih =>
      have hrest := ih (handler request world).1 (handler request world).2
        (log ++ [⟨request, (handler request world).1⟩])
      rw [List.append_assoc] at hrest
      have hlogged : Logged perform request (world, log) (handler request world).1
          ((handler request world).2, log ++ [⟨request, (handler request world).1⟩]) :=
        ⟨hperform request world, rfl⟩
      exact .ask request continuation _ hlogged hrest

end Program

end Effect
