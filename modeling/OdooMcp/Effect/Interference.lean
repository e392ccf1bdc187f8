import Mathlib.Logic.Relation
import OdooMcp.Effect.Program

/-!
# Programs among others

Between the requests of a program others may move the world it shares with them. An assertion that
no step of theirs breaks is stable, and what a program asserts before a request has to be: the rules
below follow a program through its requests, each answered in a world that the others have moved on.
-/

namespace Effect

variable {S : Signature} {ε α β World : Type}

/-- No step of the others breaks the assertion. -/
def Stable (others : World → World → Prop) (assertion : World → Prop) : Prop :=
  ∀ before after, others before after → assertion before → assertion after

namespace Stable

variable {others : World → World → Prop} {first second : World → Prop}

theorem and (hfirst : Stable others first) (hsecond : Stable others second) :
    Stable others fun world => first world ∧ second world := by
  rintro before after hothers ⟨hone, htwo⟩
  exact ⟨hfirst before after hothers hone, hsecond before after hothers htwo⟩

/-- Nor does any number of their steps. -/
theorem steps (hstable : Stable others first) {before after : World}
    (hothers : Relation.ReflTransGen others before after) (hbefore : first before) :
    first after := by
  induction hothers with
  | refl => exact hbefore
  | tail _ hstep ih => exact hstable _ _ hstep ih

end Stable

namespace Program

/-- A complete run among others: they move the world before every request, and the service answers
it and moves the world in one step. -/
inductive Interfered
    (perform : (request : S.Request) → World → Except ε (S.Result request) → World → Prop)
    (others : World → World → Prop) : World → Program S ε α → Except ε α → World → Prop
  | ret (value : α) (world : World) : Interfered perform others world (.ret value) (.ok value) world
  | raise (error : ε) (world : World) :
      Interfered perform others world (.raise error) (.error error) world
  | ask {world before after last : World} {result : Except ε α} (request : S.Request)
      (continuation : Except ε (S.Result request) → Program S ε α)
      (answer : Except ε (S.Result request)) (hothers : Relation.ReflTransGen others world before)
      (hperform : perform request before answer after)
      (hrest : Interfered perform others after (continuation answer) result last) :
      Interfered perform others world (.ask request continuation) result last

variable {perform : (request : S.Request) → World → Except ε (S.Result request) → World → Prop}
  {others : World → World → Prop}

theorem interfered_bind {program : Program S ε α} {next : α → Program S ε β} {world last : World}
    {value : β} (hruns : Interfered perform others world (program >>= next) (.ok value) last) :
    ∃ first middle, Interfered perform others world program (.ok first) middle ∧
      Interfered perform others middle (next first) (.ok value) last := by
  rw [bind_eq] at hruns
  induction program generalizing world with
  | ret first => exact ⟨first, world, .ret first world, hruns⟩
  | raise error => cases hruns
  | ask request continuation ih =>
      cases hruns with
      | ask _ _ answer hothers hperform hrest =>
          obtain ⟨first, middle, hfirst, hnext⟩ := ih answer hrest
          exact ⟨first, middle, .ask request continuation answer hothers hperform hfirst, hnext⟩

/-- A service that answers one way, moving the world for others before each request, leaves the
program a run. -/
theorem interfered_runWith
    {handler : (request : S.Request) → World → Except ε (S.Result request) × World}
    (hhandler : ∀ request world, ∃ before, Relation.ReflTransGen others world before ∧
      perform request before (handler request world).1 (handler request world).2)
    (program : Program S ε α) (world : World) :
    Interfered perform others world program (program.runWith handler world).1
      (program.runWith handler world).2 := by
  induction program generalizing world with
  | ret value => exact .ret value world
  | raise error => exact .raise error world
  | ask request continuation ih =>
      obtain ⟨before, hothers, hperform⟩ := hhandler request world
      exact .ask request continuation _ hothers hperform (ih _ _)

/-! ### Assertions along a program -/

/-- Whenever the program returns, from a world that satisfies `pre` and whatever the others do, the
value and the world it leaves satisfy `post`. -/
def Ensures (perform : (request : S.Request) → World → Except ε (S.Result request) → World → Prop)
    (others : World → World → Prop) (pre : World → Prop) (program : Program S ε α)
    (post : α → World → Prop) : Prop :=
  ∀ world value last, pre world → Interfered perform others world program (.ok value) last →
    post value last

namespace Ensures

variable {pre : World → Prop} {post : α → World → Prop}

theorem ret {value : α} (hpost : ∀ world, pre world → post value world) :
    Ensures perform others pre (.ret value) post := by
  intro world _ last hpre hruns
  cases hruns
  exact hpost _ hpre

theorem raise {error : ε} : Ensures perform others pre (.raise error) post := by
  intro world value last hpre hruns
  cases hruns

/-- A pure step that returns leaves the world alone. -/
theorem ofExcept {outcome : Except ε α} :
    Ensures perform others pre (Program.ofExcept outcome) fun value world =>
      outcome = .ok value ∧ pre world := by
  cases outcome with
  | ok value => exact ret fun world hpre => ⟨rfl, hpre⟩
  | error error => exact raise

/-- What holds before a request has to be stable; what holds after it is up to the service. -/
theorem call {request : S.Request} {post : S.Result request → World → Prop}
    (hstable : Stable others pre)
    (hperform : ∀ before answer after, pre before → perform request before (.ok answer) after →
      post answer after) :
    Ensures perform others pre (Program.call request) post := by
  intro world value last hpre hruns
  cases hruns with
  | ask _ _ answer hothers hanswer hrest =>
      cases answer with
      | ok found =>
          cases hrest
          exact hperform _ _ _ (hstable.steps hothers hpre) hanswer
      | error error => cases hrest

theorem bind {between : α → World → Prop} {program : Program S ε α} {next : α → Program S ε β}
    {post : β → World → Prop} (hprogram : Ensures perform others pre program between)
    (hnext : ∀ value, Ensures perform others (between value) (next value) post) :
    Ensures perform others pre (program >>= next) post := by
  intro world value last hpre hruns
  obtain ⟨first, middle, hfirst, hrest⟩ := interfered_bind hruns
  exact hnext first middle value last (hprogram world first middle hpre hfirst) hrest

theorem mono {stronger : World → Prop} {weaker : α → World → Prop} {program : Program S ε α}
    (hprogram : Ensures perform others pre program post)
    (hpre : ∀ world, stronger world → pre world)
    (hpost : ∀ value world, post value world → weaker value world) :
    Ensures perform others stronger program weaker := by
  intro world value last hstronger hruns
  exact hpost _ _ (hprogram world value last (hpre world hstronger) hruns)

/-- What does not depend on the world can be used once it is known. -/
theorem assuming {fact : Prop} {program : Program S ε α}
    (hprogram : fact → Ensures perform others pre program post) :
    Ensures perform others (fun world => fact ∧ pre world) program post :=
  fun world value last hpre => hprogram hpre.1 world value last hpre.2

theorem exists_pre {κ : Type} {family : κ → World → Prop} {program : Program S ε α}
    (hprogram : ∀ index, Ensures perform others (family index) program post) :
    Ensures perform others (fun world => ∃ index, family index world) program post := by
  rintro world value last ⟨index, hindex⟩
  exact hprogram index world value last hindex

/-- A pure step in front leaves what it returned to be used. -/
theorem ofExcept_bind {outcome : Except ε α} {next : α → Program S ε β}
    {post : β → World → Prop}
    (hnext : ∀ value, outcome = .ok value → Ensures perform others pre (next value) post) :
    Ensures perform others pre (Program.ofExcept outcome >>= next) post :=
  ofExcept.bind fun value world last hlast hpre => hnext value hpre.1 world last hlast hpre.2

end Ensures

end Program

end Effect
