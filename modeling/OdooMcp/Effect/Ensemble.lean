import OdooMcp.Effect.Interleaving

/-!
# Programs side by side

Several programs run on one world. A step answers the next request of one of them, atomically, so
that a path through the ensemble is an interleaving of the programs at the granularity of their
requests. Which answers a request can get, and what it does to the world, is a relation.
-/

namespace Effect

theorem StepPath.relates_append {σ label : Type} {step : σ → label → σ → Prop} {first last : σ}
    {actions : List label} (hpath : StepPath step first actions last)
    (relation : σ → List label → Prop)
    (hstep : ∀ state earlier action later, relation state earlier → step state action later →
      relation later (earlier ++ [action])) {earlier : List label}
    (hfirst : relation first earlier) : relation last (earlier ++ actions) := by
  induction hpath generalizing earlier with
  | nil state => rwa [List.append_nil]
  | @cons first second last action actions hnext _ ih =>
      have hlast := ih (hstep _ _ _ _ hfirst hnext)
      rwa [List.append_assoc] at hlast

/-- What every step keeps up between the state and the labels so far holds at the end. -/
theorem StepPath.relates {σ label : Type} {step : σ → label → σ → Prop} {first last : σ}
    {actions : List label} (hpath : StepPath step first actions last)
    (relation : σ → List label → Prop)
    (hstep : ∀ state earlier action later, relation state earlier → step state action later →
      relation later (earlier ++ [action])) (hfirst : relation first []) :
    relation last actions :=
  hpath.relates_append relation hstep hfirst

variable {S : Signature} {ι ε α World : Type}

structure Ensemble (S : Signature) (ι ε α World : Type) where
  world : World
  programs : ι → Program S ε α

namespace Ensemble

variable [DecidableEq ι]
  {perform : (request : S.Request) → World → Except ε (S.Result request) → World → Prop}

inductive Step
    (perform : (request : S.Request) → World → Except ε (S.Result request) → World → Prop) :
    Ensemble S ι ε α World → ι × Event S ε → Ensemble S ι ε α World → Prop
  | answer {ensemble : Ensemble S ι ε α World} (id : ι) (request : S.Request)
      (continuation : Except ε (S.Result request) → Program S ε α)
      (answer : Except ε (S.Result request)) (later : World)
      (hasks : ensemble.programs id = .ask request continuation)
      (hperform : perform request ensemble.world answer later) :
      Step perform ensemble (id, ⟨request, answer⟩)
        ⟨later, Function.update ensemble.programs id (continuation answer)⟩

/-- Every program has returned or raised. -/
def Ended (ensemble : Ensemble S ι ε α World) : Prop :=
  ∀ id, ∃ outcome, ensemble.programs id = .ofExcept outcome

omit [DecidableEq ι] in
theorem Ended.not_ask {ensemble : Ensemble S ι ε α World} (hended : ensemble.Ended) {id : ι}
    {request : S.Request} {continuation : Except ε (S.Result request) → Program S ε α} :
    ensemble.programs id ≠ .ask request continuation := by
  intro hasks
  obtain ⟨outcome, houtcome⟩ := hended id
  rw [hasks] at houtcome
  cases outcome <;> cases houtcome

/-! ### Following a schedule -/

/-- Let the programs move in this order, each request answered by the handler. -/
def follow (handler : (request : S.Request) → World → Except ε (S.Result request) × World) :
    List ι → Ensemble S ι ε α World → Option (List (ι × Event S ε) × Ensemble S ι ε α World)
  | [], ensemble => some ([], ensemble)
  | id :: rest, ensemble =>
      match ensemble.programs id with
      | .ask request continuation =>
          let answered := handler request ensemble.world
          (follow handler rest
            ⟨answered.2, Function.update ensemble.programs id (continuation answered.1)⟩).map
            fun reached => ((id, ⟨request, answered.1⟩) :: reached.1, reached.2)
      | .ret _ => none
      | .raise _ => none

theorem path_of_follow
    {handler : (request : S.Request) → World → Except ε (S.Result request) × World}
    (hperform : ∀ request world, perform request world (handler request world).1
      (handler request world).2) {schedule : List ι} {first last : Ensemble S ι ε α World}
    {events : List (ι × Event S ε)}
    (hfollow : follow handler schedule first = some (events, last)) :
    StepPath (Step perform) first events last := by
  induction schedule generalizing first events with
  | nil =>
      cases hfollow
      exact .nil _
  | cons id rest ih =>
      unfold follow at hfollow
      cases hasks : first.programs id with
      | ret value =>
          rw [hasks] at hfollow
          cases hfollow
      | raise error =>
          rw [hasks] at hfollow
          cases hfollow
      | ask request continuation =>
          rw [hasks] at hfollow
          obtain ⟨reached, hreached, hevents⟩ := Option.map_eq_some_iff.mp hfollow
          cases hevents
          exact .cons (.answer id request continuation _ _ hasks (hperform request _)) (ih hreached)

end Ensemble

end Effect
