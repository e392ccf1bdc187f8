import OdooMcp.Effect.Ensemble

/-!
# What an action settles for the actions behind it

An action of a path may settle something for good. Every later action of the path is then taken in
a state where that is settled, so two actions that exclude each other never both occur.
-/

namespace Effect

variable {σ label : Type} {step : σ → label → σ → Prop}

/-- What one state settles holds of every state a path reaches from there, and of every action the
path takes. -/
theorem StepPath.forall_mem {settled : σ → Prop} {allowed : label → Prop} {first last : σ}
    {actions : List label} (hpath : StepPath step first actions last) (hfirst : settled first)
    (hkept : ∀ before action later, settled before → step before action later → settled later)
    (hallowed : ∀ before action later, settled before → step before action later →
      allowed action) : ∀ action ∈ actions, allowed action := by
  induction hpath with
  | nil state => exact List.forall_mem_nil _
  | cons hstep _ ih =>
      rw [List.forall_mem_cons]
      exact ⟨hallowed _ _ _ hfirst hstep, ih (hkept _ _ _ hfirst hstep)⟩

/-- If what an action settles is kept, and an action in a state where it is settled is related to
it, then all actions of a path are related to the ones behind them. -/
theorem StepPath.pairwise {related : label → label → Prop} {first last : σ}
    {actions : List label} (settled : label → σ → Prop)
    (hpath : StepPath step first actions last)
    (hsettles : ∀ before action later, step before action later → settled action later)
    (hkept : ∀ action before other later, settled action before → step before other later →
      settled action later)
    (hrelated : ∀ action before other later, settled action before → step before other later →
      related action other) : actions.Pairwise related := by
  induction hpath with
  | nil state => exact List.Pairwise.nil
  | cons hstep hrest ih =>
      rw [List.pairwise_cons]
      exact ⟨hrest.forall_mem (hsettles _ _ _ hstep) (hkept _) (hrelated _), ih⟩

/-- The actions of a path up to one of them, and those behind it. -/
theorem StepPath.split {first last : σ} {before after : List label} {action : label}
    (hpath : StepPath step first (before ++ action :: after) last) :
    ∃ state later, StepPath step first before state ∧ step state action later ∧
      StepPath step later after last := by
  induction before generalizing first with
  | nil =>
      cases hpath with
      | cons hstep hrest => exact ⟨first, _, .nil first, hstep, hrest⟩
  | cons earlier before ih =>
      cases hpath with
      | cons hstep hrest =>
          obtain ⟨state, later, hbefore, haction, hafter⟩ := ih hrest
          exact ⟨state, later, .cons hstep hbefore, haction, hafter⟩

end Effect
