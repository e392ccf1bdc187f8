import Mathlib.Data.List.Destutter
import Mathlib.Data.List.ReduceOption

/-!
# Lifecycles

An object comes into being in an initial state and then moves along a relation. It is observed from
time to time, possibly not there yet. The states seen, repetitions left out, are a path from the
initial state; where the relation climbs a rank, no state is left twice.
-/

structure Lifecycle (S : Type) where
  initial : S
  next : S → S → Prop

namespace Lifecycle

variable {S : Type} (cycle : Lifecycle S)

/-- What two observations in a row can show. -/
inductive Step : Option S → Option S → Prop
  | absent : Step none none
  | created : Step none (some cycle.initial)
  | stays (state : S) : Step (some state) (some state)
  | moves {state later : S} (hnext : cycle.next state later) : Step (some state) (some later)

/-- A path that starts in the initial state, if it starts at all. -/
def IsPath (states : List S) : Prop :=
  states.IsChain cycle.next ∧ ∀ state ∈ states.head?, state = cycle.initial

/-- The states seen, repetitions left out. -/
def seen [DecidableEq S] (observations : List (Option S)) : List S :=
  observations.reduceOption.destutter (· ≠ ·)

variable {cycle}

theorem Step.some_right {state : S} {observed : Option S}
    (hstep : cycle.Step (some state) observed) :
    ∃ later, observed = some later ∧ (later = state ∨ cycle.next state later) := by
  cases hstep with
  | stays => exact ⟨state, rfl, .inl rfl⟩
  | moves hnext => exact ⟨_, rfl, .inr hnext⟩

section Path

variable [DecidableEq S]

theorem exists_destutter'_cons (state : S) (states : List S) :
    ∃ rest, states.destutter' (· ≠ ·) state = state :: rest := by
  induction states with
  | nil => exact ⟨[], rfl⟩
  | cons later states ih =>
      by_cases hne : state ≠ later
      · exact ⟨_, List.destutter'_cons_pos _ hne⟩
      · rw [List.destutter'_cons_neg _ hne]
        exact ih

theorem isChain_destutter'_of_steps {state : S} {observations : List (Option S)}
    (hsteps : (some state :: observations).IsChain cycle.Step) :
    (observations.reduceOption.destutter' (· ≠ ·) state).IsChain cycle.next := by
  induction observations generalizing state with
  | nil => exact List.isChain_singleton state
  | cons observed observations ih =>
      obtain ⟨hstep, hrest⟩ := List.isChain_cons_cons.mp hsteps
      obtain ⟨later, rfl, hlater⟩ := hstep.some_right
      rw [List.reduceOption_cons_of_some]
      by_cases hne : state ≠ later
      · have hnext : cycle.next state later := hlater.resolve_left fun hsame => hne hsame.symm
        obtain ⟨rest, hdestutter⟩ := exists_destutter'_cons later observations.reduceOption
        have hchain := ih hrest
        rw [List.destutter'_cons_pos _ hne, hdestutter]
        rw [hdestutter] at hchain
        exact List.isChain_cons_cons.mpr ⟨hnext, hchain⟩
      · have hsame : state = later := not_not.mp hne
        rw [List.destutter'_cons_neg _ hne]
        exact ih (hsame ▸ hrest)

/-- **Lifecycle paths.** The states seen of an object that was not there at first are a path from
the initial state. -/
theorem isPath_seen {observations : List (Option S)}
    (hsteps : (none :: observations).IsChain cycle.Step) :
    cycle.IsPath (seen observations) := by
  induction observations with
  | nil => exact ⟨List.isChain_nil, by simp [seen]⟩
  | cons observed observations ih =>
      obtain ⟨hstep, hrest⟩ := List.isChain_cons_cons.mp hsteps
      cases hstep with
      | absent => exact ih hrest
      | created =>
          obtain ⟨rest, hdestutter⟩ :=
            exists_destutter'_cons cycle.initial observations.reduceOption
          have hseen : seen (some cycle.initial :: observations) = cycle.initial :: rest := by
            rw [seen, List.reduceOption_cons_of_some, List.destutter_cons', hdestutter]
          rw [hseen, IsPath, ← hdestutter]
          refine ⟨isChain_destutter'_of_steps hrest, ?_⟩
          rw [hdestutter]
          rintro state ⟨⟩
          rfl

end Path

/-! ### Ranks -/

section Rank

variable {rank : S → Nat} (hrank : ∀ state later, cycle.next state later → rank state < rank later)

include hrank

/-- Later observations show the state itself or one of a higher rank. -/
theorem rank_le_of_steps {state : S} {observations : List (Option S)}
    (hsteps : (some state :: observations).IsChain cycle.Step) :
    ∀ observed ∈ observations, ∃ later, observed = some later ∧
      (later = state ∨ rank state < rank later) := by
  induction observations generalizing state with
  | nil => exact fun _ hnil => absurd hnil List.not_mem_nil
  | cons observed observations ih =>
      obtain ⟨hstep, hrest⟩ := List.isChain_cons_cons.mp hsteps
      obtain ⟨later, rfl, hlater⟩ := hstep.some_right
      have hfirst : later = state ∨ rank state < rank later := hlater.imp_right (hrank _ _)
      intro seen hseen
      rcases List.mem_cons.mp hseen with rfl | hmem
      · exact ⟨later, rfl, hfirst⟩
      · obtain ⟨last, rfl, hlast⟩ := ih hrest seen hmem
        refine ⟨last, rfl, ?_⟩
        rcases hlast with rfl | hlt
        · exact hfirst
        · rcases hfirst with rfl | hbefore
          · exact .inr hlt
          · exact .inr (hbefore.trans hlt)

end Rank

end Lifecycle
