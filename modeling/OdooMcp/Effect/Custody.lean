import Mathlib.Data.List.Basic
import Mathlib.Tactic.Common

/-!
# Resources handed out and closed

Some events of a trace hand out a resource, others start to close one. A resource is in custody from
the event that hands it out to the first later event that closes it; a trace closes everything if it
leaves nothing in custody.
-/

namespace Effect

/-- Which events hand out a resource, and which start to close one. -/
structure Custody (E H : Type) where
  opened : E → Option H
  closed : E → Option H

namespace Custody

variable {E H : Type} [DecidableEq H] (custody : Custody E H)

def step (held : List H) (event : E) : List H :=
  (custody.opened event).toList ++ held.filter fun resource => custody.closed event ≠ some resource

def after (held : List H) (trace : List E) : List H := trace.foldl custody.step held

omit [DecidableEq H] in
/-- Every resource that is handed out is closed later. -/
def AllClosed (trace : List E) : Prop :=
  ∀ before event later resource, trace = before ++ event :: later →
    custody.opened event = some resource → ∃ closing ∈ later, custody.closed closing = some resource

theorem mem_step {held : List H} {event : E} {resource : H} :
    resource ∈ custody.step held event ↔
      custody.opened event = some resource ∨
        (resource ∈ held ∧ custody.closed event ≠ some resource) := by
  simp [step]

/-- A resource stays in custody if nothing closes it from the moment it was held or handed out. -/
theorem mem_after {held : List H} {trace : List E} {resource : H} :
    resource ∈ custody.after held trace ↔
      (resource ∈ held ∧ ∀ event ∈ trace, custody.closed event ≠ some resource) ∨
        ∃ before event later, trace = before ++ event :: later ∧
          custody.opened event = some resource ∧
          ∀ closing ∈ later, custody.closed closing ≠ some resource := by
  induction trace generalizing held with
  | nil => simp [after]
  | cons event trace ih =>
      rw [show custody.after held (event :: trace) =
        custody.after (custody.step held event) trace from rfl, ih, mem_step]
      constructor
      · rintro (⟨hopened | ⟨hheld, hevent⟩, htrace⟩ |
          ⟨before, opening, later, rfl, hopened, hlater⟩)
        · exact .inr ⟨[], event, trace, rfl, hopened, htrace⟩
        · exact .inl ⟨hheld, List.forall_mem_cons.mpr ⟨hevent, htrace⟩⟩
        · exact .inr ⟨event :: before, opening, later, rfl, hopened, hlater⟩
      · rintro (⟨hheld, htrace⟩ | ⟨before, opening, later, htrace, hopened, hlater⟩)
        · obtain ⟨hevent, hrest⟩ := List.forall_mem_cons.mp htrace
          exact .inl ⟨.inr ⟨hheld, hevent⟩, hrest⟩
        · cases before with
          | nil =>
              obtain ⟨rfl, rfl⟩ := List.cons.inj htrace
              exact .inl ⟨.inl hopened, hlater⟩
          | cons first before =>
              obtain ⟨rfl, rfl⟩ := List.cons.inj htrace
              exact .inr ⟨before, opening, later, rfl, hopened, hlater⟩

theorem allClosed_iff {trace : List E} :
    custody.AllClosed trace ↔ custody.after [] trace = [] := by
  rw [List.eq_nil_iff_forall_not_mem]
  constructor
  · intro hclosed resource hresource
    rcases custody.mem_after.mp hresource with
      ⟨hheld, -⟩ | ⟨before, event, later, htrace, hopened, hlater⟩
    · cases hheld
    · obtain ⟨closing, hclosing, hresource⟩ := hclosed before event later resource htrace hopened
      exact hlater closing hclosing hresource
  · intro hafter before event later resource htrace hopened
    by_contra hnone
    refine hafter resource
      (custody.mem_after.mpr (.inr ⟨before, event, later, htrace, hopened, ?_⟩))
    exact fun closing hclosing hresource => hnone ⟨closing, hclosing, hresource⟩

end Custody

end Effect
