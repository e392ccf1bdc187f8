import Mathlib.Order.Defs.Unbundled
import OdooMcp.Effect.Statements

/-!
# What statements leave alone

Statements keep a relation if every run that does not raise ends in a store related to the one it
started from. When the relation is a preorder, it is enough that the single statements keep it.
-/

namespace Effect

namespace Statements

variable {σ ε α β : Type} {related : σ → σ → Prop}

def Keeps (related : σ → σ → Prop) (body : Statements σ ε α) : Prop :=
  ∀ store value later, body store = .ok (value, later) → related store later

variable [Std.Refl related]

theorem keeps_pure (value : α) : Keeps related (pure value : Statements σ ε α) := by
  intro store first later hpure
  obtain ⟨-, rfl⟩ := pure_ok.mp hpure
  exact Std.Refl.refl store

theorem keeps_get : Keeps related (get : Statements σ ε σ) := by
  intro store first later hget
  obtain ⟨-, rfl⟩ := get_ok.mp hget
  exact Std.Refl.refl store

theorem keeps_lift (outcome : Except ε α) :
    Keeps related (liftM outcome : Statements σ ε α) := by
  intro store value later hlift
  obtain ⟨-, rfl⟩ := lift_ok.mp hlift
  exact Std.Refl.refl store

theorem keeps_require (condition : Bool) (error : ε) :
    Keeps related (require condition error : Statements σ ε Unit) := by
  intro store value later hrequire
  obtain ⟨-, rfl⟩ := require_ok.mp hrequire
  exact Std.Refl.refl store

theorem keeps_found (option : Option α) (error : ε) :
    Keeps related (found option error : Statements σ ε α) := by
  intro store value later hfound
  obtain ⟨-, rfl⟩ := found_ok.mp hfound
  exact Std.Refl.refl store

omit [Std.Refl related] in
theorem Keeps.bind [IsTrans σ related] {body : Statements σ ε α} {next : α → Statements σ ε β}
    (hbody : Keeps related body) (hnext : ∀ value, Keeps related (next value)) :
    Keeps related (body >>= next) := by
  intro store value later hrun
  obtain ⟨first, middle, hfirst, hlast⟩ := bind_ok.mp hrun
  exact IsTrans.trans _ _ _ (hbody _ _ _ hfirst) (hnext _ _ _ _ hlast)

/-- A transaction keeps what its statements keep. -/
theorem Keeps.commit {body : Statements σ ε α} (hbody : Keeps related body) (store : σ) :
    related store (body.commit store).2 := by
  unfold Statements.commit
  split
  · exact hbody _ _ _ ‹_›
  · exact Std.Refl.refl store

end Statements

end Effect
