import OdooMcp.Effect.Loop

/-!
# Services that do not change

A service that answers the same request the same way makes a program a value: every run of the
program against it ends alike, however often it is repeated.
-/

namespace Effect

namespace Program

variable {S : Signature} {ε α β : Type}

def evaluate (source : (request : S.Request) → Except ε (S.Result request)) :
    Program S ε α → Except ε α
  | .ret value => .ok value
  | .raise error => .error error
  | .ask request continuation => (continuation (source request)).evaluate source

variable {source : (request : S.Request) → Except ε (S.Result request)}

@[simp]
theorem evaluate_ret (value : α) : (.ret value : Program S ε α).evaluate source = .ok value := rfl

theorem evaluate_bind (program : Program S ε α) (next : α → Program S ε β) :
    (program >>= next).evaluate source =
      program.evaluate source >>= fun value => (next value).evaluate source := by
  rw [bind_eq]
  induction program with
  | ret value => rfl
  | raise error => rfl
  | ask request continuation ih => exact ih _

@[simp]
theorem evaluate_ofExcept (outcome : Except ε α) :
    (ofExcept outcome : Program S ε α).evaluate source = outcome := by
  cases outcome <;> rfl

@[simp]
theorem evaluate_call (request : S.Request) :
    (call request : Program S ε (S.Result request)).evaluate source = source request :=
  evaluate_ofExcept _

/-- The program has a run against the service that ends so. -/
theorem runs_evaluate (program : Program S ε α) :
    ∃ trace, Runs program trace (program.evaluate source) ∧
      ∀ event ∈ trace, event.answer = source event.request := by
  induction program with
  | ret value => exact ⟨[], .ret value, by simp⟩
  | raise error => exact ⟨[], .raise error, by simp⟩
  | ask request continuation ih =>
      obtain ⟨trace, hruns, hanswers⟩ := ih (source request)
      exact ⟨_, .ask request continuation _ hruns, List.forall_mem_cons.mpr ⟨rfl, hanswers⟩⟩

theorem evaluate_bind_of_ok {program : Program S ε α} {value : α}
    (hvalue : program.evaluate source = .ok value) (next : α → Program S ε β) :
    (program >>= next).evaluate source = (next value).evaluate source := by
  rw [evaluate_bind, hvalue]
  rfl

theorem evaluate_bind_ok {program : Program S ε α} {next : α → Program S ε β} {value : β} :
    (program >>= next).evaluate source = .ok value ↔
      ∃ first, program.evaluate source = .ok first ∧
        (next first).evaluate source = .ok value := by
  rw [evaluate_bind]
  cases program.evaluate source with
  | ok first =>
      constructor
      · intro hnext
        exact ⟨first, rfl, hnext⟩
      · rintro ⟨found, hfound, hnext⟩
        cases hfound
        exact hnext
  | error error =>
      constructor
      · intro herror
        cases herror
      · rintro ⟨found, hfound, -⟩
        cases hfound

/-! ### Loops -/

section Loop

variable {σ : Type} {body : σ → Program S ε (Round σ β)} {state : σ}

theorem evaluate_loop_again {next : σ}
    (hbody : (body state).evaluate source = .ok (.again next)) (fuel : Nat) :
    (loop body (fuel + 1) state).evaluate source = (loop body fuel next).evaluate source := by
  rw [loop, ← bind_eq, evaluate_bind, hbody]
  rfl

theorem evaluate_loop_leave {value : β}
    (hbody : (body state).evaluate source = .ok (.leave value)) (fuel : Nat) :
    (loop body (fuel + 1) state).evaluate source = .ok (some value) := by
  rw [loop, ← bind_eq, evaluate_bind, hbody]
  rfl

end Loop

end Program

end Effect
