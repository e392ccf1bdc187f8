import OdooMcp.Effect.Program

/-!
# Loops of requests

A loop runs its body until the body leaves it, and gives up when it has no fuel left. What holds of
every run is an invariant over the events so far; how often the body runs is bounded by a measure
that every continued round decreases.
-/

namespace Effect

namespace Program

variable {S : Signature} {ε α β : Type}

/-- No run of the program makes more than so many requests of a kind. -/
def AtMost (counted : Event S ε → Bool) (bound : Nat) (program : Program S ε α) : Prop :=
  ∀ trace result, Runs program trace result → trace.countP counted ≤ bound

namespace AtMost

variable {counted : Event S ε → Bool}

theorem ret (value : α) : AtMost counted 0 (.ret value : Program S ε α) := by
  intro trace result hruns
  simp [(runs_ret.mp hruns).1]

theorem ofExcept (outcome : Except ε α) :
    AtMost counted 0 (Program.ofExcept outcome : Program S ε α) := by
  intro trace result hruns
  simp [(runs_ofExcept.mp hruns).1]

theorem call (request : S.Request) :
    AtMost counted 1 (Program.call request : Program S ε (S.Result request)) := by
  intro trace result hruns
  rw [runs_call.mp hruns]
  exact List.countP_le_length

theorem call_other {request : S.Request} (hother : ∀ answer, counted ⟨request, answer⟩ = false) :
    AtMost counted 0 (Program.call request : Program S ε (S.Result request)) := by
  intro trace result hruns
  simp [runs_call.mp hruns, hother]

theorem bind {first second : Nat} {program : Program S ε α} {next : α → Program S ε β}
    (hprogram : AtMost counted first program)
    (hnext : ∀ value, AtMost counted second (next value)) :
    AtMost counted (first + second) (program >>= next) := by
  intro trace result hruns
  rw [bind_eq, runs_bind] at hruns
  rcases hruns with ⟨value, before, after, rfl, hbefore, hafter⟩ | ⟨error, -, hbefore⟩
  · rw [List.countP_append]
    exact Nat.add_le_add (hprogram _ _ hbefore) (hnext value _ _ hafter)
  · exact Nat.le_add_right_of_le (hprogram _ _ hbefore)

theorem none_bind {bound : Nat} {program : Program S ε α} {next : α → Program S ε β}
    (hprogram : AtMost counted 0 program) (hnext : ∀ value, AtMost counted bound (next value)) :
    AtMost counted bound (program >>= next) := by
  have hbind := hprogram.bind hnext
  rwa [Nat.zero_add] at hbind

theorem bind_none {bound : Nat} {program : Program S ε α} {next : α → Program S ε β}
    (hprogram : AtMost counted bound program) (hnext : ∀ value, AtMost counted 0 (next value)) :
    AtMost counted bound (program >>= next) :=
  hprogram.bind hnext

/-- A pure step makes no request. -/
theorem ofExcept_bind {bound : Nat} {outcome : Except ε α} {next : α → Program S ε β}
    (hnext : ∀ value, AtMost counted bound (next value)) :
    AtMost counted bound (Program.ofExcept outcome >>= next) :=
  (ofExcept outcome).none_bind hnext

theorem mono {bound more : Nat} (hmore : bound ≤ more) {program : Program S ε α}
    (hprogram : AtMost counted bound program) : AtMost counted more program :=
  fun trace result hruns => Nat.le_trans (hprogram trace result hruns) hmore

end AtMost

end Program

/-- How one round of a loop ends. -/
inductive Round (σ β : Type)
  | again (next : σ)
  | leave (result : β)

namespace Program

variable {S : Signature} {ε σ β : Type}

/-- `while True`, for at most `fuel` rounds. -/
def loop (body : σ → Program S ε (Round σ β)) : Nat → σ → Program S ε (Option β)
  | 0, _ => .ret none
  | fuel + 1, state => (body state).bind fun round =>
      match round with
      | .again next => loop body fuel next
      | .leave result => .ret (some result)

variable {body : σ → Program S ε (Round σ β)}

@[simp]
theorem runs_loop_zero {state : σ} {trace : List (Event S ε)} {result : Except ε (Option β)} :
    Runs (loop body 0 state) trace result ↔ trace = [] ∧ result = .ok none :=
  runs_ret

/-- The first round ends the loop, with its result or its error, or is followed by a shorter
loop. -/
theorem runs_loop_succ {fuel : Nat} {state : σ} {trace : List (Event S ε)}
    {result : Except ε (Option β)} :
    Runs (loop body (fuel + 1) state) trace result ↔
      (∃ next first rest, trace = first ++ rest ∧ Runs (body state) first (.ok (.again next)) ∧
        Runs (loop body fuel next) rest result) ∨
      (∃ value, result = .ok (some value) ∧ Runs (body state) trace (.ok (.leave value))) ∨
      ∃ error, result = .error error ∧ Runs (body state) trace (.error error) := by
  rw [loop, runs_bind]
  constructor
  · rintro (⟨round, first, rest, rfl, hfirst, hrest⟩ | herror)
    · cases round with
      | again next => exact .inl ⟨next, first, rest, rfl, hfirst, hrest⟩
      | leave value =>
          obtain ⟨rfl, rfl⟩ := runs_ret.mp hrest
          rw [List.append_nil]
          exact .inr (.inl ⟨value, rfl, hfirst⟩)
    · exact .inr (.inr herror)
  · rintro (⟨next, first, rest, rfl, hfirst, hrest⟩ | ⟨value, rfl, hvalue⟩ | herror)
    · exact .inl ⟨.again next, first, rest, rfl, hfirst, hrest⟩
    · exact .inl ⟨.leave value, trace, [], by simp, hvalue, runs_ret.mpr ⟨rfl, rfl⟩⟩
    · exact .inr herror

/-- **Invariant rule.** What every continued round keeps, of the events so far and the state, holds
when the loop is left. -/
theorem loop_invariant (holds : List (Event S ε) → σ → Prop)
    (ends : List (Event S ε) → β → Prop)
    (hagain : ∀ past state events next, holds past state →
      Runs (body state) events (.ok (.again next)) → holds (past ++ events) next)
    (hleave : ∀ past state events value, holds past state →
      Runs (body state) events (.ok (.leave value)) → ends (past ++ events) value)
    {fuel : Nat} (past : List (Event S ε)) {state : σ} (hstate : holds past state)
    {trace : List (Event S ε)} {value : β}
    (hruns : Runs (loop body fuel state) trace (.ok (some value))) :
    ends (past ++ trace) value := by
  induction fuel generalizing past state trace with
  | zero =>
      obtain ⟨-, hresult⟩ := runs_loop_zero.mp hruns
      cases hresult
  | succ fuel ih =>
      rcases runs_loop_succ.mp hruns with
        ⟨next, first, rest, rfl, hfirst, hrest⟩ | ⟨found, hfound, hlast⟩ | ⟨error, herror, -⟩
      · rw [← List.append_assoc]
        exact ih _ (hagain past state first next hstate hfirst) hrest
      · cases hfound
        exact hleave past state trace value hstate hlast
      · cases herror

/-- The invariant rule for what does not depend on the events. -/
theorem loop_state_invariant (holds : σ → Prop) (ends : β → Prop)
    (hagain : ∀ state events next, holds state → Runs (body state) events (.ok (.again next)) →
      holds next)
    (hleave : ∀ state events value, holds state → Runs (body state) events (.ok (.leave value)) →
      ends value)
    {fuel : Nat} {state : σ} (hstate : holds state) {trace : List (Event S ε)} {value : β}
    (hruns : Runs (loop body fuel state) trace (.ok (some value))) : ends value :=
  loop_invariant (fun _ state => holds state) (fun _ value => ends value)
    (fun _ state events next => hagain state events next)
    (fun _ state events value => hleave state events value) [] hstate hruns

/-! ### Measures -/

section Measure

variable (holds : σ → Prop) (size : σ → Nat)

/-- **Termination rule.** A loop with more fuel than its measure never runs out of it. -/
theorem loop_terminates
    (hagain : ∀ state events next, holds state → Runs (body state) events (.ok (.again next)) →
      holds next ∧ size next < size state)
    {fuel : Nat} {state : σ} (hstate : holds state) (hfuel : size state < fuel)
    {trace : List (Event S ε)} {result : Except ε (Option β)}
    (hruns : Runs (loop body fuel state) trace result) : result ≠ .ok none := by
  induction fuel generalizing state trace with
  | zero => omega
  | succ fuel ih =>
      rcases runs_loop_succ.mp hruns with
        ⟨next, first, rest, rfl, hfirst, hrest⟩ | ⟨value, rfl, -⟩ | ⟨error, rfl, -⟩
      · obtain ⟨hnext, hsize⟩ := hagain state first next hstate hfirst
        exact ih hnext (by omega) hrest
      · simp
      · simp

/-- **Counting rule.** A body that makes a kind of request at most once makes it at most once more
than the measure allows rounds, however much fuel there is. -/
theorem countP_loop_le {counted : Event S ε → Bool}
    (hbody : ∀ state, AtMost counted 1 (body state))
    (hagain : ∀ state events next, holds state → Runs (body state) events (.ok (.again next)) →
      holds next ∧ size next < size state)
    {fuel : Nat} {state : σ} (hstate : holds state) :
    AtMost counted (size state + 1) (loop body fuel state) := by
  intro trace result hruns
  induction fuel generalizing state trace with
  | zero => simp [(runs_loop_zero.mp hruns).1]
  | succ fuel ih =>
      rcases runs_loop_succ.mp hruns with
        ⟨next, first, rest, rfl, hfirst, hrest⟩ | ⟨value, -, hlast⟩ | ⟨error, -, hlast⟩
      · obtain ⟨hnext, hsize⟩ := hagain state first next hstate hfirst
        have hcount := hbody state first _ hfirst
        have hcounts := ih hnext rest hrest
        rw [List.countP_append]
        omega
      · exact Nat.le_trans (hbody state trace _ hlast) (by omega)
      · exact Nat.le_trans (hbody state trace _ hlast) (by omega)

end Measure

end Program

end Effect
