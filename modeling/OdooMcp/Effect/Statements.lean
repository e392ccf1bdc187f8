import Mathlib.Tactic.Common

/-!
# Statements over a store

A transaction runs its statements on the store one after the other. A statement may raise; the
transaction is then rolled back as a whole. The lemmas invert a run that did not raise, statement by
statement, so that what a transaction did is read off from its text.
-/

namespace Effect

/-- Statements that change the store until one raises. -/
abbrev Statements (σ ε : Type) := StateT σ (Except ε)

namespace Statements

variable {σ ε α β : Type} {store later : σ}

@[simp]
theorem bind_ok {body : Statements σ ε α} {next : α → Statements σ ε β} {value : β} :
    (body >>= next) store = .ok (value, later) ↔
      ∃ first middle, body store = .ok (first, middle) ∧
        next first middle = .ok (value, later) := by
  change (body store >>= fun reached => next reached.1 reached.2) = _ ↔ _
  cases body store with
  | error error => simp [bind, Except.bind]
  | ok reached =>
      simp only [bind, Except.bind, Except.ok.injEq]
      constructor
      · exact fun hnext => ⟨reached.1, reached.2, rfl, hnext⟩
      · rintro ⟨first, middle, rfl, hnext⟩
        exact hnext

@[simp]
theorem lift_ok {outcome : Except ε α} {value : α} :
    (liftM outcome : Statements σ ε α) store = .ok (value, later) ↔
      outcome = .ok value ∧ store = later := by
  cases outcome with
  | error error => simp [liftM, monadLift, MonadLift.monadLift, StateT.lift, bind, Except.bind]
  | ok first =>
      simp [liftM, monadLift, MonadLift.monadLift, StateT.lift, bind, Except.bind, pure,
        Except.pure]

@[simp]
theorem pure_ok {value first : α} :
    (pure first : Statements σ ε α) store = .ok (value, later) ↔ first = value ∧ store = later := by
  change (Except.ok (first, store) : Except ε (α × σ)) = .ok (value, later) ↔ _
  simp

@[simp]
theorem map_ok {body : Statements σ ε α} {result : α → β} {value : β} :
    (result <$> body) store = .ok (value, later) ↔
      ∃ first, body store = .ok (first, later) ∧ result first = value := by
  rw [map_eq_pure_bind, bind_ok]
  constructor
  · rintro ⟨first, middle, hbody, hpure⟩
    obtain ⟨rfl, rfl⟩ := pure_ok.mp hpure
    exact ⟨first, hbody, rfl⟩
  · rintro ⟨first, hbody, rfl⟩
    exact ⟨first, later, hbody, pure_ok.mpr ⟨rfl, rfl⟩⟩

@[simp]
theorem throw_ok {error : ε} {value : α} :
    (throw error : Statements σ ε α) store = .ok (value, later) ↔ False := by
  simp [throw, throwThe, MonadExceptOf.throw, StateT.lift, bind, Except.bind]

@[simp]
theorem get_ok {value : σ} :
    (get : Statements σ ε σ) store = .ok (value, later) ↔ store = value ∧ store = later := by
  simp [get, getThe, MonadStateOf.get, StateT.get, pure, Except.pure]

@[simp]
theorem set_ok {next : σ} {value : PUnit} :
    (set next : Statements σ ε PUnit) store = .ok (value, later) ↔ later = next := by
  change (Except.ok (⟨⟩, next) : Except ε (PUnit × σ)) = .ok (value, later) ↔ _
  simp [eq_comm]

@[simp]
theorem modify_ok {change : σ → σ} {value : PUnit} :
    (modify change : Statements σ ε PUnit) store = .ok (value, later) ↔ later = change store := by
  simp [modify, modifyGet, MonadStateOf.modifyGet, StateT.modifyGet, pure, Except.pure, eq_comm]

/-- Raise unless the condition holds. -/
def require (condition : Bool) (error : ε) : Statements σ ε Unit :=
  if condition then pure () else throw error

@[simp]
theorem require_ok {condition : Bool} {error : ε} {value : Unit} :
    (require condition error : Statements σ ε Unit) store = .ok (value, later) ↔
      condition = true ∧ store = later := by
  cases condition <;> simp [require]

/-- The value, or raise if there is none. -/
def found (value : Option α) (error : ε) : Statements σ ε α :=
  match value with
  | some present => pure present
  | none => throw error

@[simp]
theorem found_ok {option : Option α} {error : ε} {value : α} :
    (found option error : Statements σ ε α) store = .ok (value, later) ↔
      option = some value ∧ store = later := by
  cases option with
  | none => simp [found]
  | some present =>
      rw [found, pure_ok, Option.some.injEq]

/-! ### Transactions -/

/-- Commit at the end, roll back if a statement raised. -/
def commit (body : Statements σ ε α) (store : σ) : Except ε α × σ :=
  match body store with
  | .ok (value, later) => (.ok value, later)
  | .error error => (.error error, store)

theorem commit_ok {body : Statements σ ε α} {value : α} :
    body.commit store = (.ok value, later) ↔ body store = .ok (value, later) := by
  unfold commit
  cases body store with
  | error error => simp
  | ok reached => simp [Prod.ext_iff]

theorem commit_error {body : Statements σ ε α} {error : ε} :
    body.commit store = (.error error, later) ↔ body store = .error error ∧ later = store := by
  unfold commit
  cases body store with
  | error raised => simp [eq_comm]
  | ok reached => simp

end Statements

end Effect
