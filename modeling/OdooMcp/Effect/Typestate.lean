import Mathlib.Data.List.Induction
import OdooMcp.Effect.Program

/-!
# Call protocols

A protocol says which requests a program may make in which phase, and how an answer moves the
phase. A program follows a protocol if, whatever it is answered, every request it makes is allowed
in the phase reached by then; a condition on the phase and the result at the end comes with it, so
that following is proved part by part along `bind` and `attempt`.
-/

namespace Effect

variable {S : Signature} {ε φ : Type}

structure Protocol (S : Signature) (ε φ : Type) where
  allows : φ → S.Request → Prop
  next : φ → (request : S.Request) → Except ε (S.Result request) → φ

namespace Protocol

variable {protocol : Protocol S ε φ} {α β : Type}

def after (protocol : Protocol S ε φ) (phase : φ) (trace : List (Event S ε)) : φ :=
  trace.foldl (fun reached event => protocol.next reached event.request event.answer) phase

@[simp]
theorem after_nil (phase : φ) : protocol.after phase [] = phase := rfl

@[simp]
theorem after_cons (phase : φ) (event : Event S ε) (trace : List (Event S ε)) :
    protocol.after phase (event :: trace) =
      protocol.after (protocol.next phase event.request event.answer) trace := rfl

@[simp]
theorem after_append (phase : φ) (first rest : List (Event S ε)) :
    protocol.after phase (first ++ rest) = protocol.after (protocol.after phase first) rest := by
  simp [after]

def Follows (protocol : Protocol S ε φ) (phase : φ) (program : Program S ε α)
    (post : φ → Except ε α → Prop) : Prop :=
  match program with
  | .ret value => post phase (.ok value)
  | .raise error => post phase (.error error)
  | .ask request continuation =>
      protocol.allows phase request ∧
        ∀ answer, protocol.Follows (protocol.next phase request answer) (continuation answer) post

@[simp]
theorem follows_ret {phase : φ} {value : α} {post : φ → Except ε α → Prop} :
    protocol.Follows phase (.ret value) post ↔ post phase (.ok value) := Iff.rfl

@[simp]
theorem follows_raise {phase : φ} {error : ε} {post : φ → Except ε α → Prop} :
    protocol.Follows phase (.raise error) post ↔ post phase (.error error) := Iff.rfl

theorem follows_ask {phase : φ} {request : S.Request}
    {continuation : Except ε (S.Result request) → Program S ε α}
    {post : φ → Except ε α → Prop} :
    protocol.Follows phase (.ask request continuation) post ↔
      protocol.allows phase request ∧
        ∀ answer, protocol.Follows (protocol.next phase request answer) (continuation answer)
          post := Iff.rfl

theorem Follows.mono {phase : φ} {program : Program S ε α} {post weaker : φ → Except ε α → Prop}
    (hfollows : protocol.Follows phase program post)
    (hpost : ∀ reached result, post reached result → weaker reached result) :
    protocol.Follows phase program weaker := by
  induction program generalizing phase with
  | ret value => exact hpost _ _ hfollows
  | raise error => exact hpost _ _ hfollows
  | ask request continuation ih =>
      exact ⟨hfollows.1, fun answer => ih answer (hfollows.2 answer)⟩

/-- A sequence follows the protocol if its first part does and its second part takes over from
whatever phase the first returned in. -/
theorem follows_bind {phase : φ} {program : Program S ε α} {next : α → Program S ε β}
    {post : φ → Except ε β → Prop} :
    protocol.Follows phase (program.bind next) post ↔
      protocol.Follows phase program fun reached result =>
        match result with
        | .ok value => protocol.Follows reached (next value) post
        | .error error => post reached (.error error) := by
  induction program generalizing phase with
  | ret value => rfl
  | raise error => rfl
  | ask request continuation ih => simp only [Program.bind, follows_ask, ih]

theorem follows_attempt {phase : φ} {program : Program S ε α}
    {post : φ → Except ε (Except ε α) → Prop} :
    protocol.Follows phase program.attempt post ↔
      protocol.Follows phase program fun reached result => post reached (.ok result) := by
  induction program generalizing phase with
  | ret value => rfl
  | raise error => rfl
  | ask request continuation ih => simp only [Program.attempt, follows_ask, ih]

@[simp]
theorem follows_ofExcept {phase : φ} {outcome : Except ε α} {post : φ → Except ε α → Prop} :
    protocol.Follows phase (.ofExcept outcome) post ↔ post phase outcome := by
  cases outcome <;> rfl

/-! ### Traces whose requests were all allowed -/

def Allowed (protocol : Protocol S ε φ) (phase : φ) : List (Event S ε) → Prop
  | [] => True
  | event :: trace =>
      protocol.allows phase event.request ∧
        protocol.Allowed (protocol.next phase event.request event.answer) trace

theorem allowed_append {phase : φ} {first rest : List (Event S ε)} :
    protocol.Allowed phase (first ++ rest) ↔
      protocol.Allowed phase first ∧ protocol.Allowed (protocol.after phase first) rest := by
  induction first generalizing phase with
  | nil => simp [Allowed]
  | cons event first ih => simp [Allowed, ih, and_assoc]

/-- What the phase relates of the trace so far is kept up by every allowed event. -/
theorem Allowed.relates {phase : φ} {trace : List (Event S ε)}
    (hallowed : protocol.Allowed phase trace) (relation : φ → List (Event S ε) → Prop)
    (hnil : relation phase [])
    (hsnoc : ∀ reached earlier event, relation reached earlier →
      protocol.allows reached event.request →
      relation (protocol.next reached event.request event.answer) (earlier ++ [event])) :
    relation (protocol.after phase trace) trace := by
  induction trace using List.reverseRecOn with
  | nil => exact hnil
  | append_singleton trace event ih =>
      obtain ⟨hearlier, hevent, -⟩ := allowed_append.mp hallowed
      rw [after_append, after_cons, after_nil]
      exact hsnoc _ _ _ (ih hearlier) hevent

/-! ### What following says about a run -/

theorem Follows.result_of_runs {phase : φ} {program : Program S ε α}
    {post : φ → Except ε α → Prop} {trace : List (Event S ε)} {result : Except ε α}
    (hfollows : protocol.Follows phase program post) (hruns : program.Runs trace result) :
    post (protocol.after phase trace) result := by
  induction hruns generalizing phase with
  | ret value => exact hfollows
  | raise error => exact hfollows
  | ask request continuation answer hrest ih => exact ih (hfollows.2 answer)

/-- The requests of a run were all allowed. -/
theorem Follows.allowed_of_runs {phase : φ} {program : Program S ε α}
    {post : φ → Except ε α → Prop} {trace : List (Event S ε)} {result : Except ε α}
    (hfollows : protocol.Follows phase program post) (hruns : program.Runs trace result) :
    protocol.Allowed phase trace := by
  induction hruns generalizing phase with
  | ret value => trivial
  | raise error => trivial
  | ask request continuation answer hrest ih => exact ⟨hfollows.1, ih (hfollows.2 answer)⟩

end Protocol

end Effect
