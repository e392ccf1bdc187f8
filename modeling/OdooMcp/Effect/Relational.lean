import OdooMcp.Effect.Program

/-!
# Two programs side by side

Two programs run against two services. They are coupled when they turn related worlds into related
worlds and end alike: both return, with related values, or both raise, with related errors. The
rules follow the program, so that only the requests of the two services have to be compared.
-/

namespace Effect

/-- Both returned, and related values, or both raised, and related errors. -/
def SameOutcome {ε α β : Type} (raised : ε → ε → Prop) (returned : α → β → Prop) :
    Except ε α → Except ε β → Prop
  | .ok first, .ok second => returned first second
  | .error first, .error second => raised first second
  | _, _ => False

theorem SameOutcome.cases {ε α β : Type} {raised : ε → ε → Prop} {returned : α → β → Prop}
    {first : Except ε α} {second : Except ε β} (hsame : SameOutcome raised returned first second) :
    (∃ one other, first = .ok one ∧ second = .ok other ∧ returned one other) ∨
      ∃ one other, first = .error one ∧ second = .error other ∧ raised one other := by
  cases first with
  | ok one =>
      cases second with
      | ok other => exact .inl ⟨one, other, rfl, rfl, hsame⟩
      | error other => exact hsame.elim
  | error one =>
      cases second with
      | ok other => exact hsame.elim
      | error other => exact .inr ⟨one, other, rfl, rfl, hsame⟩

theorem SameOutcome.mono {ε α β : Type} {raised : ε → ε → Prop} {returned weaker : α → β → Prop}
    {first : Except ε α} {second : Except ε β} (hsame : SameOutcome raised returned first second)
    (hweaker : ∀ one other, returned one other → weaker one other) :
    SameOutcome raised weaker first second := by
  rcases hsame.cases with ⟨one, other, rfl, rfl, hreturned⟩ | ⟨one, other, rfl, rfl, hraised⟩
  · exact hweaker one other hreturned
  · exact hraised

theorem SameOutcome.of_eq {ε α : Type} {raised : ε → ε → Prop} (hrefl : ∀ error, raised error error)
    {first second : Except ε α} (heq : first = second) : SameOutcome raised Eq first second := by
  subst heq
  cases first with
  | ok value => exact rfl
  | error error => exact hrefl error

/-- What is known of the values includes which computations returned them. -/
theorem SameOutcome.returned {ε α β : Type} {raised : ε → ε → Prop} {returned : α → β → Prop}
    {first : Except ε α} {second : Except ε β} (hsame : SameOutcome raised returned first second) :
    SameOutcome raised (fun one other => returned one other ∧ first = .ok one ∧ second = .ok other)
      first second := by
  rcases hsame.cases with ⟨one, other, rfl, rfl, hreturned⟩ | ⟨one, other, rfl, rfl, hraised⟩
  · exact ⟨hreturned, rfl, rfl⟩
  · exact hraised

/-- Two computations in sequence end alike if their parts do. -/
theorem SameOutcome.bind {ε α β γ δ : Type} {raised : ε → ε → Prop} {returned : α → β → Prop}
    {later : γ → δ → Prop} {first : Except ε α} {second : Except ε β} {next : α → Except ε γ}
    {other : β → Except ε δ} (hsame : SameOutcome raised returned first second)
    (hnext : ∀ one two, returned one two → SameOutcome raised later (next one) (other two)) :
    SameOutcome raised later (first >>= next) (second >>= other) := by
  rcases hsame.cases with ⟨one, two, rfl, rfl, hreturned⟩ | ⟨one, two, rfl, rfl, hraised⟩
  · exact hnext one two hreturned
  · exact hraised

namespace Program

variable {S : Signature} {ε α β γ δ World : Type}

/-- The answers of a service that keeps its own state. -/
abbrev Handler (S : Signature) (ε World : Type) :=
  (request : S.Request) → World → Except ε (S.Result request) × World

/-- From related worlds the two programs end alike, in related worlds. -/
def Coupled (left right : Handler S ε World) (raised : ε → ε → Prop)
    (before : World → World → Prop) (first : Program S ε α) (second : Program S ε β)
    (returned : α → β → Prop) (after : World → World → Prop) : Prop :=
  ∀ one other, before one other →
    SameOutcome raised returned (first.runWith left one).1 (second.runWith right other).1 ∧
      after (first.runWith left one).2 (second.runWith right other).2

variable {left right : Handler S ε World} {raised : ε → ε → Prop}
  {before between after : World → World → Prop} {returned : α → β → Prop}

theorem Coupled.mono {stronger : World → World → Prop} {weaker : α → β → Prop}
    {first : Program S ε α} {second : Program S ε β}
    (hcoupled : Coupled left right raised before first second returned after)
    (hbefore : ∀ one other, stronger one other → before one other)
    (hreturned : ∀ one other, returned one other → weaker one other) :
    Coupled left right raised stronger first second weaker after := by
  intro one other hworlds
  obtain ⟨houtcome, hafter⟩ := hcoupled one other (hbefore one other hworlds)
  exact ⟨houtcome.mono hreturned, hafter⟩

theorem coupled_ret {one : α} {other : β} (hreturned : returned one other) :
    Coupled left right raised after (.ret one) (.ret other) returned after :=
  fun _ _ hworlds => ⟨hreturned, hworlds⟩

theorem coupled_raise {one other : ε} (hraised : raised one other) :
    Coupled left right raised after (.raise one : Program S ε α) (.raise other : Program S ε β)
      returned after :=
  fun _ _ hworlds => ⟨hraised, hworlds⟩

theorem coupled_ofExcept {one : Except ε α} {other : Except ε β}
    (houtcome : SameOutcome raised returned one other) :
    Coupled left right raised after (ofExcept one) (ofExcept other) returned after := by
  intro first second hworlds
  rw [runWith_ofExcept, runWith_ofExcept]
  exact ⟨houtcome, hworlds⟩

theorem coupled_call {one other : S.Request}
    {returned : S.Result one → S.Result other → Prop}
    (hanswers : ∀ first second, before first second →
      SameOutcome raised returned (left one first).1 (right other second).1 ∧
        after (left one first).2 (right other second).2) :
    Coupled left right raised before (call one) (call other) returned after := by
  intro first second hworlds
  rw [runWith_call, runWith_call]
  exact hanswers first second hworlds

/-- Programs in sequence are coupled if their parts are, where the worlds in which the first part
may raise are among those the whole may end in. -/
theorem Coupled.seq {later : γ → δ → Prop} {first : Program S ε α} {second : Program S ε β}
    {next : α → Program S ε γ} {other : β → Program S ε δ}
    (hfirst : Coupled left right raised before first second returned between)
    (hbetween : ∀ one two, between one two → after one two)
    (hnext : ∀ one two, returned one two →
      Coupled left right raised between (next one) (other two) later after) :
    Coupled left right raised before (first >>= next) (second >>= other) later after := by
  intro one two hworlds
  rw [bind_eq, bind_eq, runWith_bind, runWith_bind]
  obtain ⟨houtcome, hreached⟩ := hfirst one two hworlds
  cases hone : first.runWith left one with
  | mk outcome reached =>
      cases htwo : second.runWith right two with
      | mk answer arrived =>
          rw [hone, htwo] at houtcome hreached
          rcases houtcome.cases with ⟨value, given, hvalue, hgiven, hreturned⟩ |
            ⟨error, given, herror, hgiven, hraised⟩
          · cases hvalue
            cases hgiven
            exact hnext value given hreturned reached arrived hreached
          · cases herror
            cases hgiven
            exact ⟨hraised, hbetween reached arrived hreached⟩

theorem Coupled.bind {later : γ → δ → Prop} {first : Program S ε α} {second : Program S ε β}
    {next : α → Program S ε γ} {other : β → Program S ε δ}
    (hfirst : Coupled left right raised before first second returned after)
    (hnext : ∀ one two, returned one two →
      Coupled left right raised after (next one) (other two) later after) :
    Coupled left right raised before (first >>= next) (second >>= other) later after :=
  hfirst.seq (fun _ _ hworlds => hworlds) hnext

/-- An error that is handed over as a value is a value that is related. -/
theorem Coupled.attempt {first : Program S ε α} {second : Program S ε β}
    (hcoupled : Coupled left right raised before first second returned after) :
    Coupled left right raised before first.attempt second.attempt
      (SameOutcome raised returned) after := by
  intro one two hworlds
  rw [runWith_attempt, runWith_attempt]
  exact hcoupled one two hworlds

end Program

end Effect
