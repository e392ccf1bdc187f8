import OdooMcp.Effect.Typestate

/-!
# Bodies with local variables

The body of a function whose local variables outlive an exception: a handler further down reads what
the body had assigned when it was left. A body is left with a value or with an error, and with its
variables as they were then. Closures that share a variable of the function they are written in
are bodies over the same variables, and `serve` runs a program whose requests such closures answer.
-/

namespace Effect

def Scoped (S : Signature) (ε σ α : Type) : Type := σ → Program S ε (Except ε α × σ)

namespace Scoped

variable {S T : Signature} {ε σ φ α β : Type}

def bind (body : Scoped S ε σ α) (next : α → Scoped S ε σ β) : Scoped S ε σ β := fun locals =>
  (body locals).bind fun left =>
    match left with
    | (.ok value, later) => next value later
    | (.error error, later) => .ret (.error error, later)

instance : Monad (Scoped S ε σ) where
  pure value := fun locals => .ret (.ok value, locals)
  bind := bind

instance : MonadExceptOf ε (Scoped S ε σ) where
  throw error := fun locals => .ret (.error error, locals)
  tryCatch body handler := fun locals => (body locals).bind fun left =>
    match left with
    | (.ok value, later) => .ret (.ok value, later)
    | (.error error, later) => handler error later

def ofExcept (outcome : Except ε α) : Scoped S ε σ α := fun locals => .ret (outcome, locals)

/-- Ask, and raise the service's error if it answers with one. -/
def await (request : S.Request) : Scoped S ε σ (S.Result request) := fun locals =>
  .ask request fun answer => .ret (answer, locals)

/-- Leave a body with its outcome as a value. -/
def attempt (body : Scoped S ε σ α) : Scoped S ε σ (Except ε α) := fun locals =>
  (body locals).bind fun left => .ret (.ok left.1, left.2)

def current : Scoped S ε σ σ := fun locals => .ret (.ok locals, locals)

def assign (update : σ → σ) : Scoped S ε σ Unit := fun locals => .ret (.ok (), update locals)

/-- `try … finally`: the cleanup runs however the body is left, and its own error prevails. -/
def ensuring (body : Scoped S ε σ α) (cleanup : Scoped S ε σ Unit) : Scoped S ε σ α := do
  let outcome ← attempt body
  cleanup
  ofExcept outcome

/-- Run a body from the initial values of its variables. -/
def run (body : Scoped S ε σ α) (locals : σ) : Program S ε α :=
  (body locals).bind fun left => .ofExcept left.1

/-- Run a program whose requests are answered by bodies over the same variables. -/
def serve (handler : (request : T.Request) → Scoped S ε σ (T.Result request))
    (program : Program T ε α) : Scoped S ε σ α :=
  match program with
  | .ret value => fun locals => .ret (.ok value, locals)
  | .raise error => fun locals => .ret (.error error, locals)
  | .ask request continuation => fun locals =>
      (handler request locals).bind fun left => serve handler (continuation left.1) left.2

/-! ### What a body does from a phase of a protocol on -/

variable {protocol : Protocol S ε φ}

/-- From this phase and these variables the body follows the protocol, and is left in a phase, with
variables and with an outcome that satisfy the condition. -/
def Meets (protocol : Protocol S ε φ) (phase : φ) (locals : σ) (body : Scoped S ε σ α)
    (post : φ → σ → Except ε α → Prop) : Prop :=
  protocol.Follows phase (body locals) fun reached result =>
    ∃ outcome later, result = .ok (outcome, later) ∧ post reached later outcome

section Meets

variable {phase : φ} {locals : σ}

theorem Meets.mono {body : Scoped S ε σ α} {post weaker : φ → σ → Except ε α → Prop}
    (hmeets : Meets protocol phase locals body post)
    (hpost : ∀ reached later outcome, post reached later outcome → weaker reached later outcome) :
    Meets protocol phase locals body weaker := by
  refine Protocol.Follows.mono hmeets ?_
  rintro reached result ⟨outcome, later, rfl, hleft⟩
  exact ⟨outcome, later, rfl, hpost reached later outcome hleft⟩

theorem meets_of_ret {body : Scoped S ε σ α} {outcome : Except ε α} {later : σ}
    (hbody : body locals = .ret (outcome, later)) {post : φ → σ → Except ε α → Prop} :
    Meets protocol phase locals body post ↔ post phase later outcome := by
  unfold Meets
  rw [hbody, Protocol.follows_ret]
  constructor
  · rintro ⟨_, _, hleft, hpost⟩
    cases hleft
    exact hpost
  · exact fun hpost => ⟨outcome, later, rfl, hpost⟩

@[simp]
theorem meets_pure {value : α} {post : φ → σ → Except ε α → Prop} :
    Meets protocol phase locals (pure value) post ↔ post phase locals (.ok value) :=
  meets_of_ret rfl

@[simp]
theorem meets_throw {error : ε} {post : φ → σ → Except ε α → Prop} :
    Meets protocol phase locals (throw error) post ↔ post phase locals (.error error) :=
  meets_of_ret rfl

@[simp]
theorem meets_ofExcept {outcome : Except ε α} {post : φ → σ → Except ε α → Prop} :
    Meets protocol phase locals (ofExcept outcome) post ↔ post phase locals outcome :=
  meets_of_ret rfl

@[simp]
theorem meets_current {post : φ → σ → Except ε σ → Prop} :
    Meets protocol phase locals current post ↔ post phase locals (.ok locals) :=
  meets_of_ret rfl

@[simp]
theorem meets_assign {update : σ → σ} {post : φ → σ → Except ε Unit → Prop} :
    Meets protocol phase locals (assign update) post ↔ post phase (update locals) (.ok ()) :=
  meets_of_ret rfl

theorem meets_await {request : S.Request} {post : φ → σ → Except ε (S.Result request) → Prop} :
    Meets protocol phase locals (await request) post ↔
      protocol.allows phase request ∧
        ∀ answer, post (protocol.next phase request answer) locals answer := by
  unfold Meets
  rw [show (await request : Scoped S ε σ _) locals = .ask request fun answer =>
    .ret (answer, locals) from rfl, Protocol.follows_ask]
  refine and_congr_right fun _ => forall_congr' fun answer => ?_
  rw [Protocol.follows_ret]
  constructor
  · rintro ⟨_, _, hleft, hpost⟩
    cases hleft
    exact hpost
  · exact fun hpost => ⟨answer, locals, rfl, hpost⟩

/-- A sequence: the second part takes over where the first returned. -/
theorem meets_bind {body : Scoped S ε σ α} {next : α → Scoped S ε σ β}
    {post : φ → σ → Except ε β → Prop} :
    Meets protocol phase locals (body >>= next) post ↔
      Meets protocol phase locals body fun reached later outcome =>
        match outcome with
        | .ok value => Meets protocol reached later (next value) post
        | .error error => post reached later (.error error) := by
  unfold Meets
  rw [show (body >>= next : Scoped S ε σ β) locals = (body locals).bind _ from rfl,
    Protocol.follows_bind]
  constructor
  · intro hfollows
    refine hfollows.mono fun reached result hleft => ?_
    cases result with
    | error error =>
        obtain ⟨_, _, hresult, -⟩ := hleft
        cases hresult
    | ok left =>
        obtain ⟨outcome, later⟩ := left
        refine ⟨outcome, later, rfl, ?_⟩
        cases outcome with
        | ok value => exact hleft
        | error error =>
            obtain ⟨_, _, hresult, hpost⟩ := hleft
            cases hresult
            exact hpost
  · intro hfollows
    refine hfollows.mono ?_
    rintro reached result ⟨outcome, later, rfl, hpost⟩
    cases outcome with
    | ok value => exact hpost
    | error error => exact ⟨_, _, rfl, hpost⟩

theorem meets_attempt {body : Scoped S ε σ α} {post : φ → σ → Except ε (Except ε α) → Prop} :
    Meets protocol phase locals (attempt body) post ↔
      Meets protocol phase locals body fun reached later outcome =>
        post reached later (.ok outcome) := by
  unfold Meets
  rw [show (attempt body : Scoped S ε σ _) locals = (body locals).bind _ from rfl,
    Protocol.follows_bind]
  constructor
  · intro hfollows
    refine hfollows.mono fun reached result hleft => ?_
    cases result with
    | error error =>
        obtain ⟨_, _, hresult, -⟩ := hleft
        cases hresult
    | ok left =>
        obtain ⟨_, _, hresult, hpost⟩ := hleft
        cases hresult
        exact ⟨left.1, left.2, rfl, hpost⟩
  · intro hfollows
    refine hfollows.mono ?_
    rintro reached result ⟨outcome, later, rfl, hpost⟩
    exact ⟨_, _, rfl, hpost⟩

theorem meets_ensuring {body : Scoped S ε σ α} {cleanup : Scoped S ε σ Unit}
    {post : φ → σ → Except ε α → Prop} :
    Meets protocol phase locals (ensuring body cleanup) post ↔
      Meets protocol phase locals body fun reached later outcome =>
        Meets protocol reached later cleanup fun reached later cleaned =>
          match cleaned with
          | .ok _ => post reached later outcome
          | .error error => post reached later (.error error) := by
  unfold ensuring
  rw [meets_bind, meets_attempt]
  simp only [meets_bind, meets_ofExcept]
  constructor
  · refine fun hmeets => hmeets.mono fun _ _ _ hcleanup => hcleanup.mono fun _ _ cleaned hpost => ?_
    cases cleaned <;> exact hpost
  · refine fun hmeets => hmeets.mono fun _ _ _ hcleanup => hcleanup.mono fun _ _ cleaned hpost => ?_
    cases cleaned <;> exact hpost

/-- An assertion that the handlers keep is kept by the program they serve. -/
theorem meets_serve (keeps : φ → σ → Prop)
    {handler : (request : T.Request) → Scoped S ε σ (T.Result request)}
    (hhandler : ∀ request phase locals, keeps phase locals →
      Meets protocol phase locals (handler request) fun reached later _ => keeps reached later)
    (program : Program T ε α) (hkeeps : keeps phase locals) :
    Meets protocol phase locals (serve handler program) fun reached later _ =>
      keeps reached later := by
  induction program generalizing phase locals with
  | ret value => exact (meets_of_ret rfl).mpr hkeeps
  | raise error => exact (meets_of_ret rfl).mpr hkeeps
  | ask request continuation ih =>
      unfold Meets
      rw [show (serve handler (.ask request continuation) : Scoped S ε σ α) locals =
        (handler request locals).bind _ from rfl, Protocol.follows_bind]
      refine Protocol.Follows.mono (hhandler request phase locals hkeeps) ?_
      rintro reached result ⟨outcome, later, rfl, hlater⟩
      exact ih outcome hlater

/-- A program that follows a protocol of its own, served by handlers that simulate the steps of that
protocol. -/
theorem meets_serve_of_follows {ψ : Type} {inner : Protocol T ε ψ} (relates : ψ → φ → σ → Prop)
    {handler : (request : T.Request) → Scoped S ε σ (T.Result request)}
    (hhandler : ∀ entered request phase locals, relates entered phase locals →
      inner.allows entered request →
      Meets protocol phase locals (handler request) fun reached later answer =>
        relates (inner.next entered request answer) reached later)
    {program : Program T ε α} {entered : ψ} {ends : ψ → Except ε α → Prop}
    (hfollows : inner.Follows entered program ends) (hrelates : relates entered phase locals) :
    Meets protocol phase locals (serve handler program) fun reached later outcome =>
      ∃ left, relates left reached later ∧ ends left outcome := by
  induction program generalizing entered phase locals with
  | ret value => exact (meets_of_ret rfl).mpr ⟨entered, hrelates, hfollows⟩
  | raise error => exact (meets_of_ret rfl).mpr ⟨entered, hrelates, hfollows⟩
  | ask request continuation ih =>
      unfold Meets
      rw [show (serve handler (.ask request continuation) : Scoped S ε σ α) locals =
        (handler request locals).bind _ from rfl, Protocol.follows_bind]
      refine Protocol.Follows.mono (hhandler entered request phase locals hrelates hfollows.1) ?_
      rintro reached result ⟨outcome, later, rfl, hlater⟩
      exact ih outcome (hfollows.2 outcome) hlater

/-- What a body meets, its program follows. -/
theorem Meets.follows_run {body : Scoped S ε σ α} {post : φ → σ → Except ε α → Prop}
    (hmeets : Meets protocol phase locals body post) :
    protocol.Follows phase (body.run locals) fun reached outcome =>
      ∃ later, post reached later outcome := by
  unfold run
  rw [Protocol.follows_bind]
  refine Protocol.Follows.mono hmeets ?_
  rintro reached result ⟨outcome, later, rfl, hpost⟩
  exact Protocol.follows_ofExcept.mpr ⟨later, hpost⟩

end Meets

/-! ### Bodies that leave the phase as it is -/

/-- However it is left, the body is left in the phase it was entered in. -/
def Keeps (protocol : Protocol S ε φ) (phase : φ) (body : Scoped S ε σ α) : Prop :=
  ∀ locals, Meets protocol phase locals body fun reached _ _ => reached = phase

namespace Keeps

variable {phase : φ}

theorem pure {value : α} : Keeps protocol phase (Pure.pure value : Scoped S ε σ α) :=
  fun _ => meets_pure.mpr rfl

theorem throw {error : ε} : Keeps protocol phase (MonadExcept.throw error : Scoped S ε σ α) :=
  fun _ => meets_throw.mpr rfl

theorem ofExcept {outcome : Except ε α} :
    Keeps protocol phase (Scoped.ofExcept outcome : Scoped S ε σ α) :=
  fun _ => meets_ofExcept.mpr rfl

theorem current : Keeps protocol phase (Scoped.current : Scoped S ε σ σ) :=
  fun _ => meets_current.mpr rfl

theorem assign {update : σ → σ} :
    Keeps protocol phase (Scoped.assign update : Scoped S ε σ Unit) :=
  fun _ => meets_assign.mpr rfl

theorem await {request : S.Request} (hallows : protocol.allows phase request)
    (hnext : ∀ answer, protocol.next phase request answer = phase) :
    Keeps protocol phase (Scoped.await request : Scoped S ε σ (S.Result request)) :=
  fun _ => meets_await.mpr ⟨hallows, hnext⟩

/-- A first part that keeps the phase hands it on to the rest, or to the condition. -/
theorem meets_bind {body : Scoped S ε σ α} {next : α → Scoped S ε σ β} {locals : σ}
    {post : φ → σ → Except ε β → Prop} (hbody : Keeps protocol phase body)
    (hnext : ∀ value later, Meets protocol phase later (next value) post)
    (herror : ∀ later error, post phase later (.error error)) :
    Meets protocol phase locals (body >>= next) post := by
  rw [Scoped.meets_bind]
  refine (hbody locals).mono ?_
  rintro _ later outcome rfl
  cases outcome with
  | ok value => exact hnext value later
  | error error => exact herror later error

theorem bind {body : Scoped S ε σ α} {next : α → Scoped S ε σ β}
    (hbody : Keeps protocol phase body) (hnext : ∀ value, Keeps protocol phase (next value)) :
    Keeps protocol phase (body >>= next) := fun _ =>
  hbody.meets_bind (fun value later => hnext value later) fun _ _ => rfl

theorem attempt {body : Scoped S ε σ α} (hbody : Keeps protocol phase body) :
    Keeps protocol phase (Scoped.attempt body) :=
  fun locals => meets_attempt.mpr (hbody locals)

theorem ensuring {body : Scoped S ε σ α} {cleanup : Scoped S ε σ Unit}
    (hbody : Keeps protocol phase body) (hcleanup : Keeps protocol phase cleanup) :
    Keeps protocol phase (Scoped.ensuring body cleanup) :=
  hbody.attempt.bind fun _ => hcleanup.bind fun _ => ofExcept

theorem serve {handler : (request : T.Request) → Scoped S ε σ (T.Result request)}
    (hhandler : ∀ request, Keeps protocol phase (handler request)) (program : Program T ε α) :
    Keeps protocol phase (Scoped.serve handler program) := by
  intro locals
  refine meets_serve (fun reached _ => reached = phase) ?_ program rfl
  rintro request _ entered rfl
  exact hhandler request entered

end Keeps

end Scoped

end Effect
