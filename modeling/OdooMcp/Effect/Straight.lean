import OdooMcp.Effect.Program

/-!
# Programs that pass errors on

A straight program handles no error: the first request that is answered with one ends it, with that
very error. Its other errors are its own, and it makes only requests of a given kind.
-/

namespace Effect

namespace Program

variable {S : Signature} {ε α β : Type} {asks : S.Request → Prop} {raises : ε → Prop}

/-- The program makes only requests that satisfy `asks`, raises on its own only errors that satisfy
`raises`, and passes on every error it is answered with. -/
def Straight (asks : S.Request → Prop) (raises : ε → Prop) : Program S ε α → Prop
  | .ret _ => True
  | .raise error => raises error
  | .ask request continuation =>
      asks request ∧ (∀ error, continuation (.error error) = .raise error) ∧
        ∀ value, (continuation (.ok value)).Straight asks raises

def Answered (trace : List (Event S ε)) : Prop :=
  ∀ event ∈ trace, ∃ value, event.answer = .ok value

namespace Straight

theorem ret (value : α) : (.ret value : Program S ε α).Straight asks raises := trivial

theorem raise {error : ε} (herror : raises error) :
    (.raise error : Program S ε α).Straight asks raises := herror

theorem ofExcept {outcome : Except ε α}
    (houtcome : ∀ error, outcome = .error error → raises error) :
    (Program.ofExcept outcome : Program S ε α).Straight asks raises := by
  cases outcome with
  | ok value => trivial
  | error error => exact houtcome error rfl

theorem call {request : S.Request} (hrequest : asks request) :
    (Program.call request : Program S ε (S.Result request)).Straight asks raises :=
  ⟨hrequest, fun _ => rfl, fun _ => trivial⟩

theorem bind {program : Program S ε α} {next : α → Program S ε β}
    (hprogram : program.Straight asks raises) (hnext : ∀ value, (next value).Straight asks raises) :
    (program >>= next).Straight asks raises := by
  rw [bind_eq]
  induction program with
  | ret value => exact hnext value
  | raise error => exact hprogram
  | ask request continuation ih =>
      obtain ⟨hrequest, herror, hvalue⟩ := hprogram
      refine ⟨hrequest, fun error => ?_, fun value => ih (.ok value) (hvalue value)⟩
      change (continuation (.error error)).bind next = .raise error
      rw [herror]
      rfl

theorem mono {weaker : S.Request → Prop} {program : Program S ε α}
    (hprogram : program.Straight asks raises) (hasks : ∀ request, asks request → weaker request) :
    program.Straight weaker raises := by
  induction program with
  | ret value => trivial
  | raise error => exact hprogram
  | ask request continuation ih =>
      exact ⟨hasks request hprogram.1, hprogram.2.1, fun value => ih _ (hprogram.2.2 value)⟩

theorem weaken {others : ε → Prop} {program : Program S ε α}
    (hprogram : program.Straight asks raises) (hraises : ∀ error, raises error → others error) :
    program.Straight asks others := by
  induction program with
  | ret value => trivial
  | raise error => exact hraises error hprogram
  | ask request continuation ih =>
      exact ⟨hprogram.1, hprogram.2.1, fun value => ih _ (hprogram.2.2 value)⟩

theorem asks_of_runs {program : Program S ε α} (hprogram : program.Straight asks raises)
    {trace : List (Event S ε)} {result : Except ε α} (hruns : Runs program trace result) :
    ∀ event ∈ trace, asks event.request := by
  induction program generalizing trace with
  | ret value =>
      rw [runs_ret] at hruns
      simp [hruns.1]
  | raise error =>
      rw [runs_raise] at hruns
      simp [hruns.1]
  | ask request continuation ih =>
      rw [runs_ask] at hruns
      obtain ⟨answer, rest, rfl, hrest⟩ := hruns
      refine List.forall_mem_cons.mpr ⟨hprogram.1, ?_⟩
      cases answer with
      | ok value => exact ih _ (hprogram.2.2 value) hrest
      | error error =>
          rw [hprogram.2.1, runs_raise] at hrest
          simp [hrest.1]

/-- A run either was answered throughout, and raises at most an error of its own, or it ends with
the error its last request was answered with. -/
theorem cases_of_runs {program : Program S ε α} (hprogram : program.Straight asks raises)
    {trace : List (Event S ε)} {result : Except ε α} (hruns : Runs program trace result) :
    (Answered trace ∧ ∀ error, result = .error error → raises error) ∨
      ∃ before request error, trace = before ++ [⟨request, .error error⟩] ∧ Answered before ∧
        result = .error error := by
  induction program generalizing trace with
  | ret value =>
      rw [runs_ret] at hruns
      obtain ⟨rfl, rfl⟩ := hruns
      exact .inl ⟨by simp [Answered], by simp⟩
  | raise error =>
      rw [runs_raise] at hruns
      obtain ⟨rfl, rfl⟩ := hruns
      refine .inl ⟨by simp [Answered], ?_⟩
      rintro _ ⟨⟩
      exact hprogram
  | ask request continuation ih =>
      rw [runs_ask] at hruns
      obtain ⟨answer, rest, rfl, hrest⟩ := hruns
      cases answer with
      | error error =>
          rw [hprogram.2.1, runs_raise] at hrest
          obtain ⟨rfl, rfl⟩ := hrest
          exact .inr ⟨[], request, error, rfl, by simp [Answered], rfl⟩
      | ok value =>
          have hfirst : ∃ found, (.ok value : Except ε (S.Result request)) = .ok found :=
            ⟨value, rfl⟩
          rcases ih _ (hprogram.2.2 value) hrest with
            ⟨hanswered, hraises⟩ | ⟨before, last, error, rfl, hanswered, hresult⟩
          · exact .inl ⟨List.forall_mem_cons.mpr ⟨hfirst, hanswered⟩, hraises⟩
          · exact .inr ⟨⟨request, .ok value⟩ :: before, last, error, rfl,
              List.forall_mem_cons.mpr ⟨hfirst, hanswered⟩, hresult⟩

end Straight

end Program

end Effect
