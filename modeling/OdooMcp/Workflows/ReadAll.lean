import OdooMcp.Workflows.Sources

/-!
# Which loops end

Whatever Odoo answers, a loop that keeps every item it reads makes no more page reads than full
pages fit its bound, and one more. Reads in chunks of ids share their bound, and add one page read
for each chunk.
-/

namespace OdooMcp

open Effect AccountingReader

/-! ### Chunks -/

/-- Loops that differ in the chunk of ids they ask for only. -/
structure SameLoops {α : Type} (idOf : α → Int) (model : String) (limit bound : Nat)
    (loopOf : List Int → PageLoop α) : Prop where
  idOf_eq : ∀ chunk, (loopOf chunk).source.idOf = idOf
  model_eq : ∀ chunk, (loopOf chunk).source.model = model
  limit_eq : ∀ chunk, (loopOf chunk).limit = limit
  bound_eq : ∀ chunk, (loopOf chunk).bound = bound
  keeps : ∀ chunk item, (loopOf chunk).keep item = true
  checks : ∀ chunk, (loopOf chunk).ChecksSeen

section Chunks

variable {α : Type} {idOf : α → Int} {model : String} {limit bound : Nat}
  {loopOf : List Int → PageLoop α} {reader : AccountingReader} {companyId : Int}

theorem runs_readChunks_cons {fuel : Nat} {chunk : List Int} {chunks : List (List Int)}
    {state : PageState α} {trace : List OdooEvent}
    {result : Except PyException (Option (PageState α))}
    (hruns : Program.Runs (readChunks loopOf reader companyId fuel (chunk :: chunks) state) trace
      result) :
    (∃ next first rest, trace = first ++ rest ∧
      Program.Runs ((loopOf chunk).run reader companyId fuel state.restart) first
        (.ok (some next)) ∧
      Program.Runs (readChunks loopOf reader companyId fuel chunks next) rest result) ∨
    (∃ found, Program.Runs ((loopOf chunk).run reader companyId fuel state.restart) trace found ∧
      ((found = .ok none ∧ result = .ok none) ∨
        ∃ error, found = .error error ∧ result = .error error)) := by
  rw [readChunks, Program.bind_eq, Program.runs_bind] at hruns
  rcases hruns with ⟨found, first, rest, rfl, hfirst, hrest⟩ | ⟨error, rfl, herror⟩
  · cases found with
    | none =>
        obtain ⟨rfl, rfl⟩ := Program.runs_ret.mp hrest
        rw [List.append_nil]
        exact .inr ⟨.ok none, hfirst, .inl ⟨rfl, rfl⟩⟩
    | some next => exact .inl ⟨next, first, rest, rfl, hfirst, hrest⟩
  · exact .inr ⟨.error error, herror, .inr ⟨error, rfl, rfl⟩⟩

variable (hsame : SameLoops idOf model limit bound loopOf)
include hsame

/-- By induction on the chunks: what one adds to the list is not left for those after it. -/
theorem atMost_readChunks (fuel : Nat) (chunks : List (List Int))
    (state : PageState α) (hwithin : state.items.length ≤ bound) :
    Program.AtMost (searches model) (chunks.length + (bound - state.items.length) / limit)
      (readChunks loopOf reader companyId fuel chunks state) := by
  induction chunks generalizing state with
  | nil => exact Program.AtMost.mono (Nat.zero_le _) (.ret _)
  | cons chunk chunks ih =>
      intro trace result hruns
      have hone : ∀ trace result,
          Program.Runs ((loopOf chunk).run reader companyId fuel state.restart) trace result →
            trace.countP (searches model) ≤ (bound - state.items.length) / limit + 1 := by
        have hrun : Program.AtMost _ _
            ((loopOf chunk).run reader companyId fuel state.restart) :=
          PageLoop.atMost_run (hsame.keeps chunk) fuel state.restart
        rwa [hsame.model_eq, hsame.bound_eq, hsame.limit_eq] at hrun
      rcases runs_readChunks_cons hruns with
        ⟨next, first, rest, rfl, hfirst, hrest⟩ | ⟨found, hfound, -⟩
      · obtain ⟨hless, hbound, hcount⟩ := PageLoop.countP_run_le (hsame.keeps chunk) hfirst
        rw [hsame.model_eq, hsame.limit_eq] at hcount
        rw [hsame.bound_eq] at hbound
        change state.items.length ≤ _ at hless
        change _ ≤ (_ - state.items.length) / _ + 1 at hcount
        have hcounts := ih next hbound rest result hrest
        have hsplit : (next.items.length - state.items.length) / limit +
            (bound - next.items.length) / limit ≤ _ := Nat.div_add_div_le_add_div
        have htotal : next.items.length - state.items.length + (bound - next.items.length) =
            bound - state.items.length := by omega
        rw [htotal] at hsplit
        rw [List.countP_append, List.length_cons]
        omega
      · have hcount := hone trace found hfound
        rw [List.length_cons]
        omega

theorem readChunks_terminates {fuel : Nat} (hfuel : bound / limit < fuel)
    (chunks : List (List Int)) (state : PageState α) {trace : List OdooEvent}
    {result : Except PyException (Option (PageState α))}
    (hruns : Program.Runs (readChunks loopOf reader companyId fuel chunks state) trace result) :
    result ≠ .ok none := by
  induction chunks generalizing state trace with
  | nil =>
      obtain ⟨-, rfl⟩ := Program.runs_ret.mp hruns
      simp
  | cons chunk chunks ih =>
      rcases runs_readChunks_cons hruns with
        ⟨next, first, rest, rfl, hfirst, hrest⟩ | ⟨found, hfound, ⟨rfl, -⟩ | ⟨error, -, rfl⟩⟩
      · exact ih next hrest
      · refine absurd rfl (PageLoop.run_terminates (hsame.keeps chunk) ?_ hfound)
        rw [hsame.bound_eq, hsame.limit_eq]
        exact lt_of_le_of_lt (Nat.div_le_div_right (Nat.sub_le _ _)) hfuel
      · simp

theorem distinct_of_readChunks {fuel : Nat} (chunks : List (List Int)) {state last : PageState α}
    (hdistinct : PageLoop.Distinct idOf state) {trace : List OdooEvent}
    (hruns : Program.Runs (readChunks loopOf reader companyId fuel chunks state) trace
      (.ok (some last))) : PageLoop.Distinct idOf last := by
  induction chunks generalizing state trace with
  | nil =>
      obtain ⟨-, hlast⟩ := Program.runs_ret.mp hruns
      cases hlast
      exact hdistinct
  | cons chunk chunks ih =>
      rcases runs_readChunks_cons hruns with
        ⟨next, first, rest, rfl, hfirst, hrest⟩ | ⟨found, -, ⟨-, hnone⟩ | ⟨error, -, herror⟩⟩
      · have hstart : PageLoop.Distinct (loopOf chunk).source.idOf state.restart := by
          rw [hsame.idOf_eq]
          exact ⟨hdistinct.seen, hdistinct.nodup⟩
        have hnext := PageLoop.distinct_of_run (hsame.keeps chunk)
          (hsame.checks chunk) hstart hfirst
        rw [hsame.idOf_eq] at hnext
        exact ih hnext hrest
      · cases hnone
      · cases herror

/-- **A read in chunks ends**, after at most one page read more for each chunk than full pages fit
the bound. -/
theorem endsWithin_readChunks (chunks : List (List Int)) :
    EndsWithin idOf model (chunks.length + bound / limit) fun fuel => do
      let found ← readChunks loopOf reader companyId fuel chunks .start
      return found.map (·.items) := by
  have hsplit {fuel : Nat} {trace : List OdooEvent} {result : Except PyException (Option (List α))}
      (hruns : Program.Runs (do
        let found ← readChunks loopOf reader companyId fuel chunks .start
        return found.map (·.items)) trace result) :
      ∃ found, Program.Runs (readChunks loopOf reader companyId fuel chunks .start) trace found ∧
        result = found.map (Option.map (·.items)) := by
    rw [Program.bind_eq, Program.runs_bind] at hruns
    rcases hruns with ⟨found, first, rest, rfl, hfirst, hrest⟩ | ⟨error, rfl, herror⟩
    · obtain ⟨rfl, rfl⟩ := Program.runs_ret.mp hrest
      rw [List.append_nil]
      exact ⟨.ok found, hfirst, rfl⟩
    · exact ⟨.error error, herror, rfl⟩
  refine ⟨fun fuel => ?_, fun fuel hfuel trace result hruns => ?_, fun fuel trace items hruns => ?_⟩
  · exact (atMost_readChunks hsame fuel chunks .start (Nat.zero_le _)).bind_none
      fun _ => .ret _
  · obtain ⟨found, hfound, rfl⟩ := hsplit hruns
    have hnone : found ≠ .ok none := by
      cases chunks with
      | nil => simp [(Program.runs_ret.mp hfound).2]
      | cons chunk chunks =>
          rw [List.length_cons] at hfuel
          exact readChunks_terminates hsame (by omega) _ .start hfound
    match found, hnone with
    | .ok (some last), _ => simp [Except.map]
    | .error error, _ => simp [Except.map]
  · obtain ⟨found, hfound, hresult⟩ := hsplit hruns
    match found, hresult with
    | .ok (some last), hresult =>
        cases hresult
        exact (distinct_of_readChunks hsame chunks (PageLoop.distinct_start idOf) hfound).nodup

end Chunks

/-! ### The lines of a journal entry -/

section EntryLines

variable {reader : AccountingReader} {companyId moveId : Int}

/-- `get_journal_entry` reads its lines as the loop does: by induction on the lines that may still
be read. -/
theorem journalEntryLines_eq (fuel : Nat) (state : PageState AccountMoveLine)
    (hfuel : 10000 - state.items.length < fuel) :
    (reader.journalEntryLines companyId moveId (state.items.map journalEntryLine)
        state.cursor).bind (fun lines => .ret (some lines)) =
      ((Journals.entryLines moveId).run reader companyId fuel state).bind
        fun found => .ret (found.map fun last => last.items.map journalEntryLine) := by
  induction fuel generalizing state with
  | zero => omega
  | succ fuel ih =>
      rw [journalEntryLines, PageLoop.run, Program.loop]
      simp only [PageLoop.body, Program.bind_eq, Program.bind_assoc]
      congr 1
      funext request
      congr 1
      funext page
      congr 1
      funext checked
      have hitems : ((Journals.entryLines moveId).add state page).items =
          state.items ++ page.items :=
        PageLoop.items_add (fun _ => rfl) state page
      have hlength : (state.items.map journalEntryLine ++
          page.items.map journalEntryLine).length =
            ((Journals.entryLines moveId).add state page).items.length := by
        rw [hitems, ← List.map_append, List.length_map]
      by_cases hbound : ((Journals.entryLines moveId).add state page).items.length ≤ 10000
      · have hensure : ensure (decide (((Journals.entryLines moveId).add state page).items.length ≤
            (Journals.entryLines moveId).bound)) (Journals.entryLines moveId).tooMany = .ok () := by
          rw [ensure_ok, decide_eq_true_eq]
          exact hbound
        rw [dif_neg (by omega), hensure]
        simp only [Program.ofExcept, Program.bind]
        cases hnext : page.nextCursor with
        | none =>
            change Program.ret (some _) = Program.ret
              (some (((Journals.entryLines moveId).add state page).items.map journalEntryLine))
            rw [hitems, List.map_append]
        | some next =>
            have hadded : 0 < page.items.length :=
              List.length_pos_iff.mpr (page.progress (by rw [hnext]; rfl))
            have hroom : 10000 -
                (((Journals.entryLines moveId).add state page).follow next).items.length <
                  fuel := by
              change 10000 - ((Journals.entryLines moveId).add state page).items.length < fuel
              rw [hitems, List.length_append] at hbound ⊢
              omega
            change Program.bind (reader.journalEntryLines companyId moveId _ (some next)) _ = _
            rw [← List.map_append, ← hitems]
            exact ih _ hroom
      · have hensure : ensure (decide (((Journals.entryLines moveId).add state page).items.length ≤
            (Journals.entryLines moveId).bound)) (Journals.entryLines moveId).tooMany =
              .error invalidResponse := by
          rw [ensure, if_neg]
          · rfl
          · rw [decide_eq_true_eq]
            exact hbound
        rw [dif_pos (by omega), hensure]
        rfl

theorem endsWithin_journalEntryLines :
    EndsWithin JournalEntryLine.id "account.move.line" 21 fun _fuel =>
      (reader.journalEntryLines companyId moveId [] none).bind fun lines => .ret (some lines) := by
  have hsame : (reader.journalEntryLines companyId moveId [] none).bind
      (fun lines => .ret (some lines)) =
      ((Journals.entryLines moveId).run reader companyId 10001 .start).bind
        fun found => .ret (found.map fun last => last.items.map journalEntryLine) :=
    journalEntryLines_eq 10001 .start (by decide)
  have hkeep : ∀ item, (Journals.entryLines moveId).keep item = true := fun _ => rfl
  refine ⟨fun fuel => ?_, fun fuel _ trace result hruns => ?_, fun fuel trace items hruns => ?_⟩
  · rw [hsame]
    exact Program.AtMost.mono (by simp [Journals.entryLines, PageState.start])
      ((PageLoop.atMost_run hkeep 10001 .start).bind_none fun _ => .ret _)
  · rw [Program.runs_bind] at hruns
    rcases hruns with ⟨lines, first, rest, -, -, hrest⟩ | ⟨error, rfl, -⟩
    · simp [(Program.runs_ret.mp hrest).2]
    · simp
  · rw [hsame] at hruns
    obtain ⟨found, first, rest, rfl, hfound, hrest⟩ := Program.runs_bind_ok.mp hruns
    obtain ⟨-, hitems⟩ := Program.runs_ret.mp hrest
    cases found with
    | none => cases hitems
    | some last =>
        cases hitems
        have hordered := PageLoop.pairwise_of_run (PageLoop.ordered_start _) hfound
        rw [List.map_map]
        exact hordered.imp fun hlt => ne_of_lt hlt

end EntryLines

end OdooMcp
