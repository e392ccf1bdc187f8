import OdooMcp.DecimalQuotients
import OdooMcp.Workflows.JournalListing

/-!
# Drafts of journal entries

A draft is prepared from the lines of a request, once all that they refer to is found. Its totals
are compared at the precision of the company's currency.
-/

namespace OdooMcp

namespace Journals

open Effect

structure JournalEntryLineInput where
  accountId : Int
  partnerId : Option Int
  description : Option String
  debit : Decimal
  credit : Decimal
  analyticAccountId : Option Int
  debit_nonneg : 0 ≤ debit.value
  credit_nonneg : 0 ≤ credit.value
  one_positive : ¬(0 < debit.value ↔ 0 < credit.value)

structure CreateJournalEntryInput where
  companyId : Int
  journalId : Int
  entryDate : Date
  reference : Option String
  lines : List JournalEntryLineInput
  lines_ge : 2 ≤ lines.length
  lines_le : lines.length ≤ 500

/-! ### Reads -/

inductive DraftRead
  | journals
  | accounts (identifiers : List Int)
  | partners (identifiers : List Int)
  | analyticAccounts (identifiers : List Int)
  | companies
  | currencies (currencyId : Int)

abbrev draftReads : Signature where
  Request := DraftRead
  Result
    | .journals => List Journal
    | .accounts _ => List Account
    | .partners _ => List Partner
    | .analyticAccounts _ => List AnalyticAccount
    | .companies => List Company
    | .currencies _ => List Currency

abbrev DraftProgram (α : Type) := Program draftReads PyException α

def readByIds {α : Type} (reader : AccountingReader) (companyId : Int) (identifiers : List Int)
    (read : List FilterClause → PagedRead α) : Odoo (List α) :=
  if hlimit : 1 ≤ identifiers.length ∧ identifiers.length ≤ 500 then do
    let page ← reader.pagedRead (read [⟨"id", "in", .tuple (identifiers.map .int)⟩]) companyId
      ⟨identifiers.length, none, hlimit.1, hlimit.2, PageRequest.no_cursor⟩
    return page.items
  else
    throw (valueError "validation error for PageRequest")

def DraftRead.perform (reader : AccountingReader) (allowed : List Int) (companyId : Int)
    (fuel : Nat) : (read : DraftRead) → Odoo (Option (draftReads.Result read))
  | .journals => draftJournals.readAll reader companyId fuel
  | .accounts identifiers => some <$> readByIds reader companyId identifiers .accounts
  | .partners identifiers => some <$> readByIds reader companyId identifiers .partners
  | .analyticAccounts identifiers =>
      some <$> readByIds reader companyId identifiers .analyticAccounts
  | .companies => some <$> getCompanies allowed
  | .currencies currencyId => do
      let page ← reader.pagedRead (.currencies [currencyId]) companyId
        ⟨1, none, Nat.one_pos, PageRequest.one_le_max, PageRequest.no_cursor⟩
      return some page.items

/-! ### The preparation -/

def journalError (code : ErrorCode) (message remediation : String) : PyException :=
  .odooMcpError ⟨code, message, remediation⟩

/-- The found ids are those that were looked up. -/
def ensureFound (found identifiers : List Int) (error : PyException) : Except PyException Unit :=
  ensure (sortedSet found = identifiers) error

/-- `_currency_rounding` -/
def currencyRounding (companyId : Int) : DraftProgram (RelatedRecord × Decimal) := do
  let companies ← Program.call (S := draftReads) .companies
  let currency ← Program.ofExcept (orRaise
    ((companies.find? (·.id = companyId)).bind (·.currency))
    (journalError .odooApiError "Odoo returned incomplete company currency data."
      "Configure the company currency and retry."))
  let found ← Program.call (S := draftReads) (.currencies currency.id)
  let increment ← Program.ofExcept (match found with
    | [found] =>
        if found.id = currency.id then .ok found.rounding
        else .error (journalError .odooApiError
          "Odoo returned incomplete currency precision data."
          "Correct the company currency and retry.")
    | _ => .error (journalError .odooApiError "Odoo returned incomplete currency precision data."
        "Correct the company currency and retry."))
  return (currency, increment)

/-- `_rounded`, which raises where the context has no result. -/
def roundedAmount (value increment : Decimal) : Except PyException Decimal :=
  orRaise (value.roundedTo increment) (.exception "decimal.InvalidOperation")

def draftLine (line : JournalEntryLineInput) : JournalEntryDraftLine :=
  ⟨line.accountId, line.partnerId, (nonEmptyText line.description).map strip, line.debit,
    line.credit, line.analyticAccountId⟩
where
  nonEmptyText (value : Option String) : Option String := value.filter (· ≠ "")

structure JournalDraftEffects where
  draft : JournalEntryDraft
  journal : Journal
  currency : RelatedRecord
  totalDebit : Decimal
  totalCredit : Decimal
  currencyRounding : Decimal
  balanced : Bool

def balancedEffects (request : CreateJournalEntryInput) (journal : Journal)
    (currency : RelatedRecord) (increment : Decimal) : JournalDraftEffects where
  draft := ⟨request.companyId, request.journalId, request.entryDate,
    (request.reference.filter (· ≠ "")).map strip, request.lines.map draftLine⟩
  journal := journal
  currency := currency
  totalDebit := sumDecimals (request.lines.map (·.debit))
  totalCredit := sumDecimals (request.lines.map (·.credit))
  currencyRounding := increment
  balanced := true

def idsOf (lines : List JournalEntryLineInput) (idOf : JournalEntryLineInput → Option Int) :
    List Int :=
  sortedSet ((lines.filterMap idOf).filter (· ≠ 0))

/-- `prepare_journal_entry_draft` -/
def prepareJournalEntryDraft (request : CreateJournalEntryInput) :
    DraftProgram JournalDraftEffects := do
  let journals ← Program.call (S := draftReads) .journals
  let journal ← Program.ofExcept (orRaise (journals.find? (·.id = request.journalId))
    (journalError .journalNotFound "The requested journal is unavailable."
      "Use an exact journal ID from the authorized company."))
  let accountIds := idsOf request.lines fun line => some line.accountId
  let accounts ← Program.call (S := draftReads) (.accounts accountIds)
  Program.ofExcept (ensureFound (accounts.map (·.id)) accountIds
    (journalError .accountNotFound "One or more journal accounts are unavailable."
      "Use exact account IDs from the authorized company."))
  let partnerIds := idsOf request.lines (·.partnerId)
  checkPartners partnerIds
  let analyticIds := idsOf request.lines (·.analyticAccountId)
  checkAnalytics analyticIds
  let (currency, increment) ← currencyRounding request.companyId
  let totalDebit := sumDecimals (request.lines.map (·.debit))
  let totalCredit := sumDecimals (request.lines.map (·.credit))
  let roundedDebit ← Program.ofExcept (roundedAmount totalDebit increment)
  let roundedCredit ← Program.ofExcept (roundedAmount totalCredit increment)
  Program.ofExcept (ensure (roundedDebit.same roundedCredit)
    (journalError .journalEntryUnbalanced
      "The journal entry is not balanced at company-currency precision."
      "Make total debits equal total credits and retry."))
  return balancedEffects request journal currency increment
where
  checkPartners (identifiers : List Int) : DraftProgram Unit :=
    if identifiers.isEmpty then return ()
    else do
      let partners ← Program.call (S := draftReads) (.partners identifiers)
      Program.ofExcept (ensureFound (partners.map (·.id)) identifiers
        (journalError .invalidInput "One or more journal partners are unavailable."
          "Use exact partner IDs from the authorized company."))
  checkAnalytics (identifiers : List Int) : DraftProgram Unit :=
    if identifiers.isEmpty then return ()
    else do
      let analytics ← Program.call (S := draftReads) (.analyticAccounts identifiers)
      Program.ofExcept (ensureFound (analytics.map (·.id)) identifiers
        (journalError .invalidInput "One or more analytic accounts are unavailable."
          "Use exact analytic account IDs from the authorized company."))

/-! ### Balance -/

/-- An amount as Odoo stores it: rounded half up to the increment. -/
def stored (increment : Decimal) (amount : Decimal) : ℚ :=
  ⌊amount.value / increment.value + 1 / 2⌋ * increment.value

def storedTotal (increment : Decimal) (amounts : List Decimal) : ℚ :=
  (amounts.map (stored increment)).sum

/-- The lines hold multiples of the increment, of so many places, and the context can hold their
totals. -/
structure AtPrecision (increment : Decimal) (places : Nat) (amounts : List Decimal) : Prop where
  multiples : ∀ amount ∈ amounts, ∃ units : Nat, amount.value = units * increment.value
  short : ∀ amount ∈ amounts, amount.HasPlaces places
  below : (amounts.map Decimal.value).sum < Decimal.capacity places

section Balance

variable {increment : Decimal} {places : Nat} {amounts : List Decimal}

theorem stored_multiple (hincrement : 0 < increment.value) {amount : Decimal} {units : Nat}
    (hmultiple : amount.value = units * increment.value) :
    stored increment amount = amount.value := by
  have hfloor : ⌊(units : ℚ) + 1 / 2⌋ = units := by
    rw [Int.floor_eq_iff]
    constructor <;> push_cast <;> linarith
  rw [stored, hmultiple, mul_div_assoc, div_self hincrement.ne', mul_one, hfloor]
  push_cast
  rfl

theorem storedTotal_multiples (hincrement : 0 < increment.value)
    (hfits : AtPrecision increment places amounts) :
    storedTotal increment amounts = (amounts.map Decimal.value).sum := by
  refine congrArg List.sum (List.map_congr_left fun amount hamount => ?_)
  obtain ⟨units, hmultiple⟩ := hfits.multiples amount hamount
  exact stored_multiple hincrement hmultiple

theorem sum_multiples (hmultiples : ∀ amount ∈ amounts, ∃ units : Nat,
    amount.value = units * increment.value) :
    ∃ units : Nat, (amounts.map Decimal.value).sum = units * increment.value := by
  induction amounts with
  | nil => exact ⟨0, by simp⟩
  | cons amount amounts ih =>
      obtain ⟨⟨units, hunits⟩, hrest⟩ := List.forall_mem_cons.mp hmultiples
      obtain ⟨others, hothers⟩ := ih hrest
      refine ⟨units + others, ?_⟩
      rw [List.map_cons, List.sum_cons, hunits, hothers]
      push_cast
      ring

/-- The total of such lines is not changed by rounding. -/
theorem value_roundedAmount (hincrement : 0 < increment.value)
    (hplaces : increment.HasPlaces places) (hnonneg : ∀ amount ∈ amounts, 0 ≤ amount.value)
    (hfits : AtPrecision increment places amounts) {rounded : Decimal}
    (hrounded : roundedAmount (sumDecimals amounts) increment = .ok rounded) :
    rounded.value = (amounts.map Decimal.value).sum := by
  have habs : (amounts.map fun amount => |amount.value|) = amounts.map Decimal.value :=
    List.map_congr_left fun amount hamount => abs_of_nonneg (hnonneg amount hamount)
  have hbelow : (amounts.map fun amount => |amount.value|).sum < Decimal.capacity places := by
    rw [habs]
    exact hfits.below
  obtain ⟨htotal, -⟩ := Decimal.value_total hfits.short hbelow
  have hsum : (sumDecimals amounts).value = (amounts.map Decimal.value).sum := htotal
  obtain ⟨units, hunits⟩ := sum_multiples hfits.multiples
  have hmultiple : (sumDecimals amounts).value = units * increment.value := hsum.trans hunits
  have htotalBelow : (sumDecimals amounts).value < Decimal.capacity places := by
    rw [hsum]
    exact hfits.below
  obtain ⟨expected, hexpected, hvalue⟩ :=
    Decimal.roundedTo_multiple hincrement hplaces hmultiple htotalBelow
  rw [roundedAmount, orRaise_ok, hexpected] at hrounded
  cases hrounded
  rw [hvalue, hsum]

end Balance

/-- What an accepted draft was compared by. -/
theorem compared_of_prepare {request : CreateJournalEntryInput} {effects : JournalDraftEffects}
    {source : (read : DraftRead) → Except PyException (draftReads.Result read)}
    (hprepared : (prepareJournalEntryDraft request).evaluate source = .ok effects) :
    ∃ roundedDebit roundedCredit,
      roundedAmount (sumDecimals (request.lines.map (·.debit))) effects.currencyRounding =
        .ok roundedDebit ∧
      roundedAmount (sumDecimals (request.lines.map (·.credit))) effects.currencyRounding =
        .ok roundedCredit ∧
      roundedDebit.value = roundedCredit.value := by
  obtain ⟨journals, -, hrest⟩ := Program.evaluate_bind_ok.mp hprepared
  obtain ⟨journal, -, hrest⟩ := Program.evaluate_bind_ok.mp hrest
  obtain ⟨accounts, -, hrest⟩ := Program.evaluate_bind_ok.mp hrest
  obtain ⟨⟨⟩, -, hrest⟩ := Program.evaluate_bind_ok.mp hrest
  obtain ⟨⟨⟩, -, hrest⟩ := Program.evaluate_bind_ok.mp hrest
  obtain ⟨⟨⟩, -, hrest⟩ := Program.evaluate_bind_ok.mp hrest
  obtain ⟨⟨currency, increment⟩, -, hrest⟩ := Program.evaluate_bind_ok.mp hrest
  obtain ⟨roundedDebit, hdebit, hrest⟩ := Program.evaluate_bind_ok.mp hrest
  obtain ⟨roundedCredit, hcredit, hrest⟩ := Program.evaluate_bind_ok.mp hrest
  obtain ⟨⟨⟩, hsame, hdone⟩ := Program.evaluate_bind_ok.mp hrest
  rw [Program.evaluate_ofExcept] at hdebit hcredit hsame
  cases hdone
  rw [ensure_ok, Decimal.same_iff] at hsame
  exact ⟨roundedDebit, roundedCredit, hdebit, hcredit, hsame⟩

/-- **Accepted drafts balance at the precision of the currency.** The totals of an accepted draft
round to one amount. If its lines hold multiples of the increment, the lines that Odoo stores
balance. -/
theorem journal_draft_balanced {request : CreateJournalEntryInput} {effects : JournalDraftEffects}
    {source : (read : DraftRead) → Except PyException (draftReads.Result read)}
    (hprepared : (prepareJournalEntryDraft request).evaluate source = .ok effects) :
    (∃ roundedDebit roundedCredit,
      roundedAmount (sumDecimals (request.lines.map (·.debit))) effects.currencyRounding =
        .ok roundedDebit ∧
      roundedAmount (sumDecimals (request.lines.map (·.credit))) effects.currencyRounding =
        .ok roundedCredit ∧
      roundedDebit.value = roundedCredit.value) ∧
    ∀ places, 0 < effects.currencyRounding.value → effects.currencyRounding.HasPlaces places →
      AtPrecision effects.currencyRounding places (request.lines.map (·.debit)) →
      AtPrecision effects.currencyRounding places (request.lines.map (·.credit)) →
      storedTotal effects.currencyRounding (request.lines.map (·.debit)) =
        storedTotal effects.currencyRounding (request.lines.map (·.credit)) := by
  have hcompared := compared_of_prepare hprepared
  refine ⟨hcompared, fun places hincrement hplaces hdebits hcredits => ?_⟩
  obtain ⟨roundedDebit, roundedCredit, hdebit, hcredit, hsame⟩ := hcompared
  have hdebitTotal := value_roundedAmount hincrement hplaces (by
    intro amount hamount
    obtain ⟨line, -, rfl⟩ := List.mem_map.mp hamount
    exact line.debit_nonneg) hdebits hdebit
  have hcreditTotal := value_roundedAmount hincrement hplaces (by
    intro amount hamount
    obtain ⟨line, -, rfl⟩ := List.mem_map.mp hamount
    exact line.credit_nonneg) hcredits hcredit
  rw [storedTotal_multiples hincrement hdebits, storedTotal_multiples hincrement hcredits,
    ← hdebitTotal, ← hcreditTotal, hsame]

/-! ### Two halves of a cent -/

def debitLine (accountId : Int) (amount : Decimal) (hamount : 0 < amount.value) :
    JournalEntryLineInput where
  accountId := accountId
  partnerId := none
  description := none
  debit := amount
  credit := .zero
  analyticAccountId := none
  debit_nonneg := hamount.le
  credit_nonneg := Decimal.value_zero.ge
  one_positive := by
    rw [Decimal.value_zero]
    exact fun hiff => lt_irrefl 0 (hiff.mp hamount)

def creditLine (accountId : Int) (amount : Decimal) (hamount : 0 < amount.value) :
    JournalEntryLineInput where
  accountId := accountId
  partnerId := none
  description := none
  debit := .zero
  credit := amount
  analyticAccountId := none
  debit_nonneg := Decimal.value_zero.ge
  credit_nonneg := hamount.le
  one_positive := by
    rw [Decimal.value_zero]
    exact fun hiff => lt_irrefl 0 (hiff.mpr hamount)

def twoDebits (debit credit : Decimal) (hdebit : 0 < debit.value) (hcredit : 0 < credit.value) :
    CreateJournalEntryInput where
  companyId := 1
  journalId := 3
  entryDate := ⟨739000⟩
  reference := none
  lines := [debitLine 10 debit hdebit, debitLine 11 debit hdebit, creditLine 12 credit hcredit]
  lines_ge := Nat.le_succ 2
  lines_le := by
    change 3 ≤ 500
    decide

def draftSource : (read : DraftRead) → Except PyException (draftReads.Result read)
  | .journals => .ok [⟨3, "Miscellaneous", "MISC", "general", 1, none⟩]
  | .accounts identifiers =>
      .ok (identifiers.map fun identifier =>
        ⟨identifier, "", "", "asset_current", [1], none, false⟩)
  | .partners _ => .ok []
  | .analyticAccounts _ => .ok []
  | .companies => .ok [⟨1, "Main", some ⟨1, "EUR", Int.one_pos⟩, some 1⟩]
  | .currencies currencyId => .ok [⟨currencyId, "EUR", ⟨false, 1, -2⟩⟩]

/-- Half a cent twice, against one cent. -/
def halfCents : CreateJournalEntryInput :=
  twoDebits ⟨false, 5, -3⟩ ⟨false, 1, -2⟩ (by decide +kernel) (by decide +kernel)

/-- Five cents twice, against ten. -/
def wholeCents : CreateJournalEntryInput :=
  twoDebits ⟨false, 5, -2⟩ ⟨false, 10, -2⟩ (by decide +kernel) (by decide +kernel)

theorem ensureFound_accounts (error : PyException) :
    ensureFound [10, 11, 12] [10, 11, 12] error = .ok () :=
  ensure_ok.mpr (by decide +kernel)

section TwoDebits

variable (debit credit roundedDebit roundedCredit : Decimal)
  (hdebit : 0 < debit.value) (hcredit : 0 < credit.value)

theorem prepare_twoDebits
    (hroundedDebit : (sumDecimals [debit, debit, .zero]).roundedTo ⟨false, 1, -2⟩ =
      some roundedDebit)
    (hroundedCredit : (sumDecimals [.zero, .zero, credit]).roundedTo ⟨false, 1, -2⟩ =
      some roundedCredit)
    (hsame : roundedDebit.same roundedCredit) :
    (prepareJournalEntryDraft (twoDebits debit credit hdebit hcredit)).evaluate draftSource =
      .ok (balancedEffects (twoDebits debit credit hdebit hcredit)
        ⟨3, "Miscellaneous", "MISC", "general", 1, none⟩ ⟨1, "EUR", by decide⟩
        ⟨false, 1, -2⟩) := by
  have haccounts : idsOf (twoDebits debit credit hdebit hcredit).lines
      (fun line => some line.accountId) = [10, 11, 12] := by
    change sortedSet ([10, 11, 12].filter (· ≠ 0)) = _
    decide +kernel
  have hpartners : idsOf (twoDebits debit credit hdebit hcredit).lines (·.partnerId) = [] := by
    change sortedSet ([].filter (· ≠ 0)) = _
    decide +kernel
  have hanalytics : idsOf (twoDebits debit credit hdebit hcredit).lines
      (·.analyticAccountId) = [] := by
    change sortedSet ([].filter (· ≠ 0)) = _
    decide +kernel
  have hdebits : roundedAmount (sumDecimals ((twoDebits debit credit hdebit hcredit).lines.map
      (·.debit))) ⟨false, 1, -2⟩ = .ok roundedDebit := orRaise_ok.mpr hroundedDebit
  have hcredits : roundedAmount (sumDecimals ((twoDebits debit credit hdebit hcredit).lines.map
      (·.credit))) ⟨false, 1, -2⟩ = .ok roundedCredit := orRaise_ok.mpr hroundedCredit
  unfold prepareJournalEntryDraft
  rw [haccounts, hpartners, hanalytics]
  refine (Program.evaluate_bind_of_ok (by rfl) _).trans ?_
  refine (Program.evaluate_bind_of_ok (by rfl) _).trans ?_
  refine (Program.evaluate_bind_of_ok (by rfl) _).trans ?_
  refine (Program.evaluate_bind_of_ok
    ((Program.evaluate_ofExcept _).trans (ensureFound_accounts _)) _).trans ?_
  refine (Program.evaluate_bind_of_ok (by rfl) _).trans ?_
  refine (Program.evaluate_bind_of_ok (by rfl) _).trans ?_
  refine (Program.evaluate_bind_of_ok (by rfl) _).trans ?_
  refine (Program.evaluate_bind_of_ok ((Program.evaluate_ofExcept _).trans hdebits) _).trans ?_
  refine (Program.evaluate_bind_of_ok ((Program.evaluate_ofExcept _).trans hcredits) _).trans ?_
  have hbalanced (error : PyException) :
      ensure (roundedDebit.same roundedCredit) error = .ok () := ensure_ok.mpr hsame
  refine (Program.evaluate_bind_of_ok
    ((Program.evaluate_ofExcept _).trans (hbalanced _)) _).trans ?_
  exact Program.evaluate_ret _

end TwoDebits

theorem prepare_halfCents : ∃ effects,
    (prepareJournalEntryDraft halfCents).evaluate draftSource = .ok effects ∧
      effects.currencyRounding = ⟨false, 1, -2⟩ :=
  ⟨_, prepare_twoDebits ⟨false, 5, -3⟩ ⟨false, 1, -2⟩ ⟨false, 1, -2⟩ ⟨false, 1, -2⟩ _ _
    (by decide +kernel) (by decide +kernel) (by decide +kernel), rfl⟩

/-- The two halves are stored as a cent each. -/
theorem not_stored_balanced :
    ¬∀ (request : CreateJournalEntryInput) (effects : JournalDraftEffects)
      (source : (read : DraftRead) → Except PyException (draftReads.Result read)),
      (prepareJournalEntryDraft request).evaluate source = .ok effects →
        storedTotal effects.currencyRounding (request.lines.map (·.debit)) =
          storedTotal effects.currencyRounding (request.lines.map (·.credit)) := by
  intro hbalanced
  obtain ⟨effects, hprepared, hrounding⟩ := prepare_halfCents
  have hequal := hbalanced halfCents effects draftSource hprepared
  rw [hrounding] at hequal
  revert hequal
  decide +kernel

/-- Amounts of whole cents, listed by their cents. -/
theorem atPrecision_units {amounts : List Decimal} (units : List Nat)
    (hunits : amounts.map Decimal.value = units.map fun (count : Nat) => (count : ℚ) / 100)
    (hplaces : ∀ amount ∈ amounts, amount.HasPlaces 2)
    (hbelow : (amounts.map Decimal.value).sum < Decimal.capacity 2) :
    AtPrecision ⟨false, 1, -2⟩ 2 amounts where
  multiples amount hamount := by
    have hmember : amount.value ∈ units.map fun (count : Nat) => (count : ℚ) / 100 :=
      hunits ▸ List.mem_map_of_mem hamount
    obtain ⟨count, -, hcount⟩ := List.mem_map.mp hmember
    have hcent : Decimal.value ⟨false, 1, -2⟩ = 1 / 100 := by decide +kernel
    refine ⟨count, ?_⟩
    rw [hcent, ← hcount]
    ring
  short := hplaces
  below := hbelow

theorem journal_draft_balanced_cents : ∃ effects,
    (prepareJournalEntryDraft wholeCents).evaluate draftSource = .ok effects ∧
    storedTotal effects.currencyRounding (wholeCents.lines.map (·.debit)) =
      storedTotal effects.currencyRounding (wholeCents.lines.map (·.credit)) := by
  have hprepared := prepare_twoDebits ⟨false, 5, -2⟩ ⟨false, 10, -2⟩ ⟨false, 10, -2⟩
    ⟨false, 10, -2⟩ (by decide +kernel) (by decide +kernel) (by decide +kernel)
    (by decide +kernel) (by decide +kernel)
  refine ⟨_, hprepared, (journal_draft_balanced hprepared).2 2 ?_ ?_ ?_ ?_⟩
  · change 0 < Decimal.value ⟨false, 1, -2⟩
    decide +kernel
  · change Decimal.HasPlaces 2 ⟨false, 1, -2⟩
    decide
  · exact atPrecision_units [5, 5, 0] (by decide +kernel) (by decide +kernel) (by decide +kernel)
  · exact atPrecision_units [0, 0, 10] (by decide +kernel) (by decide +kernel) (by decide +kernel)

end Journals

end OdooMcp
