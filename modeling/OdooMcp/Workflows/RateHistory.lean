import Mathlib.Data.Prod.Lex
import OdooMcp.Adapters.PagedReads
import OdooMcp.Adapters.PayrollPages
import OdooMcp.BestByKey
import OdooMcp.CursorFields
import OdooMcp.Effect.Steady

/-!
# The history of currency rates

The rates of a currency are read page by page. Of the rates of a date, one of the company goes
before one that is shared, and then the one with the higher id.
-/

namespace OdooMcp

namespace RateHistory

open Effect

/-- The days that Python's dates have. -/
def endOfDates : Nat := 3652059

structure CurrencyRateHistoryInput where
  companyId : Int
  limit : Nat
  cursor : Option String
  currencyId : Int
  period : DatePeriod
  company_pos : 0 < companyId
  limit_pos : 1 ≤ limit
  limit_le : limit ≤ 500
  cursor_le : ∀ text ∈ cursor, text.length ≤ 128
  currency_pos : 0 < currencyId
  days_le : period.finish.ordinal - period.start.ordinal ≤ 365
  finish_lt : period.finish.ordinal < endOfDates

/-- The same request with a cursor; pydantic rejects one that is too long. -/
def CurrencyRateHistoryInput.withCursor (request : CurrencyRateHistoryInput)
    (cursor : Option String) : Except PyException CurrencyRateHistoryInput :=
  if cursor_le : ∀ text ∈ cursor, text.length ≤ 128 then
    .ok { request with cursor := cursor, cursor_le := cursor_le }
  else
    .error (valueError "String should have at most 128 characters")

structure CurrencyRateDescriptor where
  id : Int
  name : String

inductive SourceScope
  | company
  | shared
  | identity
  deriving DecidableEq, Repr

structure CurrencyRateItem where
  sourceRateId : Int
  sourceScope : SourceScope
  effectiveDate : Date
  currencyUnitsPerCompanyUnit : Decimal
  companyUnitsPerCurrencyUnit : Decimal

structure EffectiveCurrencyRate where
  sourceRateId : Option Int
  sourceScope : SourceScope
  effectiveDate : Date
  currencyUnitsPerCompanyUnit : Decimal
  companyUnitsPerCurrencyUnit : Decimal

inductive HistoryStatus
  | available
  | missing
  | companyCurrencyIdentity
  deriving DecidableEq, Repr

structure CurrencyRateHistorySummary where
  historyStatus : HistoryStatus
  returnedCount : Nat
  hasMore : Bool

structure CurrencyRateHistoryResponse where
  companyId : Int
  companyCurrency : CurrencyRateDescriptor
  requestedCurrency : CurrencyRateDescriptor
  period : DatePeriod
  effectiveAtStart : Option EffectiveCurrencyRate
  items : List CurrencyRateItem
  nextCursor : Option String
  summary : CurrencyRateHistorySummary

def invalidData : PyException :=
  .odooMcpError ⟨.odooApiError, "Odoo returned invalid currency-rate history data.",
    "Check Odoo currency-rate integrity and record access, then retry."⟩

def cursorError (message : String) : PyException :=
  .odooMcpError ⟨.invalidInput, message, "Restart the history request without a cursor."⟩

/-! ### Cursors -/

def cursorFields (request : CurrencyRateHistoryInput) (offset : String) : List (List Char) :=
  ["v1".toList, (toString request.companyId).toList, (toString request.currencyId).toList,
    request.period.start.isoformat.toList, request.period.finish.isoformat.toList, offset.toList]

/-- `_cursor` -/
def rateCursor (request : CurrencyRateHistoryInput) (offset : Nat) : String :=
  fieldsText (cursorFields request (toString offset))

/-- `_offset` -/
def rateOffset (request : CurrencyRateHistoryInput) : Option String → Except PyException Nat
  | none => .ok 0
  | some cursor => do
      let payload ← orRaise ((Base64.decode cursor.toList).bind Base64.utf8)
        (cursorError "The pagination cursor is invalid.")
      match payload.splitOn ':' with
      | [version, company, currency, start, finish, offset] => do
          let parsed ← orRaise (Decimal.parseInt? (String.ofList offset))
            (cursorError "The pagination cursor is invalid.")
          ensure ([version, company, currency, start, finish, offset] =
              cursorFields request (String.ofList offset) && 0 < parsed)
            (cursorError "The pagination cursor does not match this history request.")
          return parsed.toNat
      | _ => throw (cursorError "The pagination cursor is invalid.")

/-! ### Reads -/

inductive RateRead
  | currencies
  | rates (cursor : Option String)

abbrev rateReads : Signature where
  Request := RateRead
  Result
    | .currencies => RecordPage Currency
    | .rates _ => CurrencyRatePage

abbrev RateProgram (α : Type) := Program rateReads PyException α

def RateRead.perform (reader : AccountingReader) (request : CurrencyRateHistoryInput) :
    (read : RateRead) → Odoo (rateReads.Result read)
  | .currencies => do
      let page ← Program.ofExcept (PageRequest.build 1 none Nat.one_pos
        PageRequest.one_le_max)
      reader.pagedRead (.currencies [request.currencyId]) request.companyId page
  | .rates cursor => do
      let page ← Program.ofExcept (PageRequest.build 500 cursor PageRequest.one_le_max
        PageRequest.max_le_max)
      reader.getCurrencyRates request.companyId request.currencyId request.period.finish page

/-- The reader returns rates of the company and shared ones only, up to the date. -/
theorem visible_of_getCurrencyRates {reader : AccountingReader} {companyId currencyId : Int}
    {throughDate : Date} {request : PageRequest} {trace : List OdooEvent} {page : CurrencyRatePage}
    (hruns : Program.Runs (reader.getCurrencyRates companyId currencyId throughDate request) trace
      (.ok page)) :
    ∀ rate ∈ page.items, rate.currencyId = currencyId ∧
      (rate.companyId = none ∨ rate.companyId = some page.rootCompanyId) ∧
      rate.effectiveDate.ordinal ≤ throughDate.ordinal := by
  obtain ⟨⟨⟩, -, hruns⟩ := Program.runs_ofExcept_bind_ok.mp hruns
  obtain ⟨⟨⟩, -, hruns⟩ := Program.runs_ofExcept_bind_ok.mp hruns
  obtain ⟨⟨⟩, -, hruns⟩ := Program.runs_ofExcept_bind_ok.mp hruns
  obtain ⟨companies, -, after, -, -, hruns⟩ := Program.runs_bind_ok.mp hruns
  obtain ⟨⟨currency, rootId⟩, -, hruns⟩ := Program.runs_ofExcept_bind_ok.mp hruns
  obtain ⟨result, -, rest, -, -, hruns⟩ := Program.runs_bind_ok.mp hruns
  obtain ⟨⟨⟩, hchecked, hruns⟩ := Program.runs_ofExcept_bind_ok.mp hruns
  obtain ⟨-, hpage⟩ := Program.runs_ret.mp hruns
  cases hpage
  rw [ensure_ok, List.all_eq_true] at hchecked
  intro rate hrate
  simpa [and_assoc] using hchecked rate hrate

def pageAccepted (currency : RelatedRecord) (rootId : Int) (read : List CurrencyRate)
    (page : CurrencyRatePage) : Bool :=
  page.companyCurrency.id = currency.id && page.rootCompanyId = rootId &&
    (page.nextCursor.isNone || !page.items.isEmpty) &&
    page.items.all fun item => !(read.map (·.id)).contains item.id

/-- `_rates`: every page but the last adds rates, and there may be at most a hundred thousand. -/
def readRates (currency : RelatedRecord) (rootId : Int) (read : List CurrencyRate)
    (seenCursors : List String) (cursor : Option String) : RateProgram (List CurrencyRate) := do
  let page ← Program.call (S := rateReads) (.rates cursor)
  let items := read ++ page.items
  if _hrejected : pageAccepted currency rootId read page = false ∨ 100000 < items.length then
    throw invalidData
  else
    match _hnext : page.nextCursor with
    | none => return items
    | some next =>
        if seenCursors.contains next then
          throw invalidData
        else
          readRates currency rootId items (next :: seenCursors) (some next)
termination_by 100001 - read.length
decreasing_by
  rw [not_or, Bool.not_eq_false, pageAccepted, _hnext] at _hrejected
  obtain ⟨haccepted, hbound⟩ := _hrejected
  simp only [Bool.and_eq_true, Option.isNone_some, Bool.false_or, Bool.not_eq_true',
    List.isEmpty_eq_false_iff] at haccepted
  have hadded : 0 < page.items.length := List.length_pos_iff.mpr haccepted.1.2
  simp only [items, List.length_append] at hbound ⊢
  omega

/-! ### The choice of the rates -/

def rank (rootId : Int) (rate : CurrencyRate) : Bool ×ₗ Int :=
  toLex (decide (rate.companyId = some rootId), rate.id)

def byDate (rootId : Int) (rates : List CurrencyRate) : List CurrencyRate :=
  BestByKey.best (·.effectiveDate.ordinal) (rank rootId) rates

def rateOrder (rate : CurrencyRate) : Nat ×ₗ Int := toLex (rate.effectiveDate.ordinal, rate.id)

def ordered (rootId : Int) (rates : List CurrencyRate) : List CurrencyRate :=
  (byDate rootId rates).insertionSort fun first second => rateOrder second ≤ rateOrder first

def rateItem (rootId : Int) (rate : CurrencyRate) : CurrencyRateItem where
  sourceRateId := rate.id
  sourceScope := if rate.companyId = some rootId then .company else .shared
  effectiveDate := rate.effectiveDate
  currencyUnitsPerCompanyUnit := rate.companyRate
  companyUnitsPerCurrencyUnit := rate.inverseCompanyRate

/-- `_point` -/
def point (rootId : Int) (rate : CurrencyRate) : Except PyException CurrencyRateItem := do
  ensure (rate.companyId = none || rate.companyId = some rootId) invalidData
  return rateItem rootId rate

/-- `EffectiveCurrencyRate(**item.model_dump())` -/
def CurrencyRateItem.effective (item : CurrencyRateItem) : EffectiveCurrencyRate where
  sourceRateId := some item.sourceRateId
  sourceScope := item.sourceScope
  effectiveDate := item.effectiveDate
  currencyUnitsPerCompanyUnit := item.currencyUnitsPerCompanyUnit
  companyUnitsPerCurrencyUnit := item.companyUnitsPerCurrencyUnit

structure History where
  effective : Option EffectiveCurrencyRate
  items : List CurrencyRateItem
  status : HistoryStatus

def identityHistory (request : CurrencyRateHistoryInput) : History where
  effective := some ⟨none, .identity, request.period.start, ⟨false, 1, 0⟩, ⟨false, 1, 0⟩⟩
  items := []
  status := .companyCurrencyIdentity

def historyOf (request : CurrencyRateHistoryInput) (rootId : Int) (rates : List CurrencyRate) :
    Except PyException History := do
  let sorted := ordered rootId rates
  let prior := sorted.find? fun rate =>
    rate.effectiveDate.ordinal ≤ request.period.start.ordinal
  let effective ← prior.mapM (point rootId)
  let items ← (sorted.filter fun rate =>
    request.period.start.ordinal ≤ rate.effectiveDate.ordinal &&
      rate.effectiveDate.ordinal ≤ request.period.finish.ordinal).mapM (point rootId)
  return ⟨effective.map (·.effective), items, if effective.isSome then .available else .missing⟩

def readHistory (request : CurrencyRateHistoryInput) (currency : RelatedRecord) (rootId : Int) :
    RateProgram History :=
  if request.currencyId = currency.id then
    return identityHistory request
  else do
    let rates ← readRates currency rootId [] [] none
    Program.ofExcept (historyOf request rootId rates)

/-! ### The history -/

def currencyUnavailable : PyException :=
  .odooMcpError ⟨.invalidInput, "The requested currency is unavailable.",
    "Use an exact currency ID visible to the authorized company."⟩

def requestedCurrency (request : CurrencyRateHistoryInput) (page : RecordPage Currency) :
    Except PyException CurrencyRateDescriptor :=
  match page.items, page.nextCursor with
  | [currency], none =>
      if currency.id = request.currencyId then .ok ⟨currency.id, currency.name⟩
      else .error currencyUnavailable
  | _, _ => .error currencyUnavailable

def historyResponse (request : CurrencyRateHistoryInput) (currency : RelatedRecord)
    (requested : CurrencyRateDescriptor) (history : History) (offset : Nat) :
    CurrencyRateHistoryResponse :=
  let items := (history.items.drop offset).take request.limit
  let nextOffset := offset + items.length
  let nextCursor :=
    if nextOffset < history.items.length then some (rateCursor request nextOffset) else none
  { companyId := request.companyId
    companyCurrency := ⟨currency.id, currency.name⟩
    requestedCurrency := requested
    period := request.period
    effectiveAtStart := history.effective
    items := items
    nextCursor := nextCursor
    summary := ⟨history.status, items.length, nextCursor.isSome⟩ }

def historyPage (request : CurrencyRateHistoryInput) (currency : RelatedRecord)
    (requested : CurrencyRateDescriptor) (history : History) (offset : Nat) :
    Except PyException CurrencyRateHistoryResponse := do
  ensure (offset ≤ history.items.length)
    (cursorError "The pagination cursor is outside this history.")
  return historyResponse request currency requested history offset

/-- `get_currency_rate_history` -/
def getCurrencyRateHistory (request : CurrencyRateHistoryInput) (company : Company) :
    RateProgram CurrencyRateHistoryResponse := do
  let currency ← Program.ofExcept (orRaise company.currency invalidData)
  let rootId ← Program.ofExcept (orRaise company.rootId invalidData)
  let page ← Program.call (S := rateReads) .currencies
  let requested ← Program.ofExcept (requestedCurrency request page)
  Program.ofExcept (ensure
    (request.currencyId ≠ currency.id || requested.name = currency.name) invalidData)
  let offset ← Program.ofExcept (rateOffset request request.cursor)
  let history ← readHistory request currency rootId
  Program.ofExcept (historyPage request currency requested history offset)

end RateHistory

end OdooMcp
