import OdooMcp.Arithmetic
import OdooMcp.Buckets
import OdooMcp.Workflows.Sources

/-!
# Bank reconciliation

Every statement line is matched against the unreconciled move lines whose amount is opposite to its
own. The candidates of a statement are scored, the best one is chosen if it is alone and good
enough, and a move line that several statements choose is given to none of them.
-/

namespace OdooMcp

namespace ReconcileBank

open Arithmetic

variable {N : Type} [Arithmetic N]

structure Candidate (N : Type) where
  line : AccountMoveLine
  score : N
  components : List (String × N)

inductive UnmatchedReason
  | noEligibleCandidate
  | belowConfidenceThreshold
  | ambiguousBestMatch
  | candidateConflict
  deriving DecidableEq, Repr

def UnmatchedReason.value : UnmatchedReason → String
  | .noEligibleCandidate => "no_eligible_candidate"
  | .belowConfidenceThreshold => "below_confidence_threshold"
  | .ambiguousBestMatch => "ambiguous_best_match"
  | .candidateConflict => "candidate_conflict"

structure Decision (N : Type) where
  statement : BankStatementLine
  candidate : Option (Candidate N)
  bestScore : Option N
  reason : Option UnmatchedReason

/-- What `currencies[identifier]` raises. -/
def missingCurrency : PyException := .exception "KeyError"

structure Matching where
  casefold : String → String
  journals : Int → Option Journal
  companyCurrency : RelatedRecord
  currencies : Int → Option Currency

/-! ### Candidates -/

/-- `_reference` -/
def reference (casefold : String → String) (value : Option String) : String :=
  casefold (" ".intercalate (splitWords (value.getD "")))

/-- `_round_currency_amount` -/
def roundCurrencyAmount (value : N) (currency : Currency) : Except PyException N :=
  roundedTo value (ofDecimal currency.rounding)

def oneTenth : Decimal := ⟨false, 10, -2⟩

/-- The partner, reference and date of a candidate against those of the statement. -/
def scoreComponents (matching : Matching) (statement : BankStatementLine) (line : AccountMoveLine) :
    Except PyException (List (String × N)) := do
  let zero : N := ofDecimal Decimal.zero
  let samePartner : Bool := match statement.partner, line.partner with
    | some first, some second => first.id = second.id
    | _, _ => false
  let statementReference := reference matching.casefold statement.paymentReference
  let lineReference := reference matching.casefold line.label
  let sameReference := statementReference ≠ "" && statementReference = lineReference
  let days := ((statement.date.ordinal : Int) - line.date.ordinal).natAbs
  let dateProximity ←
    if days ≤ 30 then
      orRaise (div (mul (ofDecimal oneTenth) (ofDecimal (Decimal.ofInt (30 - days))))
        (ofDecimal (Decimal.ofInt 30))) arithmeticError
    else
      .ok zero
  return [("amount", ofDecimal ⟨false, 55, -2⟩),
    ("partner", if samePartner then ofDecimal ⟨false, 20, -2⟩ else zero),
    ("reference", if sameReference then ofDecimal ⟨false, 15, -2⟩ else zero),
    ("date_proximity", dateProximity)]

def candidateAmount (journal : Journal) (line : AccountMoveLine) : Decimal :=
  if journal.currency.isNone then line.residual else line.residualCurrency

/-- `_candidate` -/
def candidate (matching : Matching) (statement : BankStatementLine) (journal : Journal)
    (effectiveCurrency : Currency) (line : AccountMoveLine) :
    Except PyException (Option (Candidate N)) := do
  let currency := journal.currency.getD matching.companyCurrency
  if statement.foreignCurrency.any fun foreign => foreign.id ≠ currency.id then
    return none
  if line.currency.all fun own => own.id ≠ currency.id then
    return none
  let amount : N := ofDecimal (candidateAmount journal line)
  let stated ← roundCurrencyAmount (N := N) (ofDecimal statement.amount) effectiveCurrency
  let opposite ← roundCurrencyAmount (neg amount) effectiveCurrency
  if line.reconciled || !same stated opposite then
    return none
  if statement.move.any fun move => move.id = line.move.id then
    return none
  let components ← scoreComponents matching statement line
  return some ⟨line, total (components.map Prod.snd), components⟩

/-! ### The index by amount -/

structure CandidateIndex (N : Type) where
  company : Buckets N AccountMoveLine
  currency : Buckets (Int × N) AccountMoveLine

def sameKey (first second : Int × N) : Bool :=
  first.1 = second.1 && same first.2 second.2

/-- A line in the currency of the company is found by its residual too. -/
def addToCompany (matching : Matching) (companyCurrency : Currency) (index : CandidateIndex N)
    (line : AccountMoveLine) (own : RelatedRecord) :
    Except PyException (Buckets N AccountMoveLine) :=
  if own.id = matching.companyCurrency.id then do
    let key ← roundCurrencyAmount (ofDecimal line.residual) companyCurrency
    return Buckets.append same key line index.company
  else
    .ok index.company

/-- Put a line into the buckets of its amounts; a line of unknown currency has none. -/
def addCandidate (matching : Matching) (companyCurrency : Currency) (index : CandidateIndex N)
    (line : AccountMoveLine) : Except PyException (CandidateIndex N) :=
  match line.currency with
  | none => .ok index
  | some own =>
      match matching.currencies own.id with
      | none => .ok index
      | some lineCurrency => do
          let company ← addToCompany matching companyCurrency index line own
          let key ← roundCurrencyAmount (ofDecimal line.residualCurrency) lineCurrency
          return ⟨company, Buckets.append sameKey (own.id, key) line index.currency⟩

def candidateIndex (matching : Matching) (companyCurrency : Currency)
    (candidates : List AccountMoveLine) : Except PyException (CandidateIndex N) :=
  candidates.foldlM (addCandidate matching companyCurrency) ⟨[], []⟩

def statementJournal (matching : Matching) (statement : BankStatementLine) :
    Except PyException Journal := do
  let unavailable := sourceError "Odoo returned an unavailable statement journal."
  let journal ← orRaise (matching.journals statement.journal.id) unavailable
  ensure (["bank", "cash"].contains journal.journalType) unavailable
  return journal

def effectiveCurrency (matching : Matching) (companyCurrency : Currency) (journal : Journal) :
    Except PyException Currency :=
  match journal.currency with
  | none => .ok companyCurrency
  | some own => orRaise (matching.currencies own.id) missingCurrency

def eligibleAmounts (index : CandidateIndex N) (statement : BankStatementLine) (journal : Journal)
    (effectiveCurrency : Currency) : Except PyException (List AccountMoveLine) := do
  let key ← roundCurrencyAmount (neg (ofDecimal statement.amount)) effectiveCurrency
  match journal.currency with
  | none => return Buckets.get same index.company key
  | some own => return Buckets.get sameKey index.currency (own.id, key)

def scoredCandidates (matching : Matching) (statement : BankStatementLine) (journal : Journal)
    (effectiveCurrency : Currency) (lines : List AccountMoveLine) :
    Except PyException (List (Candidate N)) := do
  let found ← lines.mapM (candidate matching statement journal effectiveCurrency)
  return found.filterMap id

/-! ### Decisions -/

/-- `(-first.score, first.line.id) <= (-second.score, second.line.id)` -/
def rankedBefore (first second : Candidate N) : Bool :=
  if same (neg first.score) (neg second.score) then
    first.line.id ≤ second.line.id
  else
    lt (neg first.score) (neg second.score)

def decisionOf (threshold : N) (statement : BankStatementLine) (scored : List (Candidate N)) :
    Decision N :=
  match scored with
  | [] => ⟨statement, none, none, some .noEligibleCandidate⟩
  | first :: _ =>
      let best := scored.filter fun item => same item.score first.score
      if 1 < best.length then
        ⟨statement, none, some first.score, some .ambiguousBestMatch⟩
      else if lt first.score threshold then
        ⟨statement, none, some first.score, some .belowConfidenceThreshold⟩
      else
        ⟨statement, best.head?, some first.score, none⟩

def provisionalDecision (matching : Matching) (companyCurrency : Currency)
    (index : CandidateIndex N) (threshold : N) (statement : BankStatementLine) :
    Except PyException (Decision N) := do
  let journal ← statementJournal matching statement
  let currency ← effectiveCurrency matching companyCurrency journal
  let lines ← eligibleAmounts index statement journal currency
  let scored ← scoredCandidates matching statement journal currency lines
  return decisionOf threshold statement (scored.mergeSort rankedBefore)

def Decision.chosen? (decision : Decision N) : Option Int :=
  decision.candidate.map (·.line.id)

/-- A move line chosen more than once is a conflict. -/
def resolveConflict (chosen : List Int) (decision : Decision N) : Decision N :=
  match decision.chosen? with
  | some id =>
      if 1 < chosen.count id then
        ⟨decision.statement, none, decision.bestScore, some .candidateConflict⟩
      else
        decision
  | none => decision

/-- `_decisions` -/
def decisions (matching : Matching) (statements : List BankStatementLine)
    (candidates : List AccountMoveLine) (threshold : N) :
    Except PyException (List (Decision N)) := do
  let companyCurrency ← orRaise (matching.currencies matching.companyCurrency.id) missingCurrency
  let index ← candidateIndex matching companyCurrency candidates
  let provisional ←
    statements.mapM (provisionalDecision matching companyCurrency index threshold)
  let chosen := provisional.filterMap Decision.chosen?
  return provisional.map (resolveConflict chosen)

/-! ### The proposal -/

structure ReconciliationMatch (N : Type) where
  statementLineId : Int
  moveLineId : Int
  amount : Decimal
  currencyId : Int
  currencyName : String
  confidence : N
  scoreComponents : List (String × N)

structure UnmatchedStatementLineItem (N : Type) where
  statementLineId : Int
  date : Date
  amount : Decimal
  currencyId : Int
  currencyName : String
  partnerId : Option Int
  partnerName : Option String
  reference : Option String
  bestRejectedScore : Option N
  reasonCode : UnmatchedReason

structure ReconciliationSummary (N : Type) where
  statementLineCount : Nat
  matchedCount : Nat
  unmatchedCount : Nat
  currencyId : Int
  currencyName : String
  matchedAmount : N
  unmatchedAmount : N

structure ReconciliationProposal (N : Type) where
  matched : List (ReconciliationMatch N)
  unmatched : List (UnmatchedStatementLineItem N)
  summary : ReconciliationSummary N
  riskFlags : List String

def unmatchedAssertion : PyException :=
  .exception "matched decisions cannot become unmatched items"

/-- `_unmatched` -/
def unmatched (companyCurrency : RelatedRecord) (journal : Journal) (decision : Decision N) :
    Except PyException (UnmatchedStatementLineItem N) := do
  let reason ← orRaise decision.reason unmatchedAssertion
  let statement := decision.statement
  let currency := journal.currency.getD companyCurrency
  return ⟨statement.id, statement.date, statement.amount, currency.id, currency.name,
    statement.partner.map (·.id), statement.partner.map (·.name), statement.paymentReference,
    decision.bestScore, reason⟩

def reconciliationMatch (companyCurrency : RelatedRecord) (journal : Journal)
    (decision : Decision N) : Option (ReconciliationMatch N) :=
  let currency := journal.currency.getD companyCurrency
  decision.candidate.map fun candidate =>
    ⟨decision.statement.id, candidate.line.id, decision.statement.amount, currency.id,
      currency.name, candidate.score, candidate.components⟩

/-- The proposal of `build_reconciliation_proposal` for its statement lines, candidates and
journal. -/
def proposal (matching : Matching) (journal : Journal) (selected : List BankStatementLine)
    (candidates : List AccountMoveLine) (threshold : N) :
    Except PyException (ReconciliationProposal N) := do
  let decided ← decisions matching selected candidates threshold
  let currency := journal.currency.getD matching.companyCurrency
  let matched := decided.filterMap (reconciliationMatch matching.companyCurrency journal)
  let unmatched ← (decided.filter (·.candidate.isNone)).mapM
    (unmatched matching.companyCurrency journal)
  let summary : ReconciliationSummary N :=
    ⟨selected.length, matched.length, unmatched.length, currency.id, currency.name,
      total ((decided.filter (·.candidate.isSome)).map fun decision =>
        ofDecimal decision.statement.amount),
      total (unmatched.map fun item => ofDecimal item.amount)⟩
  return ⟨matched, unmatched, summary, ["proposal_only", "no_final_reconciliation"] ++
    if unmatched.isEmpty then [] else ["manual_review_required"]⟩

end ReconcileBank

end OdooMcp
