import OdooMcp.Calendar
import OdooMcp.Decimal
import OdooMcp.Effect.Straight

/-!
# The Odoo transport

What an adapter asks of Odoo, and the fields it reads from the answers. Any call may be answered
with any value of its type or with an error. A reader raises errors of its own only for answers it
cannot accept, and none of them is a denied permission.
-/

namespace OdooMcp

open Effect

inductive OdooRequest
  | connect
  | searchCount (model : String) (domain : List PyValue) (companyIds : List Int)
  | searchRead (model : String) (domain : List PyValue) (fields : List String)
      (limit offset : Nat) (order : String) (companyIds : List Int)
  | executeMethod (model method : String) (ids : List Int) (named : Payload)
      (companyIds : List Int)
  | close

abbrev odooSignature : Signature where
  Request := OdooRequest
  Result
    | .connect => Unit
    | .searchCount _ _ _ => Int
    | .searchRead _ _ _ _ _ _ _ => List Payload
    | .executeMethod _ _ _ _ _ => PyValue
    | .close => Unit

abbrev Odoo := Program odooSignature PyException

abbrev OdooEvent := Event odooSignature PyException

/-- `OdooTransport.search_read` -/
def searchRead (model : String) (domain : List PyValue) (fields : List String)
    (limit offset : Nat) (order : String) (companyIds : List Int) : Odoo (List Payload) :=
  Program.call (S := odooSignature) (.searchRead model domain fields limit offset order companyIds)

/-- `OdooTransport.search_count` -/
def searchCount (model : String) (domain : List PyValue) (companyIds : List Int) : Odoo Int :=
  Program.call (S := odooSignature) (.searchCount model domain companyIds)

/-- `OdooTransport.execute_method` -/
def executeMethod (model method : String) (ids : List Int) (named : Payload)
    (companyIds : List Int) : Odoo PyValue :=
  Program.call (S := odooSignature) (.executeMethod model method ids named companyIds)

/-- `[field, operator, value]` -/
def domainClause (field operator : String) (value : PyValue) : PyValue :=
  .list [.str field, .str operator, value]

/-! ### Errors of the transport and of the readers -/

/-- What a transport raises: a cancellation, an error of the public kind or some other exception,
but none of the classes that the code above it uses to report a write. -/
def FromTransport : PyException → Prop
  | .cancelledError => True
  | .odooMcpError _ => True
  | .exception _ => True
  | _ => False

def Denied (error : PyException) : Prop :=
  ∃ reported, error = .odooMcpError reported ∧ reported.code = .odooPermissionDenied

/-- Odoo denied the request. -/
def Refused (event : OdooEvent) : Prop :=
  ∃ error, event.answer = .error error ∧ Denied error

theorem not_refused_of_mem {trace : List OdooEvent} (hanswered : Program.Answered trace)
    {event : OdooEvent} (hevent : event ∈ trace) : ¬ Refused event := by
  rintro ⟨error, herror, -⟩
  obtain ⟨value, hvalue⟩ := hanswered event hevent
  rw [hvalue] at herror
  cases herror

/-- Every error among the answers is one that a transport raises. -/
def TransportErrors (trace : List OdooEvent) : Prop :=
  ∀ event ∈ trace, ∀ error, event.answer = .error error → FromTransport error

def OwnError : PyException → Prop
  | .odooMcpError error => error.code ≠ .odooPermissionDenied
  | .exception _ => True
  | _ => False

theorem OwnError.not_denied {error : PyException} (howns : OwnError error) : ¬ Denied error := by
  rintro ⟨reported, rfl, hcode⟩
  exact howns hcode

/-- The request reads: it is no call of a model method. -/
def Reads : OdooRequest → Prop
  | .searchCount _ _ _ => True
  | .searchRead _ _ _ _ _ _ _ => True
  | _ => False

def Calls : OdooRequest → Prop
  | .connect => False
  | .close => False
  | _ => True

theorem Reads.calls {request : OdooRequest} (hreads : Reads request) : Calls request := by
  cases request with
  | searchCount model domain companyIds => trivial
  | searchRead model domain fields limit offset order companyIds => trivial
  | _ => exact hreads.elim

/-- If this raises, it raises an error of the reader's own. -/
def Sound {α : Type} (outcome : Except PyException α) : Prop :=
  ∀ error, outcome = .error error → OwnError error

namespace Sound

variable {α β : Type}

theorem ok (value : α) : Sound (.ok value) := by
  rintro error ⟨⟩

theorem raise {error : PyException} (herror : OwnError error) :
    Sound (.error error : Except PyException α) := by
  rintro _ ⟨⟩
  exact herror

theorem orRaise {value : Option α} {error : PyException} (herror : OwnError error) :
    Sound (orRaise value error) := by
  cases value with
  | none => exact raise herror
  | some found => exact ok found

theorem ensure {condition : Bool} {error : PyException} (herror : OwnError error) :
    Sound (ensure condition error) := by
  cases condition with
  | true => exact ok ()
  | false => exact raise herror

theorem bind {outcome : Except PyException α} {next : α → Except PyException β}
    (hfirst : Sound outcome) (hnext : ∀ value, Sound (next value)) : Sound (outcome >>= next) := by
  cases outcome with
  | error raised =>
      rintro error ⟨⟩
      exact hfirst raised rfl
  | ok value => exact hnext value

theorem mapM {γ : Type} {next : γ → Except PyException α} (items : List γ)
    (hnext : ∀ item, Sound (next item)) : Sound (items.mapM next) := by
  induction items with
  | nil => exact ok []
  | cons item items ih =>
      rw [List.mapM_cons]
      exact (hnext item).bind fun _ => ih.bind fun _ => ok _

end Sound

/-- A reading program: it only reads, and raises errors of its own or of the transport. -/
abbrev Reading {α : Type} (program : Odoo α) : Prop :=
  program.Straight Reads OwnError

theorem reading_searchRead (model : String) (domain : List PyValue) (fields : List String)
    (limit offset : Nat) (order : String) (companyIds : List Int) :
    Reading (searchRead model domain fields limit offset order companyIds) :=
  Program.Straight.call (S := odooSignature) trivial

theorem reading_searchCount (model : String) (domain : List PyValue) (companyIds : List Int) :
    Reading (searchCount model domain companyIds) :=
  Program.Straight.call (S := odooSignature) trivial

/-! ### Fields of a record -/

/-- `sorted(set(identifiers))` -/
def sortedSet (identifiers : List Int) : List Int :=
  identifiers.dedup.insertionSort (· ≤ ·)

structure RelatedRecord where
  id : Int
  name : String
  positive : 0 < id
  deriving DecidableEq

def RelatedRecord.after (number : Nat) (name : String) : RelatedRecord :=
  ⟨number + 1, name, by omega⟩

def RelatedRecord.dump (related : RelatedRecord) : PyValue :=
  .dict [(.str "id", .int related.id), (.str "name", .str related.name)]

def Decimal.dump (value : Decimal) : PyValue := .str value.text

def Date.dump (date : Date) : PyValue := .str date.isoformat

/-- `raw.get(field)` -/
def Payload.field (raw : Payload) (name : String) : PyValue :=
  (dictGet raw name).getD .none

namespace Field

def positiveInt : PyValue → Option Int
  | .int value => if 0 < value then some value else none
  | _ => none

def nonNegativeInt : PyValue → Option Int
  | .int value => if 0 ≤ value then some value else none
  | _ => none

def text : PyValue → Option String
  | .str value => some value
  | _ => none

def boolean : PyValue → Option Bool
  | .bool value => some value
  | _ => none

/-- `None if value is False or value is None else read(value)` -/
def optional {α : Type} (read : PyValue → Option α) : PyValue → Option (Option α)
  | .none => some none
  | .bool false => some none
  | value => (read value).map some

def sequence : PyValue → Option (List PyValue)
  | .list items => some items
  | .tuple items => some items
  | _ => none

def date (value : PyValue) : Option Date := do
  Date.fromisoformat (← text value)

/-- `Decimal(str(value))` of a text or a number, where that is finite. -/
def decimal : PyValue → Option Decimal
  | .str value => Decimal.ofText? value
  | .int value => some (Decimal.ofInt value)
  | .float text _ => Decimal.ofText? text
  | _ => none

def positiveDecimal (value : PyValue) : Option Decimal :=
  (decimal value).filter fun number => Decimal.zero.lt number

def relation (value : PyValue) : Option RelatedRecord :=
  match sequence value with
  | some [.int id, .str name] =>
      if positive : 0 < id then some ⟨id, name, positive⟩ else none
  | _ => none

def relatedId (value : PyValue) : Option Int :=
  (relation value).map (·.id)

def positiveInts (values : List PyValue) : Option (List Int) :=
  values.mapM positiveInt

def createdId : PyValue → Option Int
  | .list [item] => positiveInt item
  | value => positiveInt value

end Field

end OdooMcp
