import OdooMcp.Adapters.Transport
import OdooMcp.DateTime
import OdooMcp.DecimalValue

/-!
# Payroll values

The values that cross the boundary between the payroll reader and the workflows. Two of them are
equal when they agree after every decimal and every date-time is put in its normal form.
-/

namespace OdooMcp

inductive PayrollVersion
  | v18
  | v19
  deriving DecidableEq, Repr

def PayrollVersion.toInt : PayrollVersion → Int
  | .v18 => 18
  | .v19 => 19

inductive PayrollState
  | draft
  | waiting
  | done
  | paid
  | cancelled
  deriving DecidableEq, Repr

inductive ContractSource
  | hrContract
  | hrVersion
  deriving DecidableEq, Repr

def ContractSource.value : ContractSource → String
  | .hrContract => "hr.contract"
  | .hrVersion => "hr.version"

inductive ContractStatus
  | draft
  | open
  | close
  | cancel
  | unavailable
  deriving DecidableEq, Repr

def ContractStatus.value : ContractStatus → String
  | .draft => "draft"
  | .open => "open"
  | .close => "close"
  | .cancel => "cancel"
  | .unavailable => "unavailable"

/-! ### Records -/

structure Payslip where
  id : Int
  name : String
  reference : String
  employee : RelatedRecord
  dateFrom : Date
  dateTo : Date
  state : PayrollState
  sourceState : String
  companyId : Int
  contractSegment : RelatedRecord
  contractSource : ContractSource
  payrollStructure : RelatedRecord
  batch : Option RelatedRecord
  creditNote : Bool
  currency : RelatedRecord
  writeDate : DateTime
  deriving DecidableEq

structure PayslipLine where
  id : Int
  payslip : RelatedRecord
  salaryRule : RelatedRecord
  employee : RelatedRecord
  contractSegment : RelatedRecord
  contractSource : ContractSource
  name : String
  code : String
  category : RelatedRecord
  sequence : Int
  quantity : Decimal
  rate : Decimal
  amount : Decimal
  total : Decimal
  currency : RelatedRecord
  writeDate : DateTime
  deriving DecidableEq

structure PayslipWorkedDay where
  id : Int
  payslip : RelatedRecord
  contractSegment : RelatedRecord
  contractSource : ContractSource
  workEntryType : RelatedRecord
  name : String
  code : String
  numberOfDays : Decimal
  numberOfHours : Decimal
  amount : Decimal
  currency : RelatedRecord
  writeDate : DateTime
  deriving DecidableEq

structure PayslipInput where
  id : Int
  name : String
  payslip : RelatedRecord
  sequence : Int
  inputType : RelatedRecord
  code : String
  amount : Decimal
  contractSegment : RelatedRecord
  contractSource : ContractSource
  writeDate : DateTime
  deriving DecidableEq

structure PayrollInputType where
  id : Int
  name : String
  code : String
  structureIds : List Int
  active : Bool
  isQuantity : Bool
  availableInAttachments : Bool
  writeDate : DateTime
  deriving DecidableEq

structure PayrollStructure where
  id : Int
  inputLineTypeIds : List Int
  writeDate : DateTime
  deriving DecidableEq

structure PayrollEmployee where
  id : Int
  name : String
  active : Bool
  companyId : Int
  writeDate : DateTime
  deriving DecidableEq

structure PayrollContractSegment where
  sourceModel : ContractSource
  id : Int
  employee : RelatedRecord
  companyId : Int
  active : Bool
  sourceStatus : ContractStatus
  revisionDate : Option Date
  effectiveStart : Date
  effectiveEnd : Date
  wage : Decimal
  currency : RelatedRecord
  structureType : Option RelatedRecord
  resourceCalendar : Option RelatedRecord
  department : Option RelatedRecord
  job : Option RelatedRecord
  contractType : Option RelatedRecord
  writeDate : DateTime
  deriving DecidableEq

structure PayrollWriteCheckpoint where
  version : PayrollVersion
  payslip : Payslip
  inputs : List PayslipInput
  employee : PayrollEmployee
  contract : PayrollContractSegment
  payrollStructure : PayrollStructure
  inputTypes : List PayrollInputType
  inputTypesTruncated : Bool
  calculatedLines : List PayslipLine
  workedDays : List PayslipWorkedDay
  deriving DecidableEq

/-! ### Equality -/

def Payslip.normal (payslip : Payslip) : Payslip :=
  { payslip with writeDate := payslip.writeDate.normal }

def PayslipLine.normal (line : PayslipLine) : PayslipLine :=
  { line with
    quantity := line.quantity.normal
    rate := line.rate.normal
    amount := line.amount.normal
    total := line.total.normal
    writeDate := line.writeDate.normal }

def PayslipWorkedDay.normal (row : PayslipWorkedDay) : PayslipWorkedDay :=
  { row with
    numberOfDays := row.numberOfDays.normal
    numberOfHours := row.numberOfHours.normal
    amount := row.amount.normal
    writeDate := row.writeDate.normal }

def PayslipInput.normal (input : PayslipInput) : PayslipInput :=
  { input with amount := input.amount.normal, writeDate := input.writeDate.normal }

def PayrollInputType.normal (inputType : PayrollInputType) : PayrollInputType :=
  { inputType with writeDate := inputType.writeDate.normal }

def PayrollStructure.normal (found : PayrollStructure) : PayrollStructure :=
  { found with writeDate := found.writeDate.normal }

def PayrollEmployee.normal (employee : PayrollEmployee) : PayrollEmployee :=
  { employee with writeDate := employee.writeDate.normal }

def PayrollContractSegment.normal (segment : PayrollContractSegment) : PayrollContractSegment :=
  { segment with wage := segment.wage.normal, writeDate := segment.writeDate.normal }

def PayrollWriteCheckpoint.normal (checkpoint : PayrollWriteCheckpoint) : PayrollWriteCheckpoint :=
  { checkpoint with
    payslip := checkpoint.payslip.normal
    inputs := checkpoint.inputs.map PayslipInput.normal
    employee := checkpoint.employee.normal
    contract := checkpoint.contract.normal
    payrollStructure := checkpoint.payrollStructure.normal
    inputTypes := checkpoint.inputTypes.map PayrollInputType.normal
    calculatedLines := checkpoint.calculatedLines.map PayslipLine.normal
    workedDays := checkpoint.workedDays.map PayslipWorkedDay.normal }

/-- `==` of two payslips. -/
def Payslip.Same (first second : Payslip) : Prop := first.normal = second.normal

instance : DecidableRel Payslip.Same := fun first second =>
  inferInstanceAs (Decidable (first.normal = second.normal))

/-- `==` of two lists of inputs. -/
def SameInputs (first second : List PayslipInput) : Prop :=
  first.map PayslipInput.normal = second.map PayslipInput.normal

instance : DecidableRel SameInputs := fun first second =>
  inferInstanceAs (Decidable (first.map PayslipInput.normal = second.map PayslipInput.normal))

/-- `==` of two checkpoints. -/
def PayrollWriteCheckpoint.Same (first second : PayrollWriteCheckpoint) : Prop :=
  first.normal = second.normal

instance : DecidableRel PayrollWriteCheckpoint.Same := fun first second =>
  inferInstanceAs (Decidable (first.normal = second.normal))

/-! ### Requests -/

/-- What pydantic raises for a value that does not fit a field. -/
def payrollValueError : PyException := valueError "validation error for PayrollValue"

def PositiveUnique (identifiers : List Int) : Prop :=
  (∀ identifier ∈ identifiers, 0 < identifier) ∧ identifiers.Nodup

instance (identifiers : List Int) : Decidable (PositiveUnique identifiers) :=
  inferInstanceAs (Decidable (_ ∧ _))

structure PayrollPeriod where
  start : Date
  finish : Date
  ordered : start.ordinal ≤ finish.ordinal
  short : finish.ordinal - start.ordinal ≤ 365

def PayrollPeriod.build (start finish : Date) : Except PyException PayrollPeriod :=
  if valid : start.ordinal ≤ finish.ordinal ∧ finish.ordinal - start.ordinal ≤ 365 then
    .ok ⟨start, finish, valid.1, valid.2⟩
  else
    .error payrollValueError

/-- A period of at most five years, as the code that builds it has checked. -/
structure PayrollDiscoveryWindow where
  start : Date
  finish : Date

structure PayrollPageRequest where
  limit : Nat
  cursor : Option String
  limit_pos : 1 ≤ limit
  limit_le : limit ≤ 200
  cursor_le : ∀ text ∈ cursor, text.length ≤ 128

def PayrollPageRequest.build (limit : Nat) (cursor : Option String) :
    Except PyException PayrollPageRequest :=
  if valid : 1 ≤ limit ∧ limit ≤ 200 ∧ ∀ text ∈ cursor, text.length ≤ 128 then
    .ok ⟨limit, cursor, valid.1, valid.2.1, valid.2.2⟩
  else
    .error payrollValueError

def PayrollPageRequest.ofLimit (limit : Nat) (limit_pos : 1 ≤ limit) (limit_le : limit ≤ 200) :
    PayrollPageRequest :=
  ⟨limit, none, limit_pos, limit_le, by simp⟩

structure PayrollPage (α : Type) where
  items : List α
  totalCount : Nat
  nextCursor : Option String

structure PayslipFilters where
  payslipIds : List Int
  batchId : Option Int
  period : Option PayrollPeriod
  window : Option PayrollDiscoveryWindow
  employeeIds : List Int
  states : List PayrollState

/-- `PayslipFilters(payslip_ids=payslip_ids)` -/
def PayslipFilters.ofIds (payslipIds : List Int) : Except PyException PayslipFilters := do
  ensure (payslipIds ≠ [] && payslipIds.length ≤ 200 && PositiveUnique payslipIds) payrollValueError
  return ⟨payslipIds, none, none, none, [], []⟩

structure PayslipChildFilters where
  payslipIds : List Int
  recordIds : List Int

def PayslipChildFilters.build (payslipIds recordIds : List Int) :
    Except PyException PayslipChildFilters := do
  ensure (payslipIds ≠ [] && payslipIds.length ≤ 200 && PositiveUnique payslipIds &&
    recordIds.length ≤ 200 && PositiveUnique recordIds) payrollValueError
  return ⟨payslipIds, recordIds⟩

structure PayrollInputTypeFilters where
  structureId : Int
  inputTypeIds : List Int

def PayrollInputTypeFilters.build (structureId : Int) (inputTypeIds : List Int) :
    Except PyException PayrollInputTypeFilters := do
  ensure (0 < structureId && inputTypeIds.length ≤ 200 && PositiveUnique inputTypeIds)
    payrollValueError
  return ⟨structureId, inputTypeIds⟩

structure PayrollContractFilters where
  employeeIds : List Int
  period : PayrollPeriod

def PayrollContractFilters.build (employeeIds : List Int) (start finish : Date) :
    Except PyException PayrollContractFilters := do
  let period ← PayrollPeriod.build start finish
  ensure (employeeIds ≠ [] && employeeIds.length ≤ 100 && PositiveUnique employeeIds)
    payrollValueError
  return ⟨employeeIds, period⟩

structure DraftPayslipInputCreate where
  payslipId : Int
  inputTypeId : Int
  description : String
  amount : Decimal

structure DraftPayslipInputUpdate where
  payslipId : Int
  description : Option String
  amount : Option Decimal

structure DeletedPayslipInput where
  id : Int
  payslipId : Int

def dumpIds (identifiers : List Int) : PyValue := .list (identifiers.map .int)

end OdooMcp
