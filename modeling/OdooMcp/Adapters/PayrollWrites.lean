import OdooMcp.Adapters.PayrollReader

/-!
# Draft payroll writes

Each of the four mutations first reads the checkpoint twice and compares it with the expected one,
then makes its call, and finally reads back what Odoo has made of it.
-/

namespace OdooMcp

open Effect

/-! ### Pages of a collection -/

section Pages

variable {α : Type} (idOf : α → Int) (accepts : Int → Bool) (error : PyException)

omit idOf accepts error in
theorem length_accepted {read items added : List α} {item : α}
    (hread : read.length = (items ++ [item]).length + added.length) :
    read.length = items.length + (item :: added).length := by
  simp only [List.length_append, List.length_cons, List.length_nil] at hread ⊢
  omega

omit idOf accepts error in
theorem accepted_le_cap {cap : Nat} {read items added : List α} {item : α}
    (hread : read.length = items.length + (item :: added).length)
    (hcap : added = [] ∨ read.length ≤ cap) (hbound : items.length + 1 ≤ cap) :
    read.length ≤ cap := by
  rcases hcap with rfl | hcap
  · simp only [List.length_cons, List.length_nil] at hread
    omega
  · exact hcap

/-- Add the items of a page to a collection of at most `cap` items, of which `expected` are
announced. An id that was seen before is an error. -/
def acceptItems (cap expected : Nat) (items : List α) : (added : List α) → Except PyException
    { read : List α // read.length = items.length + added.length ∧
      (added = [] ∨ read.length ≤ cap) }
  | [] => .ok ⟨items, by simp⟩
  | item :: added => do
      ensure (accepts (idOf item) && !(items.map idOf).contains (idOf item)) error
      if hbound : items.length + 1 ≤ cap ∧ items.length + 1 ≤ expected then
        let ⟨read, hread⟩ ← acceptItems cap expected (items ++ [item]) added
        return ⟨read, length_accepted hread.1,
          .inr (accepted_le_cap (length_accepted hread.1) hread.2 hbound.1)⟩
      else
        .error error

end Pages

namespace PayrollReader

variable (reader : PayrollReader)

/-! ### Reads of a write -/

/-- `_exact_payslip` -/
def exactPayslip (companyId payslipId : Int) : Odoo Payslip := do
  Program.ofExcept (requireRequestedId payslipId "payslip")
  let filters ← Program.ofExcept (PayslipFilters.ofIds [payslipId])
  let page ← reader.getPayslips companyId filters (.ofLimit 1 (by decide) (by decide))
  Program.ofExcept (match page.items with
    | [payslip] => if payslip.id = payslipId then .ok payslip else .error unavailable
    | _ => .error unavailable)
where
  unavailable : PyException :=
    payrollError .payslipNotFound "The requested payslip is unavailable."
      "Use an exact payslip ID from the authorized company."

def editable (version : PayrollVersion) (payslip : Payslip) : Bool :=
  match version with
  | .v18 => ["draft", "verify"].contains payslip.sourceState
  | .v19 => payslip.sourceState = "draft"

/-- `_require_editable` -/
def requireEditable (payslip : Payslip) : Except PyException Unit :=
  ensure (editable reader.version payslip)
    (payrollError .payrollStateNotEditable "The requested payslip is not editable."
      "Use an Odoo draft payslip and retry.")

/-- `_all_inputs` -/
def allInputs (companyId payslipId : Int) : Odoo (List PayslipInput) := do
  let filters ← Program.ofExcept (PayslipChildFilters.build [payslipId] [])
  let page ← reader.getPayslipInputs companyId filters (.ofLimit 200 (by decide) (by decide))
  Program.ofExcept (ensure (page.totalCount ≤ 200 && page.nextCursor = none) tooLarge)
  Program.ofExcept (ensure
    ((page.items.map (·.inputType.id)).Nodup && (page.items.map (·.code)).Nodup) inconsistent)
  return page.items

/-- The page loop of `_complete_write_children`, with the number of records announced before and the
cursors and the items seen so far. -/
def completeWriteChildren {α : Type} (idOf : α → Int)
    (fetch : PayrollPageRequest → Odoo (PayrollPage α)) (cap : Nat) (total : Option Nat)
    (seenCursors : List String) (items : List α) (cursor : Option String) : Odoo (List α) := do
  let request ← Program.ofExcept (PayrollPageRequest.build 200 cursor)
  let page ← fetch request
  Program.ofExcept (match total with
    | none => ensure (page.totalCount ≤ cap) tooLarge
    | some total => ensure (page.totalCount = total) inconsistent)
  let ⟨read, _hread⟩ ← Program.ofExcept
    (acceptItems idOf (fun _ => true) inconsistent cap page.totalCount items page.items)
  match page.nextCursor with
  | none => do
      Program.ofExcept (ensure (read.length = page.totalCount) inconsistent)
      return read
  | some next =>
      if _hnext : page.items = [] ∨ next ∈ seenCursors then
        throw inconsistent
      else
        completeWriteChildren idOf fetch cap (some page.totalCount) (next :: seenCursors) read
          (some next)
termination_by cap - items.length
decreasing_by
  have hadded : 0 < page.items.length := List.length_pos_iff.mpr (not_or.mp _hnext).1
  have hcap := _hread.2.resolve_left (not_or.mp _hnext).1
  omega

/-- `_eligible_type` -/
def eligibleType (companyId : Int) (payslip : Payslip) (inputTypeId : Int) :
    Odoo PayrollInputType := do
  let filters ← Program.ofExcept
    (PayrollInputTypeFilters.build payslip.payrollStructure.id [inputTypeId])
  let page ← reader.getPayrollInputTypes companyId filters (.ofLimit 1 (by decide) (by decide))
  Program.ofExcept (match page.items with
    | [found] => if found.id = inputTypeId then .ok found else .error notAllowed
    | _ => .error notAllowed)
where
  notAllowed : PyException :=
    payrollError .payrollInputTypeNotAllowed "The requested Payroll input type is not eligible."
      "Use an active non-attachment type allowed by the payslip structure."

def eligibleTypes (companyId : Int) (payslip : Payslip) :
    List Int → Odoo (List PayrollInputType)
  | [] => return []
  | inputTypeId :: rest => do
      let found ← reader.eligibleType companyId payslip inputTypeId
      let others ← eligibleTypes companyId payslip rest
      return found :: others

def inputUnavailable : PyException :=
  payrollError .payrollInputNotFound "The requested Payroll input is unavailable."
    "Use an exact input ID from the editable payslip."

/-- `_exact_input` -/
def exactInput (companyId payslipId inputId : Int) : Odoo PayslipInput := do
  Program.ofExcept (requireRequestedId payslipId "payslip")
  Program.ofExcept (requireRequestedId inputId "input")
  let filters ← Program.ofExcept (PayslipChildFilters.build [payslipId] [inputId])
  let page ← reader.getPayslipInputs companyId filters (.ofLimit 1 (by decide) (by decide))
  Program.ofExcept (match page.items with
    | [input] => if input.id = inputId then .ok input else .error inputUnavailable
    | _ => .error inputUnavailable)

def isContractOf (payslip : Payslip) (segment : PayrollContractSegment) : Bool :=
  segment.id = payslip.contractSegment.id && segment.sourceModel = payslip.contractSource

/-- `_action_payslip` -/
def actionPayslip (companyId payslipId : Int) : Odoo Payslip := do
  let payslip ← reader.exactPayslip companyId payslipId
  Program.ofExcept (reader.requireEditable payslip)
  let employees ← reader.getPayrollEmployees companyId [payslip.employee.id]
    (.ofLimit 1 (by decide) (by decide))
  Program.ofExcept (ensure (employees.items.map (·.id) = [payslip.employee.id])
    (payrollError .employeeNotFound
      "The payslip employee is unavailable in the authorized company."
      "Check the payslip and employee access in Odoo, then retry."))
  let filters ← Program.ofExcept
    (PayrollContractFilters.build [payslip.employee.id] payslip.dateFrom payslip.dateTo)
  let segments ← reader.getPayrollContractSegments companyId filters
    (.ofLimit 200 (by decide) (by decide))
  Program.ofExcept (ensure (segments.nextCursor = none) tooLarge)
  Program.ofExcept (ensure (segments.items.any (isContractOf payslip))
    (payrollError .contractDataMissing "The payslip contract evidence is unavailable."
      "Check the payslip contract or version in Odoo, then retry."))
  let found ← reader.getPayrollStructure companyId payslip.payrollStructure.id
  let fresh ← reader.exactPayslip companyId payslipId
  let freshStructure ← reader.getPayrollStructure companyId payslip.payrollStructure.id
  Program.ofExcept (reader.requireEditable fresh)
  Program.ofExcept (ensure (fresh.Same payslip && freshStructure.normal = found.normal)
    stateConflict)
  return fresh

def calculatedLines (companyId payslipId : Int) (included : Bool) : Odoo (List PayslipLine) :=
  if included then do
    let filters ← Program.ofExcept (PayslipChildFilters.build [payslipId] [])
    completeWriteChildren PayslipLine.id (reader.getPayslipLines companyId filters) 500 none [] []
      none
  else
    return []

def workedDays (companyId payslipId : Int) (included : Bool) : Odoo (List PayslipWorkedDay) :=
  if included then do
    let filters ← Program.ofExcept (PayslipChildFilters.build [payslipId] [])
    completeWriteChildren PayslipWorkedDay.id (reader.getPayslipWorkedDays companyId filters) 200
      none [] [] none
  else
    return []

/-- `_read_write_checkpoint` -/
def readWriteCheckpoint (companyId : Int) (expected : PayrollWriteCheckpoint) (payslipId : Int)
    (includeCalculationSources : Bool) : Odoo PayrollWriteCheckpoint := do
  Program.ofExcept (ensure
    (expected.version = reader.version && expected.payslip.id = payslipId &&
      expected.payslip.companyId = companyId && !expected.inputTypesTruncated &&
      (includeCalculationSources ||
        (expected.calculatedLines.isEmpty && expected.workedDays.isEmpty)))
    stateConflict)
  let payslip ← reader.actionPayslip companyId payslipId
  let inputs ← reader.allInputs companyId payslipId
  let employees ← reader.getPayrollEmployees companyId [payslip.employee.id]
    (.ofLimit 1 (by decide) (by decide))
  let employee ← Program.ofExcept (match employees.items, employees.nextCursor with
    | [employee], none => .ok employee
    | _, _ => .error stateConflict)
  let filters ← Program.ofExcept
    (PayrollContractFilters.build [payslip.employee.id] payslip.dateFrom payslip.dateTo)
  let contracts ← reader.getPayrollContractSegments companyId filters
    (.ofLimit 200 (by decide) (by decide))
  let contract ← Program.ofExcept
    (match contracts.items.filter (isContractOf payslip), contracts.nextCursor with
      | [contract], none => .ok contract
      | _, _ => .error stateConflict)
  let found ← reader.getPayrollStructure companyId payslip.payrollStructure.id
  let inputTypes ← reader.eligibleTypes companyId payslip (expected.inputTypes.map (·.id))
  let calculatedLines ← reader.calculatedLines companyId payslipId includeCalculationSources
  let workedDays ← reader.workedDays companyId payslipId includeCalculationSources
  return {
    version := reader.version
    payslip := payslip
    inputs := inputs
    employee := employee
    contract := contract
    payrollStructure := found
    inputTypes := inputTypes
    inputTypesTruncated := false
    calculatedLines := calculatedLines
    workedDays := workedDays }

/-- `_CHECKPOINT_CONFLICT_CODES` -/
def checkpointConflictCodes : List ErrorCode :=
  [.contractDataMissing, .employeeNotFound, .payrollInputNotFound, .payrollInputTypeNotAllowed,
    .payrollResultTooLarge, .payrollSourceInconsistent, .payrollStateNotEditable,
    .payrollStructureNotFound, .payslipNotFound, .odooStateConflict]

def checkpointRejected : PyException := .payrollWriteRejected stateConflictError

/-- The `except` clause around the two reads. -/
def checkpointOutcome {α : Type} : Except PyException α → Except PyException α
  | .error (.odooMcpError error) =>
      if checkpointConflictCodes.contains error.code then .error checkpointRejected
      else .error (.odooMcpError error)
  | outcome => outcome

/-- `_validated_write_checkpoint` -/
def validatedWriteCheckpoint (companyId : Int) (expected : PayrollWriteCheckpoint)
    (payslipId : Int) (includeCalculationSources : Bool) : Odoo PayrollWriteCheckpoint := do
  let read := reader.readWriteCheckpoint companyId expected payslipId includeCalculationSources
  let outcome ← Program.attempt (do
    let observed ← read
    let final ← read
    return (observed, final))
  let checkpoints ← Program.ofExcept (checkpointOutcome outcome)
  Program.ofExcept (ensure (checkpoints.1.Same expected && checkpoints.2.Same expected)
    checkpointRejected)
  return checkpoints.2

/-! ### Mutations -/

/-- The `except` clause around the mutating call. -/
def rejectDenied {α : Type} : Except PyException α → Except PyException α
  | .error (.odooMcpError error) =>
      if error.code = .odooPermissionDenied then .error (.payrollWriteRejected error)
      else .error (.odooMcpError error)
  | outcome => outcome

def mutate (model method : String) (ids : List Int) (named : Payload) (companyId : Int) :
    Odoo PyValue := do
  let outcome ← Program.attempt (executeMethod model method ids named [companyId])
  Program.ofExcept (rejectDenied outcome)

/-- `_payslip_scope`: two payslips agree on it. -/
def sameScope (first second : Payslip) : Bool :=
  first.id = second.id && first.employee.id = second.employee.id &&
    first.companyId = second.companyId && first.dateFrom = second.dateFrom &&
    first.dateTo = second.dateTo && first.contractSegment.id = second.contractSegment.id &&
    first.contractSource = second.contractSource &&
    first.payrollStructure.id = second.payrollStructure.id &&
    first.batch.map (·.id) = second.batch.map (·.id) && first.creditNote = second.creditNote &&
    first.currency.id = second.currency.id

/-- `_validate_post_action_parent` -/
def validatePostActionParent (expected observed : Payslip) (allowStateChange : Bool) :
    Except PyException Unit := do
  reader.requireEditable observed
  ensure (sameScope observed expected &&
    (allowStateChange || observed.sourceState = expected.sourceState)) stateConflict

/-- `_selected_input` -/
def selectedInput (inputs : List PayslipInput) (inputId : Int) : Except PyException PayslipInput :=
  match inputs.filter fun item => item.id = inputId with
  | [item] => .ok item
  | _ => .error inputUnavailable

def matchingType (inputTypes : List PayrollInputType) (inputTypeId : Int) :
    Except PyException PayrollInputType :=
  match inputTypes.filter fun item => item.id = inputTypeId with
  | [item] => .ok item
  | _ => .error checkpointRejected

def createGuard (payload : DraftPayslipInputCreate) (checkpoint : PayrollWriteCheckpoint) :
    Except PyException PayrollInputType := do
  let inputType ← matchingType checkpoint.inputTypes payload.inputTypeId
  ensure (!checkpoint.inputs.any fun item =>
      item.inputType.id = inputType.id || item.code = inputType.code)
    (payrollError .payrollInputTypeNotAllowed
      "The payslip already contains this Payroll input type."
      "Update the existing input instead of creating a duplicate.")
  ensurePayrollActionAllowed "hr.payslip.input" "create_draft_input"
  return inputType

def createValues (payload : DraftPayslipInputCreate) (payslip : Payslip)
    (inputType : PayrollInputType) : PyDict :=
  [(.str "name", .str payload.description),
    (.str "payslip_id", .int payslip.id),
    (.str "input_type_id", .int inputType.id),
    (.str "amount", payload.amount.dump),
    (.str (contractField reader.version), .int payslip.contractSegment.id)]

def createReadBack (companyId : Int) (payload : DraftPayslipInputCreate)
    (checkpoint : PayrollWriteCheckpoint) (inputType : PayrollInputType) (result : PyValue) :
    Odoo PayslipInput := do
  let payslip := checkpoint.payslip
  let createdId ← Program.ofExcept (orRaise (Field.createdId result) invalidPayroll)
  let created ← reader.exactInput companyId payslip.id createdId
  Program.ofExcept (ensure
    (created.name = payload.description && created.amount.same payload.amount &&
      created.inputType.id = inputType.id && created.code = inputType.code &&
      created.contractSegment.id = payslip.contractSegment.id)
    inconsistent)
  let postInputs ← reader.allInputs companyId payslip.id
  let createdMatches := postInputs.filter fun item => item.id = created.id
  let unchanged := postInputs.filter fun item => item.id ≠ created.id
  Program.ofExcept (ensure
    (SameInputs createdMatches [created] && SameInputs unchanged checkpoint.inputs) stateConflict)
  let parent ← reader.exactPayslip companyId payslip.id
  Program.ofExcept (reader.validatePostActionParent payslip parent false)
  return created

def createDraftPayslipInput (companyId : Int) (payload : DraftPayslipInputCreate)
    (expected : PayrollWriteCheckpoint) : Odoo PayslipInput := do
  let checkpoint ← reader.validatedWriteCheckpoint companyId expected payload.payslipId false
  let inputType ← Program.ofExcept (createGuard payload checkpoint)
  let result ← mutate "hr.payslip.input" "create" []
    [("vals_list", .dict (reader.createValues payload checkpoint.payslip inputType))] companyId
  reader.createReadBack companyId payload checkpoint inputType result

def updateGuard (inputId : Int) (checkpoint : PayrollWriteCheckpoint) :
    Except PyException PayslipInput := do
  let current ← selectedInput checkpoint.inputs inputId
  let inputType ← matchingType checkpoint.inputTypes current.inputType.id
  ensure (current.code = inputType.code) checkpointRejected
  ensurePayrollActionAllowed "hr.payslip.input" "update_draft_input"
  return current

def updateValues (payload : DraftPayslipInputUpdate) : PyDict :=
  (payload.description.toList.map fun description => (.str "name", .str description)) ++
    payload.amount.toList.map fun amount => (.str "amount", amount.dump)

def updateReadBack (companyId inputId : Int) (payload : DraftPayslipInputUpdate)
    (checkpoint : PayrollWriteCheckpoint) (current : PayslipInput) (result : PyValue) :
    Odoo PayslipInput := do
  let payslip := checkpoint.payslip
  Program.ofExcept (match result with
    | .bool true => .ok ()
    | _ => .error (payrollApiError "Odoo returned an invalid Payroll input update result."))
  let updated ← reader.exactInput companyId payslip.id inputId
  Program.ofExcept (ensure
    ((payload.description.all fun description => updated.name = description) &&
      (payload.amount.all fun amount => updated.amount.same amount) &&
      updated.inputType.id = current.inputType.id && updated.code = current.code &&
      updated.contractSegment.id = current.contractSegment.id)
    inconsistent)
  let expectedInputs := (checkpoint.inputs.map fun item =>
    if item.id = updated.id then updated else item).insertionSort (inputBefore · ·)
  let postInputs ← reader.allInputs companyId payslip.id
  Program.ofExcept (ensure (SameInputs postInputs expectedInputs) stateConflict)
  let parent ← reader.exactPayslip companyId payslip.id
  Program.ofExcept (reader.validatePostActionParent payslip parent false)
  return updated

def updateDraftPayslipInput (companyId inputId : Int) (payload : DraftPayslipInputUpdate)
    (expected : PayrollWriteCheckpoint) : Odoo PayslipInput := do
  Program.ofExcept (requireRequestedId inputId "input")
  let checkpoint ← reader.validatedWriteCheckpoint companyId expected payload.payslipId false
  let current ← Program.ofExcept (updateGuard inputId checkpoint)
  let result ← mutate "hr.payslip.input" "write" [inputId]
    [("vals", .dict (updateValues payload))] companyId
  reader.updateReadBack companyId inputId payload checkpoint current result

def deleteGuard (payslipId inputId : Int) (checkpoint : PayrollWriteCheckpoint) :
    Except PyException PayslipInput := do
  let current ← selectedInput checkpoint.inputs inputId
  ensure (current.payslip.id = payslipId) checkpointRejected
  let inputType ← matchingType checkpoint.inputTypes current.inputType.id
  ensure (current.code = inputType.code) checkpointRejected
  ensurePayrollActionAllowed "hr.payslip.input" "delete_draft_input"
  return current

def deleteReadBack (companyId inputId : Int) (checkpoint : PayrollWriteCheckpoint)
    (result : PyValue) : Odoo DeletedPayslipInput := do
  let payslip := checkpoint.payslip
  Program.ofExcept (match result with
    | .bool true => .ok ()
    | _ => .error (payrollApiError "Odoo returned an invalid Payroll input deletion result."))
  let filters ← Program.ofExcept (PayslipChildFilters.build [payslip.id] [inputId])
  let remaining ← reader.getPayslipInputs companyId filters (.ofLimit 1 (by decide) (by decide))
  let parent ← reader.exactPayslip companyId payslip.id
  Program.ofExcept (reader.validatePostActionParent payslip parent false)
  Program.ofExcept (ensure remaining.items.isEmpty inconsistent)
  let expectedInputs := checkpoint.inputs.filter fun item => item.id ≠ inputId
  let postInputs ← reader.allInputs companyId payslip.id
  Program.ofExcept (ensure (SameInputs postInputs expectedInputs) stateConflict)
  return ⟨inputId, payslip.id⟩

def deleteDraftPayslipInput (companyId payslipId inputId : Int)
    (expected : PayrollWriteCheckpoint) : Odoo DeletedPayslipInput := do
  Program.ofExcept (requireRequestedId payslipId "payslip")
  Program.ofExcept (requireRequestedId inputId "input")
  let checkpoint ← reader.validatedWriteCheckpoint companyId expected payslipId false
  let _ ← Program.ofExcept (deleteGuard payslipId inputId checkpoint)
  let result ← mutate "hr.payslip.input" "unlink" [inputId] [] companyId
  reader.deleteReadBack companyId inputId checkpoint result

def recalculationFailed : PyException :=
  .payrollWriteRejected ⟨.payrollRecalculationFailed, "Odoo did not recalculate the draft payslip.",
    "Review the draft payslip in Odoo and retry after correcting it."⟩

/-- What is read back after the recalculation. Odoo reports a failed one with `False`. -/
def recomputeReadBack (companyId payslipId : Int) (checkpoint : PayrollWriteCheckpoint)
    (result : PyValue) : Odoo Payslip := do
  let payslip := checkpoint.payslip
  Program.ofExcept (match result with
    | .bool false => .error recalculationFailed
    | .none => .ok ()
    | .bool true => .ok ()
    | _ => .error (payrollApiError "Odoo returned an invalid Payroll recalculation result."))
  let refreshed ← reader.exactPayslip companyId payslipId
  Program.ofExcept (reader.validatePostActionParent payslip refreshed true)
  let postInputs ← reader.allInputs companyId payslip.id
  Program.ofExcept (ensure (SameInputs postInputs checkpoint.inputs) stateConflict)
  return refreshed

def recomputeDraftPayslip (companyId payslipId : Int) (expected : PayrollWriteCheckpoint) :
    Odoo Payslip := do
  let checkpoint ← reader.validatedWriteCheckpoint companyId expected payslipId true
  Program.ofExcept (ensurePayrollActionAllowed "hr.payslip" "compute_sheet_on_editable_payslip")
  let result ← mutate "hr.payslip" "compute_sheet" [payslipId] [] companyId
  reader.recomputeReadBack companyId payslipId checkpoint result

end PayrollReader

end OdooMcp
