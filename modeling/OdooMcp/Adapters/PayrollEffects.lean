import OdooMcp.Adapters.PayrollWrites
import OdooMcp.Adapters.AccountingEffects

/-!
# What the payroll reader asks and raises

The reads of the payroll reader make no call of a model method, pass every error of the transport on
and raise only errors of their own.
-/

namespace OdooMcp

open Effect

theorem sound_ofIds (payslipIds : List Int) : Sound (PayslipFilters.ofIds payslipIds) :=
  (Sound.ensure ownError_payrollValueError).bind fun _ => Sound.ok _

theorem sound_childFilters (payslipIds recordIds : List Int) :
    Sound (PayslipChildFilters.build payslipIds recordIds) :=
  (Sound.ensure ownError_payrollValueError).bind fun _ => Sound.ok _

theorem sound_inputTypeFilters (structureId : Int) (inputTypeIds : List Int) :
    Sound (PayrollInputTypeFilters.build structureId inputTypeIds) :=
  (Sound.ensure ownError_payrollValueError).bind fun _ => Sound.ok _

theorem sound_contractFilters (employeeIds : List Int) (start finish : Date) :
    Sound (PayrollContractFilters.build employeeIds start finish) := by
  refine Sound.bind ?_ fun period => (Sound.ensure ownError_payrollValueError).bind fun _ =>
    Sound.ok _
  unfold PayrollPeriod.build
  split
  · exact Sound.ok _
  · exact Sound.raise ownError_payrollValueError

theorem sound_pageRequest (limit : Nat) (cursor : Option String) :
    Sound (PayrollPageRequest.build limit cursor) := by
  unfold PayrollPageRequest.build
  split
  · exact Sound.ok _
  · exact Sound.raise ownError_payrollValueError

theorem sound_acceptItems {α : Type} (idOf : α → Int) (accepts : Int → Bool) {error : PyException}
    (herror : OwnError error) (cap expected : Nat) (items added : List α) :
    Sound (acceptItems idOf accepts error cap expected items added) := by
  induction added generalizing items with
  | nil => exact Sound.ok _
  | cons item added ih =>
      rw [acceptItems]
      refine (Sound.ensure herror).bind fun _ => ?_
      split
      · exact (ih _).bind fun _ => Sound.ok _
      · exact Sound.raise herror

namespace PayrollReader

variable (reader : PayrollReader)

/-! ### Rows -/

theorem sound_requireCompany (companyId : Int) : Sound (reader.requireCompany companyId) :=
  Sound.ensure (ownError_payrollError (by decide) _ _)

theorem sound_fields (model : String) : Sound (reader.fields model) :=
  (Sound.ensure ownError_modelDenied).bind fun _ => Sound.orRaise (ownError_payrollApiError _)

theorem sound_acceptRows (fields : List String) (seen : List Int) (rows : List Payload) :
    Sound (acceptRows fields seen rows) := by
  induction rows generalizing seen with
  | nil => exact Sound.ok _
  | cons row rows ih =>
      exact (sound_exactRecord row fields).bind fun _ => (sound_payrollField _ _ _).bind fun _ =>
        (Sound.ensure (ownError_payrollApiError _)).bind fun _ => ih _

theorem sound_anchors (rows : List Payload) : Sound (anchors rows) :=
  Sound.mapM rows fun row => (sound_payrollField row _ _).bind fun _ =>
    (sound_payrollField row _ _).bind fun _ => Sound.ok _

theorem reading_fullPage (model : String) (companyId : Int) (domain : List PyValue)
    (fields : List String) (order : String) (count requested offset : Nat) :
    Reading (fullPage model companyId domain fields order count requested offset) := by
  unfold fullPage
  refine .bind (reading_searchRead ..) fun page => ?_
  split
  · exact .ret _
  · refine .bind (reading_searchCount ..) fun current => ?_
    exact .bind (.ofExcept (Sound.ensure ownError_stateConflict)) fun _ =>
      .raise (ownError_payrollApiError _)

/-- By induction on the number of rows that are still missing. -/
theorem reading_fetchPages (model : String) (companyId : Int) (domain : List PyValue)
    (fields : List String) (order : String) (count : Nat) (seen : List Int) (remaining : Nat) :
    Reading (fetchPages model companyId domain fields order count seen remaining) := by
  induction remaining using Nat.strong_induction_on generalizing seen with
  | _ remaining ih =>
      have hrest (seen : List Int) (hremaining : remaining ≠ 0) : Reading
          (fetchPages model companyId domain fields order count seen
            (remaining - min 500 remaining)) := ih _ (by omega) seen
      rw [fetchPages]
      split
      · exact .ret _
      · rename_i hremaining
        refine .bind (reading_fullPage ..) fun page => ?_
        refine .bind (.ofExcept (sound_acceptRows _ _ _)) fun seen => ?_
        exact .bind (hrest seen hremaining) fun _ => .ret _

theorem reading_fetchRows (model : String) (companyId : Int) (domain : List PyValue)
    (fields : List String) (order : String) (count : Nat) :
    Reading (fetchRows model companyId domain fields order count) := by
  unfold fetchRows
  split
  · refine .bind (reading_searchRead ..) fun page => ?_
    exact .bind (.ofExcept (Sound.ensure ownError_stateConflict)) fun _ => .ret _
  · exact reading_fetchPages ..

theorem reading_stableRows (model : String) (companyId : Int) (domain : List PyValue)
    (order : String) (cap : Nat) :
    Reading (reader.stableRows model companyId domain order cap) := by
  unfold stableRows
  refine .bind (.ofExcept (reader.sound_requireCompany _)) fun _ => ?_
  refine .bind (.ofExcept (reader.sound_fields _)) fun fields => ?_
  refine .bind (reading_searchCount ..) fun count => ?_
  refine .bind (.ofExcept (Sound.ensure ownError_invalidPayroll)) fun _ => ?_
  refine .bind (.ofExcept (Sound.ensure ownError_tooLarge)) fun _ => ?_
  refine .bind (reading_fetchRows ..) fun rows => ?_
  refine .bind (.ofExcept (sound_anchors _)) fun found => ?_
  refine .bind (reading_searchCount ..) fun finalCount => ?_
  refine .bind (.ofExcept (Sound.ensure ownError_stateConflict)) fun _ => ?_
  refine .bind (reading_fetchRows ..) fun finalRows => ?_
  refine .bind (.ofExcept (sound_anchors _)) fun finalAnchors => ?_
  exact .bind (.ofExcept (Sound.ensure ownError_stateConflict)) fun _ => .ret _

theorem sound_page {α : Type} {idOf : α → Int} {writeDateOf : α → DateTime} {items : List α}
    {companyId : Int} {request : PayrollPageRequest} {model : String} {domain : List PyValue}
    {order : String} {binding : PyValue} :
    Sound (reader.page idOf writeDateOf items companyId request model domain order binding) := by
  unfold page
  refine (Sound.ensure ownError_invalidPayroll).bind fun _ => ?_
  refine sound_cursorFingerprint.bind fun fingerprint => ?_
  refine (sound_decodePayrollCursor _ _).bind fun offset => ?_
  exact (Sound.ensure (ownError_payrollError (by decide) _ _)).bind fun _ => Sound.ok _

/-! ### Records -/

theorem reading_getPayslips (companyId : Int) (filters : PayslipFilters)
    (request : PayrollPageRequest) : Reading (reader.getPayslips companyId filters request) := by
  unfold getPayslips
  refine .bind (reader.reading_stableRows ..) fun rows => ?_
  refine .bind (.ofExcept (Sound.mapM rows (sound_normalizePayslip _))) fun normalized => ?_
  refine .bind (.ofExcept (Sound.ensure ownError_inconsistent)) fun _ => ?_
  exact .ofExcept reader.sound_page

theorem reading_parents (companyId : Int) (parentIds : List Int) :
    Reading (reader.parents companyId parentIds) := by
  unfold parents
  split
  · exact .ret _
  · refine .bind (.ofExcept (sound_ofIds _)) fun filters => ?_
    refine .bind (.ofExcept (sound_pageRequest _ _)) fun request => ?_
    refine .bind (reader.reading_getPayslips ..) fun found => ?_
    exact .bind (.ofExcept (Sound.ensure ownError_inconsistent)) fun _ => .ret _

theorem reading_children {α : Type} {kind : ChildKind α}
    (hnormalize : ∀ row, Sound (kind.normalize row)) (companyId : Int)
    (filters : PayslipChildFilters) (request : PayrollPageRequest) :
    Reading (reader.children kind companyId filters request) := by
  unfold children
  refine .bind (reader.reading_stableRows ..) fun rows => ?_
  refine .bind (.ofExcept (Sound.mapM rows hnormalize)) fun normalized => ?_
  refine .bind (reader.reading_parents ..) fun parents => ?_
  refine .bind (.ofExcept (Sound.ensure ownError_inconsistent)) fun _ => ?_
  exact .ofExcept reader.sound_page

theorem reading_getPayslipLines (companyId : Int) (filters : PayslipChildFilters)
    (request : PayrollPageRequest) :
    Reading (reader.getPayslipLines companyId filters request) :=
  reader.reading_children (sound_normalizeLine _) companyId filters request

theorem reading_getPayslipWorkedDays (companyId : Int) (filters : PayslipChildFilters)
    (request : PayrollPageRequest) :
    Reading (reader.getPayslipWorkedDays companyId filters request) :=
  reader.reading_children (sound_normalizeWorkedDay _) companyId filters request

theorem reading_getPayslipInputs (companyId : Int) (filters : PayslipChildFilters)
    (request : PayrollPageRequest) :
    Reading (reader.getPayslipInputs companyId filters request) :=
  reader.reading_children (sound_normalizeInput _) companyId filters request

theorem reading_getPayrollStructure (companyId structureId : Int) :
    Reading (reader.getPayrollStructure companyId structureId) := by
  unfold getPayrollStructure
  refine .bind (reader.reading_stableRows ..) fun rows => ?_
  refine .bind (.ofExcept (Sound.orRaise (ownError_payrollError (by decide) _ _))) fun row => ?_
  refine .bind (.ofExcept (sound_normalizeStructure _)) fun found => ?_
  exact .bind (.ofExcept (Sound.ensure ownError_inconsistent)) fun _ => .ret _

theorem reading_getPayrollInputTypes (companyId : Int) (filters : PayrollInputTypeFilters)
    (request : PayrollPageRequest) :
    Reading (reader.getPayrollInputTypes companyId filters request) := by
  unfold getPayrollInputTypes
  refine .bind (reader.reading_getPayrollStructure ..) fun found => ?_
  refine .bind (reader.reading_stableRows ..) fun rows => ?_
  refine .bind (.ofExcept (Sound.mapM rows sound_normalizeInputType)) fun normalized => ?_
  refine .bind (.ofExcept (Sound.ensure ownError_inconsistent)) fun _ => ?_
  exact .ofExcept reader.sound_page

theorem reading_getPayrollEmployees (companyId : Int) (employeeIds : List Int)
    (request : PayrollPageRequest) :
    Reading (reader.getPayrollEmployees companyId employeeIds request) := by
  unfold getPayrollEmployees
  refine .bind (.ofExcept (Sound.ensure (ownError_payrollError (by decide) _ _))) fun _ => ?_
  refine .bind (reader.reading_stableRows ..) fun rows => ?_
  refine .bind (.ofExcept (Sound.mapM rows sound_normalizeEmployee)) fun normalized => ?_
  refine .bind (.ofExcept (Sound.ensure ownError_inconsistent)) fun _ => ?_
  exact .ofExcept reader.sound_page

theorem sound_checkContractRow (companyId : Int) (employeeIds : List Int) (row : Payload) :
    Sound (checkContractRow companyId employeeIds row) := by
  unfold checkContractRow
  refine (sound_payrollField row _ _).bind fun _ => ?_
  refine (Sound.ensure ownError_inconsistent).bind fun _ => ?_
  exact (sound_payrollField row _ _).bind fun _ => Sound.ensure ownError_inconsistent

theorem reading_getPayrollContractSegments (companyId : Int) (filters : PayrollContractFilters)
    (request : PayrollPageRequest) :
    Reading (reader.getPayrollContractSegments companyId filters request) := by
  unfold getPayrollContractSegments
  refine .bind (reader.reading_stableRows ..) fun rows => ?_
  refine .bind (.ofExcept (Sound.mapM rows (sound_checkContractRow _ _))) fun _ => ?_
  refine .bind (.ofExcept (sound_contractSegments _ _ _)) fun segments => ?_
  refine .bind (.ofExcept (sound_checkSegments _ _ _ _)) fun _ => ?_
  exact .ofExcept reader.sound_page

/-! ### Reads of a write -/

theorem reading_exactPayslip (companyId payslipId : Int) :
    Reading (reader.exactPayslip companyId payslipId) := by
  have hunavailable : OwnError exactPayslip.unavailable := ownError_payrollError (by decide) _ _
  unfold exactPayslip
  refine .bind (.ofExcept (sound_requireRequestedId _ _)) fun _ => ?_
  refine .bind (.ofExcept (sound_ofIds _)) fun filters => ?_
  refine .bind (reader.reading_getPayslips ..) fun page => .ofExcept ?_
  split
  · split
    · exact Sound.ok _
    · exact Sound.raise hunavailable
  · exact Sound.raise hunavailable

theorem sound_requireEditable (payslip : Payslip) : Sound (reader.requireEditable payslip) :=
  Sound.ensure (ownError_payrollError (by decide) _ _)

theorem reading_allInputs (companyId payslipId : Int) :
    Reading (reader.allInputs companyId payslipId) := by
  unfold allInputs
  refine .bind (.ofExcept (sound_childFilters _ _)) fun filters => ?_
  refine .bind (reader.reading_getPayslipInputs ..) fun page => ?_
  refine .bind (.ofExcept (Sound.ensure ownError_tooLarge)) fun _ => ?_
  exact .bind (.ofExcept (Sound.ensure ownError_inconsistent)) fun _ => .ret _

/-- By induction on the number of records that may still be read. -/
theorem reading_completeWriteChildren {α : Type} (idOf : α → Int)
    {fetch : PayrollPageRequest → Odoo (PayrollPage α)}
    (hfetch : ∀ request, Reading (fetch request)) (cap : Nat) (total : Option Nat)
    (seenCursors : List String) (items : List α) (cursor : Option String) :
    Reading (completeWriteChildren idOf fetch cap total seenCursors items cursor) := by
  induction hroom : cap - items.length using Nat.strong_induction_on
    generalizing total seenCursors items cursor with
  | _ room ih =>
      rw [completeWriteChildren]
      refine .bind (.ofExcept (sound_pageRequest _ _)) fun request => ?_
      refine .bind (hfetch request) fun page => ?_
      refine .bind (.ofExcept ?_) fun _ => ?_
      · cases total with
        | none => exact Sound.ensure ownError_tooLarge
        | some total => exact Sound.ensure ownError_inconsistent
      refine .bind (.ofExcept (sound_acceptItems _ _ ownError_inconsistent _ _ _ _))
        fun accepted => ?_
      obtain ⟨read, hread⟩ := accepted
      dsimp only
      split
      · exact .bind (.ofExcept (Sound.ensure ownError_inconsistent)) fun _ => .ret _
      · split
        · exact .raise ownError_inconsistent
        · rename_i hnext
          rw [not_or] at hnext
          have hadded : 0 < page.items.length := List.length_pos_iff.mpr hnext.1
          have hcap := hread.2.resolve_left hnext.1
          have hlength := hread.1
          exact ih _ (by omega) _ _ _ _ rfl

theorem reading_eligibleType (companyId : Int) (payslip : Payslip) (inputTypeId : Int) :
    Reading (reader.eligibleType companyId payslip inputTypeId) := by
  have hnotAllowed : OwnError eligibleType.notAllowed := ownError_payrollError (by decide) _ _
  unfold eligibleType
  refine .bind (.ofExcept (sound_inputTypeFilters _ _)) fun filters => ?_
  refine .bind (reader.reading_getPayrollInputTypes ..) fun page => .ofExcept ?_
  split
  · split
    · exact Sound.ok _
    · exact Sound.raise hnotAllowed
  · exact Sound.raise hnotAllowed

theorem reading_eligibleTypes (companyId : Int) (payslip : Payslip) (inputTypeIds : List Int) :
    Reading (reader.eligibleTypes companyId payslip inputTypeIds) := by
  induction inputTypeIds with
  | nil => exact .ret _
  | cons inputTypeId rest ih =>
      exact .bind (reader.reading_eligibleType ..) fun _ => .bind ih fun _ => .ret _

theorem ownError_inputUnavailable : OwnError inputUnavailable :=
  ownError_payrollError (by decide) _ _

theorem reading_exactInput (companyId payslipId inputId : Int) :
    Reading (reader.exactInput companyId payslipId inputId) := by
  unfold exactInput
  refine .bind (.ofExcept (sound_requireRequestedId _ _)) fun _ => ?_
  refine .bind (.ofExcept (sound_requireRequestedId _ _)) fun _ => ?_
  refine .bind (.ofExcept (sound_childFilters _ _)) fun filters => ?_
  refine .bind (reader.reading_getPayslipInputs ..) fun page => .ofExcept ?_
  split
  · split
    · exact Sound.ok _
    · exact Sound.raise ownError_inputUnavailable
  · exact Sound.raise ownError_inputUnavailable

theorem reading_actionPayslip (companyId payslipId : Int) :
    Reading (reader.actionPayslip companyId payslipId) := by
  unfold actionPayslip
  refine .bind (reader.reading_exactPayslip ..) fun payslip => ?_
  refine .bind (.ofExcept (reader.sound_requireEditable _)) fun _ => ?_
  refine .bind (reader.reading_getPayrollEmployees ..) fun employees => ?_
  refine .bind (.ofExcept (Sound.ensure (ownError_payrollError (by decide) _ _))) fun _ => ?_
  refine .bind (.ofExcept (sound_contractFilters _ _ _)) fun filters => ?_
  refine .bind (reader.reading_getPayrollContractSegments ..) fun segments => ?_
  refine .bind (.ofExcept (Sound.ensure ownError_tooLarge)) fun _ => ?_
  refine .bind (.ofExcept (Sound.ensure (ownError_payrollError (by decide) _ _))) fun _ => ?_
  refine .bind (reader.reading_getPayrollStructure ..) fun found => ?_
  refine .bind (reader.reading_exactPayslip ..) fun fresh => ?_
  refine .bind (reader.reading_getPayrollStructure ..) fun freshStructure => ?_
  refine .bind (.ofExcept (reader.sound_requireEditable _)) fun _ => ?_
  exact .bind (.ofExcept (Sound.ensure ownError_stateConflict)) fun _ => .ret _

theorem reading_calculatedLines (companyId payslipId : Int) (included : Bool) :
    Reading (reader.calculatedLines companyId payslipId included) := by
  unfold calculatedLines
  split
  · refine .bind (.ofExcept (sound_childFilters _ _)) fun filters => ?_
    exact reading_completeWriteChildren _ (reader.reading_getPayslipLines companyId filters) ..
  · exact .ret _

theorem reading_workedDays (companyId payslipId : Int) (included : Bool) :
    Reading (reader.workedDays companyId payslipId included) := by
  unfold workedDays
  split
  · refine .bind (.ofExcept (sound_childFilters _ _)) fun filters => ?_
    exact reading_completeWriteChildren _ (reader.reading_getPayslipWorkedDays companyId filters) ..
  · exact .ret _

theorem reading_readWriteCheckpoint (companyId : Int) (expected : PayrollWriteCheckpoint)
    (payslipId : Int) (includeCalculationSources : Bool) :
    Reading (reader.readWriteCheckpoint companyId expected payslipId
      includeCalculationSources) := by
  unfold readWriteCheckpoint
  refine .bind (.ofExcept (Sound.ensure ownError_stateConflict)) fun _ => ?_
  refine .bind (reader.reading_actionPayslip ..) fun payslip => ?_
  refine .bind (reader.reading_allInputs ..) fun inputs => ?_
  refine .bind (reader.reading_getPayrollEmployees ..) fun employees => ?_
  refine .bind (.ofExcept ?_) fun employee => ?_
  · split
    · exact Sound.ok _
    · exact Sound.raise ownError_stateConflict
  refine .bind (.ofExcept (sound_contractFilters _ _ _)) fun filters => ?_
  refine .bind (reader.reading_getPayrollContractSegments ..) fun contracts => ?_
  refine .bind (.ofExcept ?_) fun contract => ?_
  · split
    · exact Sound.ok _
    · exact Sound.raise ownError_stateConflict
  refine .bind (reader.reading_getPayrollStructure ..) fun found => ?_
  refine .bind (reader.reading_eligibleTypes ..) fun inputTypes => ?_
  refine .bind (reader.reading_calculatedLines ..) fun calculatedLines => ?_
  exact .bind (reader.reading_workedDays ..) fun workedDays => .ret _

end PayrollReader

end OdooMcp
