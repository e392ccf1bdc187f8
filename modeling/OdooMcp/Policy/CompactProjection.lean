import OdooMcp.CanonicalJson
import OdooMcp.Policy.Confidentiality

/-!
# The compact projection of payroll writes

A payroll write stores ten fields and the error of its response instead of the whole response. What
is restored from them and stored again is the projection that was stored first.
-/

namespace OdooMcp

/-! ### Mappings without nulls -/

theorem mem_withoutNone {payload : Payload} {entry : String × PyValue} :
    entry ∈ withoutNone payload ↔ entry ∈ payload ∧ entry.2 ≠ .none := by
  rw [withoutNone, List.mem_filter]
  cases hvalue : entry.2 <;> simp

theorem withoutNone_append (first second : Payload) :
    withoutNone (first ++ second) = withoutNone first ++ withoutNone second :=
  List.filter_append ..

theorem nodup_keys_withoutNone {payload : Payload} (hnodup : (payload.map Prod.fst).Nodup) :
    ((withoutNone payload).map Prod.fst).Nodup :=
  hnodup.sublist (List.filter_sublist.map Prod.fst)

theorem dictGet_withoutNone {payload : Payload} (hnodup : (payload.map Prod.fst).Nodup)
    {key : String} {value : PyValue} :
    dictGet (withoutNone payload) key = some value ↔
      dictGet payload key = some value ∧ value ≠ .none := by
  rw [dictGet_eq_some (nodup_keys_withoutNone hnodup), dictGet_eq_some hnodup, mem_withoutNone]

/-- A key that is left out and a key without a value read alike. -/
theorem getD_withoutNone {payload : Payload} (hnodup : (payload.map Prod.fst).Nodup)
    (key : String) :
    (dictGet (withoutNone payload) key).getD .none = (dictGet payload key).getD .none := by
  cases hkept : dictGet (withoutNone payload) key with
  | some value => rw [((dictGet_withoutNone hnodup).mp hkept).1]
  | none =>
      cases hvalue : dictGet payload key with
      | none => rfl
      | some value =>
          by_cases hnone : value = .none
          · rw [hnone]
            rfl
          · rw [(dictGet_withoutNone hnodup).mpr ⟨hvalue, hnone⟩] at hkept
            cases hkept

theorem dictGet_filteredMapping {keys : List String} {key : String} (hkey : key ∈ keys)
    (payload : Payload) :
    dictGet (filteredMapping payload (some keys)) key = dictGet payload key := by
  unfold filteredMapping dictGet
  dsimp only
  induction payload with
  | nil => rfl
  | cons entry payload ih =>
      by_cases hentry : entry.1 = key
      · have hkept : keys.contains entry.1 = true := by simpa [hentry] using hkey
        rw [List.filter_cons, if_pos hkept, List.find?_cons_of_pos (by simpa using hentry),
          List.find?_cons_of_pos (by simpa using hentry)]
      · rw [List.find?_cons_of_neg (by simpa using hentry), ← ih]
        by_cases hkept : keys.contains entry.1 = true
        · rw [List.filter_cons, if_pos hkept, List.find?_cons_of_neg (by simpa using hentry)]
        · rw [List.filter_cons, if_neg hkept]

theorem mem_of_dictGet {payload : Payload} {key : String} {value : PyValue}
    (hfound : dictGet payload key = some value) : (key, value) ∈ payload := by
  obtain ⟨entry, hentry, rfl⟩ := Option.map_eq_some_iff.mp hfound
  have hkey : entry.1 = key := by simpa using List.find?_some hentry
  rw [← hkey]
  exact List.mem_of_find?_eq_some hentry

theorem dictGet_of_filteredMapping {payload : Payload} {keys : List String} {key : String}
    {value : PyValue} (hfound : dictGet (filteredMapping payload (some keys)) key = some value) :
    dictGet payload key = some value := by
  have hkey : key ∈ keys := by
    have hkept := (List.mem_filter.mp (mem_of_dictGet hfound)).2
    simpa using hkept
  rw [← dictGet_filteredMapping hkey]
  exact hfound

/-! ### Reading texts back -/

theorem ofText?_status (status : WriteStatus) : WriteStatus.ofText? status.text = some status := by
  cases status <;> rfl

theorem ofText?_outcome (outcome : WriteOutcome) :
    WriteOutcome.ofText? outcome.text = some outcome := by
  cases outcome <;> rfl

theorem ofValue?_value (code : ErrorCode) : ErrorCode.ofValue? code.value = some code := by
  cases code <;> decide

theorem asDict_toValue (payload : Payload) : asDict payload.toValue = .ok payload := by
  rw [Payload.toValue, asDict, orRaise_ok]
  induction payload with
  | nil => rfl
  | cons entry payload ih => simp_all [PyDict.toPayload?]

theorem asOptional_asStr (text : Option String) :
    asOptional asStr (.optional .str text) = .ok text := by
  cases text <;> rfl

theorem mapM_ofValue? (code : Option ErrorCode) :
    (code.map ErrorCode.value).mapM
      (fun text => orRaise (ErrorCode.ofValue? text) validationError) = .ok code := by
  cases code with
  | none => rfl
  | some code =>
      change some <$> orRaise (ErrorCode.ofValue? code.value) validationError = _
      rw [ofValue?_value]
      rfl

/-! ### Mappings in a JSON column -/

theorem mem_canonicalJsonEntries {payload : Payload} {written : List (PyKey × Json)}
    (hwritten : canonicalJsonEntries (payload.map fun entry => (.str entry.1, entry.2)) =
      .ok written) {key : String} {json : Json} :
    (PyKey.str key, json) ∈ written ↔
      ∃ value, (key, value) ∈ payload ∧ canonicalJson value = .ok json := by
  induction payload generalizing written with
  | nil =>
      cases hwritten
      simp
  | cons entry payload ih =>
      obtain ⟨first, hfirst, rest, hrest, rfl⟩ := canonicalJsonEntries_cons_ok.mp hwritten
      rw [List.mem_cons, ih hrest]
      constructor
      · rintro (hsame | ⟨value, hvalue, hjson⟩)
        · obtain ⟨hkey, rfl⟩ := Prod.mk.inj hsame
          cases hkey
          exact ⟨entry.2, List.mem_cons_self, hfirst⟩
        · exact ⟨value, List.mem_cons_of_mem _ hvalue, hjson⟩
      · rintro ⟨value, hvalue, hjson⟩
        rcases List.mem_cons.mp hvalue with rfl | hother
        · rw [hfirst] at hjson
          cases hjson
          exact .inl rfl
        · exact .inr ⟨value, hother, hjson⟩

/-- A mapping that is read back has the keys that were written, each with what `json.loads` makes
of the text of its value. -/
theorem dictGet_parsed {written parsed : Payload} {json : Json}
    (hnodup : (written.map Prod.fst).Nodup) (hjson : canonicalJson written.toValue = .ok json)
    (hparse : parseMapping json = .ok parsed) {key : String} {value : PyValue} :
    dictGet parsed key = some value ↔
      ∃ original text, dictGet written key = some original ∧ canonicalJson original = .ok text ∧
        value = text.loads := by
  obtain ⟨entries, hentries, fields, hfields, rfl⟩ := canonicalJson_dict_ok.mp hjson
  have hstrings : ∀ entry ∈ entries, entry.1.isStr = true :=
    strings_of_canonicalJsonEntries hentries fun entry hentry => by
      obtain ⟨original, -, rfl⟩ := List.mem_map.mp hentry
      rfl
  rw [sortKeys_of_strings hstrings] at hfields
  have hperm : fields.Perm (entries.map fun entry => (entry.1.text, entry.2)) := by
    rw [← Except.ok.inj hfields]
    exact List.perm_insertionSort _ _
  have hkeys : (fields.map Prod.fst).Nodup := by
    refine (hperm.map Prod.fst).nodup_iff.mpr ?_
    have hsame : (entries.map fun entry => (entry.1.text, entry.2)).map Prod.fst =
        written.map Prod.fst := by
      have hfirst := congrArg (List.map PyKey.text) (keys_of_canonicalJsonEntries hentries)
      simpa [List.map_map, Function.comp_def, PyKey.text] using hfirst
    rw [hsame]
    exact hnodup
  have hloaded : ((fields.map fun field => (field.1, field.2.loads)).map Prod.fst).Nodup := by
    simpa [List.map_map, Function.comp_def] using hkeys
  cases hparse
  rw [dictUpdate_of_nodup (by simpa using hloaded), List.nil_append, dictGet_eq_some hloaded,
    List.mem_map]
  constructor
  · rintro ⟨field, hfield, hsame⟩
    obtain ⟨rfl, rfl⟩ := Prod.mk.inj hsame
    obtain ⟨⟨first, text⟩, hentry, rfl⟩ := List.mem_map.mp (hperm.mem_iff.mp hfield)
    have hstring := hstrings _ hentry
    cases first with
    | str name =>
        obtain ⟨original, horiginal, htext⟩ := (mem_canonicalJsonEntries hentries).mp hentry
        exact ⟨original, text, (dictGet_eq_some hnodup).mpr horiginal, htext, rfl⟩
    | _ => cases hstring
  · rintro ⟨original, text, horiginal, htext, rfl⟩
    have hentry := (mem_canonicalJsonEntries hentries).mpr
      ⟨original, (dictGet_eq_some hnodup).mp horiginal, htext⟩
    exact ⟨(key, text), hperm.mem_iff.mpr (List.mem_map.mpr ⟨_, hentry, rfl⟩), rfl⟩

/-- Every field is read back as what `json.loads` makes of its text, and a missing one as `None`. -/
theorem getD_parsed {written parsed : Payload} {json : Json}
    (hnodup : (written.map Prod.fst).Nodup) (hjson : canonicalJson written.toValue = .ok json)
    (hparse : parseMapping json = .ok parsed) (key : String) :
    ∃ text, canonicalJson ((dictGet written key).getD .none) = .ok text ∧
      (dictGet parsed key).getD .none = text.loads := by
  cases hread : dictGet parsed key with
  | some value =>
      obtain ⟨original, text, horiginal, htext, rfl⟩ :=
        (dictGet_parsed hnodup hjson hparse).mp hread
      rw [horiginal]
      exact ⟨text, htext, rfl⟩
  | none =>
      cases hwritten : dictGet written key with
      | none => exact ⟨.null, rfl, rfl⟩
      | some original =>
          have hstrings : ∀ entry ∈ written.map (fun entry => (PyKey.str entry.1, entry.2)),
              entry.1.isStr = true := by
            intro entry hentry
            obtain ⟨given, -, rfl⟩ := List.mem_map.mp hentry
            rfl
          obtain ⟨text, htext⟩ := (canonicalJson_dict_isOk_iff hstrings).mp ⟨json, hjson⟩
            (.str key, original) (List.mem_map.mpr ⟨_, mem_of_dictGet hwritten, rfl⟩)
          have hfound := (dictGet_parsed hnodup hjson hparse).mpr
            ⟨original, text, hwritten, htext, rfl⟩
          rw [hread] at hfound
          cases hfound

theorem loads_ne_none {value : PyValue} {json : Json} (hjson : canonicalJson value = .ok json)
    (hvalue : value ≠ .none) : json.loads ≠ .none := by
  cases value with
  | none => exact absurd rfl hvalue
  | float text finite =>
      obtain ⟨-, -, rfl⟩ := canonicalJson_float_ok.mp hjson
      nofun
  | list items =>
      obtain ⟨written, -, rfl⟩ := canonicalJson_list_ok.mp hjson
      nofun
  | tuple items =>
      obtain ⟨written, -, hdone⟩ := except_bind_ok.mp hjson
      cases hdone
      nofun
  | dict entries =>
      obtain ⟨written, -, fields, -, rfl⟩ := canonicalJson_dict_ok.mp hjson
      nofun
  | _ =>
      cases hjson
      try nofun

/-! ### The projection -/

/-- A command as the payroll tools make it. -/
structure WriteCommand.IsCompact (command : WriteCommand) : Prop where
  compactPersistence : command.compactPersistence = true
  actionKeys : command.retainedProposedActionKeys = some retainedActionKeys
  effectKeys : command.retainedMaterialEffectKeys = some retainedEffectKeys

/-- The fields that a projection takes from the mappings of a response. -/
def selectedKeys : List String :=
  ["operation", "payslip_id", "input_id", "result_input_id", "before_source_state",
    "after_source_state"]

/-- The fields of a projection whose selected fields have these values. -/
def projectedRows (response : WriteSafetyResponse) (values : String → PyValue) : Payload :=
  [("status", .str response.status.text),
    ("outcome", .str response.outcome.text),
    ("request_id", .str response.requestId),
    ("company_id", .int response.companyId),
    ("operation", values "operation"),
    ("payslip_id", values "payslip_id"),
    ("input_id", values "input_id"),
    ("result_input_id", values "result_input_id"),
    ("before_source_state", values "before_source_state"),
    ("after_source_state", values "after_source_state")] ++
  [("error_code", .optional (fun code => .str code.value) response.errorCode),
    ("error_message", .optional .str response.errorMessage),
    ("remediation_hint", .optional .str response.remediationHint)]

theorem nodup_projectedRows (response : WriteSafetyResponse) (values : String → PyValue) :
    ((projectedRows response values).map Prod.fst).Nodup := by
  simp [projectedRows]

theorem projectedRows_congr (response : WriteSafetyResponse) {values others : String → PyValue}
    (hvalues : ∀ key ∈ selectedKeys, values key = others key) :
    projectedRows response values = projectedRows response others := by
  simp only [selectedKeys, List.forall_mem_cons] at hvalues
  obtain ⟨hoperation, hpayslip, hinput, hresult, hbefore, hafter, -⟩ := hvalues
  rw [projectedRows, projectedRows, hoperation, hpayslip, hinput, hresult, hbefore, hafter]

/-- Without an error code there is no error text either. -/
theorem noError_of_errorCode {response : WriteSafetyResponse} (hcode : response.errorCode = none) :
    response.errorMessage = none ∧ response.remediationHint = none := by
  obtain ⟨hfailed, hother, -⟩ := response.shape
  by_cases hstatus : response.status = .failed
  · have hsome := (hfailed hstatus).1
    rw [hcode] at hsome
    cases hsome
  · exact (hother hstatus).2

/-- The value that `selected` finds for a field. -/
def selectedValue (command : WriteCommand) (response : WriteSafetyResponse) (key : String) :
    PyValue :=
  (dictGet (responseForPersistence command response).materialEffects key).getD
    ((dictGet ((responseForPersistence command response).proposedAction.getD []) key).getD
      ((dictGet (command.auditPayload.getD []) key).getD .none))

theorem responseForPersistence_compact {command : WriteCommand} (hcommand : command.IsCompact)
    (response : WriteSafetyResponse) :
    responseForPersistence command response = { response with
      proposedAction := response.proposedAction.map
        (filteredMapping · (some retainedActionKeys))
      materialEffects := filteredMapping response.materialEffects (some retainedEffectKeys)
      artifactMarkdown := none } := by
  simp only [responseForPersistence, hcommand.actionKeys, hcommand.effectKeys]
  rfl

theorem mapping_compact {command : WriteCommand} (hcommand : command.IsCompact)
    (response : WriteSafetyResponse) :
    responseMappingForPersistence command response =
      .ok (withoutNone (projectedRows response (selectedValue command response))) := by
  unfold responseMappingForPersistence
  rw [hcommand.compactPersistence, Bool.not_true, if_neg Bool.false_ne_true]
  refine congrArg Except.ok ?_
  have hfields := responseForPersistence_compact hcommand response
  cases hcode : response.errorCode with
  | none =>
      obtain ⟨hmessage, hhint⟩ := noError_of_errorCode hcode
      simp only [projectedRows, selectedValue, hfields, hcode, hmessage, hhint, withoutNone_append]
      rfl
  | some code =>
      simp only [projectedRows, selectedValue, hfields, hcode]
      rfl

/-! ### Restoring -/

def restoredAction (values : String → PyValue) : Payload :=
  withoutNone [("operation", values "operation"), ("payslip_id", values "payslip_id"),
    ("input_id", values "input_id"), ("before_source_state", values "before_source_state")]

def restoredEffects (values : String → PyValue) : Payload :=
  withoutNone [("operation", values "operation"), ("payslip_id", values "payslip_id"),
    ("input_id", values "input_id"), ("result_input_id", values "result_input_id"),
    ("before_source_state", values "before_source_state"),
    ("after_source_state", values "after_source_state")]

def restoredResponse (response : WriteSafetyResponse) (values : String → PyValue) :
    WriteSafetyResponse where
  status := response.status
  outcome := response.outcome
  requestId := response.requestId
  companyId := response.companyId
  proposedAction :=
    if (restoredAction values).isEmpty then none else some (restoredAction values)
  materialEffects := restoredEffects values
  recordRefs := []
  artifactMarkdown := none
  errorCode := response.errorCode
  errorMessage := response.errorMessage
  remediationHint := response.remediationHint
  shape := response.shape

theorem asOptional_asDict (payload : Payload) :
    asOptional asDict (if payload.isEmpty then .none else payload.toValue) =
      .ok (if payload.isEmpty then none else some payload) := by
  split
  · rfl
  · change some <$> asDict payload.toValue = _
    rw [asDict_toValue]
    rfl

theorem asOptional_errorCode (code : Option ErrorCode) :
    asOptional asStr (.optional (fun code => .str code.value) code) =
      .ok (code.map ErrorCode.value) := by
  cases code <;> rfl

theorem modelValidate_rows (response : WriteSafetyResponse) (action effects : Payload) :
    WriteSafetyResponse.modelValidate
        [("status", .str response.status.text),
          ("outcome", .str response.outcome.text),
          ("request_id", .str response.requestId),
          ("company_id", .int response.companyId),
          ("proposed_action", if action.isEmpty then .none else action.toValue),
          ("material_effects", effects.toValue),
          ("error_code", .optional (fun code => .str code.value) response.errorCode),
          ("error_message", .optional .str response.errorMessage),
          ("remediation_hint", .optional .str response.remediationHint)] =
      .ok { response with
        proposedAction := if action.isEmpty then none else some action
        materialEffects := effects
        recordRefs := []
        artifactMarkdown := none } := by
  simp only [WriteSafetyResponse.modelValidate, except_bind_ok]
  refine ⟨(), rfl, _, rfl, _, rfl, response.status, ?_, _, rfl, _, rfl, response.outcome, ?_, _,
    rfl, _, rfl, _, rfl, _, rfl, _, asOptional_asDict action, _, asDict_toValue effects, _, rfl, _,
    rfl, _, asOptional_errorCode response.errorCode, _, mapM_ofValue? response.errorCode, _,
    asOptional_asStr response.errorMessage, _, asOptional_asStr response.remediationHint, ?_⟩
  · rw [ofText?_status]
    rfl
  · rw [ofText?_outcome]
    rfl
  · rw [dif_pos response.shape]
    rfl

/-- A mapping reads as a projection: every field has the value of the projection's row. -/
def ReadsAs (payload rows : Payload) : Prop :=
  ∀ key, (dictGet payload key).getD .none = (dictGet rows key).getD .none

theorem restore_compact {command : WriteCommand} (hcommand : command.IsCompact)
    {response : WriteSafetyResponse} {values : String → PyValue} {payload : Payload}
    (hpayload : ReadsAs payload (projectedRows response values)) :
    restorePersistedResponse command (some payload) = .ok (restoredResponse response values) := by
  unfold restorePersistedResponse
  rw [hcommand.compactPersistence, Bool.not_true, if_neg Bool.false_ne_true]
  refine except_bind_ok.mpr ⟨payload, rfl, ?_⟩
  have hfield : ∀ key, (dictGet payload key).getD .none =
      (dictGet (projectedRows response values) key).getD .none := hpayload
  simp only [hfield]
  exact modelValidate_rows response (restoredAction values) (restoredEffects values)

/-! ### Storing again -/

theorem mem_restoredAction {values : String → PyValue} {entry : String × PyValue}
    (hentry : entry ∈ restoredAction values) : values entry.1 ≠ .none := by
  obtain ⟨hrow, hvalue⟩ := mem_withoutNone.mp hentry
  simp only [List.mem_cons, List.not_mem_nil, or_false] at hrow
  rcases hrow with rfl | rfl | rfl | rfl <;> exact hvalue

theorem dictGet_restoredEffects {values : String → PyValue} {key : String}
    (hkey : key ∈ selectedKeys) {value : PyValue} :
    dictGet (restoredEffects values) key = some value ↔ values key = value ∧ value ≠ .none := by
  rw [restoredEffects, dictGet_withoutNone (by simp)]
  simp only [selectedKeys, List.mem_cons, List.not_mem_nil, or_false] at hkey
  rcases hkey with rfl | rfl | rfl | rfl | rfl | rfl <;> simp [dictGet]

theorem selectedKeys_subset {key : String} (hkey : key ∈ selectedKeys) :
    key ∈ retainedEffectKeys := by
  simp only [selectedKeys, List.mem_cons, List.not_mem_nil, or_false] at hkey
  rcases hkey with rfl | rfl | rfl | rfl | rfl | rfl <;> decide

/-- The audit payload has no value for a field that the projection leaves out. -/
def AuditSilent (command : WriteCommand) (values : String → PyValue) : Prop :=
  ∀ key ∈ selectedKeys, values key = .none →
    (dictGet (command.auditPayload.getD []) key).getD .none = .none

theorem selectedValue_restored {command : WriteCommand} (hcommand : command.IsCompact)
    {response : WriteSafetyResponse} {values : String → PyValue}
    (haudit : AuditSilent command values) {key : String} (hkey : key ∈ selectedKeys) :
    selectedValue command (restoredResponse response values) key = values key := by
  have heffects : dictGet (filteredMapping (restoredEffects values) (some retainedEffectKeys)) key =
      dictGet (restoredEffects values) key :=
    dictGet_filteredMapping (selectedKeys_subset hkey) _
  rw [selectedValue, responseForPersistence_compact hcommand]
  dsimp only [restoredResponse]
  rw [heffects]
  by_cases hvalue : values key = .none
  · have hnoEffect : dictGet (restoredEffects values) key = none := by
      refine Option.eq_none_iff_forall_ne_some.mpr fun value hfound => ?_
      obtain ⟨hsame, hother⟩ := (dictGet_restoredEffects hkey).mp hfound
      exact hother (hsame.symm.trans hvalue)
    have hnoAction : dictGet (((if (restoredAction values).isEmpty then none
        else some (restoredAction values)).map
          (filteredMapping · (some retainedActionKeys))).getD []) key = none := by
      refine Option.eq_none_iff_forall_ne_some.mpr fun value hfound => ?_
      have hmem := mem_of_dictGet hfound
      split at hmem
      · cases hmem
      · change (key, value) ∈ filteredMapping (restoredAction values) (some retainedActionKeys)
          at hmem
        have hrow : (key, value) ∈ restoredAction values := mem_filteredMapping hmem
        exact mem_restoredAction hrow hvalue
    rw [hnoEffect, hnoAction, hvalue]
    exact haudit key hkey hvalue
  · rw [(dictGet_restoredEffects hkey).mpr ⟨rfl, hvalue⟩]
    rfl

theorem mapping_restored {command : WriteCommand} (hcommand : command.IsCompact)
    {response : WriteSafetyResponse} {values : String → PyValue}
    (haudit : AuditSilent command values) :
    responseMappingForPersistence command (restoredResponse response values) =
      .ok (withoutNone (projectedRows response values)) := by
  rw [mapping_compact hcommand]
  have hrows : projectedRows (restoredResponse response values)
      (selectedValue command (restoredResponse response values)) =
        projectedRows (restoredResponse response values) values :=
    projectedRows_congr _ fun key hkey => selectedValue_restored hcommand haudit hkey
  rw [hrows]
  rfl

/-! ### The fixed point -/

/-- The fields that a restored response takes over as they are. -/
structure SameOutcome (restored response : WriteSafetyResponse) : Prop where
  status : restored.status = response.status
  outcome : restored.outcome = response.outcome
  requestId : restored.requestId = response.requestId
  companyId : restored.companyId = response.companyId
  errorCode : restored.errorCode = response.errorCode
  errorMessage : restored.errorMessage = response.errorMessage
  remediationHint : restored.remediationHint = response.remediationHint

theorem sameOutcome_restored (response : WriteSafetyResponse) (values : String → PyValue) :
    SameOutcome (restoredResponse response values) response :=
  ⟨rfl, rfl, rfl, rfl, rfl, rfl, rfl⟩

def CarriesValue (payload : Payload) (key : String) : Prop :=
  ∃ value, dictGet payload key = some value ∧ value ≠ .none

/-- No explicit null for a key that the proposed action or the audit payload has a value for. -/
def NoNullOverValue (command : WriteCommand) (response : WriteSafetyResponse) : Prop :=
  ∀ key, CarriesValue (response.proposedAction.getD []) key ∨
      CarriesValue (command.auditPayload.getD []) key →
    dictGet response.materialEffects key ≠ some .none ∧
      dictGet (response.proposedAction.getD []) key ≠ some .none

theorem auditSilent_selectedValue {command : WriteCommand} (hcommand : command.IsCompact)
    {response : WriteSafetyResponse} (hnull : NoNullOverValue command response) :
    AuditSilent command (selectedValue command response) := by
  intro key hkey hvalue
  by_contra haudit
  have hcarries : CarriesValue (command.auditPayload.getD []) key := by
    cases hfound : dictGet (command.auditPayload.getD []) key with
    | none =>
        rw [hfound] at haudit
        exact absurd rfl haudit
    | some value =>
        rw [hfound] at haudit
        exact ⟨value, hfound, haudit⟩
  obtain ⟨heffects, haction⟩ := hnull key (.inr hcarries)
  rw [selectedValue, responseForPersistence_compact hcommand] at hvalue
  dsimp only at hvalue
  rw [dictGet_filteredMapping (selectedKeys_subset hkey)] at hvalue
  cases heffect : dictGet response.materialEffects key with
  | some value =>
      rw [heffect] at hvalue
      exact heffects (heffect.trans (congrArg some hvalue))
  | none =>
      rw [heffect, Option.getD_none] at hvalue
      cases hfound : dictGet ((response.proposedAction.map
          (filteredMapping · (some retainedActionKeys))).getD []) key with
      | none =>
          rw [hfound, Option.getD_none] at hvalue
          exact haudit hvalue
      | some value =>
          rw [hfound, Option.getD_some] at hvalue
          refine haction ?_
          cases hgiven : response.proposedAction with
          | none =>
              rw [hgiven] at hfound
              cases hfound
          | some action =>
              rw [hgiven] at hfound
              exact (dictGet_of_filteredMapping hfound).trans (congrArg some hvalue)

/-! ### The stored column -/

def ReadBack (value : PyValue) : Prop :=
  ∀ json, canonicalJson value = .ok json → json.loads = value

theorem readBack_none : ReadBack .none := by
  intro json hjson
  cases hjson
  rfl

theorem readBack_str (text : String) : ReadBack (.str text) := by
  intro json hjson
  cases hjson
  rfl

theorem readBack_int (value : Int) : ReadBack (.int value) := by
  intro json hjson
  cases hjson
  rfl

theorem readBack_optional {α : Type} (text : α → String) (value : Option α) :
    ReadBack (.optional (fun value => .str (text value)) value) := by
  cases value with
  | none => exact readBack_none
  | some value => exact readBack_str (text value)

/-- The fields of a projection that do not come from the mappings of the response. -/
def outcomeRows (response : WriteSafetyResponse) : Payload :=
  [("status", .str response.status.text),
    ("outcome", .str response.outcome.text),
    ("request_id", .str response.requestId),
    ("company_id", .int response.companyId),
    ("error_code", .optional (fun code => .str code.value) response.errorCode),
    ("error_message", .optional .str response.errorMessage),
    ("remediation_hint", .optional .str response.remediationHint)]

theorem readBack_outcomeRows (response : WriteSafetyResponse) (key : String) :
    ReadBack ((dictGet (outcomeRows response) key).getD .none) := by
  have hrows : ∀ entry ∈ outcomeRows response, ReadBack entry.2 := by
    simp only [outcomeRows, List.forall_mem_cons]
    exact ⟨readBack_str _, readBack_str _, readBack_str _, readBack_int _, readBack_optional _ _,
      readBack_optional id _, readBack_optional id _, by simp⟩
  cases hfound : dictGet (outcomeRows response) key with
  | none => exact readBack_none
  | some value => exact hrows _ (mem_of_dictGet hfound)

theorem dictGet_projectedRows_outcome {key : String} (hkey : key ∉ selectedKeys)
    (response : WriteSafetyResponse) (values : String → PyValue) :
    dictGet (projectedRows response values) key = dictGet (outcomeRows response) key := by
  simp only [selectedKeys, List.mem_cons, List.not_mem_nil, or_false, not_or] at hkey
  obtain ⟨hoperation, hpayslip, hinput, hresult, hbefore, hafter⟩ := hkey
  simp [projectedRows, outcomeRows, dictGet, List.find?_cons, Ne.symm hoperation,
    Ne.symm hpayslip, Ne.symm hinput, Ne.symm hresult, Ne.symm hbefore, Ne.symm hafter]

theorem dictGet_projectedRows_selected {key : String} (hkey : key ∈ selectedKeys)
    (response : WriteSafetyResponse) (values : String → PyValue) :
    dictGet (projectedRows response values) key = some (values key) := by
  simp only [selectedKeys, List.mem_cons, List.not_mem_nil, or_false] at hkey
  rcases hkey with rfl | rfl | rfl | rfl | rfl | rfl <;> rfl

def storedValues (column : Payload) (key : String) : PyValue := (dictGet column key).getD .none

/-- What the JSON column gives back reads as a projection with the same outcome. -/
theorem readsAs_column {response : WriteSafetyResponse} {values : String → PyValue} {json : Json}
    {column : Payload}
    (hjson : canonicalJson (withoutNone (projectedRows response values)).toValue = .ok json)
    (hcolumn : parseMapping json = .ok column) :
    ReadsAs column (projectedRows response (storedValues column)) := by
  intro key
  by_cases hkey : key ∈ selectedKeys
  · rw [dictGet_projectedRows_selected hkey]
    rfl
  · have hnodup := nodup_projectedRows response values
    obtain ⟨text, htext, hread⟩ := getD_parsed (nodup_keys_withoutNone hnodup) hjson hcolumn key
    rw [getD_withoutNone hnodup, dictGet_projectedRows_outcome hkey] at htext
    rw [hread, dictGet_projectedRows_outcome hkey]
    exact readBack_outcomeRows response key text htext

/-- A field that the projection leaves out is not in the column. -/
theorem storedValues_eq_none {response : WriteSafetyResponse} {values : String → PyValue}
    {json : Json} {column : Payload}
    (hjson : canonicalJson (withoutNone (projectedRows response values)).toValue = .ok json)
    (hcolumn : parseMapping json = .ok column) {key : String} (hkey : key ∈ selectedKeys) :
    storedValues column key = .none ↔ values key = .none := by
  have hnodup := nodup_projectedRows response values
  obtain ⟨text, htext, hread⟩ := getD_parsed (nodup_keys_withoutNone hnodup) hjson hcolumn key
  rw [getD_withoutNone hnodup, dictGet_projectedRows_selected hkey, Option.getD_some] at htext
  rw [storedValues, hread]
  constructor
  · intro hloads
    by_contra hvalue
    exact loads_ne_none htext hvalue hloads
  · intro hvalue
    rw [hvalue] at htext
    exact readBack_none text htext

theorem dictGet_column_ne_none {response : WriteSafetyResponse} {values : String → PyValue}
    {json : Json} {column : Payload}
    (hjson : canonicalJson (withoutNone (projectedRows response values)).toValue = .ok json)
    (hcolumn : parseMapping json = .ok column) (key : String) :
    dictGet column key ≠ some .none := by
  have hnodup := nodup_projectedRows response values
  intro hfound
  obtain ⟨original, text, horiginal, htext, hloads⟩ :=
    (dictGet_parsed (nodup_keys_withoutNone hnodup) hjson hcolumn).mp hfound
  exact loads_ne_none htext ((dictGet_withoutNone hnodup).mp horiginal).2 hloads.symm

/-- A mapping without nulls is the projection that it reads as. -/
theorem dictGet_of_readsAs {column rows : Payload} (hnodup : (rows.map Prod.fst).Nodup)
    (hcolumn : ∀ key, dictGet column key ≠ some .none) (hreads : ReadsAs column rows)
    (key : String) : dictGet (withoutNone rows) key = dictGet column key := by
  have hvalue := (getD_withoutNone hnodup key).trans (hreads key).symm
  cases hkept : dictGet (withoutNone rows) key with
  | none =>
      rw [hkept, Option.getD_none] at hvalue
      cases hfound : dictGet column key with
      | none => rfl
      | some value =>
          rw [hfound, Option.getD_some] at hvalue
          rw [← hvalue] at hfound
          exact absurd hfound (hcolumn key)
  | some value =>
      rw [hkept, Option.getD_some] at hvalue
      cases hfound : dictGet column key with
      | none =>
          rw [hfound, Option.getD_none] at hvalue
          exact absurd hvalue ((dictGet_withoutNone hnodup).mp hkept).2
      | some other =>
          rw [hfound, Option.getD_some] at hvalue
          rw [hvalue]

/-- **The compact projection is a fixed point.** A payroll response is stored, restored and stored
again as the same mapping, in memory and through its JSON column, and what is restored has the
outcome, the identity and the error of the response. -/
theorem compact_projection_fixpoint {command : WriteCommand} (hcommand : command.IsCompact)
    {response : WriteSafetyResponse} (hnull : NoNullOverValue command response) :
    ∃ stored restored, responseMappingForPersistence command response = .ok stored ∧
      restorePersistedResponse command (some stored) = .ok restored ∧
        responseMappingForPersistence command restored = .ok stored ∧
          SameOutcome restored response ∧
            ∀ json column, canonicalJson stored.toValue = .ok json →
              parseMapping json = .ok column → ∃ back again,
                restorePersistedResponse command (some column) = .ok back ∧
                  responseMappingForPersistence command back = .ok again ∧
                    (∀ key, dictGet again key = dictGet column key) ∧
                      SameOutcome back response := by
  have haudit := auditSilent_selectedValue hcommand hnull
  have hnodup := nodup_projectedRows response (selectedValue command response)
  refine ⟨_, _, mapping_compact hcommand response, restore_compact hcommand fun key =>
    getD_withoutNone hnodup key, mapping_restored hcommand haudit, sameOutcome_restored _ _,
    fun json column hjson hcolumn => ?_⟩
  have hreads := readsAs_column hjson hcolumn
  have hsilent : AuditSilent command (storedValues column) := fun key hkey hvalue =>
    haudit key hkey ((storedValues_eq_none hjson hcolumn hkey).mp hvalue)
  exact ⟨_, _, restore_compact hcommand hreads, mapping_restored hcommand hsilent,
    dictGet_of_readsAs (nodup_projectedRows _ _) (dictGet_column_ne_none hjson hcolumn) hreads,
    sameOutcome_restored _ _⟩

def payslipCommand : WriteCommand where
  companyId := 1
  requestPayload := [("payslip_id", .int 41), ("amount", .str "25.00")]
  dryRun := false
  idempotencyKey := some "payslip-41"
  auditPayload := some [("operation", .str "update"), ("payslip_id", .int 41),
    ("input_id", .none)]
  retainedProposedActionKeys := some retainedActionKeys
  retainedMaterialEffectKeys := some retainedEffectKeys
  compactPersistence := true

def payslipResponse : WriteSafetyResponse where
  status := .failed
  outcome := .unknown
  requestId := "request-7"
  companyId := 1
  proposedAction := some [("operation", .str "update"), ("payslip_id", .int 41),
    ("input_id", .int 9), ("before_source_state", .str "draft"), ("amount", .str "25.00")]
  materialEffects := [("completion", .str "unknown"), ("result_input_id", .none)]
  recordRefs := []
  artifactMarkdown := none
  errorCode := some .unknownError
  errorMessage := some unknownOutcomeError.safeMessage
  remediationHint := some unknownOutcomeError.remediationHint
  shape := by decide

theorem noNullOverValue_payslip : NoNullOverValue payslipCommand payslipResponse := by
  intro key hcarries
  have hvalues : ∀ entry ∈ payslipResponse.proposedAction.getD [], entry.2 ≠ .none := by
    simp [payslipResponse]
  refine ⟨fun hfound => ?_, fun hfound => hvalues _ (mem_of_dictGet hfound) rfl⟩
  have hkey : key = "result_input_id" := by
    have hmem := mem_of_dictGet hfound
    simpa [payslipResponse] using hmem
  subst hkey
  obtain ⟨value, hvalue, -⟩ | ⟨value, hvalue, -⟩ := hcarries <;> cases hvalue

theorem compact_projection_fixpoint_payslip :
    ∃ stored restored, responseMappingForPersistence payslipCommand payslipResponse = .ok stored ∧
      restorePersistedResponse payslipCommand (some stored) = .ok restored ∧
        responseMappingForPersistence payslipCommand restored = .ok stored ∧
          SameOutcome restored payslipResponse ∧
            ∀ json column, canonicalJson stored.toValue = .ok json →
              parseMapping json = .ok column → ∃ back again,
                restorePersistedResponse payslipCommand (some column) = .ok back ∧
                  responseMappingForPersistence payslipCommand back = .ok again ∧
                    (∀ key, dictGet again key = dictGet column key) ∧
                      SameOutcome back payslipResponse :=
  compact_projection_fixpoint ⟨rfl, rfl, rfl⟩ noNullOverValue_payslip

end OdooMcp
