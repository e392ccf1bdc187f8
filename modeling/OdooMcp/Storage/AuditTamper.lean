import OdooMcp.Storage.AuditSystem

/-!
# Tamper evidence of the audit chain

Verification redacts the payloads it reads once more before it computes a hash, so that whatever has
been written under a sensitive key of a stored payload goes unnoticed. Everything else that a record
holds is determined by the head of the chain and the number of entries.
-/

namespace OdooMcp

open AuditRepository HashChain

/-! ### Records -/

/-- A payload with its dicts in the order of their keys. -/
def Payload.normal (payload : Payload) : Payload :=
  (payload.map fun entry => (entry.1, entry.2.normal)).insertionSort
    fun first second => first.1 ≤ second.1

/-- The record without its surrogate id, as Python compares records: dicts are equal whatever the
order of their keys, and times are when they are one instant. -/
def AuditRecord.normal (record : AuditRecord) : AuditRecord :=
  { record with
    id := 0
    inputPayload := record.inputPayload.normal
    proposedAction := record.proposedAction.map Payload.normal
    actualResult := record.actualResult.map Payload.normal
    createdAt := record.createdAt.map DateTime.normal }

def Payload.hasSensitiveKey (payload : Payload) : Bool := payload.toValue.hasSensitiveKey

def AuditRecord.hasSensitiveKey (record : AuditRecord) : Bool :=
  record.inputPayload.hasSensitiveKey || record.proposedAction.any Payload.hasSensitiveKey ||
    record.actualResult.any Payload.hasSensitiveKey

theorem Payload.toValue_normal (payload : Payload) :
    payload.normal.toValue = payload.toValue.normal := by
  unfold Payload.toValue Payload.normal
  rw [PyValue.normal, PyValue.normalEntries_eq_map, List.map_map,
    List.map_insertionSort (fun first second : String × PyValue => first.1 ≤ second.1)
      (keyBefore · ·) (fun entry : String × PyValue => (PyKey.str entry.1, entry.2)) _
      (fun first _ second _ => decide_eq_true_iff.symm), List.map_map]
  rfl

theorem Payload.toValue_injective {first second : Payload}
    (hvalue : first.toValue = second.toValue) : first = second := by
  have hinjective : Function.Injective fun entry : String × PyValue =>
      (PyKey.str entry.1, entry.2) := by
    rintro ⟨key, value⟩ ⟨other, otherValue⟩ heq
    cases heq
    rfl
  exact hinjective.list_map (PyValue.dict.inj hvalue)

theorem Payload.normal_eq {first second : Payload}
    (hvalue : first.toValue.normal = second.toValue.normal) : first.normal = second.normal := by
  apply toValue_injective
  rw [toValue_normal, toValue_normal, hvalue]

/-! ### Payloads with one stored form -/

def Payload.Loaded (payload : Payload) : Prop := payload.toValue.Loaded

theorem loaded_of_parseMapping {json : Json} {payload : Payload}
    (hparse : parseMapping json = .ok payload) : payload.Loaded := by
  rw [Payload.Loaded, parseMapping_ok hparse]
  exact json.loaded_loads

/-- A payload without a sensitive key is determined by what is hashed for it. -/
theorem normal_eq_of_redacted {first second : Payload} {json : Json} (hfirst : first.Loaded)
    (hsecond : second.Loaded) (hclear : first.hasSensitiveKey = false)
    (hjson : canonicalJson (redactedPayload first) = .ok json)
    (hother : canonicalJson (redactedPayload second) = .ok json) :
    second.normal = first.normal := by
  have hfirstRedacted : redactedPayload first = first.toValue := by
    rw [redactedPayload, PyValue.redactSensitive_eq_conceal hfirst,
      PyValue.conceal_of_clear _ hclear]
  have hsecondRedacted := PyValue.redactSensitive_eq_conceal hsecond
  have hnormal : (redactedPayload second).normal = first.toValue.normal := by
    rw [← hfirstRedacted]
    exact normal_eq_of_canonicalJson (redactSensitive_loaded hother).1
      (redactSensitive_loaded hjson).1 hother hjson
  have hsecondClear : second.toValue.hasSensitiveKey = false := by
    rw [← PyValue.hasSensitiveKey_conceal redactedText, ← hsecondRedacted,
      ← PyValue.hasSensitiveKey_normal]
    change PyValue.hasSensitiveKey (redactedPayload second).normal = false
    rw [hnormal, PyValue.hasSensitiveKey_normal]
    exact hclear
  rw [redactedPayload, hsecondRedacted, PyValue.conceal_of_clear _ hsecondClear] at hnormal
  exact Payload.normal_eq hnormal

theorem redactedAction_none {action : Option Payload}
    (hjson : canonicalJson (redactedAction action) = .ok .null) : action = none := by
  cases action with
  | none => rfl
  | some payload =>
      obtain ⟨_, -, fields, -, hobject⟩ := canonicalJson_dict_ok.mp hjson
      cases hobject

theorem normal_eq_of_redactedAction {first second : Option Payload} {json : Json}
    (hfirst : ∀ payload ∈ first, payload.Loaded) (hsecond : ∀ payload ∈ second, payload.Loaded)
    (hclear : first.any Payload.hasSensitiveKey = false)
    (hjson : canonicalJson (redactedAction first) = .ok json)
    (hother : canonicalJson (redactedAction second) = .ok json) :
    second.map Payload.normal = first.map Payload.normal := by
  cases first with
  | none =>
      cases hjson
      rw [redactedAction_none hother]
  | some payload =>
      cases second with
      | none =>
          cases hother
          cases redactedAction_none hjson
      | some other =>
          rw [Option.map_some, Option.map_some, normal_eq_of_redacted (hfirst payload rfl)
            (hsecond other rfl) hclear hjson hother]

/-! ### Records with one hash -/

theorem optional_loaded {α : Type} (wrap : α → PyValue) (hwrap : ∀ value, (wrap value).Loaded)
    (value : Option α) : (PyValue.optional wrap value).Loaded := by
  cases value with
  | none => trivial
  | some inner => exact hwrap inner

theorem affectedValue_loaded (records : List String) : (affectedValue records).Loaded := by
  change PyValue.LoadedItems (records.map .str)
  induction records with
  | nil => trivial
  | cons record records ih => exact ⟨trivial, ih⟩

theorem redactedAction_loaded {action : Option Payload} {json : Json}
    (hjson : canonicalJson (redactedAction action) = .ok json) :
    (redactedAction action).Loaded := by
  cases action with
  | none => trivial
  | some payload => exact (redactSensitive_loaded hjson).1

theorem values_loaded {error : Option String × Option String} {event : AuditEvent}
    {previous createdAt : String} {json : Json}
    (hjson : canonicalJson (valuesWithError error event previous createdAt).toValue = .ok json) :
    (valuesWithError error event previous createdAt).toValue.Loaded := by
  obtain ⟨written, hwritten, -⟩ := canonicalJson_dict_ok.mp hjson
  have hentry (key : String) (value : PyValue)
      (hmem : (key, value) ∈ valuesWithError error event previous createdAt) :
      ∃ first, canonicalJson value = .ok first := by
    have hwrittenEntry : (PyKey.str key, value) ∈
        (valuesWithError error event previous createdAt).map
          fun entry => (PyKey.str entry.1, entry.2) := List.mem_map.mpr ⟨_, hmem, rfl⟩
    exact written_of_mem hwritten hwrittenEntry
  obtain ⟨_, hinput⟩ := hentry "input_payload" (redactedPayload event.inputPayload)
    (by simp [valuesWithError])
  obtain ⟨_, hproposed⟩ := hentry "proposed_action" (redactedAction event.proposedAction)
    (by simp [valuesWithError])
  obtain ⟨_, hactual⟩ := hentry "actual_result" (redactedAction event.actualResult)
    (by simp [valuesWithError])
  have hstr (value : Option String) := optional_loaded .str (fun _ => trivial) value
  have hint := optional_loaded .int (fun _ => trivial) event.companyId
  refine ⟨by simp [valuesWithError], ?_⟩
  exact ⟨rfl, trivial, rfl, trivial, rfl, hint, rfl, trivial, rfl, trivial, rfl, trivial, rfl,
    trivial, rfl, trivial, rfl, hstr _, rfl, hstr _, rfl, hstr _, rfl, hstr _, rfl,
    (redactSensitive_loaded hinput).1, rfl, trivial, rfl, redactedAction_loaded hproposed, rfl,
    redactedAction_loaded hactual, rfl, affectedValue_loaded _, rfl, hstr _, rfl, hstr _, rfl,
    trivial, rfl, trivial, rfl, trivial, trivial⟩

theorem SameText.str_inj {first second : String} (hsame : SameText (.str first) (.str second)) :
    first = second := by
  obtain ⟨json, hfirst, hsecond⟩ := hsame
  cases hfirst
  cases hsecond
  rfl

theorem SameText.bool_inj {first second : Bool} (hsame : SameText (.bool first) (.bool second)) :
    first = second := by
  obtain ⟨json, hfirst, hsecond⟩ := hsame
  cases hfirst
  cases hsecond
  rfl

theorem SameText.optional_inj {α : Type} {wrap : α → PyValue} (write : α → Json)
    (hwrite : ∀ value, canonicalJson (wrap value) = .ok (write value))
    (hinjective : Function.Injective write) (hnull : ∀ value, write value ≠ .null)
    {first second : Option α} (hsame : SameText (.optional wrap first) (.optional wrap second)) :
    first = second := by
  obtain ⟨json, hfirst, hsecond⟩ := hsame
  cases first with
  | none =>
      cases hfirst
      cases second with
      | none => rfl
      | some other => exact absurd (Except.ok.inj ((hwrite other).symm.trans hsecond)) (hnull other)
  | some value =>
      have hjson := Except.ok.inj ((hwrite value).symm.trans hfirst)
      cases second with
      | none =>
          cases hsecond
          exact absurd hjson (hnull value)
      | some other =>
          have hother := Except.ok.inj ((hwrite other).symm.trans hsecond)
          rw [hinjective (hjson.trans hother.symm)]

theorem SameText.optionalStr_inj {first second : Option String}
    (hsame : SameText (.optional .str first) (.optional .str second)) : first = second :=
  hsame.optional_inj .str (fun _ => rfl) (fun _ _ heq => Json.str.inj heq)
    fun _ heq => by cases heq

theorem SameText.optionalInt_inj {first second : Option Int}
    (hsame : SameText (.optional .int first) (.optional .int second)) : first = second :=
  hsame.optional_inj .int (fun _ => rfl) (fun _ _ heq => Json.int.inj heq)
    fun _ heq => by cases heq

theorem SameText.affected_inj {first second : List String}
    (hsame : SameText (affectedValue first) (affectedValue second)) : first = second := by
  obtain ⟨json, hfirst, hsecond⟩ := hsame
  have hread := parseStringTuple_affected hfirst
  rw [parseStringTuple_affected hsecond] at hread
  exact (Except.ok.inj hread).symm

theorem timestamp_injective {first second : Nat} (hfirst : first < endOfTime)
    (hsecond : second < endOfTime) (htext : timestamp first = timestamp second) :
    first = second := by
  have hread := parseTimestamp_timestamp hfirst
  rw [htext, parseTimestamp_timestamp hsecond] at hread
  cases hread
  rfl

/-- The time of a record, from its text. -/
theorem normal_of_createdAtText {now : Instant} {moment : DateTime} {text : String}
    (htext : createdAtText now (some moment) = .ok text) :
    ∃ instant : Nat, instant < endOfTime ∧ text = timestamp instant ∧
      moment.normal = ⟨instant, some 0⟩ := by
  obtain ⟨wall, offset⟩ := moment
  cases offset with
  | none => cases htext
  | some offset =>
      obtain ⟨instant, hinstant, hrange, rfl⟩ := instantText_ok.mp htext
      refine ⟨instant, hrange, rfl, ?_⟩
      change (⟨wall - offset, some 0⟩ : DateTime) = _
      rw [hinstant]

/-- What the payload columns of a record hold was read from JSON, and its time was read. -/
structure AuditRecord.Read (record : AuditRecord) : Prop where
  input : record.inputPayload.Loaded
  proposed : ∀ payload ∈ record.proposedAction, payload.Loaded
  actual : ∀ payload ∈ record.actualResult, payload.Loaded
  createdAt : ∃ moment, record.createdAt = some moment

theorem read_of_rowToRecord {row : AuditRow} {record : AuditRecord}
    (hrecord : rowToRecord row = .ok record) : record.Read := by
  obtain ⟨input, proposed, actual, affected, createdAt, hinput, hproposed, hactual, -, -, rfl⟩ :=
    rowToRecord_ok.mp hrecord
  have hcolumn {column : Option Json} {stored : Option Payload}
      (hstored : column.mapM parseMapping = .ok stored) : ∀ payload ∈ stored, payload.Loaded := by
    intro payload hpayload
    cases column with
    | none =>
        cases hstored
        cases hpayload
    | some json =>
        obtain ⟨read, hread, hdone⟩ := except_bind_ok.mp hstored
        cases hdone
        cases hpayload
        exact loaded_of_parseMapping hread
  exact ⟨loaded_of_parseMapping hinput, hcolumn hproposed, hcolumn hactual, createdAt, rfl⟩

variable {sha256 : String → String}

theorem hashPayload_ok {values : Payload} {hash : String} :
    hashPayload sha256 values = .ok hash ↔
      ∃ json, canonicalJson values.toValue = .ok json ∧ hash = sha256 json.text := by
  simp only [hashPayload, except_bind_ok]
  constructor
  · rintro ⟨json, hjson, hdone⟩
    exact ⟨json, hjson, (Except.ok.inj hdone).symm⟩
  · rintro ⟨json, hjson, rfl⟩
    exact ⟨json, hjson, rfl⟩

/-- **One hash, one record.** Verified records with one entry hash agree in everything outside their
sensitive keys: a record without such keys is the same as the other one. -/
theorem normal_eq_of_entryHash (hinjective : Function.Injective sha256) {now later : Instant}
    {one other : AuditRecord} (hone : one.Read) (hother : other.Read)
    (hverified : Verified sha256 now one) (hotherVerified : Verified sha256 later other)
    (hhash : one.entryHash = other.entryHash) :
    one.previousHash = other.previousHash ∧
      (one.hasSensitiveKey = false → other.normal = one.normal) := by
  obtain ⟨text, htext, hvalues⟩ := hverified
  obtain ⟨otherText, hotherText, hotherValues⟩ := hotherVerified
  obtain ⟨json, hjson, hentry⟩ := hashPayload_ok.mp hvalues
  obtain ⟨otherJson, hotherJson, hotherEntry⟩ := hashPayload_ok.mp hotherValues
  have hloaded := values_loaded hjson
  have hotherLoaded := values_loaded hotherJson
  obtain rfl : json = otherJson := by
    refine Json.text_injective (canonicalJson_loads hloaded hjson).1.floatsWritten
      (canonicalJson_loads hotherLoaded hotherJson).1.floatsWritten (hinjective ?_)
    rw [← hentry, ← hotherEntry, hhash]
  have hsame := forall₂_of_canonicalJson_dict hloaded hotherLoaded (by simp [valuesWithError])
    hjson hotherJson
  simp only [valuesWithError, List.map_cons, List.map_nil, List.forall₂_cons,
    List.forall₂_nil_right_iff, and_true] at hsame
  obtain ⟨hrequest, htenant, hcompany, htool, hversion, hmodule, hsubject, hclient, hdb, huser,
    hodoo, htransport, hinput, hdryRun, hproposed, hactual, haffected, hcode, hmessage, hstatus,
    hprevious, hcreatedAt⟩ := hsame
  refine ⟨hprevious.str_inj, fun hclear => ?_⟩
  simp only [AuditRecord.hasSensitiveKey, Bool.or_eq_false_iff] at hclear
  obtain ⟨inputJson, hinputJson, hotherInputJson⟩ := hinput
  obtain ⟨proposedJson, hproposedJson, hotherProposedJson⟩ := hproposed
  obtain ⟨actualJson, hactualJson, hotherActualJson⟩ := hactual
  have hinputSame := normal_eq_of_redacted hone.input hother.input hclear.1.1 hinputJson
    hotherInputJson
  have hproposedSame := normal_eq_of_redactedAction hone.proposed hother.proposed hclear.1.2
    hproposedJson hotherProposedJson
  have hactualSame := normal_eq_of_redactedAction hone.actual hother.actual hclear.2 hactualJson
    hotherActualJson
  have hcreatedAtSame : other.createdAt.map DateTime.normal =
      one.createdAt.map DateTime.normal := by
    obtain ⟨moment, hmoment⟩ := hone.createdAt
    obtain ⟨otherMoment, hotherMoment⟩ := hother.createdAt
    rw [hmoment] at htext ⊢
    rw [hotherMoment] at hotherText ⊢
    obtain ⟨instant, hinstant, rfl, hnormal⟩ := normal_of_createdAtText htext
    obtain ⟨otherInstant, hotherInstant, rfl, hotherNormal⟩ := normal_of_createdAtText hotherText
    rw [Option.map_some, Option.map_some, hnormal, hotherNormal,
      timestamp_injective hinstant hotherInstant hcreatedAt.str_inj]
  simp only [AuditRecord.normal, hrequest.str_inj, htenant.str_inj, hcompany.optionalInt_inj,
    htool.str_inj, hversion.str_inj, hmodule.str_inj, hsubject.str_inj, hclient.str_inj,
    hdb.optionalStr_inj, huser.optionalStr_inj, hodoo.optionalStr_inj, htransport.optionalStr_inj,
    hinputSame, hdryRun.bool_inj, hproposedSame, hactualSame, haffected.affected_inj,
    hcode.optionalStr_inj, hmessage.optionalStr_inj, hstatus.str_inj, hcreatedAtSame,
    hprevious.str_inj, hhash]

/-! ### Altering what stands under sensitive keys -/

mutual

def Json.conceal (filler : Json) : Json → Json
  | .arr items => .arr (concealItems filler items)
  | .obj fields => .obj (concealFields filler fields)
  | json => json

def Json.concealItems (filler : Json) : List Json → List Json
  | [] => []
  | item :: items => Json.conceal filler item :: concealItems filler items

def Json.concealFields (filler : Json) : List (String × Json) → List (String × Json)
  | [] => []
  | (key, value) :: fields =>
      (key, if isSensitive key then filler else Json.conceal filler value) ::
        concealFields filler fields

end

mutual

theorem Json.loads_conceal (filler : Json) : ∀ json : Json,
    (Json.conceal filler json).loads = PyValue.conceal filler.loads json.loads
  | .null => rfl
  | .bool _ => rfl
  | .int _ => rfl
  | .float _ => rfl
  | .str _ => rfl
  | .arr items => congrArg PyValue.list (loadsItems_conceal filler items)
  | .obj fields => by
      rw [Json.conceal, Json.loads, loadsFields_conceal filler fields, Json.loads, PyValue.conceal,
        PyValue.concealEntries_eq_map, PyValue.concealEntries_eq_map, dictUpdate_map]
      rfl

theorem Json.loadsItems_conceal (filler : Json) : ∀ items : List Json,
    Json.loadsItems (Json.concealItems filler items) =
      PyValue.concealItems filler.loads (Json.loadsItems items)
  | [] => rfl
  | item :: items => by
      rw [Json.concealItems, Json.loadsItems, Json.loadsItems, PyValue.concealItems,
        Json.loads_conceal filler item, loadsItems_conceal filler items]

theorem Json.loadsFields_conceal (filler : Json) : ∀ fields : List (String × Json),
    Json.loadsFields (Json.concealFields filler fields) =
      PyValue.concealEntries filler.loads (Json.loadsFields fields)
  | [] => rfl
  | (key, value) :: fields => by
      have hvalue : (if isSensitive key then filler else Json.conceal filler value).loads =
          if isSensitive (PyKey.str key).text then filler.loads
          else PyValue.conceal filler.loads value.loads := by
        change _ = if isSensitive key then _ else _
        split
        · rfl
        · exact Json.loads_conceal filler value
      rw [Json.concealFields, Json.loadsFields, Json.loadsFields, PyValue.concealEntries, hvalue,
        loadsFields_conceal filler fields]

end

def Payload.conceal (filler : PyValue) (payload : Payload) : Payload :=
  payload.map fun entry => (entry.1, PyValue.concealEntry filler (.str entry.1) entry.2)

def AuditRow.conceal (filler : Json) (row : AuditRow) : AuditRow :=
  { row with
    inputPayload := Json.conceal filler row.inputPayload
    proposedAction := row.proposedAction.map (Json.conceal filler)
    actualResult := row.actualResult.map (Json.conceal filler) }

def AuditRecord.conceal (filler : PyValue) (record : AuditRecord) : AuditRecord :=
  { record with
    inputPayload := record.inputPayload.conceal filler
    proposedAction := record.proposedAction.map (Payload.conceal filler)
    actualResult := record.actualResult.map (Payload.conceal filler) }

theorem Payload.toValue_conceal (filler : PyValue) (payload : Payload) :
    (payload.conceal filler).toValue = PyValue.conceal filler payload.toValue := by
  unfold Payload.toValue Payload.conceal
  rw [PyValue.conceal, PyValue.concealEntries_eq_map, List.map_map, List.map_map]
  rfl

theorem parseMapping_conceal {filler json : Json} {payload : Payload}
    (hparse : parseMapping json = .ok payload) :
    parseMapping (Json.conceal filler json) = .ok (payload.conceal filler.loads) := by
  cases json with
  | obj fields =>
      have hfields : (Json.concealFields filler fields).map
          (fun field => (field.1, field.2.loads)) =
            (fields.map fun field => (field.1, field.2.loads)).map fun entry =>
              (entry.1, PyValue.concealEntry filler.loads (.str entry.1) entry.2) := by
        have hloads := Json.loadsFields_conceal filler fields
        rw [loadsFields_eq_map, loadsFields_eq_map, PyValue.concealEntries_eq_map,
          List.map_map] at hloads
        have htexts := congrArg (List.map fun entry : PyKey × PyValue => (entry.1.text, entry.2))
          hloads
        rw [List.map_map, List.map_map] at htexts
        rw [List.map_map]
        exact htexts
      cases hparse
      rw [Json.conceal, parseMapping, hfields, Payload.conceal,
        dictUpdate_map (fun key value => PyValue.concealEntry filler.loads (.str key) value)]
      rfl
  | _ => cases hparse

theorem rowToRecord_conceal {filler : Json} {row : AuditRow} {record : AuditRecord}
    (hrecord : rowToRecord row = .ok record) :
    rowToRecord (row.conceal filler) = .ok (record.conceal filler.loads) := by
  obtain ⟨input, proposed, actual, affected, createdAt, hinput, hproposed, hactual, haffected,
    hcreatedAt, rfl⟩ := rowToRecord_ok.mp hrecord
  have hcolumn {column : Option Json} {stored : Option Payload}
      (hstored : column.mapM parseMapping = .ok stored) :
      (column.map (Json.conceal filler)).mapM parseMapping =
        .ok (stored.map (Payload.conceal filler.loads)) := by
    cases column with
    | none =>
        cases hstored
        rfl
    | some json =>
        obtain ⟨read, hread, hdone⟩ := except_bind_ok.mp hstored
        cases hdone
        exact except_bind_ok.mpr ⟨_, parseMapping_conceal hread, rfl⟩
  exact rowToRecord_ok.mpr ⟨_, _, _, _, _, parseMapping_conceal hinput, hcolumn hproposed,
    hcolumn hactual, haffected, hcreatedAt, rfl⟩

theorem redactedPayload_conceal {filler : PyValue} (hfiller : filler.Loaded) {payload : Payload}
    (hpayload : payload.Loaded) :
    redactedPayload (payload.conceal filler) = redactedPayload payload := by
  have hconcealed : (payload.conceal filler).toValue.Loaded := by
    rw [Payload.toValue_conceal]
    exact PyValue.conceal_loaded hfiller hpayload
  rw [redactedPayload, redactedPayload, PyValue.redactSensitive_eq_conceal hconcealed,
    Payload.toValue_conceal, PyValue.conceal_conceal, PyValue.redactSensitive_eq_conceal hpayload]

/-- Verification does not see what stands under a sensitive key. -/
theorem recordValues_conceal {filler : PyValue} (hfiller : filler.Loaded) {record : AuditRecord}
    (hread : record.Read) (createdAt : String) :
    recordValues (record.conceal filler) createdAt = recordValues record createdAt := by
  have haction {action : Option Payload} (hloaded : ∀ payload ∈ action, payload.Loaded) :
      redactedAction (action.map (Payload.conceal filler)) = redactedAction action := by
    cases action with
    | none => rfl
    | some payload => exact redactedPayload_conceal hfiller (hloaded payload rfl)
  unfold recordValues valuesWithError AuditRecord.conceal
  simp only [redactedPayload_conceal hfiller hread.input, haction hread.proposed,
    haction hread.actual]

theorem records_conceal {filler : Json} : ∀ {rows : List AuditRow} {records : List AuditRecord},
    rows.mapM rowToRecord = .ok records →
      (rows.map (AuditRow.conceal filler)).mapM rowToRecord =
        .ok (records.map (AuditRecord.conceal filler.loads))
  | [], _, hrecords => by
      cases hrecords
      rfl
  | row :: rows, _, hrecords => by
      rw [List.mapM_cons] at hrecords
      obtain ⟨record, hrecord, hrest⟩ := except_bind_ok.mp hrecords
      obtain ⟨rest, hrestRecords, hdone⟩ := except_bind_ok.mp hrest
      cases hdone
      rw [List.map_cons, List.mapM_cons]
      exact except_bind_ok.mpr ⟨_, rowToRecord_conceal hrecord,
        except_bind_ok.mpr ⟨_, records_conceal hrestRecords, rfl⟩⟩

theorem read_of_mapM : ∀ {rows : List AuditRow} {records : List AuditRecord},
    rows.mapM rowToRecord = .ok records → ∀ record ∈ records, record.Read
  | [], _, hrecords => by
      cases hrecords
      simp
  | row :: rows, _, hrecords => by
      rw [List.mapM_cons] at hrecords
      obtain ⟨record, hrecord, hrest⟩ := except_bind_ok.mp hrecords
      obtain ⟨rest, hrestRecords, hdone⟩ := except_bind_ok.mp hrest
      cases hdone
      exact List.forall_mem_cons.mpr ⟨read_of_rowToRecord hrecord, read_of_mapM hrestRecords⟩

theorem listForTenant_conceal {tenantId : String} {rows : List AuditRow}
    {records : List AuditRecord} (filler : Json)
    (hrecords : listForTenant tenantId rows = .ok records) :
    listForTenant tenantId (rows.map (AuditRow.conceal filler)) =
      .ok (records.map (AuditRecord.conceal filler.loads)) := by
  obtain ⟨hnamed, hread⟩ := listForTenant_ok.mp hrecords
  have hrows : rowsOf tenantId (rows.map (AuditRow.conceal filler)) =
      (rowsOf tenantId rows).map (AuditRow.conceal filler) := by
    rw [rowsOf, rowsOf, List.filter_map,
      List.map_insertionSort (idBefore · ·) (idBefore · ·) (AuditRow.conceal filler) _
        fun _ _ _ _ => Iff.rfl]
    rfl
  rw [listForTenant_ok, hrows]
  exact ⟨hnamed, records_conceal hread⟩

/-- **Undetected changes.** A log is accepted as before when what stands under the sensitive keys of
its payloads is replaced. -/
theorem verifyChain_conceal {now : Instant} {tenantId : String} {rows : List AuditRow}
    {verification : AuditVerification} (filler : Json)
    (haccepted : verifyChain sha256 now tenantId rows = .ok verification) :
    verifyChain sha256 now tenantId (rows.map (AuditRow.conceal filler)) = .ok verification := by
  obtain ⟨records, hrecords, hverified, hlinked, rfl⟩ := verifyChain_ok.mp haccepted
  have hread := read_of_mapM (listForTenant_ok.mp hrecords).2
  have hmapped (previous : String) : ∀ {chain : List AuditRecord},
      Linked AuditRecord.previousHash AuditRecord.entryHash previous chain →
        Linked AuditRecord.previousHash AuditRecord.entryHash previous
            (chain.map (AuditRecord.conceal filler.loads)) ∧
          head AuditRecord.entryHash previous (chain.map (AuditRecord.conceal filler.loads)) =
            head AuditRecord.entryHash previous chain := by
    intro chain
    induction chain generalizing previous with
    | nil => exact fun _ => ⟨trivial, rfl⟩
    | cons record chain ih =>
        intro hchain
        obtain ⟨hrest, hhead⟩ := ih record.entryHash hchain.2
        exact ⟨⟨hchain.1, hrest⟩, hhead⟩
  refine verifyChain_ok.mpr ⟨_, listForTenant_conceal filler hrecords, ?_,
    (hmapped _ hlinked).1, ?_⟩
  · intro concealed hconcealed
    obtain ⟨record, hrecord, rfl⟩ := List.mem_map.mp hconcealed
    obtain ⟨createdAt, hcreatedAt, hhash⟩ := hverified record hrecord
    refine ⟨createdAt, hcreatedAt, ?_⟩
    rw [recordValues_conceal filler.loaded_loads (hread record hrecord)]
    exact hhash
  · rw [List.length_map, (hmapped _ hlinked).2]

theorem Payload.normal_conceal {filler : PyValue} (hfiller : filler.normal = filler)
    (payload : Payload) :
    (payload.conceal filler).normal.toValue = PyValue.conceal filler payload.normal.toValue := by
  rw [toValue_normal, toValue_conceal, toValue_normal, PyValue.conceal_normal hfiller]

/-- Two different values under a sensitive key are two different payloads. -/
theorem Payload.conceal_ne {filler other : PyValue} (hfiller : filler.normal = filler)
    (hother : other.normal = other) (hne : filler ≠ other) {payload : Payload}
    (hsensitive : payload.hasSensitiveKey = true) :
    (payload.conceal filler).normal ≠ (payload.conceal other).normal := by
  intro heq
  have hvalue := congrArg Payload.toValue heq
  rw [normal_conceal hfiller, normal_conceal hother] at hvalue
  refine PyValue.conceal_ne hne ?_ hvalue
  rw [toValue_normal, PyValue.hasSensitiveKey_normal]
  exact hsensitive

theorem AuditRecord.conceal_ne {filler other : PyValue} (hfiller : filler.normal = filler)
    (hother : other.normal = other) (hne : filler ≠ other) {record : AuditRecord}
    (hsensitive : record.hasSensitiveKey = true) :
    (record.conceal filler).normal ≠ (record.conceal other).normal := by
  have haction {action : Option Payload} (hany : action.any Payload.hasSensitiveKey = true)
      (heq : (action.map (Payload.conceal filler)).map Payload.normal =
        (action.map (Payload.conceal other)).map Payload.normal) : False := by
    cases action with
    | none => cases hany
    | some payload => exact Payload.conceal_ne hfiller hother hne hany (Option.some.inj heq)
  intro heq
  simp only [AuditRecord.hasSensitiveKey, Bool.or_eq_true] at hsensitive
  rcases hsensitive with (hinput | hproposed) | hactual
  · exact Payload.conceal_ne hfiller hother hne hinput
      (congrArg (fun record : AuditRecord => record.inputPayload) heq)
  · exact haction hproposed (congrArg (fun record : AuditRecord => record.proposedAction) heq)
  · exact haction hactual (congrArg (fun record : AuditRecord => record.actualResult) heq)

/-! ### Tamper evidence -/

/-- A log whose rows have been altered under their sensitive keys. -/
def concealedLog (filler : Json) (log : Table AuditRow.key) : Table AuditRow.key :=
  log.update (fun _ => true) (AuditRow.conceal filler) fun _ => rfl

theorem concealedLog_rows (filler : Json) (log : Table AuditRow.key) :
    (concealedLog filler log).rows = log.rows.map (AuditRow.conceal filler) := by
  simp [concealedLog, Table.update]

/-- **Tamper evidence, exactly.** The records of an accepted log are the only ones with its head and
its number of entries if and only if none of its payloads has a sensitive key. -/
theorem tamper_evident_iff (hinjective : Function.Injective sha256) {now : Instant}
    {tenantId : String} {log : Table AuditRow.key} {records : List AuditRecord}
    {verification : AuditVerification} (hrecords : listForTenant tenantId log.rows = .ok records)
    (haccepted : verifyChain sha256 now tenantId log.rows = .ok verification) :
    (∀ (later : Instant) (altered : Table AuditRow.key) (others : List AuditRecord),
      listForTenant tenantId altered.rows = .ok others →
        verifyChain sha256 later tenantId altered.rows = .ok verification →
          others.map AuditRecord.normal = records.map AuditRecord.normal) ↔
      ∀ record ∈ records, record.hasSensitiveKey = false := by
  constructor
  · intro hevident record hrecord
    by_contra hsensitive
    rw [Bool.not_eq_false] at hsensitive
    have hsame (filler : Json) :
        (record.conceal filler.loads).normal = record.normal := by
      have hall := hevident now (concealedLog filler log)
        (records.map (AuditRecord.conceal filler.loads))
        (by rw [concealedLog_rows]; exact listForTenant_conceal filler hrecords)
        (by rw [concealedLog_rows]; exact verifyChain_conceal filler haccepted)
      rw [List.map_map] at hall
      exact List.map_inj_left.mp hall record hrecord
    have hne : PyValue.none ≠ .bool true := fun heq => by cases heq
    refine AuditRecord.conceal_ne rfl rfl hne hsensitive ?_
    exact (hsame .null).trans (hsame (.bool true)).symm
  · intro hclear later altered others hothers halteredAccepted
    obtain ⟨first, hfirst, hverified, hlinked, hverification⟩ := verifyChain_ok.mp haccepted
    obtain rfl := Except.ok.inj (hfirst.symm.trans hrecords)
    obtain ⟨second, hsecond, hotherVerified, hotherLinked, hotherVerification⟩ :=
      verifyChain_ok.mp halteredAccepted
    obtain rfl := Except.ok.inj (hsecond.symm.trans hothers)
    rw [hverification, AuditVerification.mk.injEq] at hotherVerification
    obtain ⟨-, hlength, hhead⟩ := hotherVerification
    have hread := read_of_mapM (listForTenant_ok.mp hfirst).2
    have hotherRead := read_of_mapM (listForTenant_ok.mp hsecond).2
    have hforall : List.Forall₂ (fun one other : AuditRecord =>
        one.hasSensitiveKey = false → other.normal = one.normal) first second := by
      have hdetermines : ∀ {one other : AuditRecord},
          (one.Read ∧ ∃ moment, Verified sha256 moment one) →
            (other.Read ∧ ∃ moment, Verified sha256 moment other) →
              one.entryHash = other.entryHash →
                (one.hasSensitiveKey = false → other.normal = one.normal) ∧
                  one.previousHash = other.previousHash := by
        rintro one other ⟨honeRead, moment, hone⟩ ⟨hotherRead, otherMoment, hother⟩ hhash
        obtain ⟨hprevious, hnormal⟩ :=
          normal_eq_of_entryHash hinjective honeRead hotherRead hone hother hhash
        exact ⟨hnormal, hprevious⟩
      exact forall₂_of_head_eq hdetermines hlinked hotherLinked
        (fun record hrecord => ⟨hread record hrecord, now, hverified record hrecord⟩)
        (fun record hrecord => ⟨hotherRead record hrecord, later, hotherVerified record hrecord⟩)
        hlength hhead
    clear hread hotherRead hlinked hotherLinked hverified hotherVerified hfirst hsecond hothers
      hrecords haccepted halteredAccepted hverification hlength hhead
    induction hforall with
    | nil => rfl
    | @cons one other first second hone _ ih =>
        rw [List.forall_mem_cons] at hclear
        rw [List.map_cons, List.map_cons, hone hclear.1, ih hclear.2]

def sampleLog (input : Payload) : Table AuditRow.key :=
  (append id 0 { sampleAuditEvent with inputPayload := input } .empty).2.auditLog

theorem sampleLog_accepted (input : Payload)
    (haccepted : ((verifyChain id 0 "tenant-a" (sampleLog input).rows) matches .ok _) = true) :
    ∃ records verification, listForTenant "tenant-a" (sampleLog input).rows = .ok records ∧
      verifyChain id 0 "tenant-a" (sampleLog input).rows = .ok verification := by
  cases hverify : verifyChain id 0 "tenant-a" (sampleLog input).rows with
  | error error =>
      rw [hverify] at haccepted
      cases haccepted
  | ok verification =>
      obtain ⟨records, hrecords, -⟩ := verifyChain_ok.mp hverify
      exact ⟨records, verification, hrecords, rfl⟩

theorem tamper_evident_iff_sampleLog :
    ∃ records verification, listForTenant "tenant-a" (sampleLog [("lines", .list [.int 7])]).rows =
        .ok records ∧
      ∀ (later : Instant) (altered : Table AuditRow.key) (others : List AuditRecord),
        listForTenant "tenant-a" altered.rows = .ok others →
          verifyChain id later "tenant-a" altered.rows = .ok verification →
            others.map AuditRecord.normal = records.map AuditRecord.normal := by
  obtain ⟨records, verification, hrecords, hverify⟩ :=
    sampleLog_accepted [("lines", .list [.int 7])] (by decide +kernel)
  refine ⟨records, verification, hrecords, ?_⟩
  rw [tamper_evident_iff Function.injective_id hrecords hverify]
  have hclear :
      ((listForTenant "tenant-a" (sampleLog [("lines", .list [.int 7])]).rows).toOption.map
      fun read => read.all fun record => !record.hasSensitiveKey) = some true := by decide +kernel
  rw [hrecords] at hclear
  simpa [Except.toOption] using hclear

/-- Whether the record's payload shows `api_key` as redacted. -/
def AuditRecord.keyRedacted (record : AuditRecord) : Bool :=
  dictGet record.inputPayload "api_key" matches some (.str "[REDACTED]")

/-- The value under an API key is replaced, and the altered log is accepted with the same head. -/
theorem tamper_undetected :
    ¬∀ sha256 : String → String, Function.Injective sha256 →
      ∀ (tenantId : String) (log altered : Table AuditRow.key) (records others : List AuditRecord)
        (verification : AuditVerification),
        listForTenant tenantId log.rows = .ok records →
          verifyChain sha256 0 tenantId log.rows = .ok verification →
            listForTenant tenantId altered.rows = .ok others →
              verifyChain sha256 0 tenantId altered.rows = .ok verification →
                others.map AuditRecord.normal = records.map AuditRecord.normal := by
  intro hclaim
  obtain ⟨records, verification, hrecords, hverify⟩ :=
    sampleLog_accepted [("api_key", .str "k")] (by decide +kernel)
  have hothers := listForTenant_conceal (.str "planted") hrecords
  have haltered := verifyChain_conceal (.str "planted") hverify
  rw [← concealedLog_rows] at hothers haltered
  have hsame := hclaim id Function.injective_id "tenant-a" _ _ records _ verification hrecords
    hverify hothers haltered
  have hshown (read : List AuditRecord) :
      read.map (fun record : AuditRecord => record.normal.keyRedacted) =
        (read.map AuditRecord.normal).map AuditRecord.keyRedacted := by
    rw [List.map_map]
    rfl
  have hbefore : ((listForTenant "tenant-a" (sampleLog [("api_key", .str "k")]).rows).toOption.map
      fun read => read.map fun record : AuditRecord => record.normal.keyRedacted) =
        some [true] := by decide +kernel
  have hafter : ((listForTenant "tenant-a"
      (concealedLog (.str "planted") (sampleLog [("api_key", .str "k")])).rows).toOption.map
        fun read => read.map fun record : AuditRecord => record.normal.keyRedacted) =
          some [false] := by decide +kernel
  rw [hrecords] at hbefore
  rw [hothers] at hafter
  simp only [Except.toOption, Option.map_some, Option.some.injEq, hshown, hsame] at hbefore hafter
  rw [hbefore] at hafter
  cases hafter

end OdooMcp
