import OdooMcp.HashChain
import OdooMcp.Redaction
import OdooMcp.Storage.Audit
import OdooMcp.Storage.Timestamps

/-!
# Verification of the audit chain

`verify_chain` reads the rows of a tenant back and computes the hash of every entry again from what
it has read, its payloads redacted and its timestamp formatted once more.
-/

namespace OdooMcp

structure AuditRecord extends AuditEvent where
  id : Nat
  previousHash : String
  entryHash : String

structure AuditVerification where
  tenantId : String
  entryCount : Nat
  lastHash : String
  deriving DecidableEq, Repr

/-- `parse_string_tuple` -/
def parseStringTuple (json : Json) : Except PyException (List String) :=
  let strings := match json with
    | .arr items => items.mapM fun item =>
        match item with
        | .str value => some value
        | _ => none
    | _ => none
  orRaise strings (valueError "Persisted JSON list is invalid")

def AuditRow.record (row : AuditRow) (input : Payload) (proposed actual : Option Payload)
    (affected : List String) (createdAt : DateTime) : AuditRecord where
  requestId := row.requestId
  tenantId := row.tenantId
  companyId := row.companyId
  toolName := row.toolName
  toolVersion := row.toolVersion
  module := row.module
  authenticatedSubject := row.authenticatedSubject
  mcpClient := row.mcpClient
  odooDbName := row.odooDbName
  odooUser := row.odooUser
  odooVersion := row.odooVersion
  odooTransport := row.odooTransport
  inputPayload := input
  dryRun := row.dryRun
  proposedAction := proposed
  actualResult := actual
  affectedOdooRecords := affected
  errorCode := row.errorCode
  errorMessage := row.errorMessage
  finalStatus := row.finalStatus
  createdAt := some createdAt
  id := row.id
  previousHash := row.previousHash
  entryHash := row.entryHash

/-- `_row_to_record` -/
def rowToRecord (row : AuditRow) : Except PyException AuditRecord := do
  let proposed ← row.proposedAction.mapM parseMapping
  let actual ← row.actualResult.mapM parseMapping
  let input ← parseMapping row.inputPayload
  let affected ← parseStringTuple row.affectedOdooRecords
  let createdAt ← parseTimestamp row.createdAt
  return row.record input proposed actual affected createdAt

def idBefore (first second : AuditRow) : Bool := first.id ≤ second.id

/-- `SELECT * FROM audit_log WHERE tenant_id = ? ORDER BY id` -/
def rowsOf (tenantId : String) (rows : List AuditRow) : List AuditRow :=
  (rows.filter fun row => row.tenantId = tenantId).insertionSort (idBefore · ·)

variable (sha256 : String → String)

/-- `_event_values` with `normalize_error=False`. -/
def recordValues (record : AuditRecord) (createdAt : String) : Payload :=
  valuesWithError (record.errorCode, record.errorMessage) record.toAuditEvent record.previousHash
    createdAt

def auditIntegrityError (message : String) : PyException := .exception message

namespace AuditRepository

def listForTenant (tenantId : String) (rows : List AuditRow) :
    Except PyException (List AuditRecord) :=
  if isBlank tenantId then
    .error (valueError "Audit tenant identifier is required")
  else
    (rowsOf tenantId rows).mapM rowToRecord

/-- One step of the loop of `verify_chain`. -/
def verifyRecord (now : Instant) (expectedPrevious : String) (record : AuditRecord) :
    Except PyException String := do
  let createdAt ← createdAtText now record.createdAt
  ensure (record.previousHash = expectedPrevious)
    (auditIntegrityError "Audit chain verification failed")
  let entryHash ← hashPayload sha256 (recordValues record createdAt)
  ensure (entryHash = record.entryHash) (auditIntegrityError "Audit chain verification failed")
  return record.entryHash

def verifyChain (now : Instant) (tenantId : String) (rows : List AuditRow) :
    Except PyException AuditVerification :=
  if isBlank tenantId then
    .error (valueError "Audit tenant identifier is required")
  else do
    let records ← listForTenant tenantId rows
    let lastHash ← records.foldlM (verifyRecord sha256 now) genesisHash
    return ⟨tenantId, records.length, lastHash⟩

end AuditRepository

/-! ### What verification accepts -/

/-- The entry hash of a record is the hash of its values. -/
def Verified (now : Instant) (record : AuditRecord) : Prop :=
  ∃ createdAt, createdAtText now record.createdAt = .ok createdAt ∧
    hashPayload sha256 (recordValues record createdAt) = .ok record.entryHash

variable {sha256}

open AuditRepository HashChain

theorem verifyRecord_ok {now : Instant} {expected hash : String} {record : AuditRecord} :
    verifyRecord sha256 now expected record = .ok hash ↔
      Verified sha256 now record ∧ record.previousHash = expected ∧ hash = record.entryHash := by
  simp only [verifyRecord, except_bind_ok, ensure_ok, decide_eq_true_eq, Verified]
  constructor
  · rintro ⟨createdAt, hcreatedAt, -, hprevious, entryHash, hhash, -, rfl, hdone⟩
    exact ⟨⟨createdAt, hcreatedAt, hhash⟩, hprevious, (Except.ok.inj hdone).symm⟩
  · rintro ⟨⟨createdAt, hcreatedAt, hhash⟩, hprevious, rfl⟩
    exact ⟨createdAt, hcreatedAt, (), hprevious, _, hhash, (), rfl, rfl⟩

/-- The loop of `verify_chain` ends without an error for a linked chain of verified records. -/
theorem verifyRecords_ok {now : Instant} {expected hash : String} {records : List AuditRecord} :
    records.foldlM (verifyRecord sha256 now) expected = .ok hash ↔
      (∀ record ∈ records, Verified sha256 now record) ∧
        Linked AuditRecord.previousHash AuditRecord.entryHash expected records ∧
          hash = head AuditRecord.entryHash expected records := by
  induction records generalizing expected with
  | nil =>
      simp only [List.foldlM_nil, Linked, head]
      constructor
      · intro hdone
        exact ⟨by simp, trivial, (Except.ok.inj hdone).symm⟩
      · rintro ⟨-, -, rfl⟩
        rfl
  | cons record records ih =>
      simp only [List.foldlM_cons, except_bind_ok, verifyRecord_ok, Linked, head,
        List.forall_mem_cons, ih]
      constructor
      · rintro ⟨first, ⟨hverified, hprevious, rfl⟩, hrecords, hlinked, hhead⟩
        exact ⟨⟨hverified, hrecords⟩, ⟨hprevious, hlinked⟩, hhead⟩
      · rintro ⟨⟨hverified, hrecords⟩, ⟨hprevious, hlinked⟩, hhead⟩
        exact ⟨_, ⟨hverified, hprevious, rfl⟩, hrecords, hlinked, hhead⟩

theorem listForTenant_ok {tenantId : String} {rows : List AuditRow} {records : List AuditRecord} :
    listForTenant tenantId rows = .ok records ↔
      isBlank tenantId = false ∧ (rowsOf tenantId rows).mapM rowToRecord = .ok records := by
  unfold listForTenant
  split <;> simp_all

/-- **Acceptance.** `verify_chain` accepts a tenant's rows exactly if they can be read, every record
has the hash of its values, and every record names its predecessor. -/
theorem verifyChain_ok {now : Instant} {tenantId : String} {rows : List AuditRow}
    {verification : AuditVerification} :
    verifyChain sha256 now tenantId rows = .ok verification ↔
      ∃ records, listForTenant tenantId rows = .ok records ∧
        (∀ record ∈ records, Verified sha256 now record) ∧
          Linked AuditRecord.previousHash AuditRecord.entryHash genesisHash records ∧
            verification =
              ⟨tenantId, records.length, head AuditRecord.entryHash genesisHash records⟩ := by
  unfold verifyChain
  split
  · rename_i hblank
    simp [listForTenant_ok, hblank]
  · simp only [except_bind_ok, verifyRecords_ok]
    constructor
    · rintro ⟨records, hrecords, last, ⟨hverified, hlinked, rfl⟩, hdone⟩
      exact ⟨records, hrecords, hverified, hlinked, (Except.ok.inj hdone).symm⟩
    · rintro ⟨records, hrecords, hverified, hlinked, rfl⟩
      exact ⟨records, hrecords, _, ⟨hverified, hlinked, rfl⟩, rfl⟩

theorem rowToRecord_ok {row : AuditRow} {record : AuditRecord} :
    rowToRecord row = .ok record ↔
      ∃ input proposed actual affected createdAt, parseMapping row.inputPayload = .ok input ∧
        row.proposedAction.mapM parseMapping = .ok proposed ∧
          row.actualResult.mapM parseMapping = .ok actual ∧
            parseStringTuple row.affectedOdooRecords = .ok affected ∧
              parseTimestamp row.createdAt = .ok createdAt ∧
                record = row.record input proposed actual affected createdAt := by
  simp only [rowToRecord, except_bind_ok]
  constructor
  · rintro ⟨proposed, hproposed, actual, hactual, input, hinput, affected, haffected, createdAt,
      hcreatedAt, hdone⟩
    exact ⟨input, proposed, actual, affected, createdAt, hinput, hproposed, hactual, haffected,
      hcreatedAt, (Except.ok.inj hdone).symm⟩
  · rintro ⟨input, proposed, actual, affected, createdAt, hinput, hproposed, hactual, haffected,
      hcreatedAt, rfl⟩
    exact ⟨proposed, hproposed, actual, hactual, input, hinput, affected, haffected, createdAt,
      hcreatedAt, rfl⟩

/-! ### Payloads read back -/

theorem toValue_dictUpdate (collected changes : Payload) :
    Payload.toValue (dictUpdate collected changes) =
      .dict (dictUpdate (collected.map fun entry => (PyKey.str entry.1, entry.2))
        (changes.map fun entry => (PyKey.str entry.1, entry.2))) := by
  have hset (entries : Payload) (key : String) (value : PyValue) :
      (dictSet entries key value).map (fun entry => (PyKey.str entry.1, entry.2)) =
        dictSet (entries.map fun entry => (PyKey.str entry.1, entry.2)) (.str key) value := by
    induction entries with
    | nil => rfl
    | cons entry entries ih =>
        unfold dictSet
        by_cases hkey : entry.1 = key
        · simp [hkey]
        · simp only [List.map_cons, if_neg hkey, PyKey.str.injEq, ih]
  unfold Payload.toValue
  congr 1
  induction changes generalizing collected with
  | nil => rfl
  | cons change changes ih =>
      change (dictUpdate (dictSet collected change.1 change.2) changes).map _ = _
      rw [ih, hset]
      rfl

/-- A mapping column holds what `json.loads` reads from it. -/
theorem parseMapping_ok {json : Json} {payload : Payload}
    (hparse : parseMapping json = .ok payload) :
    payload.toValue = json.loads := by
  cases json with
  | obj fields =>
      cases hparse
      rw [toValue_dictUpdate, Json.loads, loadsFields_eq_map, List.map_map]
      rfl
  | _ => cases hparse

theorem parseMapping_obj (fields : List (String × Json)) :
    ∃ payload, parseMapping (.obj fields) = .ok payload := ⟨_, rfl⟩

/-- A stored payload can be read, and is redacted and written as it was stored. -/
theorem parseMapping_redacted {payload : Payload} {json : Json}
    (hjson : canonicalJson (redactedPayload payload) = .ok json) :
    ∃ stored, parseMapping json = .ok stored ∧
      canonicalJson (redactedPayload stored) = .ok json := by
  obtain ⟨written, -, fields, -, rfl⟩ := canonicalJson_dict_ok.mp hjson
  obtain ⟨stored, hstored⟩ := parseMapping_obj fields
  refine ⟨stored, hstored, ?_⟩
  rw [redactedPayload, parseMapping_ok hstored]
  exact (canonicalJson_redact_loads hjson).2

theorem parseStringTuple_affected {records : List String} {json : Json}
    (hjson : canonicalJson (affectedValue records) = .ok json) :
    parseStringTuple json = .ok records := by
  have hwritten : ∀ items : List String,
      canonicalJsonItems (items.map .str) = .ok (items.map .str) := by
    intro items
    induction items with
    | nil => rfl
    | cons item items ih => exact canonicalJsonItems_cons_ok.mpr ⟨_, rfl, _, ih, rfl⟩
  have hread : ∀ items : List String, (items.map Json.str).mapM (fun item =>
      match item with
      | .str value => some value
      | _ => none) = some items := by
    intro items
    induction items with
    | nil => rfl
    | cons item items ih => rw [List.map_cons, List.mapM_cons, ih]; rfl
  obtain ⟨written, hitems, rfl⟩ := canonicalJson_list_ok.mp hjson
  rw [hwritten] at hitems
  cases hitems
  unfold parseStringTuple
  simp only [hread]
  rfl

/-! ### What an append stores -/

theorem instantText_ok {instant : Int} {text : String} :
    instantText instant = .ok text ↔
      ∃ moment : Nat, instant = moment ∧ moment < endOfTime ∧ text = timestamp moment := by
  unfold instantText
  by_cases hrange : (0 ≤ instant && instant < (endOfTime : Int)) = true
  · rw [if_pos hrange]
    simp only [Bool.and_eq_true, decide_eq_true_eq] at hrange
    obtain ⟨moment, rfl⟩ := Int.eq_ofNat_of_zero_le hrange.1
    constructor
    · intro htext
      exact ⟨moment, rfl, by exact_mod_cast hrange.2, (Except.ok.inj htext).symm⟩
    · rintro ⟨other, hsame, -, rfl⟩
      rw [Int.ofNat_inj.mp hsame, Int.toNat_natCast]
  · rw [if_neg hrange]
    simp only [reduceCtorEq, false_iff, not_exists, not_and]
    rintro moment rfl hmoment
    exact absurd (by simp [hmoment]) hrange

theorem createdAtText_ok {now : Instant} {createdAt : Option DateTime} {text : String}
    (htext : createdAtText now createdAt = .ok text) :
    ∃ moment : Nat, moment < endOfTime ∧ text = timestamp moment := by
  unfold createdAtText at htext
  split at htext
  · obtain ⟨moment, -, hmoment, rfl⟩ := instantText_ok.mp htext
    exact ⟨moment, hmoment, rfl⟩
  · split at htext
    · cases htext
    · obtain ⟨moment, -, hmoment, rfl⟩ := instantText_ok.mp htext
      exact ⟨moment, hmoment, rfl⟩

/-- A stored time is read and written again as it is stored. -/
theorem createdAtText_parsed {now : Instant} (later : Instant) {createdAt : Option DateTime}
    {text : String}
    (htext : createdAtText now createdAt = .ok text) :
    ∃ moment, parseTimestamp text = .ok moment ∧ createdAtText later (some moment) = .ok text := by
  obtain ⟨moment, hmoment, rfl⟩ := createdAtText_ok htext
  refine ⟨⟨moment, some 0⟩, parseTimestamp_timestamp hmoment, ?_⟩
  exact instantText_ok.mpr ⟨moment, by simp, hmoment, rfl⟩

theorem jsonColumn_parsed {action : Option Payload} {column : Option Json}
    (hcolumn : jsonColumn action = .ok column) :
    ∃ stored, column.mapM parseMapping = .ok stored ∧
      canonicalJson (redactedAction stored) = canonicalJson (redactedAction action) := by
  cases action with
  | none =>
      cases hcolumn
      exact ⟨none, rfl, rfl⟩
  | some payload =>
      obtain ⟨json, hjson, hdone⟩ := except_bind_ok.mp hcolumn
      cases hdone
      obtain ⟨stored, hparse, hstored⟩ := parseMapping_redacted hjson
      exact ⟨some stored, except_bind_ok.mpr ⟨stored, hparse, rfl⟩, hstored.trans hjson.symm⟩

theorem hashPayload_congr {error : Option String × Option String} {event : AuditEvent}
    {previous createdAt : String} {input : Payload} {proposed actual : Option Payload}
    (hinput : canonicalJson (redactedPayload input) =
      canonicalJson (redactedPayload event.inputPayload))
    (hproposed : canonicalJson (redactedAction proposed) =
      canonicalJson (redactedAction event.proposedAction))
    (hactual : canonicalJson (redactedAction actual) =
      canonicalJson (redactedAction event.actualResult)) :
    hashPayload sha256 (valuesWithError error
      { event with inputPayload := input, proposedAction := proposed, actualResult := actual }
      previous createdAt) =
        hashPayload sha256 (valuesWithError error event previous createdAt) := by
  unfold hashPayload valuesWithError Payload.toValue
  simp only [List.map_cons, List.map_nil, canonicalJson, canonicalJsonEntries, hinput, hproposed,
    hactual]

/-- **An honest entry verifies.** The row an event is stored as can be read, and its record has the
hash of its values and names the head it was appended to. -/
theorem auditEntry_verified {id : Nat} {previous : String} {now : Instant} {event : AuditEvent}
    {row : AuditRow} (hrow : auditEntry sha256 id previous now event = .ok row) :
    row.id = id ∧ row.tenantId = event.tenantId ∧
      ∃ record, rowToRecord row = .ok record ∧ (∀ later, Verified sha256 later record) ∧
        record.previousHash = previous ∧ record.entryHash = row.entryHash := by
  simp only [auditEntry, except_bind_ok] at hrow
  obtain ⟨createdAt, hcreatedAt, entryHash, hhash, inputJson, hinputJson, proposedJson,
    hproposedJson, actualJson, hactualJson, affectedJson, haffectedJson, hdone⟩ := hrow
  cases hdone
  obtain ⟨input, hinput, hinputSame⟩ := parseMapping_redacted hinputJson
  obtain ⟨proposed, hproposed, hproposedSame⟩ := jsonColumn_parsed hproposedJson
  obtain ⟨actual, hactual, hactualSame⟩ := jsonColumn_parsed hactualJson
  obtain ⟨moment, hmoment, -⟩ := createdAtText_parsed now hcreatedAt
  refine ⟨rfl, rfl, _, rowToRecord_ok.mpr ⟨input, proposed, actual, event.affectedOdooRecords,
    moment, hinput, hproposed, hactual, parseStringTuple_affected haffectedJson, hmoment, rfl⟩, ?_,
    rfl, rfl⟩
  intro later
  obtain ⟨other, hother, hwritten⟩ := createdAtText_parsed later hcreatedAt
  rw [hmoment] at hother
  cases hother
  have hsame : hashPayload sha256 (valuesWithError
      (safeErrorFields event.errorCode event.errorMessage)
      { event with inputPayload := input, proposedAction := proposed, actualResult := actual }
      previous createdAt) = hashPayload sha256 (eventValues event previous createdAt) :=
    hashPayload_congr (hinputSame.trans hinputJson.symm) hproposedSame hactualSame
  refine ⟨createdAt, hwritten, ?_⟩
  rw [← hsame] at hhash
  unfold recordValues
  unfold valuesWithError at hhash ⊢
  exact hhash

end OdooMcp
