import OdooMcp.Storage.Proposals

/-!
# The report journal

A report that succeeded stores its artifact and its audit entry in one transaction: both rows are
there afterwards, or neither is.
-/

namespace OdooMcp

open Effect

variable {sha256 : String → String} {α : Type}

structure ReportStore where
  records : ProposalStore
  journal : Store

namespace ReportStore

def onRecords (body : Statements ProposalStore PyException α) :
    Statements ReportStore PyException α := fun store =>
  match body store.records with
  | .ok (value, records) => .ok (value, { store with records := records })
  | .error error => .error error

def onJournal (body : Transaction α) : Statements ReportStore PyException α := fun store =>
  match body store.journal with
  | .ok (value, journal) => .ok (value, { store with journal := journal })
  | .error error => .error error

theorem onRecords_ok {body : Statements ProposalStore PyException α} {store later : ReportStore}
    {value : α} :
    onRecords body store = .ok (value, later) ↔
      ∃ records, body store.records = .ok (value, records) ∧
        later = { store with records := records } := by
  unfold onRecords
  cases hbody : body store.records with
  | error error => simp
  | ok reached =>
      obtain ⟨found, records⟩ := reached
      simp only [Except.ok.injEq, Prod.mk.injEq]
      constructor
      · rintro ⟨rfl, rfl⟩
        exact ⟨records, ⟨rfl, rfl⟩, rfl⟩
      · rintro ⟨_, ⟨rfl, rfl⟩, rfl⟩
        exact ⟨rfl, rfl⟩

theorem onJournal_ok {body : Transaction α} {store later : ReportStore} {value : α} :
    onJournal body store = .ok (value, later) ↔
      ∃ journal, body store.journal = .ok (value, journal) ∧
        later = { store with journal := journal } := by
  unfold onJournal
  cases hbody : body store.journal with
  | error error => simp
  | ok reached =>
      obtain ⟨found, journal⟩ := reached
      simp only [Except.ok.injEq, Prod.mk.injEq]
      constructor
      · rintro ⟨rfl, rfl⟩
        exact ⟨journal, ⟨rfl, rfl⟩, rfl⟩
      · rintro ⟨_, ⟨rfl, rfl⟩, rfl⟩
        exact ⟨rfl, rfl⟩

def entries (store : ReportStore) (requestId : String) : List AuditRow :=
  store.journal.auditLog.rows.filter fun row => row.requestId = requestId

def artifacts (store : ReportStore) (requestId : String) : List ArtifactRow :=
  store.records.artifacts.rows.filter fun row => row.requestId = requestId

end ReportStore

namespace ReportJournal

/-- The transaction of `record_success`. -/
def recordInTransaction (sha256 : String → String) (artifactNow auditNow : Instant)
    (event : AuditEvent) (companyId : Int) (artifactType content : String) :
    Statements ReportStore PyException ArtifactRow := do
  let artifact ← ReportStore.onRecords (ArtifactRepository.createInTransaction artifactNow
    ⟨event.requestId, event.tenantId, companyId, event.toolName, event.module, artifactType, []⟩
    "markdown" content)
  let _ ← ReportStore.onJournal (AuditRepository.appendInTransaction sha256 auditNow event)
  return artifact

/-- `record_success` -/
def recordSuccess (sha256 : String → String) (artifactNow auditNow : Instant) (event : AuditEvent)
    (artifactType content : String) (store : ReportStore) :
    Except PyException ArtifactRow × ReportStore :=
  match event.companyId with
  | none => (.error (valueError "A report requires company_id"), store)
  | some companyId =>
      (recordInTransaction sha256 artifactNow auditNow event companyId artifactType
        content).commit store

end ReportJournal

/-! ### What is stored afterwards -/

/-- An artifact with its fields can be stored. -/
theorem exists_createInTransaction {now : Instant} {input : ProposalInput}
    {artifactFormat content : String} {store : ProposalStore}
    (hrequest : required input.requestId "request_id" = .ok ())
    (htenant : required input.tenantId "tenant_id" = .ok ())
    (hcompany : requiredCompany input.companyId = .ok ())
    (htool : required input.toolName "tool_name" = .ok ())
    (hmodule : required input.module "module" = .ok ())
    (htype : required input.proposalType "artifact_type" = .ok ())
    (hformat : required artifactFormat "artifact_format" = .ok ()) :
    ∃ artifact later, ArtifactRepository.createInTransaction now input artifactFormat content
      store = .ok (artifact, later) := by
  unfold ArtifactRepository.createInTransaction
  rw [hrequest, htenant, hcompany, htool, hmodule, htype, hformat]
  exact ⟨_, _, rfl⟩

theorem createInTransaction_artifact {now : Instant} {input : ProposalInput}
    {artifactFormat content : String} {store later : ProposalStore} {artifact : ArtifactRow}
    (hcreate : ArtifactRepository.createInTransaction now input artifactFormat content store =
      .ok (artifact, later)) :
    later.artifacts.rows = store.artifacts.rows ++ [artifact] ∧
      artifact.requestId = input.requestId ∧ artifact.artifactType = input.proposalType ∧
        artifact.content = content := by
  simp only [ArtifactRepository.createInTransaction, Statements.bind_ok, Statements.lift_ok,
    Statements.get_ok, Statements.set_ok, Statements.pure_ok] at hcreate
  obtain ⟨_, _, ⟨-, rfl⟩, _, _, ⟨-, rfl⟩, _, _, ⟨-, rfl⟩, _, _, ⟨-, rfl⟩, _, _, ⟨-, rfl⟩, _, _,
    ⟨-, rfl⟩, _, _, ⟨-, rfl⟩, _, _, ⟨rfl, rfl⟩, _, _, rfl, rfl, rfl⟩ := hcreate
  exact ⟨rfl, rfl, rfl, rfl⟩

theorem entries_append (store : ReportStore) {now : Instant} {event : AuditEvent} {journal : Store}
    {row : AuditRow}
    (happend : AuditRepository.appendInTransaction sha256 now event store.journal =
      .ok (row, journal)) (records : ProposalStore) :
    ReportStore.entries ⟨records, journal⟩ event.requestId =
        store.entries event.requestId ++ [row] ∧
      row.finalStatus = event.finalStatus := by
  obtain ⟨-, hrows, hrequest, hstatus⟩ := appendInTransaction_ok happend
  refine ⟨?_, hstatus⟩
  unfold ReportStore.entries
  simp [hrows, List.filter_append, hrequest]

/-- A report is on record with its artifact. -/
theorem recordSuccess_ok {artifactNow auditNow : Instant} {event : AuditEvent}
    {artifactType content : String} {store later : ReportStore} {artifact : ArtifactRow}
    (hrecord : ReportJournal.recordSuccess sha256 artifactNow auditNow event artifactType content
      store = (.ok artifact, later)) :
    (∃ row, later.entries event.requestId = store.entries event.requestId ++ [row] ∧
      row.finalStatus = event.finalStatus) ∧
      later.artifacts event.requestId = store.artifacts event.requestId ++ [artifact] ∧
        artifact.artifactType = artifactType ∧ artifact.content = content := by
  unfold ReportJournal.recordSuccess at hrecord
  cases hcompany : event.companyId with
  | none =>
      rw [hcompany] at hrecord
      cases hrecord
  | some companyId =>
      rw [hcompany] at hrecord
      have hbody := Statements.commit_ok.mp hrecord
      simp only [ReportJournal.recordInTransaction, Statements.bind_ok, Statements.pure_ok,
        ReportStore.onRecords_ok, ReportStore.onJournal_ok] at hbody
      obtain ⟨_, _, ⟨records, hcreate, rfl⟩, row, _, ⟨journal, happend, rfl⟩, rfl, rfl⟩ := hbody
      obtain ⟨hrows, hrequest, htype, hcontent⟩ := createInTransaction_artifact hcreate
      refine ⟨⟨row, entries_append store happend records⟩, ?_, htype, hcontent⟩
      unfold ReportStore.artifacts
      simp [hrows, List.filter_append, hrequest]

/-- Both statements succeed, so the transaction commits. -/
theorem recordSuccess_of_ok {artifactNow auditNow : Instant} {event : AuditEvent}
    {companyId : Int} {artifactType content : String} {store : ReportStore} {artifact : ArtifactRow}
    {records : ProposalStore} {row : AuditRow} {journal : Store}
    (hcompany : event.companyId = some companyId)
    (hcreate : ArtifactRepository.createInTransaction artifactNow
      ⟨event.requestId, event.tenantId, companyId, event.toolName, event.module, artifactType, []⟩
      "markdown" content store.records = .ok (artifact, records))
    (happend : AuditRepository.appendInTransaction sha256 auditNow event store.journal =
      .ok (row, journal)) :
    ReportJournal.recordSuccess sha256 artifactNow auditNow event artifactType content store =
      (.ok artifact, ⟨records, journal⟩) := by
  unfold ReportJournal.recordSuccess
  rw [hcompany]
  exact Statements.commit_ok.mpr (Statements.bind_ok.mpr
    ⟨artifact, _, ReportStore.onRecords_ok.mpr ⟨records, hcreate, rfl⟩, Statements.bind_ok.mpr
      ⟨row, _, ReportStore.onJournal_ok.mpr ⟨journal, happend, rfl⟩,
        Statements.pure_ok.mpr ⟨rfl, rfl⟩⟩⟩)

end OdooMcp
