import OdooMcp.Server.ReadTools
import OdooMcp.Storage.Reporting

/-!
# What is on record when data is disclosed

A tool that reads accounting or Payroll data answers with its payload only after the audit entry of
the call has been committed. The phases of a call follow what it may disclose and what it has
recorded; a run of the call against the storage then says which rows carry its request id.
-/

namespace OdooMcp

open Effect ToolBody

variable {State : Type}

/-! ### The calls -/

/-- A call of an accounting report or of a Payroll evidence tool. -/
inductive ReadingCall
  | accountingReport (call : ReportCall)
  | invalidAccountingReport (call : ReportCall)
  | payrollEvidence (call : EvidenceCall)
  | invalidPayrollEvidence (call : EvidenceCall)

namespace ReadingCall

def definition : ReadingCall → ToolDefinition
  | .accountingReport call | .invalidAccountingReport call => call.definition
  | .payrollEvidence call | .invalidPayrollEvidence call => call.definition

def companyId : ReadingCall → Int
  | .accountingReport call | .invalidAccountingReport call => call.companyId
  | .payrollEvidence call | .invalidPayrollEvidence call => call.companyId

def isReport : ReadingCall → Bool
  | .accountingReport _ | .invalidAccountingReport _ => true
  | _ => false

def body (requestId : String) : ReadingCall → ToolBody State ToolResponse
  | .accountingReport call => call.accountingReport requestId
  | .invalidAccountingReport call => call.invalidAccountingReport requestId
  | .payrollEvidence call => call.run requestId
  | .invalidPayrollEvidence call => call.invalidRequest requestId

def program (call : ReadingCall) (requestId : String) :
    Program (toolSignature State) PyException ToolResponse :=
  (call.body requestId).run {}

end ReadingCall

/-! ### The phases of a call -/

/-- What a call has committed: the status of its audit entry, and the type and content of the
artifact that was stored with it. -/
structure Recording where
  finalStatus : String
  artifact : Option (String × String)

/-- What the operation of a call produced: the payload, and the artifact of a report. -/
structure Produced where
  toolResponse : Except String PyDict
  artifactMarkdown : Option String

structure DisclosurePhase where
  binding : Option ConnectionBinding
  product : Option Produced
  recorded : Option Recording

/-- The permission and the company of the call are the caller's. -/
def Authorized (definition : ToolDefinition) (companyId : Int) (binding : ConnectionBinding) :
    Prop :=
  definition.requiredPermission ∈ binding.permissions ∧ companyId ∈ binding.allowedCompanyIds

namespace DisclosurePhase

def start : DisclosurePhase := ⟨none, none, none⟩

/-- An adapter is created for an authorized caller only, and an entry is submitted only while none
is on record. -/
def allows (definition : ToolDefinition) (companyId : Int) (requestId : String)
    (phase : DisclosurePhase) : ToolRequest State → Prop
  | .connect binding => phase.binding = some binding ∧ Authorized definition companyId binding
  | .append event => phase.recorded = none ∧ event.requestId = requestId
  | .recordSuccess event _ _ => phase.recorded = none ∧ event.requestId = requestId
  | .begin _ _ _ | .finish _ _ _ _ | .recordProposal _ _ => False
  | _ => True

def next (phase : DisclosurePhase) : ToolEvent State → DisclosurePhase
  | ⟨.resolve, .ok binding⟩ => { phase with binding := some binding }
  | ⟨.report _ _, .ok result⟩ =>
      { phase with product := some ⟨result.toolResponse, some result.artifactMarkdown⟩ }
  | ⟨.evidence _, .ok result⟩ => { phase with product := some ⟨result.toolResponse, none⟩ }
  | ⟨.append event, .ok _⟩ => { phase with recorded := some ⟨event.finalStatus, none⟩ }
  | ⟨.recordSuccess event artifactType content, .ok _⟩ =>
      { phase with recorded := some ⟨event.finalStatus, some (artifactType, content)⟩ }
  | _ => phase

end DisclosurePhase

def disclosureProtocol (call : ReadingCall) (requestId : String) :
    Protocol (toolSignature State) PyException DisclosurePhase where
  allows := DisclosurePhase.allows call.definition call.companyId requestId
  next phase request answer := phase.next ⟨request, answer⟩

def DisclosurePhase.Unsuccessful (phase : DisclosurePhase) : Prop :=
  phase.recorded = none ∨ phase.recorded = some ⟨"failed", none⟩

/-- What the phase says at the end: a payload is the one the operation produced, and its entry is on
record; otherwise at most the entry of a failure is. -/
def Disclosed (call : ReadingCall) (phase : DisclosurePhase) :
    Except PyException ToolResponse → Prop
  | .ok (.ok fields) => ∃ product, phase.product = some product ∧
      product.toolResponse = .ok fields ∧ product.artifactMarkdown.isSome = call.isReport ∧
        phase.recorded = some ⟨"succeeded",
          product.artifactMarkdown.map fun content => (call.definition.name, content)⟩
  | _ => phase.Unsuccessful

/-! ### The steps of the runners -/

section Steps

variable {call : ReadingCall} {requestId : String} {phase : DisclosurePhase}

def isSilent : ToolRequest State → Bool
  | .getCompanies _ | .getCapabilities _ | .close _ => true
  | _ => false

theorem keeps_silent {request : ToolRequest State} (hsilent : isSilent request = true) :
    Scoped.Keeps (disclosureProtocol call requestId) phase (ask request) := by
  refine Scoped.Keeps.await ?_ fun answer => ?_
  · cases request <;> trivial
  · cases request <;> first | rfl | cases hsilent

theorem keeps_cleanUp {α : Type} {answer : α} {onFailure : α → α} :
    Scoped.Keeps (disclosureProtocol call requestId) phase
      (cleanUp answer onFailure : ToolBody State α) := by
  refine Scoped.Keeps.current.bind fun locals => ?_
  split
  · exact .pure
  · exact keeps_orElse ((keeps_silent rfl).bind fun _ => .pure) fun _ => .pure

/-- Authorization either fails with nothing on record, or the caller is authorized. -/
theorem meets_authorize {message hint : String} {locals : ToolLocals State} :
    Scoped.Meets (disclosureProtocol call requestId) DisclosurePhase.start locals
      (authorize call.definition call.companyId message hint)
      fun reached _ outcome => reached.recorded = none ∧ ∀ binding, outcome = .ok binding →
        reached.binding = some binding ∧ Authorized call.definition call.companyId binding := by
  unfold authorize
  rw [Scoped.meets_bind]
  refine Scoped.meets_await.mpr ⟨trivial, fun answer => ?_⟩
  cases answer with
  | error error => exact ⟨rfl, nofun⟩
  | ok binding =>
      refine Scoped.Keeps.assign.meets_bind (fun _ _ => ?_) fun _ _ => ⟨rfl, nofun⟩
      rw [Scoped.meets_bind, Scoped.meets_ofExcept]
      cases hpermission : binding.permissions.contains call.definition.requiredPermission with
      | false => exact ⟨rfl, nofun⟩
      | true =>
          change Scoped.Meets _ _ _ _ _
          rw [Scoped.meets_bind, Scoped.meets_ofExcept]
          cases hcompany : binding.allowedCompanyIds.contains call.companyId with
          | false => exact ⟨rfl, nofun⟩
          | true =>
              refine Scoped.meets_pure.mpr ⟨rfl, ?_⟩
              rintro _ ⟨⟩
              exact ⟨rfl, by simpa using hpermission, by simpa using hcompany⟩

/-- The audit of a failure leaves at most the entry of a failure. -/
theorem meets_auditFailure {storage : Bool}
    {event : ConnectionBinding → Option CapabilitySnapshot → Except PyException AuditEvent}
    {locals : ToolLocals State} (hphase : phase.recorded = none)
    (hevent : ∀ binding snapshot entry, event binding snapshot = .ok entry →
      entry.requestId = requestId ∧ entry.finalStatus = "failed") :
    Scoped.Meets (disclosureProtocol call requestId) phase locals (auditFailure storage event)
      fun reached _ _ => reached.Unsuccessful := by
  unfold auditFailure
  refine Scoped.Keeps.current.meets_bind (fun known _ => ?_) fun _ _ => .inl hphase
  cases hbinding : known.binding with
  | none => exact Scoped.meets_pure.mpr (.inl hphase)
  | some binding =>
      cases storage with
      | false => exact Scoped.meets_pure.mpr (.inl hphase)
      | true =>
          refine meets_orElse ?_
          rw [Scoped.meets_bind, Scoped.meets_ofExcept]
          cases hentry : event binding known.snapshot with
          | error error =>
              dsimp only
              split
              · exact .inl hphase
              · exact Scoped.meets_pure.mpr (.inl hphase)
          | ok entry =>
              obtain ⟨hrequest, hstatus⟩ := hevent _ _ _ hentry
              dsimp only
              rw [Scoped.meets_bind]
              refine Scoped.meets_await.mpr ⟨⟨hphase, hrequest⟩, fun answer => ?_⟩
              cases answer with
              | ok row => exact Scoped.meets_pure.mpr (.inr (by rw [← hstatus]; rfl))
              | error error =>
                  dsimp only
                  split
                  · exact .inl hphase
                  · exact Scoped.meets_pure.mpr (.inl hphase)

end Steps

/-! ### The runners -/

section Runners

variable {requestId : String}

/-- A handler that cleans up and audits its error, from a phase with nothing on record. -/
theorem meets_failure {call : ReadingCall} {phase : DisclosurePhase} {locals : ToolLocals State}
    {storage : Bool} {answer : ErrorResponse} {onFailure : ErrorResponse → ErrorResponse}
    {event : ErrorResponse → ConnectionBinding → Option CapabilitySnapshot →
      Except PyException AuditEvent}
    {ending : ErrorResponse → ToolBody State ToolResponse} (hphase : phase.recorded = none)
    (hevent : ∀ error binding snapshot entry, event error binding snapshot = .ok entry →
      entry.requestId = requestId ∧ entry.finalStatus = "failed")
    (hending : ∀ error reached left, reached.Unsuccessful →
      Scoped.Meets (disclosureProtocol call requestId) reached left (ending error)
        fun ended _ outcome => Disclosed call ended outcome) :
    Scoped.Meets (disclosureProtocol call requestId) phase locals
      (do
        let error ← cleanUp answer onFailure
        auditFailure storage (event error)
        ending error)
      fun reached _ outcome => Disclosed call reached outcome := by
  refine keeps_cleanUp.meets_bind (fun error left => ?_) fun _ _ => .inl hphase
  rw [Scoped.meets_bind]
  refine (meets_auditFailure hphase (hevent error)).mono fun reached left outcome hreached => ?_
  cases outcome with
  | ok done => exact hending error reached left hreached
  | error raised => exact hreached

theorem report_failedEvent (call : ReportCall) (requestId : String) :
    ∀ error binding snapshot entry,
      call.failedEvent requestId error binding snapshot = .ok entry →
        entry.requestId = requestId ∧ entry.finalStatus = "failed" := by
  rintro error binding snapshot _ ⟨⟩
  exact ⟨rfl, rfl⟩

theorem evidence_failedEvent (call : EvidenceCall) (requestId : String) :
    ∀ error binding snapshot entry,
      call.failedEvent requestId error binding snapshot = .ok entry →
        entry.requestId = requestId ∧ entry.finalStatus = "failed" := by
  rintro error binding snapshot _ ⟨⟩
  exact ⟨rfl, rfl⟩

/-- How the body of a runner is left: with its payload on record, or with nothing. -/
def BodyLeft (call : ReadingCall) (reached : DisclosurePhase) (_left : ToolLocals State) :
    Except PyException ToolResponse → Prop
  | .ok response => Disclosed call reached (.ok response)
  | .error _ => reached.recorded = none

/-- The steps of a body up to its operation, which is run by an authorized caller only. -/
theorem meets_reading (call : ReadingCall) {message hint : String} {locals : ToolLocals State}
    {error : OdooMcpError}
    {next : ConnectionBinding → AdapterHandle → Company → CapabilitySnapshot →
      ToolBody State ToolResponse}
    (hnext : ∀ binding adapter company snapshot reached left, reached.recorded = none →
      Scoped.Meets (disclosureProtocol call requestId) reached left
        (next binding adapter company snapshot) (BodyLeft call)) :
    Scoped.Meets (disclosureProtocol call requestId) DisclosurePhase.start locals
      (do
        let binding ← authorize call.definition call.companyId message hint
        let adapter ← openAdapter binding
        let company ← findCompany adapter call.companyId
        let snapshot ← readCapabilities adapter
        Scoped.ofExcept (ensure (hasCapability call.definition snapshot) (.odooMcpError error))
        next binding adapter company snapshot)
      (BodyLeft call) := by
  rw [Scoped.meets_bind]
  refine meets_authorize.mono fun reached left outcome hauthorized => ?_
  obtain ⟨hrecorded, hbinding⟩ := hauthorized
  cases outcome with
  | error raised => exact hrecorded
  | ok binding =>
      have hopen : Scoped.Keeps (disclosureProtocol call requestId) reached
          (openAdapter binding : ToolBody State AdapterHandle) :=
        (Scoped.Keeps.await (hbinding binding rfl) fun answer => by cases answer <;> rfl).bind
          fun _ => Scoped.Keeps.assign.bind fun _ => .pure
      have hrest (later : ToolLocals State) (raised : PyException) :
          BodyLeft call reached later (.error raised) := hrecorded
      refine hopen.meets_bind (fun adapter _ => ?_) hrest
      refine ((keeps_silent rfl).bind fun _ => .ofExcept).meets_bind (fun company _ => ?_) hrest
      refine ((keeps_silent rfl).bind fun _ =>
        Scoped.Keeps.assign.bind fun _ => .pure).meets_bind (fun snapshot _ => ?_) hrest
      exact Scoped.Keeps.ofExcept.meets_bind
        (fun _ later => hnext binding adapter company snapshot reached later hrecorded) hrest

/-- The steps between the operation of a body and the record of its result. -/
theorem meets_produced {call : ReadingCall} {phase : DisclosurePhase} {locals : ToolLocals State}
    {adapter : AdapterHandle} {storage : Bool} {missing : String} {result : Except String PyDict}
    {record : PyDict → ToolBody State ToolResponse} (hphase : phase.recorded = none)
    (hrecord : ∀ fields left, result = .ok fields →
      Scoped.Meets (disclosureProtocol call requestId) phase left (record fields)
        (BodyLeft call)) :
    Scoped.Meets (disclosureProtocol call requestId) phase locals
      (do
        closeAdapter adapter
        Scoped.ofExcept (ensure storage (.exception missing))
        let response ← Scoped.ofExcept (result.mapError .exception)
        record response)
      (BodyLeft call) := by
  have hrest (later : ToolLocals State) (raised : PyException) :
      BodyLeft call phase later (.error raised) := hphase
  refine ((keeps_silent rfl).bind fun _ => .assign).meets_bind (fun _ _ => ?_) hrest
  refine Scoped.Keeps.ofExcept.meets_bind (fun _ left => ?_) hrest
  rw [Scoped.meets_bind, Scoped.meets_ofExcept]
  cases result with
  | error message => exact hphase
  | ok fields => exact hrecord fields left rfl

theorem meets_reportDisclosure (call : ReportCall) (locals : ToolLocals State) :
    Scoped.Meets (disclosureProtocol (.accountingReport call) requestId) DisclosurePhase.start
      locals (call.body requestId) (BodyLeft (.accountingReport call)) := by
  refine meets_reading (.accountingReport call) fun binding adapter company snapshot
    reached left hreached => ?_
  rw [Scoped.meets_bind]
  refine Scoped.meets_await.mpr ⟨trivial, fun answer => ?_⟩
  cases answer with
  | error error => exact hreached
  | ok result =>
      refine meets_produced hreached fun fields later hfields => ?_
      rw [Scoped.meets_bind]
      refine Scoped.meets_await.mpr ⟨⟨hreached, rfl⟩, fun answer => ?_⟩
      cases answer with
      | error error => exact hreached
      | ok done => exact Scoped.meets_pure.mpr ⟨_, rfl, hfields, rfl, rfl⟩

theorem meets_evidenceDisclosure (call : EvidenceCall) (locals : ToolLocals State) :
    Scoped.Meets (disclosureProtocol (.payrollEvidence call) requestId) DisclosurePhase.start
      locals (call.body requestId) (BodyLeft (.payrollEvidence call)) := by
  refine meets_reading (.payrollEvidence call) fun binding adapter company snapshot
    reached left hreached => ?_
  rw [Scoped.meets_bind]
  refine Scoped.meets_await.mpr ⟨trivial, fun answer => ?_⟩
  cases answer with
  | error error => exact hreached
  | ok result =>
      refine meets_produced hreached fun fields later hfields => ?_
      rw [Scoped.meets_bind]
      refine Scoped.meets_await.mpr ⟨⟨hreached, rfl⟩, fun answer => ?_⟩
      cases answer with
      | error error => exact hreached
      | ok done => exact Scoped.meets_pure.mpr ⟨_, rfl, hfields, rfl, rfl⟩

/-- A handler of invalid input leaves at most the entry of a failure. -/
theorem meets_invalidRequest {call : ReadingCall} {message hint : String}
    {invalid unexpected : ErrorResponse} {storage : Bool} {locals : ToolLocals State}
    {event : ErrorResponse → ConnectionBinding → Option CapabilitySnapshot →
      Except PyException AuditEvent}
    (hevent : ∀ error binding snapshot entry, event error binding snapshot = .ok entry →
      entry.requestId = requestId ∧ entry.finalStatus = "failed") :
    Scoped.Meets (disclosureProtocol call requestId) DisclosurePhase.start locals
      (invalidRequest call.definition call.companyId message hint invalid unexpected storage event
        requestId)
      fun reached _ _ => reached.Unsuccessful := by
  unfold invalidRequest
  rw [Scoped.meets_bind]
  have haudit (error : ErrorResponse) (reached : DisclosurePhase) (left : ToolLocals State)
      (hreached : reached.recorded = none) :
      Scoped.Meets (disclosureProtocol call requestId) reached left
        (do auditFailure storage (event error); return error)
        fun ended _ _ => ended.Unsuccessful := by
    rw [Scoped.meets_bind]
    refine (meets_auditFailure hreached (hevent error)).mono fun ended later outcome hended => ?_
    cases outcome with
    | ok done => exact Scoped.meets_pure.mpr hended
    | error raised => exact hended
  refine meets_orElse ?_
  rw [Scoped.meets_bind]
  refine meets_authorize.mono fun reached left outcome hauthorized => ?_
  cases outcome with
  | ok binding => exact Scoped.meets_pure.mpr (haudit _ reached left hauthorized.1)
  | error raised =>
      dsimp only
      split
      · exact .inl hauthorized.1
      · exact Scoped.meets_pure.mpr (haudit _ reached left hauthorized.1)

/-- A call that answers with the error of another body. -/
theorem meets_failed {call : ReadingCall} {body : ToolBody State ErrorResponse}
    {locals : ToolLocals State}
    (hbody : Scoped.Meets (disclosureProtocol call requestId) DisclosurePhase.start locals body
      fun reached _ _ => reached.Unsuccessful) :
    Scoped.Meets (disclosureProtocol call requestId) DisclosurePhase.start locals
      (do let error ← body; return .failed error)
      fun reached _ outcome => Disclosed call reached outcome := by
  rw [Scoped.meets_bind]
  refine hbody.mono fun reached left outcome hreached => ?_
  cases outcome with
  | ok error => exact Scoped.meets_pure.mpr hreached
  | error raised => exact hreached

/-- Whatever its awaits are answered, a call asks only for what its phase allows, and ends with its
payload on record, or with none and at most the entry of a failure. -/
theorem meets_disclosure (call : ReadingCall) :
    Scoped.Meets (disclosureProtocol call requestId) DisclosurePhase.start
      ({} : ToolLocals State) (call.body requestId)
      fun reached _ outcome => Disclosed call reached outcome := by
  cases call with
  | invalidAccountingReport call =>
      exact meets_failed (meets_invalidRequest (report_failedEvent call requestId))
  | invalidPayrollEvidence call =>
      exact meets_failed (meets_invalidRequest (evidence_failedEvent call requestId))
  | accountingReport call =>
      refine meets_orElse ((meets_reportDisclosure call {}).mono
        fun reached left outcome hleft => ?_)
      cases outcome with
      | ok response => exact hleft
      | error raised =>
          dsimp only
          split
          · exact .inl hleft
          · exact meets_failure hleft (report_failedEvent call requestId)
              fun _ _ _ hreached => Scoped.meets_pure.mpr hreached
  | payrollEvidence call =>
      change Scoped.Meets _ _ _ (call.run requestId) _
      unfold EvidenceCall.run
      rw [Scoped.meets_bind, Scoped.meets_attempt]
      refine (meets_evidenceDisclosure call {}).mono fun reached left outcome hleft => ?_
      cases outcome with
      | ok response => exact Scoped.meets_pure.mpr hleft
      | error raised =>
          cases raised with
          | cancelledError =>
              exact meets_failure hleft (evidence_failedEvent call requestId)
                fun _ _ _ hreached => Scoped.meets_throw.mpr hreached
          | _ =>
              exact meets_failure hleft (evidence_failedEvent call requestId)
                fun _ _ _ hreached => Scoped.meets_pure.mpr hreached

end Runners

/-! ### Runs against the storage -/

/-- Between the steps of a call others may write; their rows carry other request ids. -/
structure Undisturbed (requestId : String) (store later : ReportStore) : Prop where
  entries : later.entries requestId = store.entries requestId
  artifacts : later.artifacts requestId = store.artifacts requestId

/-- What an answered request has done to the storage. A transaction that raised has not
committed. -/
def Stored (sha256 : String → String) (store : ReportStore) (event : ToolEvent State)
    (later : ReportStore) : Prop :=
  match event with
  | ⟨.append entry, .ok row⟩ => ∃ now : Instant,
      AuditRepository.append sha256 now entry store.journal = (.ok row, later.journal) ∧
        later.records = store.records
  | ⟨.recordSuccess entry artifactType content, .ok _⟩ => ∃ artifactNow auditNow artifact,
      ReportJournal.recordSuccess sha256 artifactNow auditNow entry artifactType content store =
        (.ok artifact, later)
  | _ => later = store

/-- The events of a call, executed one after the other among the writes of others. -/
inductive Executes (sha256 : String → String) (requestId : String) :
    ReportStore → List (ToolEvent State) → ReportStore → Prop
  | nil {store later : ReportStore} (hothers : Undisturbed requestId store later) :
      Executes sha256 requestId store [] later
  | cons {store before after later : ReportStore} {event : ToolEvent State}
      {trace : List (ToolEvent State)} (hothers : Undisturbed requestId store before)
      (hstored : Stored sha256 before event after)
      (hrest : Executes sha256 requestId after trace later) :
      Executes sha256 requestId store (event :: trace) later

/-- The rows that carry the request id are those the phase tells of. -/
def OnRecord (requestId : String) (phase : DisclosurePhase) (store : ReportStore) : Prop :=
  match phase.recorded with
  | none => store.entries requestId = [] ∧ store.artifacts requestId = []
  | some recording =>
      (∃ entry, store.entries requestId = [entry] ∧ entry.finalStatus = recording.finalStatus) ∧
        match recording.artifact with
        | none => store.artifacts requestId = []
        | some (artifactType, content) => ∃ artifact, store.artifacts requestId = [artifact] ∧
            artifact.artifactType = artifactType ∧ artifact.content = content

section OnRecord

variable {sha256 : String → String} {requestId : String} {phase : DisclosurePhase}
  {store later : ReportStore}

theorem OnRecord.undisturbed (honRecord : OnRecord requestId phase store)
    (hothers : Undisturbed requestId store later) : OnRecord requestId phase later := by
  unfold OnRecord at honRecord ⊢
  rw [hothers.entries, hothers.artifacts]
  exact honRecord

theorem onRecord_next {call : ReadingCall} {event : ToolEvent State}
    (honRecord : OnRecord requestId phase store)
    (hallows : (disclosureProtocol call requestId).allows phase event.request)
    (hstored : Stored sha256 store event later) : OnRecord requestId (phase.next event) later := by
  -- An event that commits nothing leaves the record as it is.
  have hunrecorded (hlater : later = store) (hnext : (phase.next event).recorded = phase.recorded) :
      OnRecord requestId (phase.next event) later := by
    subst hlater
    unfold OnRecord at honRecord ⊢
    rw [hnext]
    exact honRecord
  obtain ⟨request, answer⟩ := event
  cases request with
  | append entry =>
      cases answer with
      | error error => exact hunrecorded hstored rfl
      | ok row =>
          obtain ⟨now, happend, hrecords⟩ := hstored
          obtain ⟨hnone, rfl⟩ := hallows
          rw [OnRecord, hnone] at honRecord
          obtain ⟨hentries, hartifacts⟩ := honRecord
          obtain ⟨hrow, hstatus⟩ := entries_append store (transaction_ok happend) store.records
          have hlater : later = ⟨store.records, later.journal⟩ := by rw [← hrecords]
          refine ⟨⟨row, ?_, hstatus⟩, ?_⟩
          · rw [hlater, hrow, hentries, List.nil_append]
          · change later.artifacts entry.requestId = []
            rw [ReportStore.artifacts, hrecords]
            exact hartifacts
  | recordSuccess entry artifactType content =>
      cases answer with
      | error error => exact hunrecorded hstored rfl
      | ok done =>
          obtain ⟨artifactNow, auditNow, artifact, hrecord⟩ := hstored
          obtain ⟨hnone, rfl⟩ := hallows
          rw [OnRecord, hnone] at honRecord
          obtain ⟨hentries, hartifacts⟩ := honRecord
          obtain ⟨⟨row, hrow, hstatus⟩, hartifact, htype, hcontent⟩ := recordSuccess_ok hrecord
          refine ⟨⟨row, ?_, hstatus⟩, artifact, ?_, htype, hcontent⟩
          · rw [hrow, hentries, List.nil_append]
          · rw [hartifact, hartifacts, List.nil_append]
  | _ =>
      refine hunrecorded ?_ ?_
      · cases answer <;> exact hstored
      · cases answer <;> rfl

/-- Whatever others write in between, the rows of a call stay those its phase tells of. -/
theorem onRecord_of_executes {call : ReadingCall} {trace : List (ToolEvent State)}
    (hexecutes : Executes sha256 requestId store trace later)
    (hallowed : (disclosureProtocol call requestId).Allowed phase trace)
    (honRecord : OnRecord requestId phase store) :
    OnRecord requestId ((disclosureProtocol call requestId).after phase trace) later := by
  induction hexecutes generalizing phase with
  | nil hothers => exact honRecord.undisturbed hothers
  | cons hothers hstored hrest ih =>
      exact ih hallowed.2 (onRecord_next (honRecord.undisturbed hothers) hallowed.1 hstored)

end OnRecord

/-! ### Disclosure -/

def produces : ToolEvent State → Option Produced
  | ⟨.report _ _, .ok result⟩ => some ⟨result.toolResponse, some result.artifactMarkdown⟩
  | ⟨.evidence _, .ok result⟩ => some ⟨result.toolResponse, none⟩
  | _ => none

theorem product_next (phase : DisclosurePhase) (event : ToolEvent State) :
    (phase.next event).product = (produces event).or phase.product := by
  obtain ⟨request, answer⟩ := event
  cases request <;> cases answer <;> rfl

theorem exists_produces {call : ReadingCall} {requestId : String} {produced : Produced}
    {trace : List (ToolEvent State)} {phase : DisclosurePhase}
    (hproduct : ((disclosureProtocol call requestId).after phase trace).product = some produced) :
    phase.product = some produced ∨ ∃ event ∈ trace, produces event = some produced := by
  induction trace generalizing phase with
  | nil => exact .inl hproduct
  | cons event trace ih =>
      rcases ih hproduct with hnext | ⟨other, hother, hproduces⟩
      · replace hnext : (phase.next event).product = some produced := hnext
        rw [product_next] at hnext
        cases hevent : produces event with
        | none =>
            rw [hevent] at hnext
            exact .inl hnext
        | some found =>
            rw [hevent] at hnext
            exact .inr ⟨event, List.mem_cons_self, hevent.trans hnext⟩
      · exact .inr ⟨other, List.mem_cons_of_mem _ hother, hproduces⟩

theorem authorized_of_allowed {call : ReadingCall} {requestId : String}
    {trace : List (ToolEvent State)} {phase : DisclosurePhase}
    (hallowed : (disclosureProtocol call requestId).Allowed phase trace)
    {binding : ConnectionBinding} {answer : Except PyException AdapterHandle}
    (hconnect : (⟨.connect binding, answer⟩ : ToolEvent State) ∈ trace) :
    Authorized call.definition call.companyId binding := by
  induction trace generalizing phase with
  | nil => cases hconnect
  | cons event trace ih =>
      rcases List.mem_cons.mp hconnect with rfl | hrest
      · exact hallowed.1.2
      · exact ih hallowed.2 hrest

structure DisclosureOnRecord (call : ReadingCall) (requestId : String)
    (trace : List (ToolEvent State)) (result : Except PyException ToolResponse)
    (later : ReportStore) : Prop where
  /-- A payload is the one the operation produced, its entry has been committed, and with it the
  artifact of a report. -/
  recorded : ∀ fields, result = .ok (.ok fields) →
    ∃ event ∈ trace, ∃ produced, produces event = some produced ∧
      produced.toolResponse = .ok fields ∧ produced.artifactMarkdown.isSome = call.isReport ∧
        (∃ entry, later.entries requestId = [entry] ∧ entry.finalStatus = "succeeded") ∧
          ∀ content, produced.artifactMarkdown = some content →
            ∃ artifact, later.artifacts requestId = [artifact] ∧
              artifact.artifactType = call.definition.name ∧ artifact.content = content
  /-- At most one entry carries the request id. -/
  single : (later.entries requestId).length ≤ 1
  /-- A call that does not answer with a payload leaves no entry of a success and no artifact. -/
  failed : (∀ fields, result ≠ .ok (.ok fields)) →
    (∀ entry ∈ later.entries requestId, entry.finalStatus ≠ "succeeded") ∧
      later.artifacts requestId = []
  /-- Adapters are created for a caller with the permission and the company. -/
  authorized : ∀ binding answer, (⟨.connect binding, answer⟩ : ToolEvent State) ∈ trace →
    Authorized call.definition call.companyId binding

theorem single_of_onRecord {requestId : String} {phase : DisclosurePhase} {store : ReportStore}
    (honRecord : OnRecord requestId phase store) : (store.entries requestId).length ≤ 1 := by
  unfold OnRecord at honRecord
  split at honRecord
  · simp [honRecord.1]
  · obtain ⟨⟨entry, hentries, -⟩, -⟩ := honRecord
    simp [hentries]

theorem unsuccessful_of_onRecord {requestId : String} {phase : DisclosurePhase}
    {store : ReportStore} (honRecord : OnRecord requestId phase store)
    (hphase : phase.Unsuccessful) :
    (∀ entry ∈ store.entries requestId, entry.finalStatus ≠ "succeeded") ∧
      store.artifacts requestId = [] := by
  unfold OnRecord at honRecord
  rcases hphase with hnone | hfailed
  · rw [hnone] at honRecord
    exact ⟨by simp [honRecord.1], honRecord.2⟩
  · rw [hfailed] at honRecord
    obtain ⟨⟨entry, hentries, hstatus⟩, hartifacts⟩ := honRecord
    refine ⟨fun other hother => ?_, hartifacts⟩
    rw [hentries, List.mem_singleton] at hother
    rw [hother, hstatus]
    decide

/-- **Disclosure is on record.** Whatever the resolver, the adapter, the operation and the storage
answer, and wherever the call is cancelled: if no row carried the request id before, then a payload
is answered only when the one entry of the call has been committed as a success, with its artifact
if it is a report; a call that answers no payload leaves neither; and no adapter was created for a
caller that was not authorized. -/
theorem disclosure_on_record (sha256 : String → String) (call : ReadingCall) (requestId : String)
    {trace : List (ToolEvent State)} {result : Except PyException ToolResponse}
    (hruns : (call.program requestId).Runs trace result) {store later : ReportStore}
    (hentries : store.entries requestId = []) (hartifacts : store.artifacts requestId = [])
    (hexecutes : Executes sha256 requestId store trace later) :
    DisclosureOnRecord call requestId trace result later := by
  have hfollows : (disclosureProtocol call requestId).Follows DisclosurePhase.start
      (call.program requestId : Program (toolSignature State) _ _) fun reached outcome =>
        ∃ _left : ToolLocals State, Disclosed call reached outcome :=
    (meets_disclosure call).follows_run
  have hallowed := hfollows.allowed_of_runs hruns
  obtain ⟨left, hdisclosed⟩ := hfollows.result_of_runs hruns
  have honRecord := onRecord_of_executes hexecutes hallowed ⟨hentries, hartifacts⟩
  refine ⟨?_, single_of_onRecord honRecord, ?_, fun binding answer hconnect =>
    authorized_of_allowed hallowed hconnect⟩
  · rintro fields rfl
    obtain ⟨produced, hproduct, hresponse, hreport, hrecorded⟩ := hdisclosed
    rw [OnRecord, hrecorded] at honRecord
    obtain ⟨hentry, hartifact⟩ := honRecord
    rcases exists_produces hproduct with hstart | ⟨event, hevent, hproduces⟩
    · cases hstart
    · refine ⟨event, hevent, produced, hproduces, hresponse, hreport, hentry, ?_⟩
      intro content hcontent
      rw [hcontent] at hartifact
      exact hartifact
  · intro hnone
    refine unsuccessful_of_onRecord honRecord ?_
    cases result with
    | error error => exact hdisclosed
    | ok response =>
        cases response with
        | ok fields => exact absurd rfl (hnone fields)
        | failed error => exact hdisclosed

/-! ### A report of an empty company -/

def emptyReportCall : ReportCall where
  definition :=
    { name := "get_trial_balance"
      version := "1.0.0"
      riskLevel := .read
      requiredPermission := "accounting_read"
      requiredCapability := none
      annotations := ⟨some true, some false, some true, some true⟩ }
  companyId := 1
  inputPayload := [("company_id", .int 1)]
  storage := true

def readerBinding : ConnectionBinding where
  tenantId := "tenant"
  authenticatedSubject := "subject"
  mcpClient := "client"
  permissions := ["accounting_read"]
  database := "books"
  username := "accountant"
  allowedCompanyIds := [1]

def emptyReport : ReportResponse where
  items := []
  nextCursor := none
  summary := [(.str "total_debit", .str "0.00")]
  artifactMarkdown := "# Trial balance"
  toolResponse := .ok [(.str "items", .list [])]

def emptyReportEvent : AuditEvent :=
  emptyReportCall.succeededEvent "request-1" emptyReport readerBinding ⟨18, "json2", []⟩

def emptyReportTrace : List (ToolEvent Unit) :=
  [⟨.resolve, .ok readerBinding⟩, ⟨.connect readerBinding, .ok (7 : Nat)⟩,
    ⟨.getCompanies (7 : Nat), .ok [⟨1, "Company", none, none⟩]⟩,
    ⟨.getCapabilities (7 : Nat), .ok ⟨18, "json2", []⟩⟩,
    ⟨.report (7 : Nat) ⟨1, "Company", none, none⟩, .ok emptyReport⟩, ⟨.close (7 : Nat), .ok ()⟩,
    ⟨.recordSuccess emptyReportEvent "get_trial_balance" "# Trial balance", .ok ()⟩]

def ReportStore.empty : ReportStore := ⟨.empty, .empty⟩

/-- The report can be stored. -/
theorem exists_recordSuccess : ∃ artifact later,
    ReportJournal.recordSuccess id 63844848000000000 63844848000000000 emptyReportEvent
      "get_trial_balance" "# Trial balance" .empty = (.ok artifact, later) := by
  obtain ⟨row, hrow⟩ : ∃ row,
      auditRow id Store.empty.auditLog 63844848000000000 emptyReportEvent = .ok row :=
    ok_of_isOk (by decide +kernel)
  obtain ⟨entry, journal, happend⟩ := appendInTransaction_isOk_iff.mpr
    ⟨by decide +kernel, row, hrow, _, rfl⟩
  obtain ⟨artifact, records, hcreate⟩ : ∃ artifact records,
      ArtifactRepository.createInTransaction 63844848000000000
        ⟨emptyReportEvent.requestId, emptyReportEvent.tenantId, 1, emptyReportEvent.toolName,
          emptyReportEvent.module, "get_trial_balance", []⟩
        "markdown" "# Trial balance" .empty = .ok (artifact, records) :=
    exists_createInTransaction (by decide +kernel) (by decide +kernel) (by decide +kernel)
      (by decide +kernel) (by decide +kernel) (by decide +kernel) (by decide +kernel)
  exact ⟨artifact, _, recordSuccess_of_ok rfl hcreate happend⟩

theorem undisturbed_refl (requestId : String) (store : ReportStore) :
    Undisturbed requestId store store := ⟨rfl, rfl⟩

theorem disclosure_on_record_report : ∃ later,
    (ReadingCall.program (.accountingReport emptyReportCall) "request-1").Runs emptyReportTrace
      (.ok (.ok [(.str "items", .list [])])) ∧
      Executes id "request-1" .empty emptyReportTrace later ∧
        DisclosureOnRecord (.accountingReport emptyReportCall) "request-1" emptyReportTrace
          (.ok (.ok [(.str "items", .list [])])) later := by
  have hruns : (ReadingCall.program (.accountingReport emptyReportCall) "request-1").Runs
      emptyReportTrace (.ok (.ok [(.str "items", .list [])])) :=
    .ask _ _ _ (.ask _ _ _ (.ask _ _ _ (.ask _ _ _ (.ask _ _ _ (.ask _ _ _ (.ask _ _ _
      (.ret _)))))))
  obtain ⟨artifact, later, hrecord⟩ := exists_recordSuccess
  have hsame := undisturbed_refl "request-1" .empty
  have hexecutes : Executes id "request-1" .empty emptyReportTrace later :=
    .cons hsame rfl (.cons hsame rfl (.cons hsame rfl (.cons hsame rfl (.cons hsame rfl
      (.cons hsame rfl (.cons hsame ⟨_, _, artifact, hrecord⟩
        (.nil (undisturbed_refl "request-1" later))))))))
  exact ⟨later, hruns, hexecutes,
    disclosure_on_record id (.accountingReport emptyReportCall) "request-1" hruns rfl rfl hexecutes⟩

end OdooMcp
