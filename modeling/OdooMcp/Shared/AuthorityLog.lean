import OdooMcp.Effect.Precedence
import OdooMcp.Shared.Evolution
import OdooMcp.Shared.Seals
import OdooMcp.Storage.AuditSystem

/-!
# Authority on record

The operations on connectors share one audit log, and write to it in their own transactions.
Whatever they do, the log only grows, and the chain of each tenant verifies. An activation, a
revocation and a rotation leave their entry with their effect.
-/

namespace OdooMcp

open Effect Statements

variable {deployment : SharedDeployment} {sha256 : String → String} {store later : SharedStore}
  {event : SharedEvent}

/-! ### Journals that grow -/

def Appends (sha256 : String → String) (store : Store) (event : AuditEvent) (later : Store) :
    Prop :=
  ∃ now row, AuditRepository.appendInTransaction sha256 now event store = .ok (row, later)

/-- The later journal is the earlier one with these events appended, or none. -/
def Logs (sha256 : String → String) (store later : SharedStore) : Prop :=
  ∃ events, StepPath (Appends sha256) store.journal events later.journal

instance : Std.Refl (Logs sha256) where
  refl store := ⟨[], .nil store.journal⟩

instance : IsTrans SharedStore (Logs sha256) where
  trans _ _ _ hfirst hsecond := by
    obtain ⟨first, hfirst⟩ := hfirst
    obtain ⟨second, hsecond⟩ := hsecond
    exact ⟨first ++ second, hfirst.append hsecond⟩

theorem logs_of_journal (hsame : later.journal = store.journal) : Logs sha256 store later := by
  refine ⟨[], ?_⟩
  rw [hsame]
  exact .nil store.journal

theorem logs_of_append {now : Instant} {event : AuditEvent} {row : AuditRow} {journal : Store}
    (happend : AuditRepository.appendInTransaction sha256 now event store.journal =
      .ok (row, journal)) (hjournal : later.journal = journal) : Logs sha256 store later := by
  refine ⟨[event], ?_⟩
  rw [hjournal]
  exact .cons ⟨now, row, happend⟩ (.nil journal)

theorem logs_kept (sha256 : String → String) : KeptByStatements sha256 (Logs sha256) where
  same _ hjournal := logs_of_journal hjournal
  connectors := by
    intro condition change hkey htext hversion store rowcount later hupdate
    obtain ⟨-, connectors, -, rfl, -⟩ := updateConnectors_ok.mp hupdate
    exact logs_of_journal rfl
  discarded condition := by
    intro store value later hdelete
    obtain ⟨-, rfl⟩ := deleteConnectors_ok.mp hdelete
    exact logs_of_journal rfl
  audit now event := by
    intro store value later happend
    obtain ⟨row, journal, happended, rfl⟩ := appendAudit_ok.mp happend
    exact logs_of_append happended rfl

theorem logs_insertConnector (row : ConnectorRow) : Keeps (Logs sha256) (insertConnector row) := by
  intro store value later hinsert
  obtain ⟨-, -, connectors, -, rfl⟩ := insertConnector_ok.mp hinsert
  exact logs_of_journal rfl

theorem logs_statements (ambient : Ambient) (request : SharedRequest) :
    Keeps (Logs deployment.sha256) (deployment.statements ambient request) := by
  cases hseals : request.seals with
  | false => exact (logs_kept _).statements hseals
  | true =>
      cases request with
      | insertPrepared keyring credentials handle verified =>
          refine (keeps_lift _).bind fun _ => keeps_get.bind fun store => ?_
          split
          · exact keeps_lift _
          · exact (logs_insertConnector _).bind fun _ => ((logs_kept _).audit _ _).bind fun _ =>
              keeps_pure _
      | rotate keyring tenantId connectionId requestId subject mcpClient =>
          intro store rotated later hrotate
          obtain ⟨row, -, -, -, hsame | ⟨-, -, plaintext, connectors, event, journal, -, -,
            happend, rfl⟩⟩ := rotate_ok hrotate
          · rw [hsame.2.2]
            exact Std.Refl.refl store
          · exact logs_of_append happend rfl
      | _ => cases hseals

theorem SharedDeployment.Step.logs (hstep : deployment.Step store event later) :
    Logs deployment.sha256 store later := by
  have hlater : (deployment.execute event.ambient event.request store).2 = later :=
    congrArg Prod.snd hstep
  rw [← hlater]
  exact (logs_statements event.ambient event.request).commit store

theorem Logs.of_run {events : List SharedEvent} (hrun : deployment.Run store events later) :
    Logs deployment.sha256 store later := by
  induction hrun with
  | nil state => exact Std.Refl.refl state
  | cons hstep _ ih => exact IsTrans.trans _ _ _ hstep.logs ih

/-- The entries of the log stay where they are. -/
theorem Logs.rows (hlogs : Logs sha256 store later) :
    ∃ rows, later.journal.auditLog.rows = store.journal.auditLog.rows ++ rows := by
  obtain ⟨events, hpath⟩ := hlogs
  have hgrows : ∀ {first last : Store} {events : List AuditEvent},
      StepPath (Appends sha256) first events last →
        ∃ rows, last.auditLog.rows = first.auditLog.rows ++ rows := by
    intro first last events hpath
    induction hpath with
    | nil state => exact ⟨[], (List.append_nil _).symm⟩
    | cons hstep _ ih =>
        obtain ⟨now, row, happend⟩ := hstep
        obtain ⟨rows, hrows⟩ := ih
        rw [(appendInTransaction_ok happend).2.1, List.append_assoc] at hrows
        exact ⟨row :: rows, hrows⟩
  exact hgrows hpath

/-- A journal that has grown from an empty one is the work of `append`. -/
theorem appendedStore_of_path {first last : Store} {before events : List AuditEvent}
    (hfirst : AppendedStore sha256 first before)
    (hpath : StepPath (Appends sha256) first events last) :
    AppendedStore sha256 last (before ++ events) := by
  induction hpath generalizing before with
  | nil state =>
      rw [List.append_nil]
      exact hfirst
  | @cons state reached _ event events hstep _ ih =>
      obtain ⟨now, row, happend⟩ := hstep
      have hcommitted : AuditRepository.append sha256 now event state = (.ok row, reached) :=
        commit_ok.mpr happend
      rw [List.append_cons]
      exact ih (hfirst.accepted hcommitted)

/-! ### What an operation records -/

/-- A log entry of this request, for this operation, which succeeded. -/
def SharedStore.HasRecord (store : SharedStore) (requestId operation : String) : Prop :=
  ∃ row ∈ store.journal.auditLog.rows,
    row.requestId = requestId ∧ row.toolName = operation ∧ row.finalStatus = "succeeded"

theorem Logs.hasRecord {requestId operation : String} (hlogs : Logs sha256 store later)
    (hrecord : store.HasRecord requestId operation) : later.HasRecord requestId operation := by
  obtain ⟨row, hrow, hfields⟩ := hrecord
  obtain ⟨rows, hrows⟩ := hlogs.rows
  refine ⟨row, ?_, hfields⟩
  rw [hrows]
  exact List.mem_append_left _ hrow

theorem auditRow_toolName {log : Table AuditRow.key} {now : Instant} {event : AuditEvent}
    {row : AuditRow} (hrow : auditRow sha256 log now event = .ok row) :
    row.toolName = event.toolName := by
  simp only [auditRow, auditEntry, bind, Except.bind] at hrow
  repeat' split at hrow
  all_goals cases hrow
  rfl

theorem hasRecord_of_append {now : Instant} {event : AuditEvent} {row : AuditRow} {journal : Store}
    (happend : AuditRepository.appendInTransaction sha256 now event store.journal =
      .ok (row, journal)) (hjournal : later.journal = journal)
    (hsucceeded : event.finalStatus = "succeeded") :
    later.HasRecord event.requestId event.toolName := by
  obtain ⟨-, hrows, hrequest, hstatus⟩ := appendInTransaction_ok happend
  obtain ⟨-, hrow, -⟩ := appendInTransaction_ok_iff.mp happend
  refine ⟨row, ?_, hrequest, auditRow_toolName hrow, hstatus.trans hsucceeded⟩
  rw [hjournal, hrows]
  exact List.mem_append_right _ (List.mem_singleton.mpr rfl)

theorem hasRecord_of_providerAudit {provider : SharedOAuthProvider} (haudit : provider.audit = true)
    {now : Instant} {requestId tenantId operation connectorId : String} {value : Unit}
    (happend : provider.appendAudit sha256 now requestId tenantId operation connectorId store =
      .ok (value, later)) : later.HasRecord ("req_" ++ requestId) operation := by
  unfold SharedOAuthProvider.appendAudit at happend
  rw [if_pos haudit] at happend
  obtain ⟨row, journal, happended, rfl⟩ := appendAudit_ok.mp happend
  exact hasRecord_of_append happended rfl rfl

/-- The event changed the authority of a connector or its key, under this request id and as this
operation. -/
inductive SharedEvent.RecordedAs : SharedEvent → String → String → Prop
  | activateConnector (ambient : Ambient) (session : String) (consent : Bool)
      (redirect : Redirect) :
      RecordedAs ⟨ambient, .activateConnector session consent, .ok redirect⟩
        ("req_" ++ ambient.random 2) "activate_connector"
  | revokeConnector (ambient : Ambient) (authorization : ConnectorAuthorization) :
      RecordedAs ⟨ambient, .revokeConnector authorization, .ok ()⟩
        ("req_" ++ ambient.random 0) "revoke_connector"
  | rotate (ambient : Ambient) (keyring : EncryptionKeyring)
      (tenantId connectionId requestId subject mcpClient : String) :
      RecordedAs ⟨ambient, .rotate keyring tenantId connectionId requestId subject mcpClient,
        .ok true⟩ requestId "rotate_erp_connection_key"

theorem SharedEvent.RecordedAs.hasRecord {requestId operation : String}
    (haudit : deployment.provider.audit = true) (hrecorded : event.RecordedAs requestId operation)
    (hstep : deployment.Step store event later) : later.HasRecord requestId operation := by
  cases hrecorded with
  | activateConnector ambient session consent redirect =>
      have hactivate : deployment.provider.activateConnector deployment.sha256 ambient session
          consent store = .ok (redirect, later) := commit_ok.mp hstep
      simp only [SharedOAuthProvider.activateConnector, bind_ok] at hactivate
      obtain ⟨_, _, -, target, _, -, _, _, -, _, _, -, _, recorded, happend, _, superseded,
        hrevoke, _, last, hsessions, hpure⟩ := hactivate
      obtain ⟨-, rfl⟩ := pure_ok.mp hpure
      have hrecord := hasRecord_of_providerAudit haudit happend
      have hrevoked := (logs_kept deployment.sha256).revokeSuperseded _ _ _ _ _ _ hrevoke
      have hlast := (logs_kept deployment.sha256).sessions _ _ _ hsessions
      exact hlast.hasRecord (hrevoked.hasRecord hrecord)
  | revokeConnector ambient authorization =>
      have hrevoke : deployment.provider.revokeConnector deployment.sha256 ambient authorization
          store = .ok ((), later) := commit_ok.mp hstep
      simp only [SharedOAuthProvider.revokeConnector, bind_ok] at hrevoke
      obtain ⟨_, _, -, _, _, -, _, _, -, happend⟩ := hrevoke
      exact hasRecord_of_providerAudit haudit happend
  | rotate ambient keyring tenantId connectionId requestId subject mcpClient =>
      have hrotate : EncryptedConnectionRepository.rotate deployment.sha256 deployment.cipher
          keyring ambient tenantId connectionId requestId subject mcpClient store =
            .ok (true, later) := commit_ok.mp hstep
      obtain ⟨row, -, -, -, ⟨-, hfalse, -⟩ | ⟨-, -, plaintext, connectors, event, journal, -, -,
        happend, rfl⟩⟩ := rotate_ok hrotate
      · cases hfalse
      · exact hasRecord_of_append happend rfl rfl

/-- **Authority is on record.** At the end of every run the chain of each tenant in the audit log
verifies; every activation, revocation and rotation of the run has its entry, with its request id;
and whatever runs from there only appends. -/
theorem authority_on_record {events : List SharedEvent}
    (haudit : deployment.provider.audit = true) (hrun : deployment.Run .empty events store) :
    (∀ tenantId now, isBlank tenantId = false →
      AuditRepository.verifyChain deployment.sha256 now tenantId store.journal.auditLog.rows =
        .ok ⟨tenantId, (tenantRows tenantId store.journal.auditLog.rows).length,
          lastHash tenantId store.journal.auditLog.rows⟩) ∧
      (∀ event ∈ events, ∀ requestId operation, event.RecordedAs requestId operation →
        store.HasRecord requestId operation) ∧
        ∀ rest later, deployment.Run store rest later →
          ∃ rows, later.journal.auditLog.rows = store.journal.auditLog.rows ++ rows := by
  refine ⟨fun tenantId now hnamed => ?_, fun event hevent requestId operation hrecorded => ?_,
    fun rest later hrest => (Logs.of_run hrest).rows⟩
  · obtain ⟨appended, hpath⟩ := Logs.of_run hrun
    have hreachable := (appendedStore_of_path .empty hpath).reachable.1
    exact (hreachable.inv.chained tenantId).verifyChain hnamed now
  · obtain ⟨before, after, rfl⟩ := List.append_of_mem hevent
    obtain ⟨state, reached, -, hstep, hafter⟩ := hrun.split
    exact (Logs.of_run hafter).hasRecord (hrecorded.hasRecord haudit hstep)

theorem authority_on_record_sample :
    sampleEvents.all SharedEvent.succeeded = true ∧
      ∀ tenantId now, isBlank tenantId = false →
        AuditRepository.verifyChain sampleDeployment.sha256 now tenantId
            sampleStore.journal.auditLog.rows =
          .ok ⟨tenantId, (tenantRows tenantId sampleStore.journal.auditLog.rows).length,
            lastHash tenantId sampleStore.journal.auditLog.rows⟩ :=
  ⟨sampleEvents_succeed, (authority_on_record rfl sampleRun).1⟩

end OdooMcp
