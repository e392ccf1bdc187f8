import OdooMcp.Storage.Audit

/-!
# Secrecy of the audit log

Two payloads are alike when they differ in the values under their sensitive keys only, wherever
these stand. Two events are alike when their payloads are, and when their errors differ in the text
of a message or between codes that are not registered. Events that are alike are stored alike.
-/

namespace OdooMcp

/-! ### Payloads that differ in secrets -/

mutual

/-- The same value, but for what stands under sensitive keys. -/
inductive SecretAlike : PyValue → PyValue → Prop
  | same (value : PyValue) : SecretAlike value value
  | list {items others : List PyValue} (hitems : AlikeItems items others) :
      SecretAlike (.list items) (.list others)
  | tuple {items others : List PyValue} (hitems : AlikeItems items others) :
      SecretAlike (.tuple items) (.tuple others)
  | dict {entries others : List (PyKey × PyValue)} (hentries : AlikeEntries entries others) :
      SecretAlike (.dict entries) (.dict others)

inductive AlikeItems : List PyValue → List PyValue → Prop
  | nil : AlikeItems [] []
  | cons {item other : PyValue} {items others : List PyValue} (hitem : SecretAlike item other)
      (hitems : AlikeItems items others) : AlikeItems (item :: items) (other :: others)

inductive AlikeEntries : List (PyKey × PyValue) → List (PyKey × PyValue) → Prop
  | nil : AlikeEntries [] []
  | secret {key : PyKey} (value other : PyValue) {entries others : List (PyKey × PyValue)}
      (hkey : isSensitive key.text = true) (hentries : AlikeEntries entries others) :
      AlikeEntries ((key, value) :: entries) ((key, other) :: others)
  | plain (key : PyKey) {value other : PyValue} {entries others : List (PyKey × PyValue)}
      (hvalue : SecretAlike value other) (hentries : AlikeEntries entries others) :
      AlikeEntries ((key, value) :: entries) ((key, other) :: others)

end

mutual

/-- Values that are alike are redacted to one value. -/
theorem redactSensitive_eq : ∀ {value other : PyValue}, SecretAlike value other →
    redactSensitive value = redactSensitive other
  | _, _, .same _ => rfl
  | _, _, .list hitems => congrArg PyValue.list (redactItems_eq hitems)
  | _, _, .tuple hitems => congrArg PyValue.list (redactItems_eq hitems)
  | _, _, .dict hentries => congrArg PyValue.dict (redactEntries_eq_of_alike [] hentries)

theorem redactItems_eq : ∀ {items others : List PyValue}, AlikeItems items others →
    redactItems items = redactItems others
  | _, _, .nil => rfl
  | _, _, .cons hitem hitems => by
      rw [redactItems, redactItems, redactSensitive_eq hitem, redactItems_eq hitems]

theorem redactEntries_eq_of_alike : ∀ (collected : List (PyKey × PyValue))
    {entries others : List (PyKey × PyValue)}, AlikeEntries entries others →
      redactEntries collected entries = redactEntries collected others
  | _, _, _, .nil => rfl
  | collected, _, _, .secret value other hkey hentries => by
      rw [redactEntries, redactEntries, if_pos hkey, if_pos hkey]
      exact redactEntries_eq_of_alike _ hentries
  | collected, _, _, .plain key hvalue hentries => by
      rw [redactEntries, redactEntries, redactSensitive_eq hvalue]
      exact redactEntries_eq_of_alike _ hentries

end

/-! ### Events that differ in secrets -/

def AlikePayload (payload other : Payload) : Prop := SecretAlike payload.toValue other.toValue

def AlikeAction (action other : Option Payload) : Prop := Option.Rel AlikePayload action other

def Unregistered (errorCode : String) : Prop := ErrorCode.ofValue? errorCode = none

instance (errorCode : String) : Decidable (Unregistered errorCode) :=
  inferInstanceAs (Decidable (ErrorCode.ofValue? errorCode = none))

/-- One code, or two codes that are not registered. -/
def AlikeCode (errorCode other : Option String) : Prop :=
  errorCode = other ∨
    Option.Rel (fun code another => Unregistered code ∧ Unregistered another) errorCode other

/-- Messages that differ in their text at most. -/
def AlikeMessage (errorMessage other : Option String) : Prop :=
  errorMessage.isSome = other.isSome

structure AlikeEvent (event other : AuditEvent) : Prop where
  inputPayload : AlikePayload event.inputPayload other.inputPayload
  proposedAction : AlikeAction event.proposedAction other.proposedAction
  actualResult : AlikeAction event.actualResult other.actualResult
  errorCode : AlikeCode event.errorCode other.errorCode
  errorMessage : AlikeMessage event.errorMessage other.errorMessage
  rest : other = { event with
    inputPayload := other.inputPayload
    proposedAction := other.proposedAction
    actualResult := other.actualResult
    errorCode := other.errorCode
    errorMessage := other.errorMessage }

section Secrecy

theorem redactedAction_eq {action other : Option Payload} (halike : AlikeAction action other) :
    redactedAction action = redactedAction other := by
  cases halike with
  | some halike => exact redactSensitive_eq halike
  | none => rfl

theorem jsonColumn_eq {action other : Option Payload} (halike : AlikeAction action other) :
    jsonColumn action = jsonColumn other := by
  cases halike with
  | @some payload another halike =>
      have hredacted : redactedPayload payload = redactedPayload another :=
        redactSensitive_eq halike
      unfold jsonColumn
      simp only [hredacted]
  | none => rfl

theorem safeErrorFields_eq {errorCode otherCode errorMessage otherMessage : Option String}
    (hcode : AlikeCode errorCode otherCode) (hmessage : AlikeMessage errorMessage otherMessage) :
    safeErrorFields errorCode errorMessage = safeErrorFields otherCode otherMessage := by
  have hsafe : (errorCode.bind ErrorCode.ofValue?).getD .unknownError =
      (otherCode.bind ErrorCode.ofValue?).getD .unknownError := by
    rcases hcode with rfl | hunregistered
    · rfl
    · cases hunregistered with
      | some hboth => rw [Option.bind_some, Option.bind_some, hboth.1, hboth.2]
      | none => rfl
  have hpresent : errorCode.isSome = otherCode.isSome := by
    rcases hcode with rfl | hunregistered
    · rfl
    · cases hunregistered <;> rfl
  unfold AlikeMessage at hmessage
  unfold safeErrorFields
  rw [hsafe]
  cases errorCode <;> cases otherCode <;> cases errorMessage <;> cases otherMessage <;>
    simp_all

variable {sha256 : String → String} {event other : AuditEvent} (halike : AlikeEvent event other)

include halike

theorem eventValues_eq (previousHash createdAt : String) :
    eventValues event previousHash createdAt = eventValues other previousHash createdAt := by
  unfold eventValues valuesWithError
  rw [safeErrorFields_eq halike.errorCode halike.errorMessage, redactedPayload, redactedPayload,
    redactSensitive_eq halike.inputPayload, redactedAction_eq halike.proposedAction,
    redactedAction_eq halike.actualResult, halike.rest]

theorem auditEntry_eq (id : Nat) (previous : String) (now : Instant) :
    auditEntry sha256 id previous now event = auditEntry sha256 id previous now other := by
  have hvalues := eventValues_eq halike previous
  have herrors := safeErrorFields_eq halike.errorCode halike.errorMessage
  have hinput : redactedPayload event.inputPayload = redactedPayload other.inputPayload :=
    redactSensitive_eq halike.inputPayload
  have hproposed := jsonColumn_eq halike.proposedAction
  have hactual := jsonColumn_eq halike.actualResult
  have hrest := halike.rest
  unfold auditEntry
  simp only [hvalues, herrors, hinput, hproposed, hactual]
  rw [hrest]

theorem auditRow_eq (log : Table AuditRow.key) (now : Instant) :
    auditRow sha256 log now event = auditRow sha256 log now other := by
  have htenant : other.tenantId = event.tenantId := by rw [halike.rest]
  unfold auditRow
  rw [htenant]
  exact auditEntry_eq halike _ _ now

theorem appendInTransaction_eq (now : Instant) :
    AuditRepository.appendInTransaction sha256 now event =
      AuditRepository.appendInTransaction sha256 now other := by
  have hrequired : requireEvent event = requireEvent other := by
    rw [halike.rest]
    rfl
  unfold AuditRepository.appendInTransaction
  simp only [hrequired, auditRow_eq halike]

/-- **Audit secrecy.** Events that are alike are stored alike: an append of either raises the same
error, or stores the same row with the same hash. -/
theorem append_secrecy (now : Instant) (store : Store) :
    AuditRepository.append sha256 now event store =
      AuditRepository.append sha256 now other store := by
  unfold AuditRepository.append
  rw [appendInTransaction_eq halike]

end Secrecy

/-! ### Two logins -/

def loginPayload (key : String) : Payload :=
  [("attempts", .list [.tuple [.dict [(.str "API_Key", .str key), (.str "user", .str "admin")]]])]

def loginEvent (key code message : String) : AuditEvent where
  requestId := "req_1"
  tenantId := "tenant"
  companyId := none
  toolName := "login"
  toolVersion := "1"
  module := "auth"
  authenticatedSubject := "subject"
  mcpClient := "client"
  odooDbName := none
  odooUser := none
  odooVersion := none
  odooTransport := none
  inputPayload := loginPayload key
  dryRun := false
  proposedAction := none
  actualResult := some (loginPayload key)
  affectedOdooRecords := []
  errorCode := some code
  errorMessage := some message
  finalStatus := "failed"
  createdAt := none

theorem loginPayload_alike (key other : String) :
    AlikePayload (loginPayload key) (loginPayload other) :=
  .dict (.plain _ (.list (.cons (.tuple (.cons (.dict (.secret _ _ (by decide +kernel)
    (.plain _ (.same _) .nil))) .nil)) .nil)) .nil)

theorem loginEvent_alike (key other message another : String) :
    AlikeEvent (loginEvent key "E_ONE" message) (loginEvent other "E_TWO" another) where
  inputPayload := loginPayload_alike key other
  proposedAction := .none
  actualResult := .some (loginPayload_alike key other)
  errorCode := .inr (.some ⟨by decide +kernel, by decide +kernel⟩)
  errorMessage := rfl
  rest := rfl

theorem append_secrecy_login : AuditRepository.append id 63844848000000000
    (loginEvent "first" "E_ONE" "wrong key first") .empty =
      AuditRepository.append id 63844848000000000
        (loginEvent "second" "E_TWO" "wrong key second") .empty :=
  append_secrecy (loginEvent_alike "first" "second" "wrong key first" "wrong key second")
    63844848000000000 .empty

end OdooMcp
