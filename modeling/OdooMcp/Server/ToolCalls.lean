import OdooMcp.Adapters.AccountingReader
import OdooMcp.Effect.Scoped
import OdooMcp.Policy.Coordinator

/-!
# Tool calls

What a tool of the server asks of the resolver, of the adapter factory, of an adapter, of the
storage and of the registry of payslip locks, and the steps that its runners share. Every request
may be answered with any exception; a cancellation is an answer like another. `State` is what the
preparation of a write leaves for its later steps.
-/

namespace OdooMcp

open Effect

/-- `ErrorResponse` -/
structure ErrorResponse where
  errorCode : ErrorCode
  errorMessage : String
  remediationHint : String
  requestId : String
  deriving DecidableEq

/-- `as_response` -/
def OdooMcpError.asResponse (error : OdooMcpError) (requestId : String) : ErrorResponse :=
  ⟨error.code, error.safeMessage, error.remediationHint, requestId⟩

/-- What its runner reads of the result of a report. `toolResponse` is what `from_success` makes of
the result: the fields of the response, or the message of a validation that fails. -/
structure ReportResponse where
  items : List PyValue
  nextCursor : Option String
  summary : PyDict
  artifactMarkdown : String
  toolResponse : Except String PyDict

/-- The classes of Payroll evidence that `_result_projection` tells apart. -/
inductive EvidenceItems
  | paged (itemCount : Nat) (nextCursor : Option String)
  | findings (count : Nat)
  | other

structure PayrollEvidenceResponse where
  items : EvidenceItems
  limitations : List String
  toolResponse : Except String PyDict

abbrev AdapterHandle := Nat

abbrev PayslipKey := String × Int × Int

inductive ToolRequest (State : Type)
  | resolve
  | connect (binding : ConnectionBinding)
  | getCompanies (adapter : AdapterHandle)
  | getCapabilities (adapter : AdapterHandle)
  | report (adapter : AdapterHandle) (company : Company)
  | evidence (adapter : AdapterHandle)
  | buildProposal (adapter : AdapterHandle) (company : Company) (currency : RelatedRecord)
  | prepareOperation (adapter : AdapterHandle) (version : Option Int)
  | validateOperation (adapter : AdapterHandle) (state : State)
  | executeOperation (adapter : AdapterHandle) (state : State)
  | close (adapter : AdapterHandle)
  | append (event : AuditEvent)
  | recordSuccess (event : AuditEvent) (artifactType content : String)
  | recordProposal (payload : PyDict) (artifactMarkdown : PyValue)
  | begin (event : AuditEvent) (idempotencyKey : String) (requestPayload : Payload)
  | finish (event : AuditEvent) (idempotencyKey : String) (state : IdempotencyState)
      (response : Option Payload)
  | acquire (key : PayslipKey)
  | release (key : PayslipKey)

abbrev toolSignature (State : Type) : Signature where
  Request := ToolRequest State
  Result
    | .resolve => ConnectionBinding
    | .connect _ => AdapterHandle
    | .getCompanies _ => List Company
    | .getCapabilities _ => CapabilitySnapshot
    | .report _ _ => ReportResponse
    | .evidence _ => PayrollEvidenceResponse
    | .buildProposal _ _ _ => State
    | .prepareOperation _ _ => State × PrepareReturn
    | .validateOperation _ _ => Unit
    | .executeOperation _ _ => ExecuteReturn
    | .close _ => Unit
    | .append _ => AuditRow
    | .recordSuccess _ _ _ => Unit
    | .recordProposal _ _ => Nat
    | .begin _ _ _ => IdempotencyDecision
    | .finish _ _ _ _ => Unit
    | .acquire _ => Bool
    | .release _ => Unit

structure ToolLocals (State : Type) where
  binding : Option ConnectionBinding := none
  snapshot : Option CapabilitySnapshot := none
  adapter : Option AdapterHandle := none
  state : Option State := none

abbrev ToolEvent (State : Type) := Event (toolSignature State) PyException

abbrev ToolBody (State : Type) := Scoped (toolSignature State) PyException (ToolLocals State)

namespace ToolBody

variable {State α : Type}

def ask (request : ToolRequest State) : ToolBody State ((toolSignature State).Result request) :=
  Scoped.await (S := toolSignature State) request

/-- `try … except Exception`: any exception but a cancellation is answered by the fallback. -/
def orElse (body : ToolBody State α) (fallback : PyException → ToolBody State α) :
    ToolBody State α := do
  match ← Scoped.attempt body with
  | .ok value => return value
  | .error .cancelledError => throw .cancelledError
  | .error error => fallback error

end ToolBody

def isCancellation : PyException → Bool
  | .cancelledError => true
  | _ => false

def isCancelled {α : Type} : Except PyException α → Bool
  | .ok _ => false
  | .error error => isCancellation error

section OrElse

variable {State α φ : Type} {protocol : Protocol (toolSignature State) PyException φ} {phase : φ}
  {body : ToolBody State α} {fallback : PyException → ToolBody State α}

/-- The fallback runs for an exception that is no cancellation. -/
theorem meets_orElse {locals : ToolLocals State}
    {post : φ → ToolLocals State → Except PyException α → Prop}
    (hbody : Scoped.Meets protocol phase locals body fun reached left outcome =>
      match outcome with
      | .ok value => post reached left (.ok value)
      | .error error =>
          if isCancellation error then post reached left (.error .cancelledError)
          else Scoped.Meets protocol reached left (fallback error) post) :
    Scoped.Meets protocol phase locals (ToolBody.orElse body fallback) post := by
  unfold ToolBody.orElse
  rw [Scoped.meets_bind, Scoped.meets_attempt]
  refine hbody.mono fun reached left outcome hleft => ?_
  cases outcome with
  | ok value => exact Scoped.meets_pure.mpr hleft
  | error error =>
      cases error with
      | cancelledError => exact Scoped.meets_throw.mpr hleft
      | _ => exact hleft

theorem keeps_orElse (hbody : Scoped.Keeps protocol phase body)
    (hfallback : ∀ error, Scoped.Keeps protocol phase (fallback error)) :
    Scoped.Keeps protocol phase (ToolBody.orElse body fallback) := by
  refine hbody.attempt.bind fun outcome => ?_
  split
  · exact .pure
  · exact .throw
  · exact hfallback _

end OrElse

open ToolBody

variable {State : Type}

/-- The error a runner answers with: that of a public exception, or else the unexpected one. -/
def errorOf (requestId : String) (unexpected : ErrorResponse) : PyException → ErrorResponse
  | .odooMcpError error => error.asResponse requestId
  | _ => unexpected

/-- Resolve the binding of the caller, and check the permission and the company. -/
def authorize (definition : ToolDefinition) (companyId : Int) (deniedMessage deniedHint : String) :
    ToolBody State ConnectionBinding := do
  let binding ← ask .resolve
  Scoped.assign fun locals => { locals with binding := some binding }
  Scoped.ofExcept (ensure (binding.permissions.contains definition.requiredPermission)
    (.odooMcpError ⟨.odooAuthFailed, deniedMessage, deniedHint⟩))
  Scoped.ofExcept (ensure (binding.allowedCompanyIds.contains companyId)
    (companyNotFound "The requested company is not authorized for this connection."
      "Use an authorized company ID and retry."))
  return binding

def findCompany (adapter : AdapterHandle) (companyId : Int) : ToolBody State Company := do
  let companies ← ask (.getCompanies adapter)
  Scoped.ofExcept (orRaise (companies.find? fun item => item.id = companyId)
    (companyNotFound "The requested company is unavailable to the technical user."
      "Check company access and retry."))

def openAdapter (binding : ConnectionBinding) : ToolBody State AdapterHandle := do
  let adapter ← ask (.connect binding)
  Scoped.assign fun locals => { locals with adapter := some adapter }
  return adapter

def readCapabilities (adapter : AdapterHandle) : ToolBody State CapabilitySnapshot := do
  let snapshot ← ask (.getCapabilities adapter)
  Scoped.assign fun locals => { locals with snapshot := some snapshot }
  return snapshot

/-- `await _close_adapter(adapter)`, and the handlers forget the adapter. -/
def closeAdapter (adapter : AdapterHandle) : ToolBody State Unit := do
  ask (.close adapter)
  Scoped.assign fun locals => { locals with adapter := none }

def withAdapter {α : Type} (binding : ConnectionBinding) (use : AdapterHandle → ToolBody State α) :
    ToolBody State α := do
  let adapter ← ask (.connect binding)
  Scoped.ensuring (use adapter) (ask (.close adapter))

/-- The cleanup of the handlers: an adapter that was not closed is closed now, and an exception of
the close may change what is answered. -/
def cleanUp {α : Type} (answer : α) (onFailure : α → α) : ToolBody State α := do
  match (← Scoped.current).adapter with
  | none => return answer
  | some adapter =>
      orElse (do ask (.close adapter); return answer) fun _ => return onFailure answer

/-- Append the audit event of a failed call if there is a binding and a storage; an exception is
suppressed. -/
def auditFailure (storage : Bool)
    (event : ConnectionBinding → Option CapabilitySnapshot → Except PyException AuditEvent) :
    ToolBody State Unit := do
  let locals ← Scoped.current
  match locals.binding, storage with
  | some binding, true =>
      orElse
        (do
          let event ← Scoped.ofExcept (event binding locals.snapshot)
          let _ ← ask (.append event)
          return ())
        fun _ => return ()
  | _, _ => return ()

def hasCapability (definition : ToolDefinition) (snapshot : CapabilitySnapshot) : Bool :=
  definition.requiredCapability.all fun capability =>
    (dictGet snapshot.modules capability).getD false

/-- The handlers of invalid input: the caller is authorized first, and the failure is audited. -/
def invalidRequest (definition : ToolDefinition) (companyId : Int)
    (deniedMessage deniedHint : String) (invalid unexpected : ErrorResponse) (storage : Bool)
    (event : ErrorResponse → ConnectionBinding → Option CapabilitySnapshot →
      Except PyException AuditEvent)
    (requestId : String) : ToolBody State ErrorResponse := do
  let error ← orElse
    (do
      let _ ← authorize definition companyId deniedMessage deniedHint
      return invalid)
    fun exception => return errorOf requestId unexpected exception
  auditFailure storage (event error)
  return error

end OdooMcp
