import OdooMcp.Storage.AuditChain

/-!
# Interleaved audit appends

Any number of transactions append to the log, statement by statement and in any order. A statement
sees the committed rows and those of its own transaction. The lock of a tenant is held from an
append until its transaction ends; a database that runs one write transaction at a time, and needs
no lock, is the special case in which nothing interleaves. A new id is larger than that of every row
of the table, whether it is committed or not.
-/

namespace OdooMcp

open AuditRepository HashChain

/-- How far an append has come. -/
inductive AppendStage
  | idle
  | locked (event : AuditEvent)
  | selected (event : AuditEvent) (previous : String)

structure AuditTransaction where
  locked : List String
  rows : List AuditRow
  events : List AuditEvent
  stage : AppendStage

def AuditTransaction.empty : AuditTransaction := ⟨[], [], [], .idle⟩

/-- The committed rows, the events they were appended for, and the open transactions. -/
structure AuditSystem where
  committed : List AuditRow
  appended : List AuditEvent
  transactions : Nat → Option AuditTransaction

namespace AuditSystem

def empty : AuditSystem := ⟨[], [], fun _ => none⟩

def put (system : AuditSystem) (name : Nat) (current : Option AuditTransaction) : AuditSystem :=
  { system with transactions := Function.update system.transactions name current }

/-- The rows a statement of the transaction sees. -/
def visible (system : AuditSystem) (current : AuditTransaction) : List AuditRow :=
  system.committed ++ current.rows

def RowOf (system : AuditSystem) (row : AuditRow) : Prop :=
  row ∈ system.committed ∨
    ∃ name current, system.transactions name = some current ∧ row ∈ current.rows

end AuditSystem

/-- `SELECT entry_hash FROM audit_log WHERE tenant_id = ? ORDER BY id DESC LIMIT 1`, or the genesis
hash. -/
def lastHash (tenantId : String) (rows : List AuditRow) : String :=
  head AuditRow.entryHash genesisHash (rowsOf tenantId rows)

variable (sha256 : String → String)

/-- One statement of one transaction. -/
inductive AuditStep : AuditSystem → AuditSystem → Prop
  | start {system : AuditSystem} {name : Nat} (hnone : system.transactions name = none) :
      AuditStep system (system.put name (some .empty))
  | lock {system : AuditSystem} {name : Nat} {current : AuditTransaction} {event : AuditEvent}
      (hcurrent : system.transactions name = some current) (hidle : current.stage = .idle)
      (hrequired : requireEvent event = .ok ())
      (hfree : ∀ other holder, other ≠ name → system.transactions other = some holder →
        event.tenantId ∉ holder.locked) :
      AuditStep system (system.put name (some { current with
        locked := event.tenantId :: current.locked
        stage := .locked event }))
  | select {system : AuditSystem} {name : Nat} {current : AuditTransaction} {event : AuditEvent}
      (hcurrent : system.transactions name = some current)
      (hlocked : current.stage = .locked event) :
      AuditStep system (system.put name (some { current with
        stage := .selected event (lastHash event.tenantId (system.visible current)) }))
  | insert {system : AuditSystem} {name : Nat} {current : AuditTransaction} {event : AuditEvent}
      {previous : String} {now : Instant} {id : Nat} {row : AuditRow} {record : AuditRecord}
      (hcurrent : system.transactions name = some current)
      (hselected : current.stage = .selected event previous)
      (hid : ∀ other, system.RowOf other → other.id < id)
      (hrow : auditEntry sha256 id previous now event = .ok row)
      (hunique : ∀ other ∈ system.visible current, other.key ≠ row.key)
      (hrecord : rowToRecord row = .ok record) :
      AuditStep system (system.put name (some { current with
        rows := current.rows ++ [row]
        events := current.events ++ [event]
        stage := .idle }))
  | commit {system : AuditSystem} {name : Nat} {current : AuditTransaction}
      (hcurrent : system.transactions name = some current) (hidle : current.stage = .idle) :
      AuditStep system { system.put name none with
        committed := system.committed ++ current.rows
        appended := system.appended ++ current.events }
  | rollback {system : AuditSystem} {name : Nat} {current : AuditTransaction}
      (hcurrent : system.transactions name = some current) :
      AuditStep system (system.put name none)

def AuditSystem.Reachable : AuditSystem → Prop :=
  Relation.ReflTransGen (AuditStep sha256) .empty

/-! ### Chains of one tenant -/

def tenantRows (tenantId : String) (rows : List AuditRow) : List AuditRow :=
  rows.filter fun row => row.tenantId = tenantId

/-- Rows of one tenant that can be read and form a chain of verified entries. -/
structure Chained (rows : List AuditRow) : Prop where
  ids : rows.Pairwise (·.id < ·.id)
  verified : ∀ row ∈ rows, ∃ record, rowToRecord row = .ok record ∧
    ∀ now, Verified sha256 now record
  linked : Linked AuditRow.previousHash AuditRow.entryHash genesisHash rows

variable {sha256}

theorem tenantRows_append (tenantId : String) (first second : List AuditRow) :
    tenantRows tenantId (first ++ second) =
      tenantRows tenantId first ++ tenantRows tenantId second :=
  List.filter_append ..

theorem tenantRows_of_foreign {tenantId : String} {rows : List AuditRow}
    (hforeign : ∀ row ∈ rows, row.tenantId ≠ tenantId) : tenantRows tenantId rows = [] := by
  rw [tenantRows, List.filter_eq_nil_iff]
  intro row hrow
  simpa using hforeign row hrow

theorem rowsOf_of_sorted {tenantId : String} {rows : List AuditRow}
    (hids : (tenantRows tenantId rows).Pairwise (·.id < ·.id)) :
    rowsOf tenantId rows = tenantRows tenantId rows := by
  have hsorted : (tenantRows tenantId rows).Pairwise (idBefore · ·) :=
    hids.imp fun hlt => by simpa [idBefore] using Nat.le_of_lt hlt
  exact hsorted.insertionSort_eq

theorem Chained.lastHash_eq {tenantId : String} {rows : List AuditRow}
    (hchained : Chained sha256 (tenantRows tenantId rows)) :
    lastHash tenantId rows = head AuditRow.entryHash genesisHash (tenantRows tenantId rows) := by
  rw [lastHash, rowsOf_of_sorted hchained.ids]

theorem Chained.nil : Chained sha256 [] :=
  ⟨.nil, by simp, trivial⟩

/-- A chain stays one when an entry is appended behind its head. -/
theorem Chained.append {rows : List AuditRow} {id : Nat} {now : Instant} {event : AuditEvent}
    {row : AuditRow} (hchained : Chained sha256 rows)
    (hrow : auditEntry sha256 id (head AuditRow.entryHash genesisHash rows) now event = .ok row)
    (hid : ∀ other ∈ rows, other.id < id) : Chained sha256 (rows ++ [row]) := by
  obtain ⟨hrowId, -, record, hrecord, hverified, hprevious, -⟩ := auditEntry_verified hrow
  have hrowPrevious : row.previousHash = head AuditRow.entryHash genesisHash rows := by
    obtain ⟨_, _, _, _, _, -, -, -, -, -, rfl⟩ := rowToRecord_ok.mp hrecord
    exact hprevious
  refine ⟨?_, ?_, linked_append_singleton.mpr ⟨hchained.linked, hrowPrevious⟩⟩
  · rw [List.pairwise_append]
    refine ⟨hchained.ids, List.pairwise_singleton _ _, fun other hother last hlast => ?_⟩
    rw [List.mem_singleton.mp hlast, hrowId]
    exact hid other hother
  · intro other hother
    rcases List.mem_append.mp hother with hold | hnew
    · exact hchained.verified other hold
    · rw [List.mem_singleton.mp hnew]
      exact ⟨record, hrecord, hverified⟩

/-- A chain is accepted with its length and its head. -/
theorem Chained.verifyChain {tenantId : String} {rows : List AuditRow}
    (hchained : Chained sha256 (tenantRows tenantId rows)) (hnamed : isBlank tenantId = false)
    (now : Instant) :
    AuditRepository.verifyChain sha256 now tenantId rows =
      .ok ⟨tenantId, (tenantRows tenantId rows).length, lastHash tenantId rows⟩ := by
  have hread : ∀ chain : List AuditRow, (∀ row ∈ chain, ∃ record, rowToRecord row = .ok record ∧
      ∀ moment, Verified sha256 moment record) → ∀ previous,
        Linked AuditRow.previousHash AuditRow.entryHash previous chain →
          ∃ records, chain.mapM rowToRecord = .ok records ∧ records.length = chain.length ∧
            (∀ record ∈ records, Verified sha256 now record) ∧
              Linked AuditRecord.previousHash AuditRecord.entryHash previous records ∧
                head AuditRecord.entryHash previous records =
                  head AuditRow.entryHash previous chain := by
    intro chain
    induction chain with
    | nil => exact fun _ _ _ => ⟨[], rfl, rfl, by simp, trivial, rfl⟩
    | cons row chain ih =>
        intro hverified previous hlinked
        rw [List.forall_mem_cons] at hverified
        obtain ⟨⟨record, hrecord, hrecordVerified⟩, hrest⟩ := hverified
        have hfields : record.previousHash = row.previousHash ∧
            record.entryHash = row.entryHash := by
          obtain ⟨_, _, _, _, _, -, -, -, -, -, rfl⟩ := rowToRecord_ok.mp hrecord
          exact ⟨rfl, rfl⟩
        obtain ⟨records, hrecords, hlength, hall, hrecordsLinked, hhead⟩ :=
          ih hrest row.entryHash hlinked.2
        refine ⟨record :: records, ?_, ?_, ?_, ?_, ?_⟩
        · rw [List.mapM_cons]
          exact except_bind_ok.mpr ⟨record, hrecord, except_bind_ok.mpr ⟨records, hrecords, rfl⟩⟩
        · rw [List.length_cons, List.length_cons, hlength]
        · exact List.forall_mem_cons.mpr ⟨hrecordVerified now, hall⟩
        · refine ⟨hfields.1.trans hlinked.1, ?_⟩
          rw [hfields.2]
          exact hrecordsLinked
        · rw [head, head, hfields.2]
          exact hhead
  obtain ⟨records, hrecords, hlength, hall, hlinked, hhead⟩ :=
    hread _ hchained.verified genesisHash hchained.linked
  refine verifyChain_ok.mpr ⟨records, ?_, hall, hlinked, ?_⟩
  · rw [listForTenant_ok, rowsOf_of_sorted hchained.ids]
    exact ⟨hnamed, hrecords⟩
  · rw [hchained.lastHash_eq, hlength, hhead]

/-! ### The invariant -/

/-- What holds of an open transaction: its rows are of tenants whose lock it holds, and continue the
chains of these tenants. -/
structure AuditTransaction.Inv (sha256 : String → String) (committed : List AuditRow)
    (current : AuditTransaction) : Prop where
  owned : ∀ row ∈ current.rows, row.tenantId ∈ current.locked
  tenants : current.rows.map (·.tenantId) = current.events.map (·.tenantId)
  named : ∀ event ∈ current.events, isBlank event.tenantId = false
  chained : ∀ tenantId ∈ current.locked,
    Chained sha256 (tenantRows tenantId (committed ++ current.rows))
  locked : ∀ event, current.stage = .locked event →
    event.tenantId ∈ current.locked ∧ isBlank event.tenantId = false
  selected : ∀ event previous, current.stage = .selected event previous →
    event.tenantId ∈ current.locked ∧ isBlank event.tenantId = false ∧
      previous = lastHash event.tenantId (committed ++ current.rows)

structure AuditSystem.Inv (sha256 : String → String) (system : AuditSystem) : Prop where
  chained : ∀ tenantId, Chained sha256 (tenantRows tenantId system.committed)
  tenants : system.committed.map (·.tenantId) = system.appended.map (·.tenantId)
  named : ∀ event ∈ system.appended, isBlank event.tenantId = false
  transaction : ∀ name current, system.transactions name = some current →
    current.Inv sha256 system.committed
  disjoint : ∀ name other current holder, name ≠ other →
    system.transactions name = some current → system.transactions other = some holder →
      ∀ tenantId ∈ current.locked, tenantId ∉ holder.locked

/-- Rows of tenants that a transaction has not locked do not concern it. -/
theorem AuditTransaction.Inv.extend {committed added : List AuditRow} {current : AuditTransaction}
    (hinv : current.Inv sha256 committed)
    (hforeign : ∀ row ∈ added, row.tenantId ∉ current.locked) :
    current.Inv sha256 (committed ++ added) := by
  have hsame : ∀ tenantId ∈ current.locked,
      tenantRows tenantId (committed ++ added ++ current.rows) =
        tenantRows tenantId (committed ++ current.rows) := by
    intro tenantId htenant
    have hnone : tenantRows tenantId added = [] := by
      refine tenantRows_of_foreign fun row hrow heq => ?_
      exact hforeign row hrow (heq ▸ htenant)
    rw [tenantRows_append, tenantRows_append, hnone, List.append_nil, tenantRows_append]
  refine ⟨hinv.owned, hinv.tenants, hinv.named, fun tenantId htenant => ?_, hinv.locked,
    fun event previous hstage => ?_⟩
  · rw [hsame tenantId htenant]
    exact hinv.chained tenantId htenant
  · obtain ⟨hlocked, hnamed, hprevious⟩ := hinv.selected event previous hstage
    refine ⟨hlocked, hnamed, ?_⟩
    have hrows : rowsOf event.tenantId (committed ++ added ++ current.rows) =
        rowsOf event.tenantId (committed ++ current.rows) :=
      congrArg (List.insertionSort (idBefore · ·)) (hsame event.tenantId hlocked)
    rw [hprevious, lastHash, lastHash, hrows]

namespace AuditSystem

theorem put_of_ne (system : AuditSystem) {name other : Nat} (hne : other ≠ name)
    (current : Option AuditTransaction) :
    (system.put name current).transactions other = system.transactions other :=
  Function.update_of_ne hne _ _

theorem put_self (system : AuditSystem) (name : Nat) (current : Option AuditTransaction) :
    (system.put name current).transactions name = current :=
  Function.update_self ..

/-- A statement that moves one transaction on. -/
theorem Inv.put {system : AuditSystem} (hinv : system.Inv sha256) {name : Nat}
    {next : AuditTransaction} (hnext : next.Inv sha256 system.committed)
    (hfree : ∀ other holder, other ≠ name → system.transactions other = some holder →
      ∀ tenantId ∈ next.locked, tenantId ∉ holder.locked) :
    (system.put name (some next)).Inv sha256 := by
  refine ⟨hinv.chained, hinv.tenants, hinv.named, fun other current hcurrent => ?_,
    fun first second current holder hne hcurrent hholder tenantId htenant => ?_⟩
  · by_cases hname : other = name
    · subst hname
      rw [put_self] at hcurrent
      cases hcurrent
      exact hnext
    · rw [put_of_ne _ hname] at hcurrent
      exact hinv.transaction other current hcurrent
  · by_cases hfirst : first = name
    · subst hfirst
      rw [put_self] at hcurrent
      cases hcurrent
      rw [put_of_ne _ hne.symm] at hholder
      exact hfree second holder hne.symm hholder tenantId htenant
    · rw [put_of_ne _ hfirst] at hcurrent
      by_cases hsecond : second = name
      · subst hsecond
        rw [put_self] at hholder
        cases hholder
        exact fun hmem => hfree first current hfirst hcurrent tenantId hmem htenant
      · rw [put_of_ne _ hsecond] at hholder
        exact hinv.disjoint first second current holder hne hcurrent hholder tenantId htenant

/-- A transaction that ends leaves its tenants free. -/
theorem Inv.drop {system : AuditSystem} (hinv : system.Inv sha256) (name : Nat) :
    (system.put name none).Inv sha256 := by
  have hopen {other : Nat} {current : AuditTransaction}
      (hcurrent : (system.put name none).transactions other = some current) :
      system.transactions other = some current := by
    by_cases hname : other = name
    · subst hname
      rw [put_self] at hcurrent
      cases hcurrent
    · rwa [put_of_ne _ hname] at hcurrent
  exact ⟨hinv.chained, hinv.tenants, hinv.named,
    fun other current hcurrent => hinv.transaction other current (hopen hcurrent),
    fun first second current holder hne hcurrent hholder =>
      hinv.disjoint first second current holder hne (hopen hcurrent) (hopen hholder)⟩

theorem inv_empty : AuditSystem.empty.Inv sha256 :=
  ⟨fun _ => Chained.nil, rfl, by simp [AuditSystem.empty], fun _ _ hcurrent => (by cases hcurrent),
    fun _ _ _ _ _ hcurrent => (by cases hcurrent)⟩

end AuditSystem

/-- The row an append inserts continues the chain of its tenant, and no other one. -/
theorem AuditTransaction.Inv.insert {system : AuditSystem} {current : AuditTransaction}
    {event : AuditEvent} {previous : String} {now : Instant} {id : Nat} {row : AuditRow}
    (hinv : current.Inv sha256 system.committed)
    (hselected : current.stage = .selected event previous)
    (hid : ∀ other ∈ system.visible current, other.id < id)
    (hrow : auditEntry sha256 id previous now event = .ok row) :
    ({ current with
      rows := current.rows ++ [row]
      events := current.events ++ [event]
      stage := .idle } : AuditTransaction).Inv sha256 system.committed := by
  obtain ⟨hlocked, hnamed, hprevious⟩ := hinv.selected event previous hselected
  obtain ⟨-, htenant, -⟩ := auditEntry_verified hrow
  refine ⟨?_, ?_, ?_, ?_, fun _ hstage => (by cases hstage), fun _ _ hstage => (by cases hstage)⟩
  · intro other hother
    rcases List.mem_append.mp hother with hold | hnew
    · exact hinv.owned other hold
    · rw [List.mem_singleton.mp hnew, htenant]
      exact hlocked
  · rw [List.map_append, List.map_append, hinv.tenants]
    simp [htenant]
  · intro other hother
    rcases List.mem_append.mp hother with hold | hnew
    · exact hinv.named other hold
    · rw [List.mem_singleton.mp hnew]
      exact hnamed
  · intro tenantId hmem
    change Chained sha256 (tenantRows tenantId (system.committed ++ (current.rows ++ [row])))
    rw [← List.append_assoc, tenantRows_append]
    have hchained := hinv.chained tenantId hmem
    by_cases hsame : event.tenantId = tenantId
    · subst hsame
      have hkept : tenantRows event.tenantId [row] = [row] := by simp [tenantRows, htenant]
      rw [hkept]
      rw [hprevious, hchained.lastHash_eq] at hrow
      exact hchained.append hrow fun other hother => hid other (List.mem_of_mem_filter hother)
    · have hdropped : tenantRows tenantId [row] = [] := by simp [tenantRows, htenant, hsame]
      rw [hdropped, List.append_nil]
      exact hchained

theorem tenant_named {event : AuditEvent} (hrequired : requireEvent event = .ok ()) :
    isBlank event.tenantId = false := by
  unfold requireEvent at hrequired
  split at hrequired
  · cases hrequired
  · rename_i hnone
    rw [Bool.not_eq_true, List.any_eq_false] at hnone
    have hnamed := hnone event.tenantId (by simp [requiredValues])
    rwa [Bool.not_eq_true] at hnamed

/-- **One statement keeps the chains.** -/
theorem AuditStep.inv {system later : AuditSystem} (hstep : AuditStep sha256 system later)
    (hinv : system.Inv sha256) : later.Inv sha256 := by
  cases hstep with
  | start hnone =>
      refine hinv.put ⟨by simp [AuditTransaction.empty], rfl, by simp [AuditTransaction.empty],
        by simp [AuditTransaction.empty], fun _ hstage => (by cases hstage),
          fun _ _ hstage => (by cases hstage)⟩ ?_
      intro other holder _ _ tenantId htenant
      cases htenant
  | @lock name current event hcurrent hidle hrequired hfree =>
      have hold := hinv.transaction name current hcurrent
      refine hinv.put ⟨fun row hrow => List.mem_cons_of_mem _ (hold.owned row hrow), hold.tenants,
        hold.named, ?_, ?_, fun _ _ hstage => (by cases hstage)⟩ ?_
      · intro tenantId htenant
        rcases List.mem_cons.mp htenant with rfl | hmem
        · by_cases hheld : event.tenantId ∈ current.locked
          · exact hold.chained _ hheld
          · have hnone : tenantRows event.tenantId current.rows = [] := by
              refine tenantRows_of_foreign fun row hrow heq => ?_
              exact hheld (heq ▸ hold.owned row hrow)
            rw [tenantRows_append, hnone, List.append_nil]
            exact hinv.chained _
        · exact hold.chained _ hmem
      · intro other hstage
        cases hstage
        exact ⟨List.mem_cons_self, tenant_named hrequired⟩
      · intro other holder hne hholder tenantId htenant
        rcases List.mem_cons.mp htenant with rfl | hmem
        · exact hfree other holder hne hholder
        · exact hinv.disjoint name other current holder hne.symm hcurrent hholder tenantId hmem
  | @select name current event hcurrent hlocked =>
      have hold := hinv.transaction name current hcurrent
      refine hinv.put ⟨hold.owned, hold.tenants, hold.named, hold.chained,
        fun _ hstage => (by cases hstage), ?_⟩
        fun other holder hne hholder =>
          hinv.disjoint name other current holder hne.symm hcurrent hholder
      intro other previous hstage
      cases hstage
      obtain ⟨hmem, hnamed⟩ := hold.locked event hlocked
      exact ⟨hmem, hnamed, rfl⟩
  | @insert name current event previous now id row record hcurrent hselected hid hrow =>
      have hvisible : ∀ other ∈ system.visible current, other.id < id := by
        intro other hother
        refine hid other ?_
        rcases List.mem_append.mp hother with hcommitted | hown
        · exact .inl hcommitted
        · exact .inr ⟨name, current, hcurrent, hown⟩
      exact hinv.put ((hinv.transaction name current hcurrent).insert hselected hvisible hrow)
        fun other holder hne hholder =>
          hinv.disjoint name other current holder hne.symm hcurrent hholder
  | @commit name current hcurrent hidle =>
      have hold := hinv.transaction name current hcurrent
      have hdropped := hinv.drop name
      refine ⟨?_, ?_, ?_, ?_, hdropped.disjoint⟩
      · intro tenantId
        by_cases hheld : tenantId ∈ current.locked
        · exact hold.chained tenantId hheld
        · change Chained sha256 (tenantRows tenantId (system.committed ++ current.rows))
          have hnone : tenantRows tenantId current.rows = [] := by
            refine tenantRows_of_foreign fun row hrow heq => ?_
            exact hheld (heq ▸ hold.owned row hrow)
          rw [tenantRows_append, hnone, List.append_nil]
          exact hinv.chained tenantId
      · change (system.committed ++ current.rows).map _ = (system.appended ++ current.events).map _
        rw [List.map_append, List.map_append, hinv.tenants, hold.tenants]
      · intro event hevent
        rcases List.mem_append.mp hevent with hbefore | hadded
        · exact hinv.named event hbefore
        · exact hold.named event hadded
      · intro other holder hholder
        have hne : other ≠ name := by
          rintro rfl
          rw [AuditSystem.put_self] at hholder
          cases hholder
        refine (hdropped.transaction other holder hholder).extend fun row hrow => ?_
        change (system.put name none).transactions other = some holder at hholder
        rw [AuditSystem.put_of_ne _ hne] at hholder
        exact hinv.disjoint name other current holder hne.symm hcurrent hholder row.tenantId
          (hold.owned row hrow)
  | rollback hcurrent => exact hinv.drop _

theorem AuditSystem.Reachable.inv {system : AuditSystem} (hreachable : system.Reachable sha256) :
    system.Inv sha256 := by
  induction hreachable with
  | refl => exact inv_empty
  | tail _ hstep ih => exact hstep.inv ih

/-! ### Appends one after another -/

/-- The stores that `append` produces, with the events it accepted. -/
inductive AppendedStore (sha256 : String → String) : Store → List AuditEvent → Prop
  | empty : AppendedStore sha256 .empty []
  | accepted {store later : Store} {events : List AuditEvent} {now : Instant} {event : AuditEvent}
      {row : AuditRow} (hstore : AppendedStore sha256 store events)
      (happend : append sha256 now event store = (.ok row, later)) :
      AppendedStore sha256 later (events ++ [event])
  | refused {store later : Store} {events : List AuditEvent} {now : Instant} {event : AuditEvent}
      {error : PyException} (hstore : AppendedStore sha256 store events)
      (happend : append sha256 now event store = (.error error, later)) :
      AppendedStore sha256 later events

def acceptsAll (sha256 : String → String) : List AuditEvent → Store → Bool
  | [], _ => true
  | event :: events, store =>
      match append sha256 0 event store with
      | (.ok _, later) => acceptsAll sha256 events later
      | (.error _, _) => false

theorem AppendedStore.exists_of_acceptsAll {events before : List AuditEvent} {store : Store}
    (hstore : AppendedStore sha256 store before)
    (haccepts : acceptsAll sha256 events store = true) :
    ∃ later, AppendedStore sha256 later (before ++ events) := by
  induction events generalizing before store with
  | nil => exact ⟨store, (List.append_nil before).symm ▸ hstore⟩
  | cons event events ih =>
      rw [acceptsAll] at haccepts
      split at haccepts
      · rename_i happend
        obtain ⟨later, hlater⟩ := ih (hstore.accepted happend) haccepts
        rw [List.append_assoc] at hlater
        exact ⟨later, hlater⟩
      · cases haccepts

theorem previousHash_eq_lastHash {log : Table AuditRow.key} {tenantId : String}
    (hchained : Chained sha256 (tenantRows tenantId log.rows)) :
    previousHash log tenantId = lastHash tenantId log.rows := by
  rw [hchained.lastHash_eq, head_eq_getLast?]
  unfold previousHash tenantRows
  cases (log.rows.filter fun row => row.tenantId = tenantId).getLast? <;> rfl

/-- The statements of one append run from a system without open transactions. -/
theorem reachable_append {system : AuditSystem} (hreachable : system.Reachable sha256)
    (hquiet : system.transactions = fun _ => none) {now : Instant} {event : AuditEvent} {id : Nat}
    {row : AuditRow} (hrequired : requireEvent event = .ok ())
    (hid : ∀ other ∈ system.committed, other.id < id)
    (hrow : auditEntry sha256 id (lastHash event.tenantId system.committed) now event = .ok row)
    (hunique : ∀ other ∈ system.committed, other.key ≠ row.key) :
    AuditSystem.Reachable sha256
      ⟨system.committed ++ [row], system.appended ++ [event], fun _ => none⟩ := by
  obtain ⟨-, -, record, hrecord, -⟩ := auditEntry_verified hrow
  have hself (current : AuditTransaction) :
      (system.put 0 (some current)).transactions 0 = some current := system.put_self 0 _
  have hagain (first second : Option AuditTransaction) :
      (system.put 0 first).put 0 second = system.put 0 second := by
    simp only [AuditSystem.put, Function.update_idem]
  have hstart : AuditStep sha256 system (system.put 0 (some .empty)) := .start (by rw [hquiet])
  have hlock : AuditStep sha256 (system.put 0 (some .empty))
      (system.put 0 (some ⟨[event.tenantId], [], [], .locked event⟩)) := by
    rw [← hagain (some .empty) (some ⟨[event.tenantId], [], [], .locked event⟩)]
    refine .lock (hself .empty) rfl hrequired fun other holder hne hholder => ?_
    rw [AuditSystem.put_of_ne _ hne, hquiet] at hholder
    cases hholder
  have hselect : AuditStep sha256 (system.put 0 (some ⟨[event.tenantId], [], [], .locked event⟩))
      (system.put 0 (some ⟨[event.tenantId], [], [],
        .selected event (lastHash event.tenantId system.committed)⟩)) := by
    have hstep : AuditStep sha256 _ _ :=
      .select (hself ⟨[event.tenantId], [], [], .locked event⟩) rfl
    rwa [hagain, AuditSystem.visible, List.append_nil] at hstep
  have hinsert : AuditStep sha256 (system.put 0 (some ⟨[event.tenantId], [], [],
      .selected event (lastHash event.tenantId system.committed)⟩))
        (system.put 0 (some ⟨[event.tenantId], [row], [event], .idle⟩)) := by
    rw [← hagain (some ⟨[event.tenantId], [], [],
      .selected event (lastHash event.tenantId system.committed)⟩)
        (some ⟨[event.tenantId], [row], [event], .idle⟩)]
    refine .insert (hself _) rfl ?_ hrow ?_ hrecord
    · rintro other (hcommitted | ⟨name, current, hcurrent, hmem⟩)
      · exact hid other hcommitted
      · by_cases hname : name = 0
        · subst hname
          rw [hself] at hcurrent
          cases hcurrent
          cases hmem
        · rw [AuditSystem.put_of_ne _ hname, hquiet] at hcurrent
          cases hcurrent
    · intro other hother
      rw [AuditSystem.visible, List.append_nil] at hother
      exact hunique other hother
  have hcommit : AuditStep sha256 (system.put 0 (some ⟨[event.tenantId], [row], [event], .idle⟩))
      ⟨system.committed ++ [row], system.appended ++ [event], fun _ => none⟩ := by
    have hstep : AuditStep sha256 _ ⟨system.committed ++ [row], system.appended ++ [event],
        ((system.put 0 (some ⟨[event.tenantId], [row], [event], .idle⟩)).put 0
          none).transactions⟩ :=
      .commit (hself ⟨[event.tenantId], [row], [event], .idle⟩) rfl
    have hclosed : (system.put 0 none).transactions = fun _ => none := by
      rw [AuditSystem.put, hquiet]
      exact Function.update_eq_self 0 _
    rwa [hagain, hclosed] at hstep
  exact ((((hreachable.tail hstart).tail hlock).tail hselect).tail hinsert).tail hcommit

/-- **Refinement.** The appends of a database that runs one transaction at a time are runs of the
interleaved system. -/
theorem AppendedStore.reachable {store : Store} {events : List AuditEvent}
    (hstore : AppendedStore sha256 store events) :
    AuditSystem.Reachable sha256 ⟨store.auditLog.rows, events, fun _ => none⟩ ∧
      store.auditLog.rows.map (·.id) = List.range' 1 store.auditLog.rows.length := by
  induction hstore with
  | empty => exact ⟨.refl, rfl⟩
  | @accepted store later events now event row _ happend ih =>
      obtain ⟨hreachable, hids⟩ := ih
      obtain ⟨hrequired, hrow, log, hinsert, rfl⟩ :=
        appendInTransaction_ok_iff.mp (transaction_ok happend)
      have hchained := hreachable.inv.chained event.tenantId
      have hid : ∀ other ∈ store.auditLog.rows, other.id < store.auditLog.rows.length + 1 := by
        intro other hother
        have hmem : other.id ∈ store.auditLog.rows.map (·.id) := List.mem_map_of_mem hother
        rw [hids, List.mem_range'_1] at hmem
        omega
      rw [auditRow, previousHash_eq_lastHash hchained] at hrow
      have hrun := reachable_append hreachable rfl hrequired hid hrow
        fun other hother => Table.key_ne_of_insert? hinsert other hother
      rw [Table.rows_insert? hinsert]
      refine ⟨hrun, ?_⟩
      rw [List.map_append, hids, List.length_append, List.length_singleton, List.range'_concat,
        List.map_singleton, (auditEntry_verified hrow).1, Nat.one_mul, Nat.add_comm]
  | refused _ happend ih =>
      rw [transaction_error happend]
      exact ih

/-! ### Completeness -/

theorem length_tenantRows_of_map_eq {rows : List AuditRow} {events : List AuditEvent}
    (hmap : rows.map (·.tenantId) = events.map (·.tenantId)) (tenantId : String) :
    (tenantRows tenantId rows).length =
      (events.filter fun event => event.tenantId = tenantId).length := by
  have hrows : (tenantRows tenantId rows).length =
      ((rows.map (·.tenantId)).filter fun other => other = tenantId).length := by
    rw [List.filter_map, List.length_map]
    rfl
  have hevents : (events.filter fun event => event.tenantId = tenantId).length =
      ((events.map (·.tenantId)).filter fun other => other = tenantId).length := by
    rw [List.filter_map, List.length_map]
    rfl
  rw [hrows, hmap, hevents]

theorem verifyChain_congr {now : Instant} {tenantId : String} {first second : List AuditRow}
    (hrows : tenantRows tenantId first = tenantRows tenantId second) :
    verifyChain sha256 now tenantId first = verifyChain sha256 now tenantId second ∧
      lastHash tenantId first = lastHash tenantId second := by
  have hsorted : rowsOf tenantId first = rowsOf tenantId second :=
    congrArg (List.insertionSort (idBefore · ·)) hrows
  unfold AuditRepository.verifyChain listForTenant lastHash
  rw [hsorted]
  exact ⟨rfl, rfl⟩

/-- A statement adds to the log of a tenant only what its transaction appended there. -/
theorem AuditStep.tenantRows_eq {system later : AuditSystem}
    (hstep : AuditStep sha256 system later) (hinv : system.Inv sha256) {tenantId : String}
    (hother : ∀ event ∈ later.appended.drop system.appended.length, event.tenantId ≠ tenantId) :
    tenantRows tenantId later.committed = tenantRows tenantId system.committed := by
  cases hstep with
  | @commit name current hcurrent hidle =>
      change tenantRows tenantId (system.committed ++ current.rows) = _
      have hnone : tenantRows tenantId current.rows = [] := by
        refine tenantRows_of_foreign fun row hrow heq => ?_
        have hmem : row.tenantId ∈ current.events.map (·.tenantId) := by
          rw [← (hinv.transaction name current hcurrent).tenants]
          exact List.mem_map_of_mem hrow
        obtain ⟨event, hevent, hsame⟩ := List.mem_map.mp hmem
        refine hother event ?_ (hsame.trans heq)
        change event ∈ (system.appended ++ current.events).drop system.appended.length
        rwa [List.drop_left]
      rw [tenantRows_append, hnone, List.append_nil]
  | _ => rfl

/-- **Audit chain completeness.** However the statements of the appending transactions interleave,
the chain of every tenant is accepted with the number of events appended to it, no event is appended
to a tenant without a name, and a step that commits nothing for a tenant changes neither the
acceptance nor the head of its chain. -/
theorem audit_chain_complete {system : AuditSystem} (hreachable : system.Reachable sha256) :
    (∀ now tenantId, isBlank tenantId = false →
      verifyChain sha256 now tenantId system.committed =
        .ok ⟨tenantId, (system.appended.filter fun event => event.tenantId = tenantId).length,
          lastHash tenantId system.committed⟩) ∧
      (∀ event ∈ system.appended, isBlank event.tenantId = false) ∧
      ∀ later, AuditStep sha256 system later → ∀ now tenantId,
        (∀ event ∈ later.appended.drop system.appended.length, event.tenantId ≠ tenantId) →
          verifyChain sha256 now tenantId later.committed =
              verifyChain sha256 now tenantId system.committed ∧
            lastHash tenantId later.committed = lastHash tenantId system.committed := by
  have hinv := hreachable.inv
  refine ⟨?_, hinv.named, ?_⟩
  · intro now tenantId hnamed
    rw [(hinv.chained tenantId).verifyChain hnamed, length_tenantRows_of_map_eq hinv.tenants]
  · intro later hstep now tenantId hother
    exact verifyChain_congr (hstep.tenantRows_eq hinv hother)

/-- A payload with every kind of value that an append changes on the way into the log. -/
def sampleAuditEvent : AuditEvent where
  requestId := "req_1"
  tenantId := "tenant-a"
  companyId := some 1
  toolName := "synthetic_tool"
  toolVersion := "1.0"
  module := "accounting"
  authenticatedSubject := "subject-a"
  mcpClient := "test-client"
  odooDbName := none
  odooUser := none
  odooVersion := some "19"
  odooTransport := some "json2"
  inputPayload := [("company_id", .int 1), ("api_key", .str "must-not-be-stored"),
    ("lines", .tuple [.list [.float "0.5" true], .dict [(.int 7, .none), (.bool true, .str "x")]])]
  dryRun := false
  proposedAction := none
  actualResult := some []
  affectedOdooRecords := ["account.move:1"]
  errorCode := some "unheard of"
  errorMessage := some "upstream text"
  finalStatus := "failed"
  createdAt := some ⟨63844855199000001, some 7200000000⟩

/-- Two events of one tenant, with one of another tenant between them. -/
def sampleAuditEvents : List AuditEvent :=
  [sampleAuditEvent, { sampleAuditEvent with requestId := "req_2", tenantId := "tenant-b" },
    { sampleAuditEvent with requestId := "req_3", actualResult := none }]

theorem audit_chain_complete_sampleEvents :
    ∃ system : AuditSystem, system.Reachable id ∧ system.appended = sampleAuditEvents ∧
      verifyChain id 0 "tenant-a" system.committed =
        .ok ⟨"tenant-a", 2, lastHash "tenant-a" system.committed⟩ ∧
      verifyChain id 0 "tenant-b" system.committed =
        .ok ⟨"tenant-b", 1, lastHash "tenant-b" system.committed⟩ := by
  have haccepts : acceptsAll id sampleAuditEvents .empty = true := by decide +kernel
  obtain ⟨later, hstore⟩ := AppendedStore.empty.exists_of_acceptsAll haccepts
  have hreachable := hstore.reachable.1
  have hchain (tenantId : String) (count : Nat)
      (hcount : (sampleAuditEvents.countP fun event => event.tenantId = tenantId) = count)
      (hnamed : isBlank tenantId = false) :
      verifyChain id 0 tenantId later.auditLog.rows =
        .ok ⟨tenantId, count, lastHash tenantId later.auditLog.rows⟩ := by
    rw [← hcount, List.countP_eq_length_filter]
    exact (audit_chain_complete hreachable).1 0 tenantId hnamed
  exact ⟨_, hreachable, rfl, hchain "tenant-a" 2 (by decide) (by decide),
    hchain "tenant-b" 1 (by decide) (by decide)⟩

end OdooMcp
