import OdooMcp.Storage.SQLiteMigrations

/-!
# Migrations that fail or are cut off

Where a call of `apply_migrations` stops, by an error or by the end of its process, the recorded
history is a prefix of the list and the schema is the one that these migrations make. Another call
goes on from there, and what it leaves, a call that was never stopped can leave too.
-/

namespace OdooMcp

open Effect

variable {σ : Type}

namespace SQLiteMigrations

variable {sqlite : SQLiteEngine σ} {engine : MigrationEngine σ} {world : LoggedConnection σ}

/-! ### One migration after the other -/

/-- The transactions of these migrations, committed one after the other. -/
inductive AppliedAll (engine : MigrationEngine σ) :
    List Migration → MigrationDatabase σ → MigrationDatabase σ → Prop
  | nil (database : MigrationDatabase σ) : AppliedAll engine [] database database
  | cons {migration : Migration} {migrations : List Migration}
      {database middle later : MigrationDatabase σ}
      (happlied : engine.Performs (.apply migration) database (.ok ()) middle)
      (hrest : AppliedAll engine migrations middle later) :
      AppliedAll engine (migration :: migrations) database later

theorem AppliedAll.append {first rest : List Migration}
    {database middle later : MigrationDatabase σ}
    (hfirst : AppliedAll engine first database middle)
    (hrest : AppliedAll engine rest middle later) :
    AppliedAll engine (first ++ rest) database later := by
  induction hfirst with
  | nil database => exact hrest
  | cons happlied _ ih => exact .cons happlied (ih hrest)

/-- So many of the pending migrations are committed, and no statement of a later one but the next
was sent. -/
structure Underway (engine : MigrationEngine σ) (pending : List Migration)
    (database : MigrationDatabase σ) (done : List String) (world : LoggedConnection σ) : Prop where
  applied : ∃ first rest, pending = first ++ rest ∧ AppliedAll engine first database world.1.durable
  sent : ∃ part, part <+: pending.flatMap Migration.statements ∧
    executedStatements world.2 = done ++ part

/-- Every pending migration is committed. -/
structure Finished (engine : MigrationEngine σ) (pending : List Migration)
    (database : MigrationDatabase σ) (done : List String) (world : LoggedConnection σ) : Prop where
  applied : AppliedAll engine pending database world.1.durable
  sent : executedStatements world.2 = done ++ pending.flatMap Migration.statements

theorem forM_applyOne_endures {pending : List Migration}
    (hkeeps : sqlite.KeepsAllToSchema engine pending) :
    Program.Endures (serves sqlite)
      (Underway engine pending world.1.durable (executedStatements world.2))
      (fun result later => result = .ok ⟨⟩ →
        Finished engine pending world.1.durable (executedStatements world.2) later)
      (forM pending (applyOne engine.sha256)) world := by
  induction pending generalizing world with
  | nil =>
      exact ⟨⟨⟨[], [], rfl, .nil _⟩, [], List.nil_prefix, (List.append_nil _).symm⟩,
        fun _ => ⟨.nil _, (List.append_nil _).symm⟩⟩
  | cons migration pending ih =>
      obtain ⟨hfirst, hrest⟩ := List.forall_mem_cons.mp hkeeps
      have hone : Program.Endures (serves sqlite)
          (CutOff world.1.durable
            (fun _ : Unit => Applied engine migration world.1.durable (executedStatements world.2))
            fun executed => ∃ part, part <+: migration.statements ∧
              executed = executedStatements world.2 ++ part)
          (Settled world.1.durable fun _ =>
            Applied engine migration world.1.durable (executedStatements world.2))
          (applyOne engine.sha256 migration) world :=
        applyOne_endures hfirst rfl fun part hpart => ⟨part, hpart, rfl⟩
      rw [List.forM_cons]
      refine (hone.mono (fun later hcut => ?_) fun _ _ _ hsettled => hsettled).bind
        (fun _ later _ hsettled => ?_) fun _ _ _ _ herror => by cases herror
      · obtain ⟨part, hpart, hexecuted⟩ := hcut.sent
        refine ⟨?_, part, ?_, hexecuted⟩
        · rcases hcut.durable with hsame | ⟨_, happlied, -⟩
          · exact ⟨[], migration :: pending, rfl, by rw [hsame]; exact .nil _⟩
          · exact ⟨[migration], pending, rfl, .cons happlied (.nil _)⟩
        · rw [List.flatMap_cons]
          exact hpart.trans (List.prefix_append ..)
      · obtain ⟨happlied, hexecuted⟩ := hsettled
        refine (ih hrest).mono (fun last hunderway => ?_) fun result last _ hfinished hresult => ?_
        · obtain ⟨⟨first, rest, rfl, hfirst⟩, part, hpart, hlast⟩ := hunderway
          refine ⟨⟨migration :: first, rest, rfl, .cons happlied hfirst⟩,
            migration.statements ++ part, ?_, ?_⟩
          · rw [List.flatMap_cons]
            exact (List.prefix_append_right_inj _).mpr hpart
          · rw [hlast, hexecuted, List.append_assoc]
        · obtain ⟨hrest, hlast⟩ := hfinished hresult
          refine ⟨.cons happlied hrest, ?_⟩
          rw [hlast, hexecuted, List.append_assoc, List.flatMap_cons]

end SQLiteMigrations

/-! ### The history -/

/-- The database with its history table. -/
def MigrationDatabase.opened (database : MigrationDatabase σ) : MigrationDatabase σ :=
  { database with history := some (database.history.getD .empty) }

theorem MigrationDatabase.entries_opened (database : MigrationDatabase σ) :
    database.opened.entries = database.entries := by
  unfold MigrationDatabase.opened MigrationDatabase.entries
  cases database.history with
  | none => rfl
  | some table => rfl

theorem MigrationDatabase.opened_of_isSome {database : MigrationDatabase σ}
    (hhistory : database.history.isSome) : database.opened = database := by
  obtain ⟨schema, history⟩ := database
  obtain ⟨table, rfl⟩ := Option.isSome_iff_exists.mp hhistory
  rfl

namespace SQLiteMigrations

open MigrationEngine (Increasing checksum_expected Stands isSome_of_performs)

variable {sqlite : SQLiteEngine σ} {engine : MigrationEngine σ} {world : LoggedConnection σ}
  {migrations : List Migration}

theorem applyAfter_known (hincreasing : Increasing migrations) {rows : List (String × String)}
    (hrows : rows = (migrations.take rows.length).map engine.entry) :
    applyAfter engine.sha256 migrations rows =
      applyFrom engine.sha256 migrations rows.length := by
  have hids : rows.map Prod.fst = (migrations.map Migration.identifier).take rows.length := by
    rw [← List.map_take]
    conv_lhs => rw [hrows]
    rw [List.map_map]
    rfl
  have hchecksums : (rows.any fun row =>
      (migrations.find? (·.identifier = row.1)).map (Migration.checksum engine.sha256) ≠
        some row.2) = false := by
    rw [List.any_eq_false]
    intro row hrow
    rw [hrows] at hrow
    obtain ⟨migration, hmigration, rfl⟩ := List.mem_map.mp hrow
    rw [checksum_expected hincreasing (List.mem_of_mem_take hmigration)]
    simp
  change (if rows.map Prod.fst ≠ (migrations.map Migration.identifier).take rows.length then _
    else _) = _
  rw [if_neg (not_not_intro hids)]
  rw [hchecksums]
  rfl

theorem applyAfter_unknown (hincreasing : Increasing migrations) {rows : List (String × String)}
    (hrows : rows ≠ (migrations.take rows.length).map engine.entry) :
    ∃ error, applyAfter engine.sha256 migrations rows = .raise error := by
  unfold applyAfter
  dsimp only
  split
  · exact ⟨_, rfl⟩
  · split
    · exact ⟨_, rfl⟩
    · rename_i hids hchecksums
      refine absurd ?_ hrows
      have hids := not_not.mp hids
      rw [← List.map_take] at hids
      have hlength : rows.length = (migrations.take rows.length).length := by
        simpa using congrArg List.length hids
      refine List.ext_getElem (by rwa [List.length_map]) fun index hrow hentry => ?_
      have hmigration : index < (migrations.take rows.length).length := by omega
      have hid : rows[index].1 = ((migrations.take rows.length)[index]).identifier := by
        have hget := List.getElem_of_eq hids (by rwa [List.length_map])
        rwa [List.getElem_map, List.getElem_map] at hget
      have hmem : (migrations.take rows.length)[index] ∈ migrations :=
        List.mem_of_mem_take (List.getElem_mem hmigration)
      have hexpected := @checksum_expected σ engine migrations hincreasing _ hmem
      have hchecksum : (migrations.find? (·.identifier = rows[index].1)).map
          (Migration.checksum engine.sha256) = some rows[index].2 := by
        by_contra hne
        exact hchecksums (List.any_eq_true.mpr
          ⟨rows[index], List.getElem_mem hrow, decide_eq_true hne⟩)
      rw [List.getElem_map]
      refine Prod.ext hid ?_
      rw [hid] at hchecksum
      exact Option.some.inj (hchecksum.symm.trans hexpected)

/-! ### Whole calls -/

theorem ask_createHistory_endures {database : MigrationDatabase σ}
    {log : List (Event connectionSignature MigrationException)} {done : List String}
    (hlog : executedStatements log = done) :
    Program.Endures (serves sqlite)
      (fun later => later.1.durable = database ∧ executedStatements later.2 = done)
      (fun result later => ∀ value, result = .ok value → ∃ store, later.1.working = some store ∧
        store = database.opened ∧ executedStatements later.2 = done)
      (ask .createHistory) (⟨database, some database⟩, log) := by
  have hdone : executedStatements log ++ [] = done := by rwa [List.append_nil]
  refine (ask_execute_endures .createHistory (· = done) (fun _ _ hserves => hserves)
    (fun _ _ => durable_of_error rfl) hlog hdone).mono
      (fun _ hcrash => hcrash) fun result last _ hlast value hresult => ?_
  obtain ⟨store, hstore, hrun, hexecuted⟩ := hlast value hresult
  refine ⟨store, by rw [hstore], ?_, hexecuted.trans hdone⟩
  cases hrun
  rfl

theorem ask_readHistory_endures {database : MigrationDatabase σ}
    {log : List (Event connectionSignature MigrationException)} {done : List String}
    (hlog : executedStatements log = done) :
    Program.Endures (serves sqlite)
      (fun later => later.1.durable = database ∧ executedStatements later.2 = done)
      (fun result later => ∀ value, result = .ok value → ∃ store, later.1.working = some store ∧
        store = database ∧ value = database.entries ∧ executedStatements later.2 = done)
      (ask .readHistory) (⟨database, some database⟩, log) := by
  have hdone : executedStatements log ++ [] = done := by rwa [List.append_nil]
  refine (ask_execute_endures .readHistory (· = done) (fun _ _ hserves => hserves)
    (fun _ _ => durable_of_error rfl) hlog hdone).mono
      (fun _ hcrash => hcrash) fun result last _ hlast value hresult => ?_
  obtain ⟨store, hstore, hrun, hexecuted⟩ := hlast value hresult
  simp only [readHistory, Statements.bind_ok, Statements.get_ok, Statements.found_ok,
    Statements.pure_ok] at hrun
  obtain ⟨_, _, ⟨rfl, rfl⟩, table, _, ⟨htable, rfl⟩, rfl, rfl⟩ := hrun
  exact ⟨_, by rw [hstore], rfl, rfl, hexecuted.trans hdone⟩

/-- The history table is all that a call has added so far. -/
structure Opening (database : MigrationDatabase σ) (done : List String)
    (world : LoggedConnection σ) : Prop where
  durable : world.1.durable = database ∨ world.1.durable = database.opened
  sent : executedStatements world.2 = done

def readApplied : Action (List (String × String)) := do
  transaction true (ask .createHistory)
  transaction false (ask .readHistory)

theorem applyMigrations_eq (hincreasing : Increasing migrations) :
    applyMigrations engine.sha256 migrations =
      readApplied >>= applyAfter engine.sha256 migrations := by
  have hnodup : (migrations.map Migration.identifier).dedup = migrations.map Migration.identifier :=
    List.dedup_eq_self.mpr (hincreasing.imp fun hlt => ne_of_lt hlt)
  have hsorted : (migrations.map Migration.identifier).insertionSort (· ≤ ·) =
      migrations.map Migration.identifier :=
    (hincreasing.imp fun hlt => le_of_lt hlt).insertionSort_eq
  unfold applyMigrations
  simp only [hnodup, hsorted, ne_eq, not_true_eq_false, or_self, if_false]
  exact (Program.bind_assoc _ _ _).symm

theorem readApplied_endures {database : MigrationDatabase σ} {done : List String}
    (hworld : world.1.durable = database) (hdone : executedStatements world.2 = done) :
    Program.Endures (serves sqlite) (Opening database done)
      (fun result later => ∀ rows, result = .ok rows → later.1.durable = database.opened ∧
        rows = database.opened.entries)
      readApplied world := by
  have hcreate : Program.Endures (serves sqlite)
      (CutOff database (fun (_ : Unit) store executed => store = database.opened ∧ executed = done)
        fun executed => executed = done)
      (Settled database fun _ store executed => store = database.opened ∧ executed = done)
      (transaction true (ask .createHistory)) world :=
    transaction_endures hworld hdone fun log hlog =>
      ask_createHistory_endures (hlog.trans hdone)
  have hcreated : Program.Endures (serves sqlite) (Opening database done)
      (Settled database fun _ store executed => store = database.opened ∧ executed = done)
      (transaction true (ask .createHistory)) world := by
    refine hcreate.mono (fun later hcut => ⟨?_, hcut.sent⟩) fun _ _ _ hsettled => hsettled
    rcases hcut.durable with hsame | ⟨_, hopened, -⟩
    · exact .inl hsame
    · exact .inr hopened
  refine hcreated.bind (fun _ later _ hsettled => ?_) fun _ _ _ _ _ herror => by cases herror
  have hread : Program.Endures (serves sqlite)
      (CutOff database.opened (fun rows store executed => store = database.opened ∧
        rows = database.opened.entries ∧ executed = done) fun executed => executed = done)
      (Settled database.opened fun rows store executed => store = database.opened ∧
        rows = database.opened.entries ∧ executed = done)
      (transaction false (ask .readHistory)) later :=
    transaction_endures hsettled.1 hsettled.2 fun log hlog =>
      ask_readHistory_endures (hlog.trans hsettled.2)
  refine hread.mono (fun last hcut => ⟨.inr ?_, hcut.sent⟩) ?_
  · rcases hcut.durable with hsame | ⟨_, hopened, -⟩
    · exact hsame
    · exact hopened
  · rintro result last - hlast rows rfl
    exact ⟨hlast.1, hlast.2.1⟩

theorem entries_known {database : MigrationDatabase σ} {count : Nat}
    (hinitial : engine.AtPrefix migrations count database) :
    database.entries.length = count ∧
      database.entries = (migrations.take database.entries.length).map engine.entry := by
  obtain ⟨hcount, hentries⟩ := hinitial
  have hlength : database.entries.length = count := by
    rw [hentries, List.length_map, List.length_take, Nat.min_eq_left hcount]
  exact ⟨hlength, by rw [hlength, hentries]⟩

theorem applyAfter_atPrefix (hincreasing : Increasing migrations) {database : MigrationDatabase σ}
    {count : Nat} (hinitial : engine.AtPrefix migrations count database) :
    applyAfter engine.sha256 migrations database.entries =
      applyFrom engine.sha256 migrations count := by
  obtain ⟨hlength, hknown⟩ := entries_known hinitial
  rw [applyAfter_known hincreasing hknown, hlength]

/-- **Every point of a call.** From a prefix of the history the call has at most added the history
table, or some of the pending migrations are committed; where it returns, all of them are. -/
theorem applyMigrations_endures (hkeeps : sqlite.KeepsAllToSchema engine migrations)
    (hincreasing : Increasing migrations) {database : MigrationDatabase σ} {count : Nat}
    (hinitial : engine.AtPrefix migrations count database) {done : List String}
    (hworld : world.1.durable = database) (hdone : executedStatements world.2 = done) :
    Program.Endures (serves sqlite)
      (fun later => Opening database done later ∨
        Underway engine (migrations.drop count) database.opened done later)
      (fun result later => result = .ok () →
        Finished engine (migrations.drop count) database.opened done later)
      (applyMigrations engine.sha256 migrations) world := by
  rw [applyMigrations_eq hincreasing]
  have hopening : Program.Endures (serves sqlite)
      (fun later => Opening database done later ∨
        Underway engine (migrations.drop count) database.opened done later)
      (fun result later => Opening database done later ∧ ∀ rows, result = .ok rows →
        later.1.durable = database.opened ∧ rows = database.opened.entries) readApplied world :=
    (readApplied_endures hworld hdone).mono (fun _ hopening => .inl hopening)
      fun _ _ hopening hresult => ⟨hopening, hresult⟩
  refine hopening.bind (fun rows later _ hread => ?_) fun _ _ _ _ herror => by cases herror
  obtain ⟨hdurable, hrows⟩ := hread.2 rows rfl
  rw [MigrationDatabase.entries_opened] at hrows
  rw [hrows, applyAfter_atPrefix hincreasing hinitial, ← hdurable, ← hread.1.sent]
  exact (forM_applyOne_endures (hkeeps.drop count)).mono (fun _ hunderway => .inr hunderway)
    fun _ _ _ hfinished => hfinished

/-- **Another history.** From a history that is no prefix the call adds the history table at most,
and does not return. -/
theorem applyMigrations_refuses (hincreasing : Increasing migrations)
    {database : MigrationDatabase σ}
    (hunknown : ∀ applied, ¬engine.AtPrefix migrations applied database) {done : List String}
    (hworld : world.1.durable = database) (hdone : executedStatements world.2 = done) :
    Program.Endures (serves sqlite) (Opening database done) (fun result _ => result ≠ .ok ())
      (applyMigrations engine.sha256 migrations) world := by
  rw [applyMigrations_eq hincreasing]
  have hrefused : database.entries ≠
      (migrations.take database.entries.length).map engine.entry := by
    intro hknown
    refine hunknown database.entries.length ⟨?_, hknown⟩
    have hlength := congrArg List.length hknown
    rw [List.length_map, List.length_take] at hlength
    omega
  refine (readApplied_endures hworld hdone).bind (fun rows later hopening hread => ?_)
    fun _ _ _ _ => nofun
  obtain ⟨-, hrows⟩ := hread rows rfl
  rw [MigrationDatabase.entries_opened] at hrows
  obtain ⟨error, hraises⟩ := applyAfter_unknown hincreasing hrefused
  rw [hrows, hraises]
  exact ⟨hopening, nofun⟩

/-! ### Uninterrupted calls -/

theorem ask_reaches {request : ConnectionRequest} {connection later : MigrationConnection σ}
    {value : connectionSignature.Result request}
    (hserves : sqlite.Serves request connection (.ok value) later)
    (log : List (Event connectionSignature MigrationException)) :
    Program.Reaches (serves sqlite) (connection, log) (ask request)
      (later, log ++ [⟨request, .ok value⟩]) (.ret value) := by
  have hlogged : serves sqlite request (connection, log) (.ok value)
      (later, log ++ [⟨request, .ok value⟩]) := ⟨hserves, rfl⟩
  exact .call hlogged

theorem transaction_reaches (write : Bool) {body : Action α} {durable store : MigrationDatabase σ}
    {value : α}
    (hbody : ∀ log, ∃ reached, Program.Reaches (serves sqlite) (⟨durable, some durable⟩, log) body
      (⟨durable, some store⟩, reached) (.ret value))
    (working : Option (MigrationDatabase σ))
    (log : List (Event connectionSignature MigrationException)) :
    ∃ reached, Program.Reaches (serves sqlite) (⟨durable, working⟩, log) (transaction write body)
      (⟨store, none⟩, reached) (.ret value) := by
  have hconnect : sqlite.Serves .connect ⟨durable, working⟩ (.ok ()) ⟨durable, none⟩ := rfl
  have hbegin : sqlite.Serves (.beginTransaction write) ⟨durable, none⟩ (.ok ())
      ⟨durable, some durable⟩ := ⟨rfl, rfl⟩
  have hcommit : sqlite.Serves .commit ⟨durable, some store⟩ (.ok ()) ⟨store, none⟩ := rfl
  have hclose : sqlite.Serves .close ⟨store, none⟩ (.ok ()) ⟨store, none⟩ := rfl
  obtain ⟨reached, hreached⟩ := hbody
    ((log ++ [⟨.connect, .ok ()⟩]) ++ [⟨.beginTransaction write, .ok ()⟩])
  have hinner : Program.Reaches (serves sqlite) (⟨durable, none⟩, log ++ [⟨.connect, .ok ()⟩])
      (do
        ask (.beginTransaction write)
        let value ← body
        ask .commit
        return value) (⟨store, none⟩, reached ++ [⟨.commit, .ok ()⟩]) (.ret value) :=
    (ask_reaches hbegin _).returned_bind
      (hreached.returned_bind ((ask_reaches hcommit reached).returned_bind (.here _ _)))
  exact ⟨_, (ask_reaches hconnect log).returned_bind
    (((hinner.tryCatch _).tryCatch _).returned_bind
      ((ask_reaches hclose _).returned_bind (.here _ _)))⟩

theorem forM_execute_reaches (durable : MigrationDatabase σ) {statements : List String}
    (hkeeps : ∀ statement ∈ statements, sqlite.KeepsToSchema engine statement)
    {start store : MigrationDatabase σ}
    (hstatements : (forM statements engine.executeStatement) start = .ok (⟨⟩, store))
    (log : List (Event connectionSignature MigrationException)) :
    ∃ reached, Program.Reaches (serves sqlite) (⟨durable, some start⟩, log)
      (forM statements fun statement => ask (.execute statement))
      (⟨durable, some store⟩, reached) (.ret ⟨⟩) := by
  induction statements generalizing start log with
  | nil =>
      cases hstatements
      exact ⟨log, .here _ _⟩
  | cons statement statements ih =>
      rw [List.forM_cons, Statements.bind_ok] at hstatements
      obtain ⟨value, middle, hfirst, hrest⟩ := hstatements
      obtain ⟨hkeepsFirst, hkeepsRest⟩ := List.forall_mem_cons.mp hkeeps
      have hserves : sqlite.Serves (.execute statement) ⟨durable, some start⟩ (.ok ())
          ⟨durable, some middle⟩ := hkeepsFirst.serves hfirst
      obtain ⟨reached, hreached⟩ := ih hkeepsRest hrest (log ++ [⟨.execute statement, .ok ()⟩])
      exact ⟨reached, (ask_reaches hserves log).returned_bind hreached⟩

theorem applyOne_reaches {migration : Migration}
    (hkeeps : ∀ statement ∈ migration.statements, sqlite.KeepsToSchema engine statement)
    {durable store : MigrationDatabase σ}
    (happlied : engine.Performs (.apply migration) durable (.ok ()) store)
    (working : Option (MigrationDatabase σ))
    (log : List (Event connectionSignature MigrationException)) :
    ∃ reached, Program.Reaches (serves sqlite) (⟨durable, working⟩, log)
      (applyOne engine.sha256 migration) (⟨store, none⟩, reached) (.ret ()) := by
  obtain ⟨appliedAt, hcommit⟩ := happlied
  have hmigrate := Statements.commit_ok.mp hcommit
  rw [MigrationEngine.migrate, Statements.bind_ok] at hmigrate
  obtain ⟨_, middle, hstatements, hinsert⟩ := hmigrate
  have hbody (log : List (Event connectionSignature MigrationException)) :
      ∃ reached, Program.Reaches (serves sqlite) (⟨durable, some durable⟩, log)
        (migrate engine.sha256 migration) (⟨durable, some store⟩, reached) (.ret ()) := by
    obtain ⟨sent, hsent⟩ := forM_execute_reaches durable hkeeps hstatements log
    have hclock : sqlite.Serves .timestamp ⟨durable, some middle⟩ (.ok appliedAt)
        ⟨durable, some middle⟩ := rfl
    have hrow : sqlite.Serves
        (.insertMigration ⟨migration.identifier, migration.checksum engine.sha256, appliedAt⟩)
        ⟨durable, some middle⟩ (.ok ()) ⟨durable, some store⟩ := ⟨store, hinsert, rfl⟩
    exact ⟨_, hsent.returned_bind ((ask_reaches hclock sent).returned_bind (ask_reaches hrow _))⟩
  obtain ⟨reached, hreached⟩ := transaction_reaches true hbody working log
  exact ⟨reached, hreached.tryCatch _⟩

theorem forM_applyOne_reaches {pending : List Migration}
    (hkeeps : sqlite.KeepsAllToSchema engine pending) {durable store : MigrationDatabase σ}
    (happlied : AppliedAll engine pending durable store)
    (log : List (Event connectionSignature MigrationException)) :
    ∃ reached, Program.Reaches (serves sqlite) (⟨durable, none⟩, log)
      (forM pending (applyOne engine.sha256)) (⟨store, none⟩, reached) (.ret ⟨⟩) := by
  induction happlied generalizing log with
  | nil database => exact ⟨log, .here _ _⟩
  | cons happlied _ ih =>
      obtain ⟨hkeepsFirst, hkeepsRest⟩ := List.forall_mem_cons.mp hkeeps
      obtain ⟨first, hfirst⟩ := applyOne_reaches hkeepsFirst happlied none log
      obtain ⟨reached, hreached⟩ := ih hkeepsRest first
      exact ⟨reached, hfirst.returned_bind hreached⟩

/-- Whatever the pending migrations can make of the database, an uninterrupted call can leave. -/
theorem applyMigrations_reaches (hkeeps : sqlite.KeepsAllToSchema engine migrations)
    (hincreasing : Increasing migrations) {database store : MigrationDatabase σ} {count : Nat}
    (hinitial : engine.AtPrefix migrations count database)
    (happlied : AppliedAll engine (migrations.drop count) database.opened store) :
    ∃ reached, Program.Reaches (serves sqlite) (⟨database, none⟩, [])
      (applyMigrations engine.sha256 migrations) (⟨store, none⟩, reached) (.ret ()) := by
  have hcreate (log : List (Event connectionSignature MigrationException)) :
      ∃ reached, Program.Reaches (serves sqlite) (⟨database, some database⟩, log)
        (ask .createHistory) (⟨database, some database.opened⟩, reached) (.ret ()) := by
    have hserves : sqlite.Serves .createHistory ⟨database, some database⟩ (.ok ())
        ⟨database, some database.opened⟩ := ⟨database.opened, rfl, rfl⟩
    exact ⟨_, ask_reaches hserves log⟩
  have hread (log : List (Event connectionSignature MigrationException)) :
      ∃ reached, Program.Reaches (serves sqlite) (⟨database.opened, some database.opened⟩, log)
        (ask .readHistory) (⟨database.opened, some database.opened⟩, reached)
        (.ret database.entries) := by
    have hserves : sqlite.Serves .readHistory ⟨database.opened, some database.opened⟩
        (.ok database.entries) ⟨database.opened, some database.opened⟩ := by
      refine ⟨database.opened, ?_, rfl⟩
      rw [← database.entries_opened]
      rfl
    exact ⟨_, ask_reaches hserves log⟩
  obtain ⟨created, hcreated⟩ := transaction_reaches true hcreate none []
  obtain ⟨opened, hopened⟩ := transaction_reaches false hread none created
  obtain ⟨reached, hreached⟩ := forM_applyOne_reaches (hkeeps.drop count) happlied opened
  rw [applyMigrations_eq hincreasing]
  refine ⟨reached, (hcreated.returned_bind hopened).returned_bind ?_⟩
  rwa [applyAfter_atPrefix hincreasing hinitial]

/-! ### Calls that fail, crash and run again -/

theorem AppliedAll.stands {applied reached : Nat} {schema : σ} {first rest : List Migration}
    {database later : MigrationDatabase σ} (happlied : AppliedAll engine first database later)
    (hincreasing : Increasing migrations)
    (hstands : Stands engine migrations applied schema reached database)
    (hdrop : migrations.drop reached = first ++ rest) :
    Stands engine migrations applied schema (reached + first.length) later := by
  induction happlied generalizing reached with
  | nil database => exact hstands
  | @cons migration migrations' database middle later hone _ ih =>
      have hpending : reached < migrations.length := by
        by_contra hle
        rw [List.drop_eq_nil_of_le (by omega)] at hdrop
        cases hdrop
      rw [List.drop_eq_getElem_cons hpending, List.cons_append] at hdrop
      obtain ⟨rfl, hrest⟩ := List.cons.inj hdrop
      have hlast := ih (hstands.applied hincreasing hpending hone) hrest
      rwa [List.length_cons, Nat.add_comm migrations'.length 1, ← Nat.add_assoc]

/-- A call of `apply_migrations` on a database, as far as it got. -/
def Called (sqlite : SQLiteEngine σ) (sha256 : String → String) (migrations : List Migration)
    (database : MigrationDatabase σ) (last : LoggedConnection σ) (rest : Action Unit) : Prop :=
  Program.Reaches (serves sqlite) (⟨database, none⟩, []) (applyMigrations sha256 migrations) last
    rest

/-- A call that raised. It had not come to a migration, or the first one that failed has left
nothing: the database is the one that was there when its turn came. -/
def Failed (sqlite : SQLiteEngine σ) (engine : MigrationEngine σ) (migrations : List Migration)
    (applied : Nat) (database : MigrationDatabase σ) (last : LoggedConnection σ) : Prop :=
  (executedStatements last.2 = [] ∧
      (last.1.durable = database ∨ last.1.durable = database.opened)) ∨
    ∃ (position : Nat) (hposition : position < migrations.length) (before : LoggedConnection σ)
      (error : MigrationException),
      Called sqlite engine.sha256 migrations database before
        (applyFrom engine.sha256 migrations position) ∧
        Stands engine migrations applied database.schema position before.1.durable ∧
        Program.Reaches (serves sqlite) before (applyOne engine.sha256 migrations[position]) last
          (.raise error) ∧
        last.1.durable = before.1.durable

/-- Another call on what a stopped one has left: it goes on with the first migration that is not
recorded, and what it leaves when it returns, a call that was never stopped can leave too. -/
structure Resumes (sqlite : SQLiteEngine σ) (engine : MigrationEngine σ)
    (migrations : List Migration) (applied reached : Nat) (database left : MigrationDatabase σ) :
    Prop where
  sent : ∀ last rest, Called sqlite engine.sha256 migrations left last rest →
    executedStatements last.2 <+: (migrations.drop reached).flatMap Migration.statements
  returned : ∀ last, Called sqlite engine.sha256 migrations left last (.ret ()) →
    executedStatements last.2 = (migrations.drop reached).flatMap Migration.statements ∧
      Stands engine migrations applied database.schema migrations.length last.1.durable ∧
      ∃ whole, Called sqlite engine.sha256 migrations database whole (.ret ()) ∧
        whole.1.durable = last.1.durable

variable {database : MigrationDatabase σ} {count : Nat}

theorem stands_opened (hinitial : engine.AtPrefix migrations count database) :
    Stands engine migrations count database.schema count database ∧
      Stands engine migrations count database.schema count database.opened := by
  have hnone : (migrations.take count).drop count = [] :=
    List.drop_eq_nil_of_le (List.length_take_le ..)
  refine ⟨⟨Nat.le_refl _, hinitial, by rw [hnone]; rfl⟩, Nat.le_refl _, ?_, by rw [hnone]; rfl⟩
  rw [MigrationEngine.AtPrefix, MigrationDatabase.entries_opened]
  exact hinitial

theorem AppliedAll.isSome {first : List Migration} {later : MigrationDatabase σ}
    (happlied : AppliedAll engine first database later) (hhistory : database.history.isSome) :
    later.history.isSome := by
  induction happlied with
  | nil database => exact hhistory
  | cons hone _ ih => exact ih (isSome_of_performs hone fun _ => hhistory)

theorem Called.underway (hkeeps : sqlite.KeepsAllToSchema engine migrations)
    (hincreasing : Increasing migrations)
    (hinitial : engine.AtPrefix migrations count database) {last : LoggedConnection σ}
    {rest : Action Unit} (hcalled : Called sqlite engine.sha256 migrations database last rest) :
    Opening database [] last ∨ Underway engine (migrations.drop count) database.opened [] last :=
  ((applyMigrations_endures hkeeps hincreasing hinitial rfl rfl).of_reaches hcalled).crashed

/-- What a call has left is the database it found, or the first pending migrations make it. -/
theorem left_cases (hkeeps : sqlite.KeepsAllToSchema engine migrations)
    (hincreasing : Increasing migrations)
    (hinitial : engine.AtPrefix migrations count database) {last : LoggedConnection σ}
    {rest : Action Unit} (hcalled : Called sqlite engine.sha256 migrations database last rest) :
    last.1.durable = database ∨ ∃ first later, migrations.drop count = first ++ later ∧
      AppliedAll engine first database.opened last.1.durable := by
  rcases hcalled.underway hkeeps hincreasing hinitial with ⟨hsame | hopened, -⟩ |
    ⟨⟨first, later, hdrop, happlied⟩, -⟩
  · exact .inl hsame
  · exact .inr ⟨[], _, rfl, by rw [hopened]; exact .nil _⟩
  · exact .inr ⟨first, later, hdrop, happlied⟩

theorem exists_stands (hkeeps : sqlite.KeepsAllToSchema engine migrations)
    (hincreasing : Increasing migrations)
    (hinitial : engine.AtPrefix migrations count database) {last : LoggedConnection σ}
    {rest : Action Unit} (hcalled : Called sqlite engine.sha256 migrations database last rest) :
    ∃ reached, Stands engine migrations count database.schema reached last.1.durable := by
  obtain ⟨hfound, hopened⟩ := stands_opened hinitial
  rcases left_cases hkeeps hincreasing hinitial hcalled with hsame |
    ⟨first, later, hdrop, happlied⟩
  · exact ⟨count, by rwa [hsame]⟩
  · exact ⟨_, happlied.stands hincreasing hopened hdrop⟩

/-- A call that returned has committed every pending migration. -/
theorem finished_of_returned (hkeeps : sqlite.KeepsAllToSchema engine migrations)
    (hincreasing : Increasing migrations)
    (hinitial : engine.AtPrefix migrations count database) {last : LoggedConnection σ}
    (hcalled : Called sqlite engine.sha256 migrations database last (.ret ())) :
    AppliedAll engine (migrations.drop count) database.opened last.1.durable ∧
      executedStatements last.2 = (migrations.drop count).flatMap Migration.statements := by
  have hfinished :=
    (applyMigrations_endures hkeeps hincreasing hinitial rfl rfl).returned hcalled rfl
  exact ⟨hfinished.applied, hfinished.sent⟩

theorem resumes (hkeeps : sqlite.KeepsAllToSchema engine migrations)
    (hincreasing : Increasing migrations)
    (hinitial : engine.AtPrefix migrations count database) {last : LoggedConnection σ}
    {rest : Action Unit} (hcalled : Called sqlite engine.sha256 migrations database last rest)
    {reached : Nat}
    (hstands : Stands engine migrations count database.schema reached last.1.durable) :
    Resumes sqlite engine migrations count reached database last.1.durable := by
  refine ⟨fun again rest' hagain => ?_, fun again hagain => ?_⟩
  · rcases hagain.underway hkeeps hincreasing hstands.atPrefix with hopening | hunderway
    · rw [hopening.sent]
      exact List.nil_prefix
    · obtain ⟨part, hpart, hsent⟩ := hunderway.sent
      rw [hsent]
      exact hpart
  · obtain ⟨happlied, hsent⟩ := finished_of_returned hkeeps hincreasing hstands.atPrefix hagain
    have hlength := (entries_known hstands.atPrefix).1
    have hwhole : AppliedAll engine (migrations.drop count) database.opened again.1.durable := by
      rcases left_cases hkeeps hincreasing hinitial hcalled with hsame |
        ⟨first, later, hdrop, hfirst⟩
      · rw [hsame] at happlied
        have hreached : reached = count := by
          rw [← hlength, hsame, (entries_known hinitial).1]
        rwa [hreached] at happlied
      · rw [MigrationDatabase.opened_of_isSome (hfirst.isSome rfl)] at happlied
        have hposition := hfirst.stands hincreasing (stands_opened hinitial).2 hdrop
        have hreached : reached = count + first.length := by
          rw [← hlength, (entries_known hposition.atPrefix).1]
        have hlater : migrations.drop reached = later := by
          rw [hreached, ← List.drop_drop, hdrop, List.drop_left]
        rw [hdrop]
        rw [hlater] at happlied
        exact hfirst.append happlied
    refine ⟨hsent, ?_, ?_⟩
    · have hlast := hwhole.stands hincreasing (stands_opened hinitial).2 (List.append_nil _).symm
      rwa [List.length_drop, Nat.add_sub_cancel' hinitial.1] at hlast
    · obtain ⟨log, hlog⟩ := applyMigrations_reaches hkeeps hincreasing hinitial hwhole
      exact ⟨_, hlog, rfl⟩

theorem failed_of_raised (hkeeps : sqlite.KeepsAllToSchema engine migrations)
    (hincreasing : Increasing migrations)
    (hinitial : engine.AtPrefix migrations count database) {last : LoggedConnection σ}
    {error : MigrationException}
    (hcalled : Called sqlite engine.sha256 migrations database last (.raise error)) :
    Failed sqlite engine migrations count database last := by
  have hread : Program.Endures (serves sqlite) (Opening database []) _ readApplied
      (⟨database, none⟩, []) := readApplied_endures rfl rfl
  unfold Called at hcalled
  rw [applyMigrations_eq hincreasing] at hcalled
  rcases Program.reaches_bind_raise hcalled with hraised | ⟨rows, opened, hreturned, hrest⟩
  · have hopening := (hread.of_reaches hraised).crashed
    exact .inl ⟨hopening.sent, hopening.durable⟩
  · obtain ⟨hdurable, hrows⟩ := hread.returned hreturned rows rfl
    rw [MigrationDatabase.entries_opened] at hrows
    subst hrows
    rw [applyAfter_atPrefix hincreasing hinitial] at hrest
    obtain ⟨first, one, later, before, hdrop, hfirst, hfailed⟩ :=
      Program.reaches_forM_raise hrest
    have hposition : count + first.length < migrations.length := by
      have htotal := congrArg List.length hdrop
      rw [List.length_drop, List.length_append, List.length_cons] at htotal
      omega
    have hnext : migrations.drop (count + first.length) = one :: later := by
      rw [← List.drop_drop, hdrop, List.drop_left]
    obtain rfl : migrations[count + first.length] = one := by
      rw [List.drop_eq_getElem_cons hposition] at hnext
      exact (List.cons.inj hnext).1
    have hkeepsFirst : sqlite.KeepsAllToSchema engine first := by
      intro migration hmigration
      refine hkeeps.drop count migration ?_
      rw [hdrop]
      exact List.mem_append_left _ hmigration
    have hchain := ((forM_applyOne_endures hkeepsFirst).returned hfirst rfl).applied
    rw [hdurable] at hchain
    refine .inr ⟨count + first.length, hposition, before, error, ?_, ?_, hfailed, ?_⟩
    · unfold Called
      rw [applyMigrations_eq hincreasing]
      refine hreturned.returned_bind ?_
      rw [applyAfter_atPrefix hincreasing hinitial, applyFrom, hdrop, Program.forM_append,
        applyFrom, hnext]
      exact hfirst.bind _
    · exact hchain.stands hincreasing (stands_opened hinitial).2 hdrop
    · have hone : Program.Endures (serves sqlite) (CutOff before.1.durable _ fun _ => True) _
          (applyOne engine.sha256 migrations[count + first.length]) before :=
        applyOne_endures (hkeeps _ (List.getElem_mem hposition)) rfl fun _ _ => trivial
      exact hone.raised hfailed

/-- **Recovery.** If the statements of the migrations keep to the schema, a call that got to any
point has left, from every prefix of the history, a prefix with the schema of its migrations; if it
raised, the migration that failed has left nothing; and another call resumes there. Whatever the
statements are, a call that finds another history executes none of them. -/
theorem applyMigrations_recovers (hincreasing : Increasing migrations) {last : LoggedConnection σ}
    {rest : Action Unit} (hcalled : Called sqlite engine.sha256 migrations database last rest) :
    (sqlite.KeepsAllToSchema engine migrations →
      ∀ applied, engine.AtPrefix migrations applied database → ∃ reached,
        Stands engine migrations applied database.schema reached last.1.durable ∧
          (rest = .ret () → reached = migrations.length) ∧
          (∀ error, rest = .raise error →
            Failed sqlite engine migrations applied database last) ∧
          Resumes sqlite engine migrations applied reached database last.1.durable) ∧
      ((∀ applied, ¬engine.AtPrefix migrations applied database) →
        executedStatements last.2 = [] ∧ rest ≠ .ret () ∧
          last.1.durable.schema = database.schema ∧
          last.1.durable.entries = database.entries) := by
  refine ⟨fun hkeeps applied hinitial => ?_, fun hunknown => ?_⟩
  · obtain ⟨reached, hstands⟩ := exists_stands hkeeps hincreasing hinitial hcalled
    refine ⟨reached, hstands, ?_, ?_, resumes hkeeps hincreasing hinitial hcalled hstands⟩
    · rintro rfl
      obtain ⟨happlied, -⟩ := finished_of_returned hkeeps hincreasing hinitial hcalled
      have hall := happlied.stands hincreasing (stands_opened hinitial).2 (List.append_nil _).symm
      rw [← (entries_known hstands.atPrefix).1, (entries_known hall.atPrefix).1, List.length_drop,
        Nat.add_sub_cancel' hinitial.1]
    · rintro error rfl
      exact failed_of_raised hkeeps hincreasing hinitial hcalled
  · have hrefuses : Program.Endures (serves sqlite) (Opening database [])
        (fun result _ => result ≠ .ok ()) (applyMigrations engine.sha256 migrations)
        (⟨database, none⟩, []) := applyMigrations_refuses hincreasing hunknown rfl rfl
    have hopening := (hrefuses.of_reaches hcalled).crashed
    refine ⟨hopening.sent, ?_, ?_⟩
    · rintro rfl
      exact hrefuses.returned hcalled rfl
    · rcases hopening.durable with hsame | hopened
      · rw [hsame]
        exact ⟨rfl, rfl⟩
      · rw [hopened]
        exact ⟨rfl, database.entries_opened⟩

end SQLiteMigrations

/-! ### A connection with tables -/

/-- A connection that understands `CREATE TABLE`, `COMMIT` and the deletion of the history. -/
def tableSQLite : SQLiteEngine (List String) where
  execute statement connection :=
    if statement = "COMMIT" then
      match connection.working with
      | some store => (.ok (), ⟨store, none⟩)
      | none => (.error (.sqliteError "cannot commit - no transaction is active"), connection)
    else if statement = "DELETE FROM schema_migrations" then
      match connection.current.history with
      | some _ =>
          (.ok (), connection.written { connection.current with history := some .empty })
      | none => (.error (.sqliteError "no such table: schema_migrations"), connection)
    else if statement.toList.take 13 = "CREATE TABLE ".toList then
      match tableEngine.execute statement connection.current.schema with
      | .ok schema => (.ok (), connection.written { connection.current with schema := schema })
      | .error error => (.error error, connection)
    else
      (.error (.sqliteError "syntax error"), connection)

theorem keepsToSchema_createTable {statement : String} (hcommit : statement ≠ "COMMIT")
    (hdelete : statement ≠ "DELETE FROM schema_migrations")
    (hcreate : statement.toList.take 13 = "CREATE TABLE ".toList) :
    tableSQLite.KeepsToSchema tableEngine statement where
  changes durable database schema hschema := by
    simp only [tableSQLite, if_neg hcommit, if_neg hdelete, if_pos hcreate,
      MigrationConnection.current, Option.getD_some, hschema]
    rfl
  raises durable database error herror := by
    refine ⟨⟨durable, some database⟩, ?_, rfl, .inl rfl⟩
    simp only [tableSQLite, if_neg hcommit, if_neg hdelete, if_pos hcreate,
      MigrationConnection.current, Option.getD_some, herror]

namespace SQLiteMigrations

open MigrationEngine (Increasing)

def executed {α : Type} (body : Statements (MigrationDatabase (List String)) MigrationException α)
    (connection : MigrationConnection (List String)) :
    Except MigrationException α × MigrationConnection (List String) :=
  match body connection.current with
  | .ok (value, store) => (.ok value, connection.written store)
  | .error error => (.error error, connection)

/-- The answers of a connection on which the disk fails under these statements. -/
def answerConnection (broken : List String) (request : ConnectionRequest)
    (connection : MigrationConnection (List String)) :
    Except MigrationException (connectionSignature.Result request) ×
      MigrationConnection (List String) :=
  match request with
  | .connect => (.ok (), ⟨connection.durable, none⟩)
  | .beginTransaction _ =>
      match connection.working with
      | none => (.ok (), ⟨connection.durable, some connection.durable⟩)
      | some _ => (.error (.sqliteError "cannot start a transaction"), connection)
  | .createHistory => executed createHistory connection
  | .readHistory => executed readHistory connection
  | .execute statement =>
      if statement ∈ broken then
        (.error (.sqliteError "disk I/O error"), connection)
      else
        tableSQLite.execute statement connection
  | .timestamp => (.ok "2026-01-01T00:00:00.000000Z", connection)
  | .insertMigration row => executed (insertMigration row) connection
  | .commit => (.ok (), ⟨connection.current, none⟩)
  | .rollback => (.ok (), ⟨connection.durable, none⟩)
  | .close => (.ok (), ⟨connection.durable, none⟩)

theorem serves_executed {request : ConnectionRequest}
    {connection : MigrationConnection (List String)}
    {body : Statements (MigrationDatabase (List String)) MigrationException
      (connectionSignature.Result request)}
    (hexecutes : ∀ value later, MigrationConnection.Executes body connection value later →
      tableSQLite.Serves request connection (.ok value) later)
    (hfails : ∀ error, tableSQLite.Serves request connection (.error error) connection) :
    tableSQLite.Serves request connection (executed body connection).1
      (executed body connection).2 := by
  unfold executed
  split
  · next value store hbody => exact hexecutes value _ ⟨store, hbody, rfl⟩
  · next error hbody => exact hfails error

theorem serves_answerConnection (broken : List String) (request : ConnectionRequest)
    (connection : MigrationConnection (List String)) :
    tableSQLite.Serves request connection (answerConnection broken request connection).1
      (answerConnection broken request connection).2 := by
  have hfails : connection.Fails connection := ⟨rfl, .inl rfl⟩
  cases request with
  | connect => rfl
  | beginTransaction write =>
      obtain ⟨durable, working⟩ := connection
      cases working with
      | none => exact ⟨rfl, rfl⟩
      | some store => exact hfails
  | createHistory =>
      exact serves_executed (fun _ _ hexecutes => hexecutes) fun _ => hfails
  | readHistory =>
      exact serves_executed (fun _ _ hexecutes => hexecutes) fun _ => hfails
  | execute statement =>
      unfold answerConnection
      dsimp only
      split
      · exact .inr hfails
      · cases hanswer : tableSQLite.execute statement connection with
        | mk answer later =>
            cases answer with
            | ok value => exact hanswer
            | error error => exact .inl hanswer
  | timestamp => rfl
  | insertMigration row =>
      exact serves_executed (fun _ _ hexecutes => hexecutes) fun _ => hfails
  | commit => rfl
  | rollback => rfl
  | close => rfl

/-- A call on this database to its end: how it ended, and the connection with its log. -/
def callOn (broken : List String) (migrations : List Migration)
    (database : MigrationDatabase (List String)) :
    Except MigrationException Unit × LoggedConnection (List String) :=
  let program := applyMigrations tableEngine.sha256 migrations
  let world : MigrationConnection (List String) := ⟨database, none⟩
  let (outcome, later) := program.runWith (answerConnection broken) world
  (outcome, later, program.traceWith (answerConnection broken) world)

theorem called_callOn (broken : List String) (migrations : List Migration)
    (database : MigrationDatabase (List String)) :
    Called tableSQLite tableEngine.sha256 migrations database (callOn broken migrations database).2
      (.ofExcept (callOn broken migrations database).1) :=
  Program.reaches_runWith (serves_answerConnection broken) _ _ []

/-! ### Statements that do not keep to the schema -/

def committingMigrations : List Migration :=
  [⟨"0001_commits", [stableStatement, "COMMIT", "THIS IS NOT SQL"]⟩]

def forgettingMigrations : List Migration :=
  [⟨"0001_ok", [stableStatement]⟩, ⟨"0002_forgets", ["DELETE FROM schema_migrations"]⟩]

/-- A migration that commits leaves its tables when it fails, without a history row; one that
deletes the history leaves a history that is no prefix. -/
theorem applyMigrations_not_atomic :
    (Increasing committingMigrations ∧
      tableEngine.AtPrefix committingMigrations 0 emptyDatabase ∧
      ∃ last, Called tableSQLite tableEngine.sha256 committingMigrations emptyDatabase last
          (.raise (.migrationError "Migration 0001_commits failed")) ∧
        last.1.durable.schema = [stableStatement] ∧ last.1.durable.entries = []) ∧
      (Increasing forgettingMigrations ∧
        tableEngine.AtPrefix forgettingMigrations 0 emptyDatabase ∧
        ∃ last, Called tableSQLite tableEngine.sha256 forgettingMigrations emptyDatabase last
            (.ret ()) ∧
          ∀ applied, ¬tableEngine.AtPrefix forgettingMigrations applied last.1.durable) := by
  refine ⟨⟨List.pairwise_singleton .., ⟨Nat.zero_le _, rfl⟩, ?_⟩,
    ⟨?_, ⟨Nat.zero_le _, rfl⟩, ?_⟩⟩
  · have hcalled := called_callOn [] committingMigrations emptyDatabase
    have hleft : (callOn [] committingMigrations emptyDatabase).1 =
          .error (.migrationError "Migration 0001_commits failed") ∧
        (callOn [] committingMigrations emptyDatabase).2.1.durable.schema = [stableStatement] ∧
        (callOn [] committingMigrations emptyDatabase).2.1.durable.entries = [] := by
      decide +kernel
    rw [hleft.1] at hcalled
    exact ⟨_, hcalled, hleft.2⟩
  · have hordered : (forgettingMigrations.map Migration.identifier).Pairwise (· < ·) := by
      decide +kernel
    exact hordered
  · have hcalled := called_callOn [] forgettingMigrations emptyDatabase
    have hleft : (callOn [] forgettingMigrations emptyDatabase).1 = .ok () ∧
        (callOn [] forgettingMigrations emptyDatabase).2.1.durable.entries.map Prod.fst =
          ["0002_forgets"] := by
      decide +kernel
    rw [hleft.1] at hcalled
    refine ⟨_, hcalled, fun applied hprefix => ?_⟩
    obtain ⟨hcount, hentries⟩ := hprefix
    have hids := hleft.2
    rw [hentries, List.map_map] at hids
    cases applied with
    | zero => cases hids
    | succ applied =>
        have hfirst := congrArg List.head? hids
        simp [forgettingMigrations, MigrationEngine.entry] at hfirst

/-! ### A migration that fails at first -/

def twoMigrations : List Migration :=
  [⟨"0001_ok", [stableStatement]⟩, ⟨"0002_transient", [transientStatement]⟩]

theorem keepsAllToSchema_twoMigrations :
    tableSQLite.KeepsAllToSchema tableEngine twoMigrations := by
  intro migration hmigration statement hstatement
  have hstatements : statement = stableStatement ∨ statement = transientStatement := by
    simp only [twoMigrations, List.mem_cons, List.not_mem_nil, or_false] at hmigration
    rcases hmigration with rfl | rfl
    · exact .inl (List.mem_singleton.mp hstatement)
    · exact .inr (List.mem_singleton.mp hstatement)
  rcases hstatements with rfl | rfl
  · exact keepsToSchema_createTable (by decide) (by decide) (by decide)
  · exact keepsToSchema_createTable (by decide) (by decide) (by decide)

/-- The disk fails under the second migration; another call applies it. -/
theorem applyMigrations_recovers_twoMigrations :
    ∃ last, Called tableSQLite tableEngine.sha256 twoMigrations emptyDatabase last
        (.raise (.migrationError "Migration 0002_transient failed")) ∧
      tableEngine.AtPrefix twoMigrations 1 last.1.durable ∧
      last.1.durable.schema = [stableStatement] ∧
      ∃ again, Called tableSQLite tableEngine.sha256 twoMigrations last.1.durable again (.ret ()) ∧
        executedStatements again.2 = [transientStatement] ∧
        tableEngine.AtPrefix twoMigrations 2 again.1.durable ∧
        ∃ whole, Called tableSQLite tableEngine.sha256 twoMigrations emptyDatabase whole (.ret ()) ∧
          whole.1.durable = again.1.durable := by
  have hincreasing : Increasing twoMigrations := by
    have hordered : (twoMigrations.map Migration.identifier).Pairwise (· < ·) := by
      decide +kernel
    exact hordered
  have hinitial : tableEngine.AtPrefix twoMigrations 0 emptyDatabase := ⟨Nat.zero_le _, rfl⟩
  have hcalled := called_callOn [transientStatement] twoMigrations emptyDatabase
  have hfailed : (callOn [transientStatement] twoMigrations emptyDatabase).1 =
        .error (.migrationError "Migration 0002_transient failed") ∧
      (callOn [transientStatement] twoMigrations emptyDatabase).2.1.durable.entries.length = 1 := by
    decide +kernel
  have hreturned : (callOn [] twoMigrations
      (callOn [transientStatement] twoMigrations emptyDatabase).2.1.durable).1 = .ok () := by
    decide +kernel
  rw [hfailed.1] at hcalled
  have hagain := called_callOn [] twoMigrations
    (callOn [transientStatement] twoMigrations emptyDatabase).2.1.durable
  rw [hreturned] at hagain
  obtain ⟨reached, hstands, -, -, hresumes⟩ :=
    (applyMigrations_recovers hincreasing hcalled).1 keepsAllToSchema_twoMigrations 0 hinitial
  have hreached : reached = 1 := by
    rw [← (entries_known hstands.atPrefix).1]
    exact hfailed.2
  subst hreached
  obtain ⟨hsent, hlast, hwhole⟩ := hresumes.returned _ hagain
  exact ⟨_, hcalled, hstands.atPrefix, Except.ok.inj hstands.schema_eq.symm, _, hagain, hsent,
    hlast.atPrefix, hwhole⟩

end SQLiteMigrations

end OdooMcp
