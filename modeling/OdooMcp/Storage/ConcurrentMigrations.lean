import OdooMcp.Storage.Migrations

/-!
# Two processes that open one SQLite database

Two calls of `apply_migrations` on one database, their transactions interleaved in any order. Each
call reads the history once, so a call that reads it before the other has applied its last migration
takes over work that is already under way, and the second of the two to reach a migration fails.
-/

namespace OdooMcp

open Effect

inductive Opener
  | first
  | second
  deriving DecidableEq

namespace Opener

def other : Opener → Opener
  | first => second
  | second => first

@[simp]
theorem other_other (opener : Opener) : opener.other.other = opener := by
  cases opener <;> rfl

theorem other_ne (opener : Opener) : opener.other ≠ opener := by
  cases opener <;> decide

theorem eq_or_eq_other (opener leader : Opener) : opener = leader ∨ opener = leader.other := by
  cases opener <;> cases leader <;> simp [other]

end Opener

/-- One call has run all its transactions before the other one reads the history: the two that
every call starts with, and one for each pending migration. -/
def Serial (pending : Nat) (turns : List Opener) : Prop :=
  ∃ (opener : Opener) (before after : List Opener), turns = before ++ opener.other :: after ∧
    before.count opener.other = 1 ∧ 2 + pending ≤ before.count opener

theorem serial_concat {pending : Nat} {turns : List Opener} {opener : Opener} :
    Serial pending (turns ++ [opener]) ↔
      Serial pending turns ∨
        turns.count opener = 1 ∧ 2 + pending ≤ turns.count opener.other := by
  constructor
  · rintro ⟨leader, before, after, hturns, hother, hleader⟩
    rcases List.eq_nil_or_concat after with rfl | ⟨earlier, last, rfl⟩
    · obtain ⟨rfl, hlast⟩ := List.append_inj' hturns rfl
      obtain rfl : opener = leader.other := by simpa using hlast
      exact .inr ⟨hother, by rwa [Opener.other_other]⟩
    · rw [List.concat_eq_append, ← List.cons_append, ← List.append_assoc] at hturns
      obtain ⟨rfl, -⟩ := List.append_inj' hturns rfl
      exact .inl ⟨leader, before, earlier, rfl, hother, hleader⟩
  · rintro (⟨leader, before, after, rfl, hother, hleader⟩ | ⟨hopener, hother⟩)
    · exact ⟨leader, before, after ++ [opener], by simp, hother, hleader⟩
    · exact ⟨opener.other, turns, [], by simp, by simpa using hopener, hother⟩

abbrev OpenerEvent := Opener × Event migrationSignature MigrationException

/-- The migrations that were executed, in the order of their transactions. -/
def executedMigrations (events : List OpenerEvent) : List Migration :=
  events.filterMap fun event =>
    match event.2.request with
    | .apply migration => some migration
    | .createHistory => none
    | .readHistory => none

variable {σ : Type}

abbrev MigrationEnsemble (σ : Type) :=
  Ensemble migrationSignature Opener MigrationException Unit (MigrationDatabase σ)

namespace MigrationEngine

variable (engine : MigrationEngine σ)

def openers (migrations : List Migration) (database : MigrationDatabase σ) : MigrationEnsemble σ :=
  ⟨database, fun _ => engine.applyMigrations migrations⟩

/-- Both calls returned, every pending migration was executed once, and the history is complete. -/
structure Migrated (migrations : List Migration) (applied : Nat) (events : List OpenerEvent)
    (last : MigrationEnsemble σ) : Prop where
  returned : ∀ opener, last.programs opener = .ret ()
  executed : ∀ migration ∈ migrations.drop applied, (executedMigrations events).count migration = 1
  history : last.world.entries = migrations.map engine.entry

/-! ### How far a call has come -/

inductive Progress
  | unopened
  | opened
  | applying (position : Nat)
  | failed (error : MigrationException)

def remaining (migrations : List Migration) :
    Progress → Program migrationSignature MigrationException Unit
  | .unopened => engine.applyMigrations migrations
  | .opened => engine.applyMissing migrations
  | .applying position => forM (migrations.drop position) applyOne
  | .failed error => .raise error

variable {engine} {migrations : List Migration} {database later : MigrationDatabase σ}

/-- The identifiers are distinct and in order. -/
def Increasing (migrations : List Migration) : Prop :=
  (migrations.map Migration.identifier).Pairwise (· < ·)

theorem applyMigrations_eq (hincreasing : Increasing migrations) :
    engine.applyMigrations migrations = .ask .createHistory fun answer =>
      (Program.ofExcept answer).bind fun _ => engine.applyMissing migrations := by
  have hnodup : (migrations.map Migration.identifier).dedup = migrations.map Migration.identifier :=
    List.dedup_eq_self.mpr (hincreasing.imp fun hlt => ne_of_lt hlt)
  have hsorted : (migrations.map Migration.identifier).insertionSort (· ≤ ·) =
      migrations.map Migration.identifier :=
    (hincreasing.imp fun hlt => le_of_lt hlt).insertionSort_eq
  unfold applyMigrations
  simp only [hnodup, hsorted, ne_eq, not_true_eq_false, or_self, if_false]
  rfl

theorem checksum_expected (hincreasing : Increasing migrations) {migration : Migration}
    (hmem : migration ∈ migrations) :
    (migrations.find? (·.identifier = (engine.entry migration).1)).map
      (Migration.checksum engine.sha256) = some (engine.entry migration).2 := by
  cases hfind : migrations.find? (·.identifier = (engine.entry migration).1) with
  | none =>
      have hnone := List.find?_eq_none.mp hfind migration hmem
      simp [entry] at hnone
  | some found =>
      have hfound := List.mem_of_find?_eq_some hfind
      have hidentifier : found.identifier = (engine.entry migration).1 := by
        simpa using List.find?_some hfind
      have hsame : found = migration :=
        List.inj_on_of_nodup_map (hincreasing.imp fun hlt => ne_of_lt hlt) hfound hmem hidentifier
      rw [hsame, Option.map_some]
      rfl

theorem applyMissing_eq (hincreasing : Increasing migrations) {count : Nat}
    (hinitial : engine.AtPrefix migrations count database) :
    ∃ continuation, engine.applyMissing migrations = .ask .readHistory continuation ∧
      continuation (.ok database.entries) = engine.remaining migrations (.applying count) := by
  obtain ⟨hcount, hentries⟩ := hinitial
  refine ⟨_, rfl, ?_⟩
  have hlength : database.entries.length = count := by
    rw [hentries, List.length_map, List.length_take, Nat.min_eq_left hcount]
  have hids : database.entries.map Prod.fst =
      (migrations.map Migration.identifier).take database.entries.length := by
    rw [hlength, hentries, List.map_map, ← List.map_take]
    rfl
  have hchecksums : (database.entries.any fun row =>
      (migrations.find? (·.identifier = row.1)).map (Migration.checksum engine.sha256) ≠
        some row.2) = false := by
    rw [List.any_eq_false, hentries]
    intro row hrow
    obtain ⟨migration, hmigration, rfl⟩ := List.mem_map.mp hrow
    have hmem : migration ∈ migrations := List.mem_of_mem_take hmigration
    rw [checksum_expected hincreasing hmem]
    simp
  change (if database.entries.map Prod.fst ≠
      (migrations.map Migration.identifier).take database.entries.length then _ else _) = _
  rw [if_neg (not_not_intro hids)]
  rw [hchecksums, hlength]
  rfl

variable (engine) in
theorem remaining_applying {position : Nat} (hposition : position < migrations.length) :
    ∃ continuation : Except MigrationException Unit →
        Program migrationSignature MigrationException Unit,
      engine.remaining migrations (.applying position) =
        .ask (.apply migrations[position]) continuation ∧
      continuation (.ok ()) = engine.remaining migrations (.applying (position + 1)) ∧
      ∀ error, ∃ raised, continuation (.error error) = .raise raised := by
  change ∃ continuation, forM (migrations.drop position) applyOne = _ ∧ _
  rw [List.drop_eq_getElem_cons hposition, List.forM_cons]
  refine ⟨_, rfl, rfl, fun error => ?_⟩
  cases error with
  | sqliteError message => exact ⟨_, rfl⟩
  | migrationError message => exact ⟨_, rfl⟩
  | other message => exact ⟨_, rfl⟩

theorem remaining_done {position : Nat} (hposition : migrations.length ≤ position) :
    engine.remaining migrations (.applying position) = .ret () := by
  change forM (migrations.drop position) applyOne = _
  rw [List.drop_eq_nil_of_le hposition]
  rfl

/-! ### What a transaction does for a call -/

/-- The database after so many migrations, the ones before `applied` already there at the start. -/
structure Stands (engine : MigrationEngine σ) (migrations : List Migration) (applied : Nat)
    (schema : σ) (reached : Nat) (database : MigrationDatabase σ) : Prop where
  applied_le : applied ≤ reached
  atPrefix : engine.AtPrefix migrations reached database
  schema_eq : engine.schemaAfterAll ((migrations.take reached).drop applied) schema =
    .ok database.schema

/-- The pending migrations raise nothing, one after the other. -/
def Applies (engine : MigrationEngine σ) (migrations : List Migration) (applied : Nat)
    (schema : σ) : Prop :=
  ∃ final, engine.schemaAfterAll (migrations.drop applied) schema = .ok final

/-- A transaction of a call, with the number of recorded migrations before and after. -/
inductive Advance (migrations : List Migration) (applies : Prop) (reached : Nat) :
    Progress → MigrationRequest → Nat → Progress → Prop
  | create : Advance migrations applies reached .unopened .createHistory reached .opened
  | read : Advance migrations applies reached .opened .readHistory reached (.applying reached)
  | apply (hpending : reached < migrations.length) :
      Advance migrations applies reached (.applying reached) (.apply migrations[reached])
        (reached + 1) (.applying (reached + 1))
  | raise (hpending : reached < migrations.length) (hraises : ¬applies)
      (error : MigrationException) :
      Advance migrations applies reached (.applying reached) (.apply migrations[reached]) reached
        (.failed error)
  | late (position : Nat) (hpending : position < migrations.length) (hlate : position < reached)
      (error : MigrationException) :
      Advance migrations applies reached (.applying position) (.apply migrations[position]) reached
        (.failed error)

theorem isSome_of_performs {request : MigrationRequest}
    {answer : Except MigrationException (migrationSignature.Result request)}
    (hperforms : engine.Performs request database answer later)
    (hhistory : request ≠ .createHistory → database.history.isSome) : later.history.isSome := by
  cases answer with
  | error error =>
      obtain rfl := performs_error hperforms
      cases request with
      | createHistory => cases hperforms
      | readHistory => exact hhistory (by simp)
      | apply migration => exact hhistory (by simp)
  | ok value =>
      cases request with
      | createHistory =>
          cases hperforms
          rfl
      | readHistory =>
          have hread := Statements.commit_ok.mp hperforms
          simp only [readHistory, Statements.bind_ok, Statements.get_ok, Statements.found_ok,
            Statements.pure_ok] at hread
          obtain ⟨_, _, ⟨rfl, rfl⟩, table, _, ⟨htable, rfl⟩, rfl, rfl⟩ := hread
          exact Option.isSome_of_eq_some htable
      | apply migration =>
          obtain ⟨appliedAt, hcommit⟩ := hperforms
          obtain ⟨-, table, inserted, -, -, hinserted⟩ :=
            migrate_ok.mp (Statements.commit_ok.mp hcommit)
          exact Option.isSome_of_eq_some hinserted

theorem identifier_lt (hincreasing : Increasing migrations) {earlier later : Nat}
    (hlt : earlier < later) (hlater : later < migrations.length) :
    migrations[earlier].identifier < migrations[later].identifier := by
  have hordered := List.pairwise_iff_getElem.mp hincreasing earlier later
    (by rw [List.length_map]; omega) (by rwa [List.length_map]) hlt
  simpa using hordered

theorem lt_of_mem_entries (hincreasing : Increasing migrations) {reached : Nat}
    (hinitial : engine.AtPrefix migrations reached database)
    (hpending : reached < migrations.length)
    {id : String} (hid : id ∈ database.entries.map Prod.fst) :
    id < migrations[reached].identifier := by
  rw [hinitial.2, List.map_map] at hid
  obtain ⟨migration, hmigration, rfl⟩ := List.mem_map.mp hid
  obtain ⟨position, hposition, rfl⟩ := List.mem_take_iff_getElem.mp hmigration
  exact identifier_lt hincreasing (by omega) hpending

theorem schemaAfterAll_append {first rest : List Migration} {schema : σ} :
    engine.schemaAfterAll (first ++ rest) schema =
      engine.schemaAfterAll first schema >>= engine.schemaAfterAll rest := by
  unfold schemaAfterAll
  rw [List.foldlM_append]

theorem take_succ_drop {applied reached : Nat} (happlied : applied ≤ reached)
    (hpending : reached < migrations.length) :
    (migrations.take (reached + 1)).drop applied =
      (migrations.take reached).drop applied ++ [migrations[reached]] := by
  rw [List.take_add_one, List.getElem?_eq_getElem hpending, Option.toList_some,
    List.drop_append_of_le_length]
  rw [List.length_take]
  omega

theorem Stands.applied {applied reached : Nat} {schema : σ}
    (hstands : Stands engine migrations applied schema reached database)
    (hincreasing : Increasing migrations) (hpending : reached < migrations.length)
    (hperforms : engine.Performs (.apply migrations[reached]) database (.ok ()) later) :
    Stands engine migrations applied schema (reached + 1) later := by
  obtain ⟨appliedAt, hcommit⟩ := hperforms
  obtain ⟨hschema, table, inserted, htable, hinsert, hlater⟩ :=
    migrate_ok.mp (Statements.commit_ok.mp hcommit)
  refine ⟨Nat.le_succ_of_le hstands.applied_le, ⟨hpending, ?_⟩, ?_⟩
  · rw [entries_insert htable hinsert hlater fun id hid =>
      lt_of_mem_entries hincreasing hstands.atPrefix hpending hid, hstands.atPrefix.2,
      List.take_add_one, List.getElem?_eq_getElem hpending, Option.toList_some, List.map_append]
    rfl
  · rw [take_succ_drop hstands.applied_le hpending, schemaAfterAll_append, hstands.schema_eq]
    change engine.schemaAfterAll [migrations[reached]] database.schema = _
    unfold schemaAfterAll
    rw [List.foldlM_cons, hschema]
    rfl

/-- While the pending migrations raise nothing, the next one is applied. -/
theorem Stands.not_raised {applied reached : Nat} {schema : σ}
    (hstands : Stands engine migrations applied schema reached database)
    (hincreasing : Increasing migrations) (hpending : reached < migrations.length)
    (hhistory : database.history.isSome) (happlies : Applies engine migrations applied schema)
    {error : MigrationException} :
    ¬engine.Performs (.apply migrations[reached]) database (.error error) later := by
  rintro ⟨appliedAt, hcommit⟩
  obtain ⟨table, htable⟩ := Option.isSome_iff_exists.mp hhistory
  obtain ⟨final, hfinal⟩ := happlies
  have hsplit : migrations.drop applied = (migrations.take reached).drop applied ++
      migrations[reached] :: migrations.drop (reached + 1) := by
    rw [← List.drop_eq_getElem_cons hpending]
    conv_lhs => rw [← List.take_append_drop reached migrations]
    rw [List.drop_append_of_le_length]
    rw [List.length_take]
    have := hstands.applied_le
    omega
  rw [hsplit, schemaAfterAll_append, hstands.schema_eq] at hfinal
  change engine.schemaAfterAll (_ :: _) database.schema = _ at hfinal
  unfold schemaAfterAll at hfinal
  rw [List.foldlM_cons] at hfinal
  obtain ⟨next, hnext, -⟩ := except_bind_ok.mp hfinal
  obtain ⟨inserted, hinsert⟩ : ∃ later, table.insert?
      ⟨migrations[reached].identifier, migrations[reached].checksum engine.sha256, appliedAt⟩ =
        some later :=
    Table.insert?_eq_some fun (other : MigrationRow) hother =>
      ne_of_lt (lt_of_mem_entries hincreasing hstands.atPrefix hpending
        ((mem_ids_entries htable).mpr ⟨other, hother, rfl⟩))
  have hmigrate : engine.migrate migrations[reached] appliedAt database =
      .ok ((), ⟨next, some inserted⟩) :=
    migrate_ok.mpr ⟨hnext, table, inserted, htable, hinsert, rfl⟩
  rw [(Statements.commit_error.mp hcommit).1] at hmigrate
  cases hmigrate

/-- A recorded migration cannot be applied again. -/
theorem Stands.not_reapplied {applied reached position : Nat} {schema : σ}
    (hstands : Stands engine migrations applied schema reached database)
    (hpending : position < migrations.length) (hlate : position < reached) :
    ¬engine.Performs (.apply migrations[position]) database (.ok ()) later := by
  rintro ⟨appliedAt, hcommit⟩
  obtain ⟨-, table, inserted, htable, hinsert, -⟩ :=
    migrate_ok.mp (Statements.commit_ok.mp hcommit)
  have hrecorded : migrations[position].identifier ∈ database.entries.map Prod.fst := by
    rw [hstands.atPrefix.2, List.map_map]
    exact List.mem_map.mpr ⟨migrations[position],
      List.mem_take_iff_getElem.mpr ⟨position, by omega, rfl⟩, rfl⟩
  obtain ⟨row, hrow, hid⟩ := (mem_ids_entries htable).mp hrecorded
  exact Table.key_ne_of_insert? hinsert row hrow hid

/-- A call's next transaction moves it on, finds that the migration is already recorded, or raises
because the pending migrations do not all apply. -/
theorem Stands.advance {applied reached : Nat} {schema : σ} {progress : Progress}
    (hstands : Stands engine migrations applied schema reached database)
    (hincreasing : Increasing migrations)
    (hposition : ∀ position, progress = .applying position → position ≤ reached)
    (hhistory : progress ≠ .unopened → database.history.isSome) {request : MigrationRequest}
    {continuation : Except MigrationException (migrationSignature.Result request) →
      Program migrationSignature MigrationException Unit}
    (hasks : engine.remaining migrations progress = .ask request continuation)
    {answer : Except MigrationException (migrationSignature.Result request)}
    (hperforms : engine.Performs request database answer later) :
    ∃ next moved, continuation answer = engine.remaining migrations moved ∧
      Stands engine migrations applied schema next later ∧ later.history.isSome ∧
      Advance migrations (Applies engine migrations applied schema) reached progress request next
        moved := by
  cases progress with
  | failed error => cases hasks
  | unopened =>
      rw [remaining, applyMigrations_eq hincreasing] at hasks
      cases hasks
      cases hperforms
      have hentries : MigrationDatabase.entries
          ⟨database.schema, some (database.history.getD .empty)⟩ = database.entries := by
        unfold MigrationDatabase.entries
        cases database.history with
        | none => rfl
        | some table => rfl
      exact ⟨reached, .opened, rfl, ⟨hstands.applied_le, ⟨hstands.atPrefix.1,
        hentries.trans hstands.atPrefix.2⟩, hstands.schema_eq⟩, rfl, .create⟩
  | opened =>
      obtain ⟨next, hnext, hread⟩ := applyMissing_eq hincreasing hstands.atPrefix
      rw [remaining, hnext] at hasks
      cases hasks
      obtain ⟨table, htable⟩ := Option.isSome_iff_exists.mp (hhistory (by simp))
      have hcommit : readHistory.commit database = (.ok database.entries, database) := by
        refine Statements.commit_ok.mpr ?_
        simp only [readHistory, Statements.bind_ok, Statements.get_ok, Statements.found_ok,
          Statements.pure_ok]
        exact ⟨_, _, ⟨rfl, rfl⟩, table, _, ⟨htable, rfl⟩, rfl, rfl⟩
      obtain ⟨rfl, rfl⟩ := Prod.ext_iff.mp (hcommit.symm.trans hperforms)
      exact ⟨reached, .applying reached, hread, hstands, Option.isSome_of_eq_some htable, .read⟩
  | applying position =>
      have hsome := hhistory (by simp)
      by_cases hpending : position < migrations.length
      · obtain ⟨next, hnext, happlied, hraised⟩ := remaining_applying engine hpending
        rw [hnext] at hasks
        cases hasks
        have hle := hposition position rfl
        cases answer with
        | ok value =>
            have hlater := isSome_of_performs hperforms fun _ => hsome
            rcases Nat.lt_or_ge position reached with hlate | hreached
            · exact absurd hperforms (hstands.not_reapplied hpending hlate)
            · obtain rfl : position = reached := Nat.le_antisymm hle hreached
              exact ⟨position + 1, .applying (position + 1), happlied,
                hstands.applied hincreasing hpending hperforms, hlater, .apply hpending⟩
        | error error =>
            obtain ⟨raised, hraise⟩ := hraised error
            obtain rfl := performs_error hperforms
            rcases Nat.lt_or_ge position reached with hlate | hreached
            · exact ⟨reached, .failed raised, hraise, hstands, hsome,
                .late position hpending hlate raised⟩
            · obtain rfl : position = reached := Nat.le_antisymm hle hreached
              exact ⟨position, .failed raised, hraise, hstands, hsome, .raise hpending
                (fun happlies => hstands.not_raised hincreasing hpending hsome happlies hperforms)
                raised⟩
      · rw [remaining_done (Nat.le_of_not_lt hpending)] at hasks
        cases hasks

/-! ### How two calls can stand to each other -/

variable {applied reached : Nat} {applies : Prop} {progress : Opener → Progress}
  {turns : List Opener} {executed : List Migration}

/-- One call is ahead, and the other one has not read the history yet. -/
structure Ahead (migrations : List Migration) (applied reached : Nat)
    (progress : Opener → Progress) (turns : List Opener) (executed : List Migration)
    (leader : Opener) : Prop where
  behind : progress leader.other = .unopened ∧ turns.count leader.other = 0 ∨
    progress leader.other = .opened ∧ turns.count leader.other = 1
  leading : progress leader = .unopened ∧ turns.count leader = 0 ∧ reached = applied ∨
    progress leader = .opened ∧ turns.count leader = 1 ∧ reached = applied ∨
    progress leader = .applying reached ∧ turns.count leader + applied = 2 + reached
  executed_eq : executed = (migrations.take reached).drop applied
  not_serial : ¬Serial (migrations.length - applied) turns

/-- The second call has found a complete history. -/
structure Served (migrations : List Migration) (applied reached : Nat)
    (progress : Opener → Progress) (turns : List Opener) (executed : List Migration) : Prop where
  reached_eq : reached = migrations.length
  done : ∀ opener, progress opener = .applying migrations.length
  executed_eq : executed = migrations.drop applied
  serial : Serial (migrations.length - applied) turns

/-- Some call has failed, or is bound to fail. -/
structure Lost (migrations : List Migration) (applied reached : Nat) (applies : Prop)
    (progress : Opener → Progress) (turns : List Opener) : Prop where
  cause : ¬applies ∨
    ¬Serial (migrations.length - applied) turns ∧ ∀ opener, 2 ≤ turns.count opener
  stuck : (∃ opener error, progress opener = .failed error) ∨
    (∃ opener position, progress opener = .applying position ∧ position < reached) ∨
    (∀ opener, progress opener = .applying reached) ∧ reached < migrations.length

def Situation (migrations : List Migration) (applied reached : Nat) (applies : Prop)
    (progress : Opener → Progress) (turns : List Opener) (executed : List Migration) : Prop :=
  (∃ leader, Ahead migrations applied reached progress turns executed leader) ∨
    Served migrations applied reached progress turns executed ∨
    Lost migrations applied reached applies progress turns

def executedBy : MigrationRequest → List Migration
  | .apply migration => [migration]
  | .createHistory => []
  | .readHistory => []

theorem count_self (turns : List Opener) (opener : Opener) :
    (turns ++ [opener]).count opener = turns.count opener + 1 := by
  rw [List.count_append, List.count_singleton_self]

theorem count_other (turns : List Opener) (opener : Opener) :
    (turns ++ [opener]).count opener.other = turns.count opener.other := by
  rw [List.count_append, List.count_singleton, if_neg (by simpa using opener.other_ne.symm)]
  rfl

theorem count_of_other (turns : List Opener) (opener : Opener) :
    (turns ++ [opener.other]).count opener = turns.count opener := by
  simpa using count_other turns opener.other

theorem Ahead.step_leader {leader : Opener} {request : MigrationRequest} {next : Nat}
    {moved : Progress}
    (hahead : Ahead migrations applied reached progress turns executed leader)
    (hadvance : Advance migrations applies reached (progress leader) request next moved)
    (happlied : applied ≤ reached) :
    Situation migrations applied next applies (Function.update progress leader moved)
      (turns ++ [leader]) (executed ++ executedBy request) := by
  have hcounted := count_self turns leader
  have hbehind : Function.update progress leader moved leader.other = .unopened ∧
        (turns ++ [leader]).count leader.other = 0 ∨
      Function.update progress leader moved leader.other = .opened ∧
        (turns ++ [leader]).count leader.other = 1 := by
    rw [Function.update_of_ne leader.other_ne, count_other]
    exact hahead.behind
  have hserial : ¬Serial (migrations.length - applied) (turns ++ [leader]) := by
    rw [serial_concat, not_or]
    refine ⟨hahead.not_serial, fun ⟨_, hother⟩ => ?_⟩
    have hbehind := hahead.behind
    omega
  have hexecuted := hahead.executed_eq
  rcases hahead.leading with ⟨hleader, hcount, rfl⟩ | ⟨hleader, hcount, rfl⟩ | ⟨hleader, hcount⟩
  · rw [hleader] at hadvance
    cases hadvance
    refine .inl ⟨leader, hbehind, .inr (.inl ⟨Function.update_self .., by omega, rfl⟩), ?_,
      hserial⟩
    rw [executedBy, List.append_nil, hexecuted]
  · rw [hleader] at hadvance
    cases hadvance
    refine .inl ⟨leader, hbehind, .inr (.inr ⟨Function.update_self .., by omega⟩), ?_, hserial⟩
    rw [executedBy, List.append_nil, hexecuted]
  · rw [hleader] at hadvance
    cases hadvance with
    | apply hpending =>
        refine .inl ⟨leader, hbehind, .inr (.inr ⟨Function.update_self .., by omega⟩), ?_, hserial⟩
        rw [take_succ_drop happlied hpending, hexecuted]
        rfl
    | raise hpending hraises error =>
        exact .inr (.inr ⟨.inl hraises, .inl ⟨leader, error, Function.update_self ..⟩⟩)
    | late position hpending hlate error => exact absurd hlate (Nat.lt_irrefl _)

theorem Ahead.step_other {leader : Opener} {request : MigrationRequest} {next : Nat}
    {moved : Progress}
    (hahead : Ahead migrations applied reached progress turns executed leader)
    (hadvance : Advance migrations applies reached (progress leader.other) request next moved)
    (happlied : applied ≤ reached) (hreached : reached ≤ migrations.length) :
    Situation migrations applied next applies (Function.update progress leader.other moved)
      (turns ++ [leader.other]) (executed ++ executedBy request) := by
  have hcounted := count_self turns leader.other
  have hkept := count_of_other turns leader
  have hleader : Function.update progress leader.other moved leader = progress leader :=
    Function.update_of_ne leader.other_ne.symm ..
  have hserial : Serial (migrations.length - applied) (turns ++ [leader.other]) ↔
      turns.count leader.other = 1 ∧ 2 + (migrations.length - applied) ≤ turns.count leader := by
    rw [serial_concat, Opener.other_other]
    exact or_iff_right hahead.not_serial
  have hexecuted := hahead.executed_eq
  rcases hahead.behind with ⟨hother, hcount⟩ | ⟨hother, hcount⟩
  · rw [hother] at hadvance
    cases hadvance
    refine .inl ⟨leader, .inr ⟨Function.update_self .., by omega⟩, ?_, ?_, ?_⟩
    · rw [hleader, hkept]
      exact hahead.leading
    · rw [executedBy, List.append_nil, hexecuted]
    · rw [hserial]
      omega
  · rw [hother] at hadvance
    cases hadvance
    have hread : executed ++ executedBy .readHistory = (migrations.take reached).drop applied := by
      rw [executedBy, List.append_nil, hexecuted]
    -- Nobody has applied anything yet, or everything is applied, or both calls have work left.
    rcases hahead.leading with ⟨hprogress, hturns, rfl⟩ | ⟨hprogress, hturns, rfl⟩ |
      ⟨hprogress, hturns⟩
    · refine .inl ⟨leader.other, .inl ?_, .inr (.inr ⟨Function.update_self .., by omega⟩), hread,
        fun h => ?_⟩
      · rw [Opener.other_other, hleader, hkept]
        exact ⟨hprogress, hturns⟩
      · have := (hserial.mp h).2
        omega
    · refine .inl ⟨leader.other, .inr ?_, .inr (.inr ⟨Function.update_self .., by omega⟩), hread,
        fun h => ?_⟩
      · rw [Opener.other_other, hleader, hkept]
        exact ⟨hprogress, hturns⟩
      · have := (hserial.mp h).2
        omega
    · have hall (opener : Opener) :
          Function.update progress leader.other (.applying reached) opener = .applying reached := by
        rcases opener.eq_or_eq_other leader with rfl | rfl
        · rw [hleader, hprogress]
        · exact Function.update_self ..
      rcases Nat.eq_or_lt_of_le hreached with rfl | hpending
      · refine .inr (.inl ⟨rfl, hall, ?_, hserial.mpr ⟨hcount, by omega⟩⟩)
        rw [hread, List.take_length]
      · refine .inr (.inr ⟨.inr ⟨?_, fun opener => ?_⟩, .inr (.inr ⟨hall, hpending⟩)⟩)
        · rw [hserial]
          omega
        · rcases opener.eq_or_eq_other leader with rfl | rfl
          · omega
          · omega

theorem Lost.step {opener : Opener} {request : MigrationRequest} {next : Nat} {moved : Progress}
    (hlost : Lost migrations applied reached applies progress turns)
    (hadvance : Advance migrations applies reached (progress opener) request next moved) :
    Lost migrations applied next applies (Function.update progress opener moved)
      (turns ++ [opener]) := by
  have hkept (one : Opener) : turns.count one ≤ (turns ++ [opener]).count one := by
    rw [List.count_append]
    omega
  have hnext : reached ≤ next := by
    generalize progress opener = current at hadvance
    cases hadvance <;> omega
  constructor
  · refine hlost.cause.imp id fun ⟨hserial, hcounts⟩ => ⟨?_, fun one => ?_⟩
    · rw [serial_concat, not_or]
      have := hcounts opener
      exact ⟨hserial, by omega⟩
    · exact Nat.le_trans (hcounts one) (hkept one)
  · rcases hlost.stuck with ⟨one, error, hfailed⟩ | ⟨one, position, hposition, hlate⟩ |
      ⟨hall, hpending⟩
    · have hne : one ≠ opener := by
        rintro rfl
        rw [hfailed] at hadvance
        cases hadvance
      exact .inl ⟨one, error, by rw [Function.update_of_ne hne, hfailed]⟩
    · by_cases hsame : one = opener
      · subst hsame
        rw [hposition] at hadvance
        cases hadvance with
        | apply hpending => omega
        | raise hpending hraises error => exact .inl ⟨one, error, Function.update_self ..⟩
        | late position hpending hlate error => exact .inl ⟨one, error, Function.update_self ..⟩
      · exact .inr (.inl ⟨one, position, by rw [Function.update_of_ne hsame, hposition],
          Nat.lt_of_lt_of_le hlate hnext⟩)
    · rw [hall opener] at hadvance
      cases hadvance with
      | apply hpending =>
          exact .inr (.inl ⟨opener.other, reached,
            by rw [Function.update_of_ne opener.other_ne, hall], Nat.lt_succ_self _⟩)
      | raise hpending hraises error => exact .inl ⟨opener, error, Function.update_self ..⟩
      | late position hpending hlate error => exact absurd hlate (Nat.lt_irrefl _)

theorem Situation.step {opener : Opener} {request : MigrationRequest} {next : Nat}
    {moved : Progress}
    (hsituation : Situation migrations applied reached applies progress turns executed)
    (hadvance : Advance migrations applies reached (progress opener) request next moved)
    (happlied : applied ≤ reached) (hreached : reached ≤ migrations.length) :
    Situation migrations applied next applies (Function.update progress opener moved)
      (turns ++ [opener]) (executed ++ executedBy request) := by
  rcases hsituation with ⟨leader, hahead⟩ | hserved | hlost
  · rcases opener.eq_or_eq_other leader with rfl | rfl
    · exact hahead.step_leader hadvance happlied
    · exact hahead.step_other hadvance happlied hreached
  · have hreached := hserved.reached_eq
    rw [hserved.done opener] at hadvance
    cases hadvance <;> omega
  · exact .inr (.inr (hlost.step hadvance))

/-! ### Whole interleavings -/

/-- What holds of the two calls after every interleaving of some of their transactions. -/
structure Scene (engine : MigrationEngine σ) (migrations : List Migration) (applied : Nat)
    (schema : σ) (ensemble : MigrationEnsemble σ) (events : List OpenerEvent) (reached : Nat)
    (progress : Opener → Progress) : Prop where
  programs_eq : ∀ opener, ensemble.programs opener = engine.remaining migrations (progress opener)
  stands : Stands engine migrations applied schema reached ensemble.world
  position_le : ∀ opener position, progress opener = .applying position → position ≤ reached
  history : ∀ opener, progress opener ≠ .unopened → ensemble.world.history.isSome
  situation : Situation migrations applied reached (Applies engine migrations applied schema)
    progress (events.map Prod.fst) (executedMigrations events)

theorem executedMigrations_concat {events : List OpenerEvent} {opener : Opener}
    {request : MigrationRequest}
    {answer : Except MigrationException (migrationSignature.Result request)} :
    executedMigrations (events ++ [(opener, ⟨request, answer⟩)]) =
      executedMigrations events ++ executedBy request := by
  unfold executedMigrations
  rw [List.filterMap_append]
  cases request <;> rfl

theorem Scene.step {schema : σ} {ensemble later : MigrationEnsemble σ}
    {events : List OpenerEvent} {event : OpenerEvent}
    (hscene : Scene engine migrations applied schema ensemble events reached progress)
    (hincreasing : Increasing migrations)
    (hstep : Ensemble.Step engine.Performs ensemble event later) :
    ∃ next moved, Scene engine migrations applied schema later (events ++ [event]) next moved := by
  cases hstep with
  | answer opener request continuation answer world hasks hperforms =>
      rw [hscene.programs_eq opener] at hasks
      obtain ⟨next, moved, hmoved, hstands, hhistory, hadvance⟩ := hscene.stands.advance hincreasing
        (hscene.position_le opener) (hscene.history opener) hasks hperforms
      refine ⟨next, Function.update progress opener moved, fun other => ?_, hstands,
        fun other position hposition => ?_, fun _ _ => hhistory, ?_⟩
      · change Function.update ensemble.programs opener (continuation answer) other = _
        by_cases hsame : other = opener
        · subst hsame
          rw [Function.update_self, Function.update_self, hmoved]
        · rw [Function.update_of_ne hsame, Function.update_of_ne hsame, hscene.programs_eq]
      · by_cases hsame : other = opener
        · subst hsame
          rw [Function.update_self] at hposition
          generalize progress other = current at hadvance
          cases hadvance <;> cases hposition <;> exact Nat.le_refl _
        · rw [Function.update_of_ne hsame] at hposition
          have hle := hscene.position_le other position hposition
          have hnext : reached ≤ next := by
            generalize progress opener = current at hadvance
            cases hadvance <;> omega
          omega
      · rw [executedMigrations_concat, List.map_append]
        exact hscene.situation.step hadvance hscene.stands.applied_le hscene.stands.atPrefix.1

theorem scene_of_path {events : List OpenerEvent} {last : MigrationEnsemble σ}
    (hincreasing : Increasing migrations) (hinitial : engine.AtPrefix migrations applied database)
    (hpath : StepPath (Ensemble.Step engine.Performs) (engine.openers migrations database) events
      last) :
    ∃ reached progress,
      Scene engine migrations applied database.schema last events reached progress := by
  refine hpath.relates (fun ensemble events => ∃ reached progress,
    Scene engine migrations applied database.schema ensemble events reached progress)
    (fun ensemble earlier event later hscene hstep => ?_) ?_
  · obtain ⟨reached, progress, hscene⟩ := hscene
    exact hscene.step hincreasing hstep
  · refine ⟨applied, fun _ => .unopened, fun _ => rfl, ⟨Nat.le_refl _, hinitial, ?_⟩, ?_,
      fun _ hopened => absurd rfl hopened, .inl ⟨.first, ?_⟩⟩
    · rw [List.drop_eq_nil_of_le (by rw [List.length_take]; omega)]
      rfl
    · rintro opener position ⟨⟩
    · refine ⟨.inl ⟨rfl, rfl⟩, .inl ⟨rfl, rfl, rfl⟩, ?_, ?_⟩
      · rw [List.drop_eq_nil_of_le (by rw [List.length_take]; omega)]
        rfl
      · rintro ⟨leader, before, after, hturns, -⟩
        cases before <;> cases hturns

theorem nodup_of_increasing (hincreasing : Increasing migrations) : migrations.Nodup :=
  List.Nodup.of_map _ (hincreasing.imp fun hlt => ne_of_lt hlt)

theorem Scene.migrated {schema : σ} {last : MigrationEnsemble σ} {events : List OpenerEvent}
    (hscene : Scene engine migrations applied schema last events reached progress)
    (hincreasing : Increasing migrations)
    (hserved : Served migrations applied reached progress (events.map Prod.fst)
      (executedMigrations events)) :
    engine.Migrated migrations applied events last := by
  refine ⟨fun opener => ?_, fun migration hmigration => ?_, ?_⟩
  · rw [hscene.programs_eq, hserved.done, remaining_done (Nat.le_refl _)]
  · rw [hserved.executed_eq]
    exact List.count_eq_one_of_mem
      ((nodup_of_increasing hincreasing).sublist (List.drop_sublist ..)) hmigration
  · rw [hscene.stands.atPrefix.2, hserved.reached_eq, List.take_length]

theorem Scene.not_returned {schema : σ} {last : MigrationEnsemble σ} {events : List OpenerEvent}
    (hscene : Scene engine migrations applied schema last events reached progress)
    (hlost : Lost migrations applied reached (Applies engine migrations applied schema) progress
      (events.map Prod.fst)) :
    ¬∀ opener, last.programs opener = .ret () := by
  intro hreturned
  have hasks {opener : Opener} {position : Nat} (hpending : position < migrations.length)
      (hposition : progress opener = .applying position) : False := by
    obtain ⟨continuation, hcontinuation, -⟩ := remaining_applying engine hpending
    have hprogram := hscene.programs_eq opener
    rw [hposition, hcontinuation, hreturned] at hprogram
    cases hprogram
  rcases hlost.stuck with ⟨opener, error, hfailed⟩ | ⟨opener, position, hposition, hlate⟩ |
    ⟨hall, hpending⟩
  · have hprogram := hscene.programs_eq opener
    rw [hfailed, hreturned] at hprogram
    cases hprogram
  · exact hasks (Nat.lt_of_lt_of_le hlate hscene.stands.atPrefix.1) hposition
  · exact hasks hpending (hall .first)

/-- **Two openers.** In a complete interleaving of two calls, from any prefix of the history, both
calls return, each pending migration is executed once and the history ends complete exactly if the
pending migrations apply and one call has run all its transactions before the other one reads the
history. -/
theorem concurrent_openers_iff {events : List OpenerEvent} {last : MigrationEnsemble σ}
    (hincreasing : Increasing migrations) (hinitial : engine.AtPrefix migrations applied database)
    (hpath : StepPath (Ensemble.Step engine.Performs) (engine.openers migrations database) events
      last) (hended : last.Ended) :
    engine.Migrated migrations applied events last ↔
      Applies engine migrations applied database.schema ∧
        Serial (migrations.length - applied) (events.map Prod.fst) := by
  obtain ⟨reached, progress, hscene⟩ := scene_of_path hincreasing hinitial hpath
  rcases hscene.situation with ⟨leader, hahead⟩ | hserved | hlost
  · exfalso
    have hprogram := hscene.programs_eq leader.other
    rcases hahead.behind with ⟨hother, -⟩ | ⟨hother, -⟩
    · rw [hother, remaining, applyMigrations_eq hincreasing] at hprogram
      exact hended.not_ask hprogram
    · obtain ⟨continuation, hcontinuation, -⟩ := applyMissing_eq hincreasing hinitial
      rw [hother, remaining, hcontinuation] at hprogram
      exact hended.not_ask hprogram
  · refine iff_of_true (hscene.migrated hincreasing hserved) ⟨⟨last.world.schema, ?_⟩,
      hserved.serial⟩
    rw [← hscene.stands.schema_eq, hserved.reached_eq, List.take_length]
  · refine iff_of_false (fun hmigrated => hscene.not_returned hlost hmigrated.returned) ?_
    rintro ⟨happlies, hserial⟩
    rcases hlost.cause with hraises | ⟨hconcurrent, -⟩
    · exact hraises happlies
    · exact hconcurrent hserial

end MigrationEngine

/-! ### Two openers of an empty database -/

def stableStatement : String := "CREATE TABLE stable (id INTEGER PRIMARY KEY)"

def stableMigrations : List Migration := [⟨"0001_ok", [stableStatement]⟩]

def transientStatement : String := "CREATE TABLE transient (id INTEGER PRIMARY KEY)"

/-- The SHA-256 of the texts that the examples hash. -/
def migrationHashes : List (String × String) :=
  [(stableStatement, "1a904a857f128fe22a2a76e508a7b4214b1a4d777fc61e5c8142b8e978c76b00"),
    (transientStatement, "5fcb6640f64cd4e0f2800b9cb2019b794e7561a2766b8ee286bb7b868d1c350c"),
    ("CREATE TABLE stable (id INTEGER PRIMARY KEY)\n-- statement --\nCOMMIT" ++
      "\n-- statement --\nTHIS IS NOT SQL",
      "4ef636062f309023d222db7baa3dca408fa3561386577c1734931555a076acf7"),
    ("DELETE FROM schema_migrations",
      "2b53d17f73d67f9ad0bc882ac4c4ecd2ad9ed95db372964c2b656fe9cd6dfd0f")]

/-- A schema that is the list of its `CREATE TABLE` statements. -/
def tableEngine : MigrationEngine (List String) where
  execute statement schema :=
    if statement ∈ schema then .error (.sqliteError "table already exists")
    else .ok (schema ++ [statement])
  sha256 text := ((migrationHashes.find? (·.1 = text)).map Prod.snd).getD ""

def answerMigration (request : MigrationRequest) (database : MigrationDatabase (List String)) :
    Except MigrationException (migrationSignature.Result request) ×
      MigrationDatabase (List String) :=
  match request with
  | .createHistory => createHistory.commit database
  | .readHistory => readHistory.commit database
  | .apply migration =>
    (tableEngine.migrate migration "2026-01-01T00:00:00.000000Z").commit database

theorem performs_answerMigration (request : MigrationRequest)
    (database : MigrationDatabase (List String)) :
    tableEngine.Performs request database (answerMigration request database).1
      (answerMigration request database).2 := by
  cases request with
  | createHistory => rfl
  | readHistory => rfl
  | apply migration => exact ⟨_, rfl⟩

def emptyDatabase : MigrationDatabase (List String) := ⟨[], none⟩

def turnByTurn : List Opener := [.first, .second, .first, .second, .first, .second]

def oneAfterTheOther : List Opener := [.first, .first, .first, .second, .second]

/-- Both openers read the empty history; the second one then fails on the first migration. -/
theorem openers_fail_turnByTurn :
    MigrationEngine.Increasing stableMigrations ∧
      tableEngine.AtPrefix stableMigrations 0 emptyDatabase ∧
      tableEngine.Applies stableMigrations 0 emptyDatabase.schema ∧
      ∃ events last, StepPath (Ensemble.Step tableEngine.Performs)
          (tableEngine.openers stableMigrations emptyDatabase) events last ∧
        last.Ended ∧ last.programs .first = .ret () ∧
        last.programs .second = .raise (.migrationError "Migration 0001_ok failed") ∧
        ¬tableEngine.Migrated stableMigrations 0 events last := by
  refine ⟨List.pairwise_singleton .., ⟨Nat.zero_le _, rfl⟩, ⟨_, rfl⟩, ?_⟩
  obtain ⟨reached, hfollow⟩ : ∃ reached, Ensemble.follow answerMigration turnByTurn
      (tableEngine.openers stableMigrations emptyDatabase) = some reached := ⟨_, rfl⟩
  have hprograms : some (reached.2.programs .first, reached.2.programs .second) =
      some (.ret (), .raise (.migrationError "Migration 0001_ok failed")) := by
    change Option.map (fun ended : List OpenerEvent × MigrationEnsemble (List String) =>
      (ended.2.programs .first, ended.2.programs .second)) (some reached) = _
    rw [← hfollow]
    rfl
  obtain ⟨hfirst, hsecond⟩ := Prod.mk.inj (Option.some.inj hprograms)
  refine ⟨reached.1, reached.2, Ensemble.path_of_follow performs_answerMigration hfollow, ?_,
    hfirst, hsecond, fun hmigrated => ?_⟩
  · intro opener
    cases opener with
    | first => exact ⟨.ok (), hfirst⟩
    | second => exact ⟨.error _, hsecond⟩
  · have hreturned := hmigrated.returned .second
    rw [hsecond] at hreturned
    cases hreturned

theorem concurrent_openers_iff_oneAfterTheOther :
    ∃ events last, StepPath (Ensemble.Step tableEngine.Performs)
        (tableEngine.openers stableMigrations emptyDatabase) events last ∧
      last.Ended ∧ tableEngine.Migrated stableMigrations 0 events last := by
  obtain ⟨reached, hfollow⟩ : ∃ reached, Ensemble.follow answerMigration oneAfterTheOther
      (tableEngine.openers stableMigrations emptyDatabase) = some reached := ⟨_, rfl⟩
  have hprograms : some (reached.1.map Prod.fst, reached.2.programs .first,
      reached.2.programs .second) = some (oneAfterTheOther, .ret (), .ret ()) := by
    change Option.map (fun ended : List OpenerEvent × MigrationEnsemble (List String) =>
      (ended.1.map Prod.fst, ended.2.programs .first, ended.2.programs .second))
      (some reached) = _
    rw [← hfollow]
    rfl
  obtain ⟨hturns, hboth⟩ := Prod.mk.inj (Option.some.inj hprograms)
  obtain ⟨hfirst, hsecond⟩ := Prod.mk.inj hboth
  have hpath := Ensemble.path_of_follow performs_answerMigration hfollow
  have hended : reached.2.Ended := by
    intro opener
    cases opener with
    | first => exact ⟨.ok (), hfirst⟩
    | second => exact ⟨.ok (), hsecond⟩
  have hincreasing : MigrationEngine.Increasing stableMigrations := List.pairwise_singleton ..
  have hserial : Serial (stableMigrations.length - 0) (reached.1.map Prod.fst) := by
    rw [hturns]
    exact ⟨.first, [.first, .first, .first, .second], [], rfl, rfl, by decide⟩
  exact ⟨reached.1, reached.2, hpath, hended,
    (MigrationEngine.concurrent_openers_iff hincreasing ⟨Nat.zero_le _, rfl⟩ hpath hended).mpr
      ⟨⟨_, rfl⟩, hserial⟩⟩

end OdooMcp
