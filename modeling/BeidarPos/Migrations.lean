import BeidarPos.Table

/-! The schema migrations. Each pending one runs in a transaction of its own together
with the row that records it; the runs stop at the first failure and are repeated at the
next start. What surrounds a run differs from the next one's, so that a cause can be fixed. -/
namespace BeidarPos

open Relational

/-- A row of `schema_migrations`. -/
structure SchemaMigration where
  version : String
  description : String
  appliedAt : Int
  executionTimeMs : Int
  deriving DecidableEq

structure Migration (χ σ : Type) where
  version : String
  description : String
  up : χ → σ → Except String σ

structure MigrationDb (σ : Type) where
  data : σ
  migrations : Table SchemaMigration.version

/-- What a run meets: the world its migrations see, the faults of its own statements,
the clock, and the number of transactions after which the process stops, if it does. -/
structure Attempt (χ : Type) where
  world : χ
  tableFault : Option String
  queryFault : Option String
  recordFault : String → Option String
  clock : String → Int × Int
  stop : Option Nat

inductive MigrationOutcome where
  | done
  | failed (error : String)
  | stopped
  deriving DecidableEq

section Runs

variable {χ σ : Type}

def MigrationDb.versions (db : MigrationDb σ) : List String := db.migrations.rows.map SchemaMigration.version

def Migration.record (m : Migration χ σ) (attempt : Attempt χ) : SchemaMigration :=
  ⟨m.version, m.description, (attempt.clock m.version).1, (attempt.clock m.version).2⟩

/-- One transaction: the migration and its record, or neither. -/
def applyMigration (attempt : Attempt χ) (m : Migration χ σ) (db : MigrationDb σ) : Except String (MigrationDb σ) :=
  match m.up attempt.world db.data with
  | .error e => .error e
  | .ok data =>
    match attempt.recordFault m.version with
    | some fault => .error ("failed to record migration " ++ m.version ++ ": " ++ fault)
    | none =>
      match db.migrations.insert? (m.record attempt) with
      | none => .error ("failed to record migration " ++ m.version ++
          ": UNIQUE constraint failed: schema_migrations.version")
      | some migrations => .ok ⟨data, migrations⟩

/-- The loop. `appliedSet` was read before it and is not updated by it. -/
def applyPending (attempt : Attempt χ) (appliedSet : List String) :
    Option Nat → List (Migration χ σ) → MigrationDb σ → MigrationOutcome × MigrationDb σ
  | _, [], db => (.done, db)
  | stop, m :: ms, db =>
    if m.version ∈ appliedSet then applyPending attempt appliedSet stop ms db
    else if stop = some 0 then (.stopped, db)
    else
      match applyMigration attempt m db with
      | .error e => (.failed ("migration " ++ m.version ++ " failed: " ++ e), db)
      | .ok next => applyPending attempt appliedSet (stop.map (· - 1)) ms next

def runMigrations (ms : List (Migration χ σ)) (attempt : Attempt χ) (db : MigrationDb σ) :
    MigrationOutcome × MigrationDb σ :=
  match attempt.tableFault with
  | some fault => (.failed ("failed to create schema_migrations table: " ++ fault), db)
  | none =>
    match attempt.queryFault with
    | some fault => (.failed ("failed to query applied migrations: " ++ fault), db)
    | none => applyPending attempt db.versions attempt.stop ms db

/-- The database after a sequence of runs. -/
def rerunMigrations (ms : List (Migration χ σ)) (attempts : List (Attempt χ)) (db : MigrationDb σ) : MigrationDb σ :=
  attempts.foldl (fun db attempt => (runMigrations ms attempt db).2) db

end Runs

section Effects

variable {χ σ : Type}

/-- The migrations once each, in order, in one world. -/
def upgrade (world : χ) : List (Migration χ σ) → σ → Except String σ
  | [], s => .ok s
  | m :: ms, s =>
    match m.up world s with
    | .error e => .error e
    | .ok next => upgrade world ms next

/-- The migrations took effect once each, in order, each in some world. -/
def TookEffect : List (Migration χ σ) → σ → σ → Prop
  | [], s, final => final = s
  | m :: ms, s, final => ∃ world next, m.up world s = .ok next ∧ TookEffect ms next final

theorem TookEffect.append {front back : List (Migration χ σ)} {s middle final : σ} (first : TookEffect front s middle)
    (second : TookEffect back middle final) : TookEffect (front ++ back) s final := by
  induction front generalizing s with
  | nil =>
    obtain rfl := first
    exact second
  | cons m front ih =>
    obtain ⟨world, next, up, rest⟩ := first
    exact ⟨world, next, up, ih rest⟩

theorem upgrade_took_effect {world : χ} {ms : List (Migration χ σ)} {s final : σ}
    (done : upgrade world ms s = .ok final) : TookEffect ms s final := by
  induction ms generalizing s with
  | nil => cases done; rfl
  | cons m ms ih =>
    rw [upgrade] at done
    cases up : m.up world s with
    | error e => simp [up] at done
    | ok next =>
      rw [up] at done
      exact ⟨world, next, up, ih done⟩

end Effects

section Steps

variable {χ σ : Type} {attempt : Attempt χ} {m : Migration χ σ} {ms front back : List (Migration χ σ)}
  {db next : MigrationDb σ} {appliedSet : List String}

theorem applyMigration_ok (done : applyMigration attempt m db = .ok next) :
    m.up attempt.world db.data = .ok next.data ∧
      next.migrations.rows = db.migrations.rows ++ [m.record attempt] := by
  unfold applyMigration at done
  cases up : m.up attempt.world db.data with
  | error e => simp [up] at done
  | ok data =>
    rw [up] at done
    cases fault : attempt.recordFault m.version with
    | some e => simp [fault] at done
    | none =>
      simp only [fault] at done
      cases inserted : db.migrations.insert? (m.record attempt) with
      | none => simp [inserted] at done
      | some migrations =>
        simp only [inserted, Except.ok.injEq] at done
        subst done
        exact ⟨rfl, (Table.insert?_rows inserted).1⟩

/-- A migration that succeeds is recorded, when nothing is wrong with its record. -/
theorem applyMigration_done {data : σ} (up : m.up attempt.world db.data = .ok data)
    (sound : attempt.recordFault m.version = none) (fresh : m.version ∉ db.versions) :
    ∃ next, applyMigration attempt m db = .ok next ∧ next.data = data := by
  cases inserted : db.migrations.insert? (m.record attempt) with
  | none =>
    obtain ⟨old, taken⟩ := Table.insert?_none.mp inserted
    have member : m.version ∈ db.versions :=
      List.mem_map.mpr ⟨old, Table.find?_mem taken, Table.find?_key taken⟩
    exact absurd member fresh
  | some migrations => exact ⟨⟨data, migrations⟩, by simp only [applyMigration, up, sound, inserted], rfl⟩

/-- The recorded migrations are skipped. -/
theorem applyPending_skips (stop : Option Nat) (recorded : ∀ m ∈ front, m.version ∈ appliedSet) :
    applyPending attempt appliedSet stop (front ++ back) db = applyPending attempt appliedSet stop back db := by
  induction front with
  | nil => rfl
  | cons m front ih =>
    rw [List.cons_append, applyPending, if_pos (recorded m (by simp))]
    exact ih fun other member => recorded other (by simp [member])

/-- However a run ends, it applied and recorded the first so many of what was pending. -/
theorem applyPending_applies (stop : Option Nat) (pending : ∀ m ∈ ms, m.version ∉ appliedSet) (db : MigrationDb σ) :
    ∃ j ≤ ms.length,
      upgrade attempt.world (ms.take j) db.data = .ok (applyPending attempt appliedSet stop ms db).2.data ∧
      (applyPending attempt appliedSet stop ms db).2.migrations.rows =
        db.migrations.rows ++ (ms.take j).map (fun m => m.record attempt) := by
  induction ms generalizing db stop with
  | nil => exact ⟨0, le_rfl, rfl, by simp [applyPending]⟩
  | cons m ms ih =>
    rw [applyPending, if_neg (pending m (by simp))]
    by_cases halted : stop = some 0
    · rw [if_pos halted]
      exact ⟨0, by simp, rfl, by simp⟩
    · rw [if_neg halted]
      cases done : applyMigration attempt m db with
      | error e => exact ⟨0, by simp, rfl, by simp⟩
      | ok next =>
        obtain ⟨up, rows⟩ := applyMigration_ok done
        obtain ⟨j, bound, effect, recorded⟩ :=
          ih (stop.map (· - 1)) (fun other member => pending other (by simp [member])) next
        refine ⟨j + 1, by simpa using bound, ?_, ?_⟩
        · rw [List.take_succ_cons, upgrade, up]
          exact effect
        · change (applyPending attempt appliedSet (stop.map (· - 1)) ms next).2.migrations.rows = _
          rw [recorded, rows]
          simp

/-- A run that meets no fault applies all of what was pending. -/
theorem applyPending_completes {final : σ} (pending : ∀ m ∈ ms, m.version ∉ appliedSet)
    (fresh : ∀ m ∈ ms, m.version ∉ db.versions) (distinct : (ms.map Migration.version).Nodup)
    (sound : ∀ m ∈ ms, attempt.recordFault m.version = none) (done : upgrade attempt.world ms db.data = .ok final) :
    (applyPending attempt appliedSet none ms db).1 = .done ∧
      (applyPending attempt appliedSet none ms db).2.data = final ∧
      (applyPending attempt appliedSet none ms db).2.migrations.rows =
        db.migrations.rows ++ ms.map (fun m => m.record attempt) := by
  induction ms generalizing db with
  | nil =>
    cases done
    exact ⟨rfl, rfl, by simp [applyPending]⟩
  | cons m ms ih =>
    rw [upgrade] at done
    cases up : m.up attempt.world db.data with
    | error e => simp [up] at done
    | ok data =>
      rw [up] at done
      obtain ⟨next, applied, rfl⟩ := applyMigration_done up (sound m (by simp)) (fresh m (by simp))
      have rows := (applyMigration_ok applied).2
      obtain ⟨own, others⟩ := List.nodup_cons.mp distinct
      have later : ∀ other ∈ ms, other.version ∉ next.versions := by
        intro other member
        rw [MigrationDb.versions, rows, List.map_append, List.mem_append, not_or]
        refine ⟨fresh other (by simp [member]), fun same => own ?_⟩
        rw [List.map_singleton, List.mem_singleton] at same
        exact List.mem_map.mpr ⟨other, member, same⟩
      obtain ⟨finished, effect, recorded⟩ := ih (fun other member => pending other (by simp [member])) later others
        (fun other member => sound other (by simp [member])) done
      rw [applyPending, if_neg (pending m (by simp)), if_neg (by simp), applied]
      refine ⟨finished, effect, ?_⟩
      change (applyPending attempt appliedSet none ms next).2.migrations.rows = _
      rw [recorded, rows]
      simp

end Steps

section Reruns

variable {χ σ : Type} {ms : List (Migration χ σ)} {start : σ} {db : MigrationDb σ} {k : Nat}

/-- The first `k` migrations are recorded, and are what happened to the data. -/
structure MigratedTo (ms : List (Migration χ σ)) (start : σ) (k : Nat) (db : MigrationDb σ) : Prop where
  bound : k ≤ ms.length
  recorded : db.versions = (ms.take k).map Migration.version
  effect : TookEffect (ms.take k) start db.data

theorem MigratedTo.pending (migrated : MigratedTo ms start k db) (distinct : (ms.map Migration.version).Nodup) :
    ∀ m ∈ ms.drop k, m.version ∉ db.versions := by
  intro m member recorded
  rw [migrated.recorded, List.map_take] at recorded
  have later : m.version ∈ (ms.map Migration.version).drop k := by
    rw [← List.map_drop]
    exact List.mem_map.mpr ⟨m, member, rfl⟩
  exact List.disjoint_take_drop distinct le_rfl recorded later

/-- A run is its loop on the missing suffix, once it gets there. -/
theorem MigratedTo.resumes (migrated : MigratedTo ms start k db) (attempt : Attempt χ) :
    (runMigrations ms attempt db).2 = db ∨
      runMigrations ms attempt db = applyPending attempt db.versions attempt.stop (ms.drop k) db := by
  unfold runMigrations
  cases attempt.tableFault with
  | some fault => exact .inl rfl
  | none =>
    cases attempt.queryFault with
    | some fault => exact .inl rfl
    | none =>
      have recorded : ∀ m ∈ ms.take k, m.version ∈ db.versions := by
        intro m member
        rw [migrated.recorded]
        exact List.mem_map.mpr ⟨m, member, rfl⟩
      have skipped : applyPending attempt db.versions attempt.stop (ms.take k ++ ms.drop k) db =
          applyPending attempt db.versions attempt.stop (ms.drop k) db := applyPending_skips attempt.stop recorded
      rw [List.take_append_drop] at skipped
      exact .inr skipped

/-- Whatever it meets, a run goes on from where the last one ended. -/
theorem MigratedTo.rerun (migrated : MigratedTo ms start k db) (distinct : (ms.map Migration.version).Nodup)
    (attempt : Attempt χ) :
    ∃ j, k ≤ j ∧ MigratedTo ms start j (runMigrations ms attempt db).2 ∧
      upgrade attempt.world ((ms.take j).drop k) db.data = .ok (runMigrations ms attempt db).2.data := by
  rcases migrated.resumes attempt with unchanged | loop
  · refine ⟨k, le_rfl, ?_, ?_⟩
    · rw [unchanged]
      exact migrated
    · rw [unchanged]
      simp [upgrade]
  · obtain ⟨j, bound, effect, recorded⟩ := applyPending_applies attempt.stop (migrated.pending distinct) db
    rw [← loop] at effect recorded
    have upTo : ms.take (k + j) = ms.take k ++ (ms.drop k).take j := List.take_add
    refine ⟨k + j, by omega, ⟨?_, ?_, ?_⟩, ?_⟩
    · have := migrated.bound
      rw [List.length_drop] at bound
      omega
    · have before := migrated.recorded
      rw [MigrationDb.versions] at before ⊢
      rw [recorded, List.map_append, before, upTo]
      simp [Migration.record, Function.comp_def]
    · rw [upTo]
      exact migrated.effect.append (upgrade_took_effect effect)
    · have rest : (ms.take (k + j)).drop k = (ms.drop k).take j := by
        rw [List.drop_take]
        congr 1
        omega
      rw [rest]
      exact effect

theorem MigratedTo.reruns (distinct : (ms.map Migration.version).Nodup) (migrated : MigratedTo ms start k db)
    (attempts : List (Attempt χ)) : ∃ j, MigratedTo ms start j (rerunMigrations ms attempts db) := by
  induction attempts generalizing k db with
  | nil => exact ⟨k, migrated⟩
  | cons attempt attempts ih =>
    obtain ⟨j, _, next, _⟩ := migrated.rerun distinct attempt
    exact ih next

/-- Nothing is wrong with the statements of the run itself, and it is not stopped. -/
structure Attempt.Sound (attempt : Attempt χ) : Prop where
  table : attempt.tableFault = none
  query : attempt.queryFault = none
  records : ∀ version, attempt.recordFault version = none
  runs : attempt.stop = none

theorem MigratedTo.completes {final : σ} (migrated : MigratedTo ms start k db)
    (distinct : (ms.map Migration.version).Nodup) {attempt : Attempt χ} (sound : attempt.Sound)
    (done : upgrade attempt.world (ms.drop k) db.data = .ok final) :
    (runMigrations ms attempt db).1 = .done ∧ (runMigrations ms attempt db).2.data = final ∧
      (runMigrations ms attempt db).2.migrations.rows =
        db.migrations.rows ++ (ms.drop k).map (fun m => m.record attempt) := by
  have recorded : ∀ m ∈ ms.take k, m.version ∈ db.versions := by
    intro m member
    rw [migrated.recorded]
    exact List.mem_map.mpr ⟨m, member, rfl⟩
  have loop : runMigrations ms attempt db = applyPending attempt db.versions none (ms.drop k) db := by
    have skipped : applyPending attempt db.versions none (ms.take k ++ ms.drop k) db =
        applyPending attempt db.versions none (ms.drop k) db := applyPending_skips none recorded
    rw [List.take_append_drop] at skipped
    simp only [runMigrations, sound.table, sound.query, sound.runs, skipped]
  have others : ((ms.drop k).map Migration.version).Nodup := by
    rw [List.map_drop]
    exact distinct.sublist (List.drop_sublist ..)
  have pending := migrated.pending distinct
  rw [loop]
  exact applyPending_completes pending pending others (fun m _ => sound.records m.version) done

theorem MigratedTo.complete_stays (migrated : MigratedTo ms start k db) (complete : k = ms.length)
    (attempt : Attempt χ) : (runMigrations ms attempt db).2 = db := by
  rcases migrated.resumes attempt with unchanged | loop
  · exact unchanged
  · rw [loop, complete, List.drop_length]
    rfl

end Reruns

/-- After any runs, whatever each met and wherever it stopped: the recorded migrations are
the first so many of the list and took effect once each, in order; another run goes on from
there, a run that meets no fault ends with all of them, and on a complete database a run
changes nothing. -/
theorem migrations_once {χ σ : Type} (ms : List (Migration χ σ)) (distinct : (ms.map Migration.version).Nodup)
    (start : σ) (attempts : List (Attempt χ)) :
    ∃ k, MigratedTo ms start k (rerunMigrations ms attempts ⟨start, .empty⟩) ∧
      (∀ attempt, ∃ j, k ≤ j ∧
        MigratedTo ms start j (runMigrations ms attempt (rerunMigrations ms attempts ⟨start, .empty⟩)).2 ∧
        upgrade attempt.world ((ms.take j).drop k) (rerunMigrations ms attempts ⟨start, .empty⟩).data =
          .ok (runMigrations ms attempt (rerunMigrations ms attempts ⟨start, .empty⟩)).2.data) ∧
      (∀ attempt final, attempt.Sound →
        upgrade attempt.world (ms.drop k) (rerunMigrations ms attempts ⟨start, .empty⟩).data = .ok final →
          (runMigrations ms attempt (rerunMigrations ms attempts ⟨start, .empty⟩)).1 = .done ∧
          (runMigrations ms attempt (rerunMigrations ms attempts ⟨start, .empty⟩)).2.data = final ∧
          (runMigrations ms attempt (rerunMigrations ms attempts ⟨start, .empty⟩)).2.migrations.rows =
            (rerunMigrations ms attempts ⟨start, .empty⟩).migrations.rows ++
              (ms.drop k).map (fun m => m.record attempt)) ∧
      (k = ms.length → ∀ attempt, (runMigrations ms attempt (rerunMigrations ms attempts ⟨start, .empty⟩)).2 =
        rerunMigrations ms attempts ⟨start, .empty⟩) := by
  have fresh : MigratedTo ms start 0 ⟨start, .empty⟩ := ⟨by simp, rfl, rfl⟩
  obtain ⟨k, migrated⟩ := fresh.reruns distinct attempts
  refine ⟨k, migrated, ?_, ?_, ?_⟩
  · exact fun attempt => migrated.rerun distinct attempt
  · exact fun attempt final sound done => migrated.completes distinct sound done
  · exact fun complete attempt => migrated.complete_stays complete attempt

section Schemas

/-- A migration that adds a line to the schema, unless the world it runs in is broken. -/
def addsLine (version line : String) : Migration Bool (List String) where
  version := version
  description := line
  up := fun broken schema => if broken then .error "disk full" else .ok (schema ++ [line])

def attemptIn (broken : Bool) (stop : Option Nat) : Attempt Bool :=
  ⟨broken, none, none, fun _ => none, fun _ => (0, 0), stop⟩

end Schemas

/-- Two migrations under one version: the second is never applied, and no run says so
after the first one. -/
theorem migrations_once_twins :
    rerunMigrations [addsLine "1" "tables", addsLine "1" "indices"] [attemptIn false none] ⟨[], .empty⟩ =
      ⟨["tables"], ⟨[⟨"1", "tables", 0, 0⟩], by decide⟩⟩ ∧
    runMigrations [addsLine "1" "tables", addsLine "1" "indices"] (attemptIn false none)
      ⟨["tables"], ⟨[⟨"1", "tables", 0, 0⟩], by decide⟩⟩ =
        (.done, ⟨["tables"], ⟨[⟨"1", "tables", 0, 0⟩], by decide⟩⟩) :=
  ⟨rfl, rfl⟩

theorem migrations_once_indices :
    ∃ k, MigratedTo [addsLine "1" "tables", addsLine "2" "indices"] [] k
      (rerunMigrations [addsLine "1" "tables", addsLine "2" "indices"]
        [attemptIn true none, attemptIn false (some 1)] ⟨[], .empty⟩) := by
  obtain ⟨k, migrated, _⟩ := migrations_once [addsLine "1" "tables", addsLine "2" "indices"] (by decide) []
    [attemptIn true none, attemptIn false (some 1)]
  exact ⟨k, migrated⟩

end BeidarPos
