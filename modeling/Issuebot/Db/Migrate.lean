import Issuebot.Logic.LockedRecord
import Issuebot.Python
import Mathlib.Data.List.Infix
import Mathlib.Data.List.Sort

/-!
# The schema's migrations

Every process that starts brings the schema up to the migrations it knows, in one transaction under an advisory lock. Each
migration runs once and in order, whatever processes of whatever releases start at once and wherever one dies
(`migrations_once`), and what two of them both accept, the later one knows (`migrations_agree`).
-/

namespace Issuebot
set_option autoImplicit false
open Logic

structure Migration where
  version : Nat
  name : String
  sql : String
deriving DecidableEq

namespace Migration

def label (migration : Migration) : String := padded 4 migration.version ++ "_" ++ migration.name

/-- Its row of `schema_migrations`. -/
def row (migration : Migration) : Nat × String := (migration.version, migration.name)

/-- The files read one after the other: each with its name, and with what the name and the text say where the name is a
migration's. -/
def collect : List (String × Option Migration) → List Migration → Except String (List Migration)
  | [], found => .ok found
  | (name, none) :: _, _ => .error ("unexpected file in migrations: " ++ name)
  | (_, some migration) :: files, found =>
    if found.any fun other => other.version = migration.version then
      .error ("duplicate migration version " ++ padded 4 migration.version)
    else collect files (found ++ [migration])

/-- `discover_migrations`, of the directory's files as they come. -/
def discover (files : List (String × Option Migration)) : Except String (List Migration) :=
  match collect files [] with
  | .error message => .error message
  | .ok found =>
    let ordered := found.mergeSort fun one other => one.version ≤ other.version
    match (ordered.zipIdx 1).find? fun placed => placed.1.version ≠ placed.2 with
    | some placed =>
      .error ("migration versions must run 1, 2, 3 ... without gaps; found " ++ placed.1.label ++ " where " ++
        padded 4 placed.2 ++ " was expected")
    | none => .ok ordered

end Migration

/-- The rows of `schema_migrations`, and the migrations whose SQL has run. -/
structure Schema where
  rows : List (Nat × String)
  ran : List Migration
deriving DecidableEq

structure MigrationResult where
  applied : List String
  version : Nat
deriving DecidableEq

namespace Schema

def fresh : Schema := ⟨[], []⟩

def newest (schema : Schema) : Nat := (schema.rows.map Prod.fst).max?.getD 0

end Schema

def latest (known : List Migration) : Nat := (known.getLast?.map Migration.version).getD 0

def recordedName (rows : List (Nat × String)) (version : Nat) : Option String :=
  (rows.find? fun row => row.1 = version).map Prod.snd

/-- The loop of `apply_migrations`, over what the transaction read of the rows before it. -/
def applyPending (rows : List (Nat × String)) : List Migration → Schema → List String → Except String (Schema × List String)
  | [], schema, applied => .ok (schema, applied)
  | migration :: known, schema, applied =>
    match recordedName rows migration.version with
    | some name =>
      if name = migration.name then applyPending rows known schema applied
      else .error ("migration " ++ padded 4 migration.version ++ " is recorded as '" ++ name ++ "', not '" ++ migration.name ++ "'")
    | none =>
      applyPending rows known ⟨schema.rows ++ [migration.row], schema.ran ++ [migration]⟩ (applied ++ [migration.label])

/-- `apply_migrations`: a transaction that fails leaves the schema as it was. -/
def applyMigrations (known : List Migration) (schema : Schema) : Schema × Except String MigrationResult :=
  if latest known < schema.newest then
    (schema, .error ("schema version " ++ toString schema.newest ++ " is newer than this issuebot knows (" ++ toString (latest known) ++ ")"))
  else
    match applyPending schema.rows known schema [] with
    | .ok (schema, applied) => (schema, .ok ⟨applied, latest known⟩)
    | .error message => (schema, .error message)

/-- The versions run 1, 2, 3 … -/
def InSequence (versions : List Nat) : Prop := versions = List.range' 1 versions.length

instance (versions : List Nat) : Decidable (InSequence versions) := inferInstanceAs (Decidable (_ = _))

/-- The migrations a release comes with. -/
structure Release where
  migrations : List Migration
  numbered : InSequence (migrations.map Migration.version)
deriving DecidableEq

theorem InSequence.getElem {α : Type} {version : α → Nat} {all : List α} (numbered : InSequence (all.map version)) {i : Nat}
    (below : i < all.length) : version all[i] = i + 1 := by
  have same := List.getElem_of_eq numbered ((List.length_map version).symm ▸ below)
  rw [List.getElem_map, List.getElem_range'] at same
  omega

theorem InSequence.take {α : Type} {version : α → Nat} {all : List α} (numbered : InSequence (all.map version)) (n : Nat) :
    InSequence ((all.take n).map version) := by
  refine List.ext_getElem (by simp) fun i below _ => ?_
  rw [List.length_map, List.length_take] at below
  rw [List.getElem_map, List.getElem_take, numbered.getElem (by omega), List.getElem_range']
  omega

section Discover

variable {files : List (String × Option Migration)} {known : List Migration}

/-- What is discovered makes a release. -/
theorem Migration.discover_numbered (discovered : discover files = .ok known) : InSequence (known.map Migration.version) := by
  unfold discover at discovered
  split at discovered
  next => cases discovered
  next found _ =>
    dsimp only at discovered
    split at discovered
    next => cases discovered
    next placed =>
      cases discovered
      refine List.ext_getElem (by simp) fun i below _ => ?_
      rw [List.length_map] at below
      have listed : (_, 1 + i) ∈ List.zipIdx _ 1 := List.mk_add_mem_zipIdx_iff_getElem?.mpr (List.getElem?_eq_getElem below)
      have in_place := List.find?_eq_none.mp placed _ listed
      rw [List.getElem_map, List.getElem_range']
      simp only [decide_eq_true_eq, ne_eq, not_not] at in_place
      omega

end Discover

section Apply

variable {rows : List (Nat × String)} {known : List Migration} {schema : Schema} {applied : List String}

theorem recordedName_eq (numbered : InSequence (rows.map Prod.fst)) {i : Nat} (below : i < rows.length) :
    recordedName rows (i + 1) = some rows[i].2 := by
  have found : rows.find? (fun row => row.1 = i + 1) = some rows[i] := by
    refine List.find?_eq_some_iff_getElem.mpr ⟨by simpa using numbered.getElem below, i, below, rfl, fun j earlier => ?_⟩
    simp only [numbered.getElem (earlier.trans below)]
    simpa using earlier.ne
  rw [recordedName, found]
  rfl

theorem recordedName_eq_none (numbered : InSequence (rows.map Prod.fst)) {version : Nat} (newer : rows.length < version) :
    recordedName rows version = none := by
  refine Option.map_eq_none_iff.mpr (List.find?_eq_none.mpr fun row listed => ?_)
  obtain ⟨j, below, rfl⟩ := List.getElem_of_mem listed
  simp only [numbered.getElem below, decide_eq_true_eq]
  omega

theorem latest_eq (numbered : InSequence (known.map Migration.version)) : latest known = known.length := by
  unfold latest
  cases empty : known.getLast? with
  | none =>
    rw [List.getLast?_eq_none_iff.mp empty]
    rfl
  | some last =>
    rw [List.getLast?_eq_getElem?] at empty
    obtain ⟨below, rfl⟩ := List.getElem?_eq_some_iff.mp empty
    have is_last := numbered.getElem below
    simp only [Option.map_some, Option.getD_some]
    omega

theorem newest_eq (numbered : InSequence (schema.rows.map Prod.fst)) : schema.newest = schema.rows.length := by
  rw [Schema.newest, numbered, List.length_map]
  rcases Nat.eq_zero_or_pos schema.rows.length with none | some
  · rw [none]
    rfl
  · have is_max : (List.range' 1 schema.rows.length).max? = .some schema.rows.length := by
      refine List.max?_eq_some_iff.mpr ⟨List.mem_range'_1.mpr (by omega), fun version listed => ?_⟩
      have below := (List.mem_range'_1.mp listed).2
      omega
    rw [is_max]
    rfl

/-- What has its row is not run again. -/
theorem applyPending_recorded {more : List Migration}
    (recorded : ∀ migration ∈ known, recordedName rows migration.version = some migration.name) :
    applyPending rows (known ++ more) schema applied = applyPending rows more schema applied := by
  induction known with
  | nil => rfl
  | cons migration known ih =>
    rw [List.cons_append, applyPending, recorded migration List.mem_cons_self]
    simpa using ih fun other listed => recorded other (List.mem_cons_of_mem _ listed)

/-- What has none is run, in order. -/
theorem applyPending_pending (pending : ∀ migration ∈ known, recordedName rows migration.version = none) :
    applyPending rows known schema applied =
      .ok (⟨schema.rows ++ known.map Migration.row, schema.ran ++ known⟩, applied ++ known.map Migration.label) := by
  induction known generalizing schema applied with
  | nil => simp [applyPending]
  | cons migration known ih =>
    rw [applyPending, pending migration List.mem_cons_self]
    dsimp only
    rw [ih fun other listed => pending other (List.mem_cons_of_mem _ listed)]
    simp

/-- A row of another name is refused. -/
theorem recordedName_of_ok {outcome : Schema × List String} (is_ok : applyPending rows known schema applied = .ok outcome) :
    ∀ migration ∈ known, ∀ name ∈ recordedName rows migration.version, name = migration.name := by
  induction known generalizing schema applied with
  | nil => exact fun migration listed => absurd listed List.not_mem_nil
  | cons first known ih =>
    intro migration listed name recorded
    rw [applyPending] at is_ok
    split at is_ok
    next held is_held =>
      split at is_ok
      next same =>
        rcases List.mem_cons.mp listed with rfl | listed
        · exact (Option.some.inj (is_held.symm.trans recorded)).symm.trans same
        · exact ih is_ok migration listed name recorded
      next => cases is_ok
    next unrecorded =>
      rcases List.mem_cons.mp listed with rfl | listed
      · exact absurd (unrecorded.symm.trans recorded) (Option.some_ne_none name).symm
      · exact ih is_ok migration listed name recorded

theorem applyMigrations_of_error {message : String} (refused : (applyMigrations known schema).2 = .error message) :
    (applyMigrations known schema).1 = schema := by
  unfold applyMigrations at refused ⊢
  split
  next => rfl
  next older =>
    rw [if_neg older] at refused
    split at refused
    next => cases refused
    next => rfl

/-- Rows that a release knows are brought up to it. -/
theorem applyMigrations_of_prefix (numbered : InSequence (known.map Migration.version)) (knows : schema.rows <+: known.map Migration.row) :
    applyMigrations known schema =
      (⟨known.map Migration.row, schema.ran ++ known.drop schema.rows.length⟩,
        .ok ⟨(known.drop schema.rows.length).map Migration.label, known.length⟩) := by
  have fits : schema.rows.length ≤ known.length := by simpa using knows.length_le
  have are_known : schema.rows = (known.take schema.rows.length).map Migration.row :=
    (List.prefix_iff_eq_take.mp knows).trans List.map_take.symm
  have are_rows : InSequence (schema.rows.map Prod.fst) := by
    rw [are_known, List.map_map]
    exact numbered.take schema.rows.length
  have not_older : ¬latest known < schema.newest := by
    rw [latest_eq numbered, newest_eq are_rows]
    omega
  have recorded : ∀ migration ∈ known.take schema.rows.length,
      recordedName schema.rows migration.version = some migration.name := by
    intro migration listed
    obtain ⟨i, below, rfl⟩ := List.getElem_of_mem listed
    rw [List.length_take] at below
    have at_row : i < schema.rows.length := by omega
    have is_row : schema.rows[i] = (known.take schema.rows.length)[i].row := by
      rw [List.getElem_of_eq are_known at_row, List.getElem_map]
    rw [List.getElem_take, numbered.getElem (by omega), recordedName_eq are_rows at_row, is_row, List.getElem_take]
    rfl
  have pending : ∀ migration ∈ known.drop schema.rows.length, recordedName schema.rows migration.version = none := by
    intro migration listed
    obtain ⟨i, below, rfl⟩ := List.getElem_of_mem listed
    rw [List.length_drop] at below
    rw [List.getElem_drop, numbered.getElem (by omega)]
    exact recordedName_eq_none are_rows (by omega)
  have done : applyPending schema.rows known schema [] =
      .ok (⟨known.map Migration.row, schema.ran ++ known.drop schema.rows.length⟩, (known.drop schema.rows.length).map Migration.label) := by
    have split : applyPending schema.rows (known.take schema.rows.length ++ known.drop schema.rows.length) schema [] =
        applyPending schema.rows (known.drop schema.rows.length) schema [] := applyPending_recorded recorded
    rw [List.take_append_drop, applyPending_pending pending] at split
    rw [split]
    nth_rewrite 1 [are_known]
    rw [← List.map_append, List.take_append_drop, List.nil_append]
  rw [applyMigrations, if_neg not_older, done, latest_eq numbered]

/-- A release accepts no rows but those it knows. -/
theorem applyMigrations_of_ok (numbered : InSequence (known.map Migration.version)) (are_rows : InSequence (schema.rows.map Prod.fst))
    {result : MigrationResult} (accepted : (applyMigrations known schema).2 = .ok result) : schema.rows <+: known.map Migration.row := by
  unfold applyMigrations at accepted
  split at accepted
  next => cases accepted
  next not_older =>
    rw [latest_eq numbered, newest_eq are_rows] at not_older
    split at accepted
    next outcome applied is_ok =>
      have named := recordedName_of_ok is_ok
      refine List.prefix_iff_eq_take.mpr (List.ext_getElem (by simp; omega) fun i below _ => ?_)
      have at_known : i < known.length := by omega
      have same := named known[i] (List.getElem_mem at_known) schema.rows[i].2
        ((numbered.getElem at_known).symm ▸ recordedName_eq are_rows below)
      rw [List.getElem_take, List.getElem_map]
      exact Prod.ext ((are_rows.getElem below).trans (numbered.getElem at_known).symm) same
    next => cases accepted

end Apply

namespace Release

variable (release : Release)

/-- What the release brings the schema to. -/
def migrate (schema : Schema) : Schema × Except String MigrationResult := applyMigrations release.migrations schema

/-- A release only writes. -/
def reads : Release → Bool := fun _ => false

end Release

/-- What a process has said it applied. -/
def appliedBy : Except String MigrationResult → List String
  | .ok result => result.applied
  | .error _ => []

/-- Each migration has run once and in order, and has its row. -/
structure Schema.Orderly (schema : Schema) : Prop where
  ran : InSequence (schema.ran.map Migration.version)
  rows : schema.rows = schema.ran.map Migration.row

namespace Schema.Orderly

variable {schema : Schema} {release : Release}

theorem fresh : Schema.fresh.Orderly := ⟨rfl, rfl⟩

theorem are_rows (orderly : schema.Orderly) : InSequence (schema.rows.map Prod.fst) := by
  rw [orderly.rows, List.map_map]
  exact orderly.ran

/-- What a release makes of the schema: it is refused, or it knows the rows and brings them up to its own. -/
theorem migrate_cases (orderly : schema.Orderly) (release : Release) :
    (∃ message, release.migrate schema = (schema, .error message)) ∨
      (schema.rows <+: release.migrations.map Migration.row ∧
        release.migrate schema =
          (⟨release.migrations.map Migration.row, schema.ran ++ release.migrations.drop schema.rows.length⟩,
            .ok ⟨(release.migrations.drop schema.rows.length).map Migration.label, release.migrations.length⟩)) := by
  cases outcome : (applyMigrations release.migrations schema).2 with
  | error message => exact .inl ⟨message, Prod.ext (applyMigrations_of_error outcome) outcome⟩
  | ok result =>
    have knows := applyMigrations_of_ok release.numbered orderly.are_rows outcome
    exact .inr ⟨knows, applyMigrations_of_prefix release.numbered knows⟩

theorem migrate (orderly : schema.Orderly) (release : Release) : (release.migrate schema).1.Orderly := by
  rcases orderly.migrate_cases release with ⟨message, refused⟩ | ⟨knows, accepted⟩
  · rw [refused]
    exact orderly
  · have are_known : schema.ran.map Migration.row = (release.migrations.take schema.rows.length).map Migration.row := by
      rw [← orderly.rows, List.map_take]
      exact List.prefix_iff_eq_take.mp knows
    have same : (schema.ran ++ release.migrations.drop schema.rows.length).map Migration.row = release.migrations.map Migration.row := by
      rw [List.map_append, are_known, ← List.map_append, List.take_append_drop]
    rw [accepted]
    refine ⟨?_, same.symm⟩
    have versions := congrArg (List.map Prod.fst) same
    rw [List.map_map, List.map_map] at versions
    exact versions ▸ release.numbered

/-- Rows stay. -/
theorem rows_prefix (orderly : schema.Orderly) : schema.rows <+: (release.migrate schema).1.rows := by
  rcases orderly.migrate_cases release with ⟨message, refused⟩ | ⟨knows, accepted⟩
  · rw [refused]
  · rw [accepted]
    exact knows

/-- A release that is accepted knows the rows, and they are its own then. -/
theorem rows_of_ok (orderly : schema.Orderly) {result : MigrationResult} (accepted : (release.migrate schema).2 = .ok result) :
    schema.rows <+: release.migrations.map Migration.row ∧ (release.migrate schema).1.rows = release.migrations.map Migration.row := by
  rcases orderly.migrate_cases release with ⟨message, refused⟩ | ⟨knows, brought⟩
  · rw [refused] at accepted
    cases accepted
  · exact ⟨knows, by rw [brought]⟩

/-- What is said to be applied is what has run. -/
theorem ran_labels (orderly : schema.Orderly) :
    (release.migrate schema).1.ran.map Migration.label = schema.ran.map Migration.label ++ appliedBy (release.migrate schema).2 := by
  rcases orderly.migrate_cases release with ⟨message, refused⟩ | ⟨knows, accepted⟩
  · rw [refused]
    exact (List.append_nil _).symm
  · rw [accepted]
    exact List.map_append

end Schema.Orderly

section Runs

variable {Process : Type} [DecidableEq Process] {schema : Schema} {done : List (Locked.Done Process Release (Except String MigrationResult))}

omit [DecidableEq Process] in
theorem after_orderly (orderly : schema.Orderly) : (Locked.after Release.migrate schema done).Orderly :=
  Locked.after_keeps orderly fun d _ _ held => held.migrate d.op

omit [DecidableEq Process] in
theorem after_rows (orderly : schema.Orderly) : schema.rows <+: (Locked.after Release.migrate schema done).rows := by
  induction done generalizing schema with
  | nil => exact List.prefix_rfl
  | cons d done ih => exact orderly.rows_prefix.trans (ih (orderly.migrate d.op))

omit [DecidableEq Process] in
theorem after_labels (orderly : schema.Orderly) (answered : Locked.Answered Release.migrate schema done) :
    (Locked.after Release.migrate schema done).ran.map Migration.label =
      schema.ran.map Migration.label ++ done.flatMap fun d => appliedBy d.answer := by
  induction done generalizing schema with
  | nil => exact (List.append_nil _).symm
  | cons d done ih =>
    have rest := ih (orderly.migrate d.op) answered.2
    rw [orderly.ran_labels, ← answered.1, List.append_assoc] at rest
    exact rest

variable {s : Locked.Shared Process Schema Release (Except String MigrationResult)} {events : List (Locked.Event Process Release)}

/-- **Every migration runs once and in order**, and one process says that it applied it. -/
theorem migrations_once
    (run : Steps (fun s event s' => Locked.step Release.migrate Release.reads s event = some s') (Locked.free Schema.fresh) events s) :
    s.record.Orderly ∧ s.record.ran.map Migration.label = s.done.flatMap fun d => appliedBy d.answer := by
  have serial := Locked.steps_serial (fun _ _ reads => Bool.noConfusion reads) run Locked.free_serial
  rw [serial.record]
  exact ⟨after_orderly .fresh, after_labels .fresh serial.answered⟩

/-- **Releases that are accepted agree**: the later one knows what the earlier one does, and its rows stay. -/
theorem migrations_agree
    (run : Steps (fun s event s' => Locked.step Release.migrate Release.reads s event = some s') (Locked.free Schema.fresh) events s)
    {before between rest : List (Locked.Done Process Release (Except String MigrationResult))}
    {first second : Locked.Done Process Release (Except String MigrationResult)}
    (acted : s.done = before ++ first :: (between ++ second :: rest)) {one other : MigrationResult} (first_ok : first.answer = .ok one)
    (second_ok : second.answer = .ok other) :
    first.op.migrations.map Migration.row <+: second.op.migrations.map Migration.row ∧
      second.op.migrations.map Migration.row <+: s.record.rows := by
  have serial := Locked.steps_serial (fun _ _ reads => Bool.noConfusion reads) run Locked.free_serial
  have in_order := acted ▸ serial.answered
  obtain ⟨-, is_first, in_order⟩ := Locked.answered_append.mp in_order
  obtain ⟨-, is_second, -⟩ := Locked.answered_append.mp in_order
  have orderly : (Locked.after Release.migrate Schema.fresh before).Orderly := after_orderly .fresh
  have first_rows := (orderly.rows_of_ok (is_first.symm.trans first_ok)).2
  have later : (Locked.after Release.migrate (first.op.migrate _).1 between).Orderly := after_orderly (orderly.migrate first.op)
  have second_rows := later.rows_of_ok (is_second.symm.trans second_ok)
  have grown : _ <+: (Locked.after Release.migrate _ between).rows := after_rows (orderly.migrate first.op)
  refine ⟨(first_rows ▸ grown).trans second_rows.1, ?_⟩
  rw [serial.record, acted, Locked.after_append]
  change _ <+: (Locked.after Release.migrate (first.op.migrate _).1 (between ++ second :: rest)).rows
  rw [Locked.after_append, ← second_rows.2]
  exact after_rows (later.migrate second.op)

end Runs

section Releases

/-- The first `n` of three migrations. -/
def releaseOf (n : Nat) : Release where
  migrations := [⟨1, "initial", "CREATE TABLE events ()"⟩, ⟨2, "run_turns", "CREATE TABLE run_turns ()"⟩,
    ⟨3, "repos", "CREATE TABLE repos ()"⟩].take n
  numbered := InSequence.take (show InSequence _ by decide) n

/-- A worker dies inside the transaction, the dashboard of a later release migrates, the worker comes back and is refused, and
one of a release later still goes on. -/
def releasesAtOnce : List (Locked.Event Nat Release) :=
  [.begin 0 (releaseOf 1), .begin 1 (releaseOf 2), .lock 0, .load 0, .kill 0, .lock 1, .load 1, .store 1, .unlock 1,
    .begin 0 (releaseOf 1), .begin 2 (releaseOf 3), .lock 0, .load 0, .store 0, .unlock 0, .lock 2, .load 2, .store 2]

/-- What some events leave of a fresh schema, where they happen. -/
def migratedBy (events : List (Locked.Event Nat Release)) : Locked.Shared Nat Schema Release (Except String MigrationResult) :=
  (execute (Locked.step Release.migrate Release.reads) (Locked.free Schema.fresh) events).getD (Locked.free Schema.fresh)

theorem migratedBy_runs {events : List (Locked.Event Nat Release)}
    (happen : (execute (Locked.step Release.migrate Release.reads) (Locked.free Schema.fresh) events).isSome) :
    Steps (fun s event s' => Locked.step Release.migrate Release.reads s event = some s') (Locked.free Schema.fresh) events
      (migratedBy events) :=
  .of_isSome happen

theorem once_at_once : (migratedBy releasesAtOnce).done.map Locked.Done.answer =
      [.ok ⟨["0001_initial", "0002_run_turns"], 2⟩, .error "schema version 2 is newer than this issuebot knows (1)",
        .ok ⟨["0003_repos"], 3⟩] ∧
    (migratedBy releasesAtOnce).record.Orderly ∧
      (migratedBy releasesAtOnce).record.ran.map Migration.label =
        (migratedBy releasesAtOnce).done.flatMap fun d => appliedBy d.answer :=
  ⟨by decide +kernel, migrations_once (migratedBy_runs (by decide +kernel))⟩

theorem agree_at_once : (releaseOf 2).migrations.map Migration.row <+: (releaseOf 3).migrations.map Migration.row ∧
    (releaseOf 3).migrations.map Migration.row <+: (migratedBy releasesAtOnce).record.rows := by
  have acted : (migratedBy releasesAtOnce).done = [] ++ ⟨1, releaseOf 2, .ok ⟨["0001_initial", "0002_run_turns"], 2⟩⟩ ::
      ([⟨0, releaseOf 1, .error "schema version 2 is newer than this issuebot knows (1)"⟩] ++
        ⟨2, releaseOf 3, .ok ⟨["0003_repos"], 3⟩⟩ :: []) := by decide +kernel
  exact migrations_agree (migratedBy_runs (by decide +kernel)) acted rfl rfl

end Releases

end Issuebot
