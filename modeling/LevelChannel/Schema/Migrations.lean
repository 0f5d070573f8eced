import Mathlib.Data.List.Lex
import Mathlib.Data.List.Nodup
import Mathlib.Data.List.Sort
import LevelChannel.Events.Histories

namespace LevelChannel

namespace Migrations

/-!
# The migration runner

Any number of processes bring one database up to date, one file after the other and each file
in a transaction of its own that also records its name.  A process can be killed at any time,
and its transaction is then rolled back.  A transaction is given the schema as it was committed
when it began: that no other is committed before it is, is proved and not assumed.
-/

def codeUnits (text : String) : List Nat :=
  text.toList.flatMap fun char =>
    if char.toNat < 0x10000 then [char.toNat]
    else [0xD800 + (char.toNat - 0x10000) / 0x400, 0xDC00 + (char.toNat - 0x10000) % 0x400]

structure Entry where
  name : String
  isFile : Bool

def listMigrationFiles (entries : List Entry) : List String :=
  ((entries.filter fun entry => entry.isFile && ".sql".toList.isSuffixOf entry.name.toList).map
    Entry.name).insertionSort fun first second => codeUnits first ≤ codeUnits second

theorem nodup_listMigrationFiles {entries : List Entry}
    (apart : (entries.map Entry.name).Nodup) : (listMigrationFiles entries).Nodup := by
  refine (List.perm_insertionSort _ _).nodup_iff.mpr ?_
  exact List.Nodup.sublist (List.filter_sublist.map _) apart

/-! ## The processes -/

variable {Schema : Type}

/-- The schema, and the recorded names in the order of their commits. -/
structure Database (Schema : Type) where
  schema : Schema
  applied : List String

inductive Stage (Schema : Type) where
  | started
  | pending (names : List String)
  | applying (name : String) (written : Schema) (pending : List String)
  | done
  | failed

structure World (Schema : Type) where
  db : Database Schema
  processes : Nat -> Stage Schema

/-- What can happen to a process: it reads what is recorded, it begins and executes a file, it
records the name and commits, or it ends early. -/
inductive Event where
  | list (process : Nat)
  | execute (process : Nat)
  | commit (process : Nat)
  | fail (process : Nat)

namespace World

variable (world : World Schema)

def move (process : Nat) (stage : Stage Schema) : World Schema :=
  { world with
    processes := fun other => if other = process then stage else world.processes other }

@[simp] theorem move_db (process : Nat) (stage : Stage Schema) :
    (world.move process stage).db = world.db := rfl

theorem move_self (process : Nat) (stage : Stage Schema) :
    (world.move process stage).processes process = stage :=
  if_pos rfl

theorem move_of_ne {process other : Nat} (stage : Stage Schema) (apart : other ≠ process) :
    (world.move process stage).processes other = world.processes other :=
  if_neg apart

def record (process : Nat) (name : String) (written : Schema) (stage : Stage Schema) :
    World Schema :=
  { world.move process stage with db := ⟨written, world.db.applied ++ [name]⟩ }

@[simp] theorem record_db (process : Nat) (name : String) (written : Schema)
    (stage : Stage Schema) :
    (world.record process name written stage).db = ⟨written, world.db.applied ++ [name]⟩ := rfl

theorem record_self (process : Nat) (name : String) (written : Schema) (stage : Stage Schema) :
    (world.record process name written stage).processes process = stage :=
  if_pos rfl

theorem record_of_ne {process other : Nat} (name : String) (written : Schema)
    (stage : Stage Schema) (apart : other ≠ process) :
    (world.record process name written stage).processes other = world.processes other :=
  if_neg apart

end World

def onward (names : List String) : Stage Schema :=
  if names = [] then .done else .pending names

variable (files : List String) (sql : String -> Schema -> Option Schema)

/-- What one event does.  The name of an applied file is a primary key: who records it a second
time is refused, and everything it has executed is rolled back. -/
def next (world : World Schema) : Event -> World Schema
  | .list process =>
    match world.processes process with
    | .started => world.move process (onward (files.filter (· ∉ world.db.applied)))
    | _ => world
  | .execute process =>
    match world.processes process with
    | .pending (name :: names) =>
      match sql name world.db.schema with
      | some written => world.move process (.applying name written names)
      | none => world.move process .failed
    | _ => world
  | .commit process =>
    match world.processes process with
    | .applying name written names =>
      if name ∈ world.db.applied then world.move process .failed
      else world.record process name written (onward names)
    | _ => world
  | .fail process =>
    match world.processes process with
    | .done => world
    | _ => world.move process .failed

/-- The files one after the other, by one process that nothing disturbs. -/
def inTurn : List String -> Schema -> Option Schema
  | [], schema => some schema
  | name :: names, schema => (sql name schema).bind (inTurn names)

theorem inTurn_append (first second : List String) (schema : Schema) :
    inTurn sql (first ++ second) schema = (inTurn sql first schema).bind (inTurn sql second) := by
  induction first generalizing schema with
  | nil => rfl
  | cons name names ih =>
    rw [List.cons_append, inTurn, inTurn, Option.bind_assoc]
    exact congrArg _ (funext ih)

/-! ## What is recorded -/

def lacking (db : Database Schema) : List String :=
  files.filter (· ∉ db.applied)

section Invariant

variable {files sql} {opening : Database Schema} {world : World Schema} {count : Nat}

/-- What a process has, when so many of the files that were lacking are recorded: it goes
through them in their order, and it has executed the next one only on the schema that stands
now. -/
def Stage.Fits (files : List String) (sql : String -> Schema -> Option Schema)
    (opening : Database Schema) (count : Nat) (schema : Schema) : Stage Schema -> Prop
  | .started => True
  | .pending names => ∃ place, place ≤ count ∧ names = (lacking files opening).drop place
  | .applying name written names =>
    ∃ place, place ≤ count ∧ name :: names = (lacking files opening).drop place ∧
      (place = count -> sql name schema = some written)
  | .done => count = (lacking files opening).length
  | .failed => True

/-- So many of the lacking files are recorded, and the schema is theirs. -/
structure Recorded (files : List String) (sql : String -> Schema -> Option Schema)
    (opening : Database Schema) (count : Nat) (db : Database Schema) : Prop where
  within : count ≤ (lacking files opening).length
  applied : db.applied = opening.applied ++ (lacking files opening).take count
  schema : inTurn sql ((lacking files opening).take count) opening.schema = some db.schema

/-- What holds of the database and of each process, after any events. -/
structure Sound (files : List String) (sql : String -> Schema -> Option Schema)
    (opening : Database Schema) (count : Nat) (world : World Schema) : Prop where
  recorded : Recorded files sql opening count world.db
  fits : ∀ process, (world.processes process).Fits files sql opening count world.db.schema

theorem filter_not_mem_take {names : List String} (nodup : names.Nodup) (count : Nat) :
    names.filter (· ∉ names.take count) = names.drop count := by
  have apart := List.disjoint_take_drop nodup (Nat.le_refl count)
  have kept : ∀ name, name ∈ names.drop count -> decide (name ∉ names.take count) = true :=
    fun name later => decide_eq_true fun early => apart early later
  have gone : ∀ name, name ∈ names.take count ->
      ¬ decide (name ∉ names.take count) = true := by
    intro name early late
    exact of_decide_eq_true late early
  calc names.filter (· ∉ names.take count)
    _ = (names.take count ++ names.drop count).filter (· ∉ names.take count) := by
      rw [List.take_append_drop]
    _ = [] ++ names.drop count := by
      rw [List.filter_append, List.filter_eq_nil_iff.mpr gone, List.filter_eq_self.mpr kept]
    _ = names.drop count := List.nil_append _

theorem Recorded.pending {db : Database Schema} (recorded : Recorded files sql opening count db)
    (nodup : files.Nodup) : files.filter (· ∉ db.applied) = (lacking files opening).drop count := by
  have lacking_nodup : (lacking files opening).Nodup := nodup.filter _
  rw [← filter_not_mem_take lacking_nodup count, lacking, List.filter_filter, recorded.applied]
  refine List.filter_congr fun name _ => ?_
  rw [← Bool.decide_and, decide_eq_decide, List.mem_append, not_or, lacking]
  exact and_comm

theorem fits_onward {schema : Schema} {names : List String} {place : Nat}
    (behind : place ≤ count) (within : count ≤ (lacking files opening).length)
    (left : names = (lacking files opening).drop place) :
    (onward names : Stage Schema).Fits files sql opening count schema := by
  rw [onward]
  split
  case isTrue through =>
    have short : (lacking files opening).length ≤ place :=
      List.drop_eq_nil_iff.mp (left.symm.trans through)
    exact Nat.le_antisymm within (short.trans behind)
  case isFalse => exact ⟨place, behind, left⟩

theorem Sound.move (sound : Sound files sql opening count world) {process : Nat}
    {stage : Stage Schema} (fits : stage.Fits files sql opening count world.db.schema) :
    Sound files sql opening count (world.move process stage) where
  recorded := sound.recorded
  fits other := by
    by_cases same : other = process
    · rw [same, World.move_self]
      exact fits
    · rw [World.move_of_ne _ _ same]
      exact sound.fits other

theorem Stage.Fits.later {stage : Stage Schema} {schema written : Schema}
    (fits : stage.Fits files sql opening count schema)
    (more : count < (lacking files opening).length) :
    stage.Fits files sql opening (count + 1) written := by
  cases stage with
  | started => trivial
  | failed => trivial
  | pending names =>
    have ⟨place, behind, left⟩ := fits
    exact ⟨place, behind.trans (Nat.le_succ count), left⟩
  | applying name earlier names =>
    have ⟨place, behind, left, _⟩ := fits
    refine ⟨place, behind.trans (Nat.le_succ count), left, fun ahead => ?_⟩
    rw [ahead] at behind
    exact absurd behind (Nat.not_succ_le_self count)
  | done => exact absurd fits more.ne

theorem drop_cons {names rest : List String} {name : String} {place : Nat}
    (left : name :: rest = names.drop place) :
    place < names.length ∧ names.take (place + 1) = names.take place ++ [name] ∧
      rest = names.drop (place + 1) := by
  have some_left : place < names.length := by
    by_contra short
    rw [List.drop_eq_nil_of_le (not_lt.mp short)] at left
    cases left
  rw [List.drop_eq_getElem_cons some_left] at left
  injection left with name_eq rest_eq
  exact ⟨some_left, by rw [List.take_succ_eq_append_getElem some_left, name_eq], rest_eq⟩

theorem Recorded.refused {db : Database Schema} {name : String} {names : List String}
    {place : Nat} (recorded : Recorded files sql opening count db) (behind : place < count)
    (left : name :: names = (lacking files opening).drop place) : name ∈ db.applied := by
  have ⟨_, taken, _⟩ := drop_cons left
  rw [recorded.applied]
  refine List.mem_append_right _ (List.take_subset_take_left _ behind ?_)
  rw [taken]
  exact List.mem_append_right _ List.mem_cons_self

theorem Recorded.record {db : Database Schema} {name : String} {names : List String}
    {written : Schema} (recorded : Recorded files sql opening count db)
    (left : name :: names = (lacking files opening).drop count)
    (executed : sql name db.schema = some written) :
    Recorded files sql opening (count + 1) ⟨written, db.applied ++ [name]⟩ where
  within := (drop_cons left).1
  applied := by rw [recorded.applied, (drop_cons left).2.1, List.append_assoc]
  schema := by
    rw [(drop_cons left).2.1, inTurn_append, recorded.schema, Option.bind_some, inTurn, executed]
    rfl

theorem Sound.step (nodup : files.Nodup) (sound : Sound files sql opening count world)
    (event : Event) :
    ∃ later, count ≤ later ∧ Sound files sql opening later (next files sql world event) := by
  have still : ∃ later, count ≤ later ∧ Sound files sql opening later world :=
    ⟨count, Nat.le_refl count, sound⟩
  cases event with
  | list process =>
    rw [next]
    split
    case h_1 =>
      refine ⟨count, Nat.le_refl count, sound.move ?_⟩
      exact fits_onward (Nat.le_refl count) sound.recorded.within
        (sound.recorded.pending nodup)
    case h_2 => exact still
  | execute process =>
    rw [next]
    split
    case h_1 name names stage =>
      have fits := sound.fits process
      rw [stage] at fits
      have ⟨place, behind, left⟩ := fits
      refine ⟨count, Nat.le_refl count, ?_⟩
      split
      case h_1 written executed =>
        exact sound.move ⟨place, behind, left, fun _ => executed⟩
      case h_2 => exact sound.move trivial
    case h_2 => exact still
  | commit process =>
    rw [next]
    split
    case h_1 name written names stage =>
      have fits := sound.fits process
      rw [stage] at fits
      have ⟨place, behind, left, executed⟩ := fits
      split
      case isTrue => exact ⟨count, Nat.le_refl count, sound.move trivial⟩
      case isFalse unrecorded =>
        have first : place = count := by
          by_contra apart
          exact unrecorded (sound.recorded.refused (Nat.lt_of_le_of_ne behind apart) left)
        rw [first] at left
        have recorded := sound.recorded.record left (executed first)
        refine ⟨count + 1, Nat.le_succ count, recorded, fun other => ?_⟩
        by_cases same : other = process
        · rw [same, World.record_self]
          exact fits_onward (Nat.le_refl _) recorded.within (drop_cons left).2.2
        · rw [World.record_of_ne _ _ _ _ same]
          exact (sound.fits other).later recorded.within
    case h_2 => exact still
  | fail process =>
    rw [next]
    split
    case h_1 => exact still
    case h_2 => exact ⟨count, Nat.le_refl count, sound.move trivial⟩

theorem Sound.after (nodup : files.Nodup) (sound : Sound files sql opening count world)
    (events : List Event) :
    ∃ later, Sound files sql opening later (Events.after (next files sql) world events) := by
  induction events generalizing world count with
  | nil => exact ⟨count, sound⟩
  | cons event events ih =>
    have ⟨_, _, stepped⟩ := sound.step nodup event
    exact ih stepped

end Invariant

def opened (opening : Database Schema) : World Schema :=
  ⟨opening, fun _ => .started⟩

theorem sound_opened (opening : Database Schema) : Sound files sql opening 0 (opened opening) where
  recorded := ⟨Nat.zero_le _, (List.append_nil _).symm, rfl⟩
  fits _ := trivial

def alone (process : Nat) (names : List String) : List Event :=
  names.flatMap fun _ => [.execute process, .commit process]

variable {sql} in
theorem after_alone {process : Nat} {names : List String} {world : World Schema}
    {final : Schema} (stage : world.processes process = onward names) (nodup : names.Nodup)
    (unrecorded : ∀ name, name ∈ names -> name ∉ world.db.applied)
    (whole : inTurn sql names world.db.schema = some final) :
    (Events.after (next files sql) world (alone process names)).processes process = .done ∧
      (Events.after (next files sql) world (alone process names)).db =
        ⟨final, world.db.applied ++ names⟩ := by
  induction names generalizing world with
  | nil =>
    injection whole with schema
    rw [List.append_nil, ← schema]
    exact ⟨stage, rfl⟩
  | cons name names ih =>
    have ⟨written, executed, rest⟩ := Option.bind_eq_some_iff.mp whole
    have ⟨apart, nodup⟩ := List.nodup_cons.mp nodup
    have pending : world.processes process = .pending (name :: names) := stage
    have executing : next files sql world (.execute process) =
        world.move process (.applying name written names) := by
      simp only [next, pending, executed]
    have committing :
        next files sql (world.move process (.applying name written names)) (.commit process) =
          (world.move process (.applying name written names)).record process name written
            (onward names) := by
      simp only [next, World.move_self, World.move_db]
      exact if_neg (unrecorded name List.mem_cons_self)
    have steps : Events.after (next files sql) world (alone process (name :: names)) =
        Events.after (next files sql)
          ((world.move process (.applying name written names)).record process name written
            (onward names)) (alone process names) := by
      rw [alone, List.flatMap_cons, List.cons_append, List.cons_append, List.nil_append,
        Events.after_cons, Events.after_cons, executing, committing]
      rfl
    have still : ∀ other, other ∈ names -> other ∉ world.db.applied ++ [name] := by
      intro other later
      rw [List.mem_append, not_or, List.mem_singleton]
      exact ⟨unrecorded other (List.mem_cons_of_mem _ later), fun same => apart (same ▸ later)⟩
    have ⟨done, db⟩ := ih (World.record_self (world.move process (.applying name written names))
      process name written (onward names)) nodup still rest
    rw [steps]
    refine ⟨done, db.trans ?_⟩
    rw [World.record_db, World.move_db, List.append_assoc]
    rfl

/-- However many processes run, in whatever order, and whichever of them are killed: what is
recorded is a beginning of the lacking files, in their order, and the schema is what one process
makes of these.  A process is through only when all are recorded; and one that starts then and
is left alone makes of the rest what one process would have made of all. -/
theorem migrations_in_order {entries : List Entry} (apart : (entries.map Entry.name).Nodup)
    (opening : Database Schema) (events : List Event) :
    let files := listMigrationFiles entries
    let world := Events.after (next files sql) (opened opening) events
    (∃ count, Recorded files sql opening count world.db ∧
      ∀ process, world.processes process = .done ->
        count = (lacking files opening).length) ∧
    ∀ process final, world.processes process = .started ->
      inTurn sql (lacking files opening) opening.schema = some final ->
      let resumed := Events.after (next files sql) world
        (.list process :: alone process (lacking files world.db))
      resumed.processes process = .done ∧
        resumed.db = ⟨final, opening.applied ++ lacking files opening⟩ := by
  intro files world
  have nodup : files.Nodup := nodup_listMigrationFiles apart
  have ⟨count, sound⟩ := (sound_opened files sql opening).after nodup events
  have recorded := sound.recorded
  refine ⟨⟨count, recorded, fun process done => ?_⟩, fun process final started whole => ?_⟩
  · have fits := sound.fits process
    rw [done] at fits
    exact fits
  · have lacks : lacking files world.db = (lacking files opening).drop count :=
      recorded.pending nodup
    have listed : next files sql world (.list process) =
        world.move process (onward (lacking files world.db)) := by
      simp only [next, started]
      rfl
    have rest : inTurn sql (lacking files world.db) world.db.schema = some final := by
      rw [lacks, ← whole, ← List.take_append_drop count (lacking files opening), inTurn_append,
        List.take_append_drop, recorded.schema]
      rfl
    have lacks_nodup : (lacking files world.db).Nodup := nodup.filter _
    have ⟨done, db⟩ := after_alone files (World.move_self world process _) lacks_nodup
      (fun name listed => of_decide_eq_true (List.mem_filter.mp listed).2) rest
    intro resumed
    have steps : resumed = Events.after (next files sql)
        (world.move process (onward (lacking files world.db)))
        (alone process (lacking files world.db)) := by
      rw [← listed]
      rfl
    rw [steps]
    refine ⟨done, db.trans ?_⟩
    rw [World.move_db, lacks, recorded.applied, List.append_assoc, List.take_append_drop]

/-- Two processes that both begin with the first file, of which one is then refused and the
other killed. -/
def sampleEvents : List Event :=
  [.list 0, .list 1, .execute 0, .execute 1, .commit 0, .commit 1, .execute 0, .fail 0]

def sampleEntries : List Entry :=
  [⟨"0002_payment_card_tokens.sql", true⟩, ⟨"README.md", true⟩,
    ⟨"0001_payment_orders.sql", true⟩]

theorem migrations_in_order_sample :
    let resumed := Events.after
      (next (listMigrationFiles sampleEntries) fun name schema => some (name :: schema))
      (opened ⟨[], []⟩)
      (sampleEvents ++ .list 2 :: alone 2 ["0002_payment_card_tokens.sql"])
    resumed.processes 2 = .done ∧
      resumed.db = ⟨["0002_payment_card_tokens.sql", "0001_payment_orders.sql"],
        ["0001_payment_orders.sql", "0002_payment_card_tokens.sql"]⟩ := by
  have apart : (sampleEntries.map Entry.name).Nodup := by decide
  have sample := (migrations_in_order (fun name schema => some (name :: schema)) apart ⟨[], []⟩
    sampleEvents).2 2 ["0002_payment_card_tokens.sql", "0001_payment_orders.sql"]
  have listed : listMigrationFiles sampleEntries =
      ["0001_payment_orders.sql", "0002_payment_card_tokens.sql"] := by
    decide +kernel
  rw [listed] at sample ⊢
  exact sample rfl rfl

end Migrations

end LevelChannel
