import Mathlib.Data.List.Forall2
import Mathlib.Data.List.Sort
import LevelChannel.Encryption.Scheme

namespace LevelChannel

namespace Encryption

/-!
# Rotation of the encryption keys

Two scripts encrypt columns anew that the old key opens and the primary key does not.  They
work in batches that are committed one by one, may be stopped between two of them and run
again.  One rewrites both columns of the payment audit in one go, the other four columns of
the calendar one after the other.

What a reader with both keys sees never changes.  A run that is not a dry one and ends with
success leaves nothing that needs the old key.
-/

variable {Key Text Cipher Salt Column : Type} [DecidableEq Column]

/-! ## Batches -/

structure EncryptedRow (Column Cipher : Type) where
  id : Nat
  age : Nat
  cells : Column -> Option Cipher

/-- What a batch comes upon: its statement fails, or some rows are locked by others and the
rest is encrypted with fresh salts. -/
inductive BatchEvent (Column Salt : Type) where
  | failed
  | ran (locked : Nat -> Bool) (salt : Nat -> Column -> Salt)

section

variable (scheme : Scheme Key Text Cipher Salt) (keys : Keys Key) (columns : List Column)

def isCandidate (row : EncryptedRow Column Cipher) : Bool :=
  columns.any fun column => oldOnly scheme keys (row.cells column)

def candidates (batchSize : Nat) (locked : Nat -> Bool)
    (table : List (EncryptedRow Column Cipher)) : List Nat :=
  (((table.filter fun row => isCandidate scheme keys columns row && !locked row.id).insertionSort
    fun first second => first.age ≤ second.age).take batchSize).map EncryptedRow.id

def reencryptRow (salt : Column -> Salt) (row : EncryptedRow Column Cipher) :
    EncryptedRow Column Cipher :=
  { row with
    cells := fun column =>
      if column ∈ columns then reencrypt scheme keys (salt column) (row.cells column)
      else row.cells column }

/-- `runBatch`, with the number of rows it has updated. -/
def runBatch (batchSize : Nat) (locked : Nat -> Bool) (salt : Nat -> Column -> Salt)
    (table : List (EncryptedRow Column Cipher)) : List (EncryptedRow Column Cipher) × Nat :=
  let chosen := candidates scheme keys columns batchSize locked table
  (table.map fun row =>
    if row.id ∈ chosen then reencryptRow scheme keys columns (salt row.id) row else row,
    chosen.length)

/-- How the loop over the batches ends: the script is stopped between two of them, gives up
after three failures in a row, or finds nothing more to do. -/
inductive LoopEnd where
  | stopped
  | gaveUp
  | drained
  deriving DecidableEq

def runBatches (batchSize : Nat) (failures : Nat) (table : List (EncryptedRow Column Cipher)) :
    List (BatchEvent Column Salt) -> List (EncryptedRow Column Cipher) × LoopEnd
  | [] => (table, .stopped)
  | .failed :: events =>
    if 3 ≤ failures + 1 then (table, .gaveUp)
    else runBatches batchSize (failures + 1) table events
  | .ran locked salt :: events =>
    let result := runBatch scheme keys columns batchSize locked salt table
    if result.2 = 0 then (result.1, .drained) else runBatches batchSize 0 result.1 events

def countNeedsRotation (column : Column) (table : List (EncryptedRow Column Cipher)) : Nat :=
  table.countP fun row => needsRotation scheme keys (row.cells column)

def countOldOnly (column : Column) (table : List (EncryptedRow Column Cipher)) : Nat :=
  table.countP fun row => oldOnly scheme keys (row.cells column)

structure RotationArgs where
  batchSize : Nat
  dryRun : Bool

inductive TargetEnd where
  | undecipherable
  | nothingToDo
  | dryRun
  | stopped
  | finished (gaveUp remaining : Bool)
  deriving DecidableEq

def rotateTarget (args : RotationArgs) (events : List (BatchEvent Column Salt))
    (table : List (EncryptedRow Column Cipher)) : List (EncryptedRow Column Cipher) × TargetEnd :=
  if columns.any fun column =>
      countNeedsRotation scheme keys column table > countOldOnly scheme keys column table then
    (table, .undecipherable)
  else if columns.all fun column => countNeedsRotation scheme keys column table = 0 then
    (table, .nothingToDo)
  else if args.dryRun then (table, .dryRun)
  else
    let result := runBatches scheme keys columns args.batchSize 0 table events
    match result.2 with
    | .stopped => (result.1, .stopped)
    | ended => (result.1, .finished (ended = .gaveUp)
        (columns.any fun column => countOldOnly scheme keys column result.1 > 0))

end

inductive AuditColumn where
  | customerEmailEnc
  | clientIpEnc
  deriving DecidableEq

/-- A run of a script: its arguments, and what its batches come upon. -/
structure RotationRun (Column Salt : Type) where
  args : RotationArgs
  events : List (BatchEvent Column Salt)

section

variable (scheme : Scheme Key Text Cipher Salt) (keys : Keys Key)

def auditExitCode : TargetEnd -> Option Nat
  | .undecipherable => some 2
  | .nothingToDo | .dryRun => some 0
  | .stopped => none
  | .finished _ remaining => some (if remaining then 1 else 0)

/-- `rotate-audit-encryption`, with its exit code. -/
def rotateAudit (table : List (EncryptedRow AuditColumn Cipher))
    (run : RotationRun AuditColumn Salt) : List (EncryptedRow AuditColumn Cipher) × Option Nat :=
  let result := rotateTarget scheme keys [.customerEmailEnc, .clientIpEnc] run.args run.events table
  (result.1, auditExitCode result.2)

inductive IntegrationColumn where
  | accessTokenEnc
  | refreshTokenEnc
  | channelTokenEnc
  deriving DecidableEq

inductive BusyIntervalColumn where
  | summaryEncrypted
  deriving DecidableEq

structure CalendarTables (Cipher : Type) where
  integrations : List (EncryptedRow IntegrationColumn Cipher)
  busyIntervals : List (EncryptedRow BusyIntervalColumn Cipher)

inductive RotationTarget where
  | integration (column : IntegrationColumn)
  | busyInterval (column : BusyIntervalColumn)

/-- `ROTATION_TARGETS` -/
def rotationTargets : List RotationTarget :=
  [.integration .accessTokenEnc, .integration .refreshTokenEnc, .integration .channelTokenEnc,
    .busyInterval .summaryEncrypted]

structure CalendarRun (Salt : Type) where
  args : RotationArgs
  integrationEvents : IntegrationColumn -> List (BatchEvent IntegrationColumn Salt)
  busyIntervalEvents : BusyIntervalColumn -> List (BatchEvent BusyIntervalColumn Salt)

def rotateCalendarTarget (run : CalendarRun Salt) (tables : CalendarTables Cipher) :
    RotationTarget -> CalendarTables Cipher × TargetEnd
  | .integration column =>
    let result := rotateTarget scheme keys [column] run.args (run.integrationEvents column)
      tables.integrations
    ({ tables with integrations := result.1 }, result.2)
  | .busyInterval column =>
    let result := rotateTarget scheme keys [column] run.args (run.busyIntervalEvents column)
      tables.busyIntervals
    ({ tables with busyIntervals := result.1 }, result.2)

def rotateTargets (run : CalendarRun Salt) (exitCode : Nat) (tables : CalendarTables Cipher) :
    List RotationTarget -> CalendarTables Cipher × Option Nat
  | [] => (tables, some exitCode)
  | target :: rest =>
    let result := rotateCalendarTarget scheme keys run tables target
    match result.2 with
    | .undecipherable => (result.1, some 2)
    | .nothingToDo | .dryRun => rotateTargets run exitCode result.1 rest
    | .stopped => (result.1, none)
    | .finished gaveUp remaining =>
      rotateTargets run (if gaveUp || remaining then 1 else exitCode) result.1 rest

/-- `rotate-calendar-encryption`, with its exit code. -/
def rotateCalendar (tables : CalendarTables Cipher) (run : CalendarRun Salt) :
    CalendarTables Cipher × Option Nat :=
  rotateTargets scheme keys run 0 tables rotationTargets

end

/-- The row says the same, and the cells that say nothing or that the primary key opens are
as they were. -/
structure RowKept (scheme : Scheme Key Text Cipher Salt) (keys : Keys Key)
    (before after : EncryptedRow Column Cipher) : Prop where
  id : after.id = before.id
  age : after.age = before.age
  text : ∀ column, plaintext scheme keys (after.cells column) =
    plaintext scheme keys (before.cells column)
  unreadable : ∀ column, plaintext scheme keys (before.cells column) = none ->
    after.cells column = before.cells column
  settled : ∀ column, needsRotation scheme keys (before.cells column) = false ->
    after.cells column = before.cells column

def TableKept (scheme : Scheme Key Text Cipher Salt) (keys : Keys Key)
    (before after : List (EncryptedRow Column Cipher)) : Prop :=
  List.Forall₂ (RowKept scheme keys) before after

section

variable {scheme : Scheme Key Text Cipher Salt} {keys : Keys Key} {columns : List Column}

omit [DecidableEq Column] in
theorem RowKept.refl (row : EncryptedRow Column Cipher) : RowKept scheme keys row row :=
  ⟨rfl, rfl, fun _ => rfl, fun _ _ => rfl, fun _ _ => rfl⟩

omit [DecidableEq Column] in
theorem RowKept.trans {first second third : EncryptedRow Column Cipher}
    (one : RowKept scheme keys first second) (two : RowKept scheme keys second third) :
    RowKept scheme keys first third where
  id := two.id.trans one.id
  age := two.age.trans one.age
  text column := (two.text column).trans (one.text column)
  unreadable column unreadable :=
    (two.unreadable column ((one.text column).trans unreadable)).trans
      (one.unreadable column unreadable)
  settled column settled := by
    have same := one.settled column settled
    rw [<- same] at settled
    exact (two.settled column settled).trans same

theorem reencryptRow_kept (salt : Column -> Salt) (row : EncryptedRow Column Cipher) :
    RowKept scheme keys row (reencryptRow scheme keys columns salt row) where
  id := rfl
  age := rfl
  text column := by
    simp only [reencryptRow]
    split_ifs
    · exact plaintext_reencrypt
    · rfl
  unreadable column unreadable := by
    simp only [reencryptRow]
    split_ifs
    · exact reencrypt_of_unreadable unreadable
    · rfl
  settled column settled := by
    simp only [reencryptRow]
    split_ifs
    · exact reencrypt_of_not_needsRotation settled
    · rfl

namespace TableKept

omit [DecidableEq Column]

variable {before after : List (EncryptedRow Column Cipher)}

theorem refl (table : List (EncryptedRow Column Cipher)) : TableKept scheme keys table table :=
  List.forall₂_same.mpr fun row _ => RowKept.refl row

theorem trans {first second third : List (EncryptedRow Column Cipher)}
    (one : TableKept scheme keys first second) (two : TableKept scheme keys second third) :
    TableKept scheme keys first third := by
  induction one generalizing third with
  | nil => exact two
  | cons kept rest inductionHypothesis =>
    cases two with
    | cons next later => exact .cons (kept.trans next) (inductionHypothesis later)

theorem exists_of_mem (kept : TableKept scheme keys before after)
    {row : EncryptedRow Column Cipher} (member : row ∈ after) :
    ∃ old, old ∈ before ∧ RowKept scheme keys old row := by
  induction kept with
  | nil => cases member
  | cons here rest inductionHypothesis =>
    rcases List.mem_cons.mp member with rfl | later
    · exact ⟨_, List.mem_cons_self, here⟩
    · rcases inductionHypothesis later with ⟨old, listed, found⟩
      exact ⟨old, List.mem_cons_of_mem _ listed, found⟩

end TableKept

variable {table : List (EncryptedRow Column Cipher)}

theorem runBatch_kept (batchSize : Nat) (locked : Nat -> Bool) (salt : Nat -> Column -> Salt) :
    TableKept scheme keys table (runBatch scheme keys columns batchSize locked salt table).1 := by
  refine List.forall₂_map_right_iff.mpr (List.forall₂_same.mpr fun row _ => ?_)
  split_ifs
  · exact reencryptRow_kept _ row
  · exact RowKept.refl row

theorem runBatches_kept (batchSize failures : Nat) (events : List (BatchEvent Column Salt)) :
    TableKept scheme keys table
      (runBatches scheme keys columns batchSize failures table events).1 := by
  induction events generalizing table failures with
  | nil => exact TableKept.refl table
  | cons event events inductionHypothesis =>
    cases event with
    | failed =>
      unfold runBatches
      split_ifs
      · exact TableKept.refl table
      · exact inductionHypothesis _
    | ran locked salt =>
      have here : TableKept scheme keys table
          (runBatch scheme keys columns batchSize locked salt table).1 :=
        runBatch_kept batchSize locked salt
      simp only [runBatches]
      split_ifs
      · exact here
      · exact here.trans (inductionHypothesis _)

theorem rotateTarget_kept (args : RotationArgs) (events : List (BatchEvent Column Salt)) :
    TableKept scheme keys table (rotateTarget scheme keys columns args events table).1 := by
  simp only [rotateTarget]
  split_ifs
  · exact TableKept.refl table
  · exact TableKept.refl table
  · exact TableKept.refl table
  · have here : TableKept scheme keys table
        (runBatches scheme keys columns args.batchSize 0 table events).1 :=
      runBatches_kept args.batchSize 0 events
    split <;> exact here

theorem rotateTarget_ne_dryRun {args : RotationArgs} (wet : args.dryRun = false)
    {events : List (BatchEvent Column Salt)} :
    (rotateTarget scheme keys columns args events table).2 ≠ .dryRun := by
  simp only [rotateTarget, wet, Bool.false_eq_true, if_false]
  split_ifs
  · exact TargetEnd.noConfusion
  · exact TargetEnd.noConfusion
  · split <;> exact TargetEnd.noConfusion

/-! ## What is left for the old key -/

def Settled (scheme : Scheme Key Text Cipher Salt) (keys : Keys Key) (columns : List Column)
    (table : List (EncryptedRow Column Cipher)) : Prop :=
  ∀ row, row ∈ table -> ∀ column, column ∈ columns ->
    needsRotation scheme keys (row.cells column) = false

omit [DecidableEq Column] in
theorem Settled.kept {after : List (EncryptedRow Column Cipher)}
    (settled : Settled scheme keys columns table) (kept : TableKept scheme keys table after) :
    Settled scheme keys columns after := by
  intro row member column listed
  rcases kept.exists_of_mem member with ⟨old, before, same⟩
  have opened := settled old before column listed
  rw [same.settled column opened]
  exact opened

omit [DecidableEq Column] in
theorem countNeedsRotation_eq_zero_iff {column : Column} :
    countNeedsRotation scheme keys column table = 0 <->
      ∀ row, row ∈ table -> needsRotation scheme keys (row.cells column) = false := by
  simp [countNeedsRotation, List.countP_eq_zero]

theorem rotateTarget_of_settled (settled : Settled scheme keys columns table)
    (args : RotationArgs) (events : List (BatchEvent Column Salt)) :
    rotateTarget scheme keys columns args events table = (table, .nothingToDo) := by
  have none_needs (column : Column) (listed : column ∈ columns) :
      countNeedsRotation scheme keys column table = 0 :=
    countNeedsRotation_eq_zero_iff.mpr fun row member => settled row member column listed
  rw [rotateTarget, if_neg, if_pos]
  · exact List.all_eq_true.mpr fun column listed => decide_eq_true (none_needs column listed)
  · intro undecipherable
    rcases List.any_eq_true.mp undecipherable with ⟨column, listed, more⟩
    have more := of_decide_eq_true more
    rw [none_needs column listed] at more
    exact absurd more (Nat.not_lt_zero _)

/-- What is not empty, one of the keys opens. -/
def Decipherable (scheme : Scheme Key Text Cipher Salt) (keys : Keys Key) (columns : List Column)
    (table : List (EncryptedRow Column Cipher)) : Prop :=
  ∀ row, row ∈ table -> ∀ column, column ∈ columns ->
    row.cells column = none ∨ plaintext scheme keys (row.cells column) ≠ none

omit [DecidableEq Column] in
theorem Decipherable.kept {after : List (EncryptedRow Column Cipher)}
    (readable : Decipherable scheme keys columns table) (kept : TableKept scheme keys table after) :
    Decipherable scheme keys columns after := by
  intro row member column listed
  rcases kept.exists_of_mem member with ⟨old, before, same⟩
  rcases readable old before column listed with empty | opened
  · left
    rw [same.unreadable column (by rw [empty]; rfl), empty]
  · right
    rwa [same.text column]

theorem of_countP_le {Element : Type} {weak strong : Element -> Bool} {elements : List Element}
    (weaker : ∀ element, strong element = true -> weak element = true)
    (count : elements.countP weak ≤ elements.countP strong) :
    ∀ element, element ∈ elements -> weak element = true -> strong element = true := by
  induction elements with
  | nil => exact fun _ member => absurd member List.not_mem_nil
  | cons head tail inductionHypothesis =>
    have mono : tail.countP strong ≤ tail.countP weak :=
      List.countP_mono_left fun element _ => weaker element
    rw [List.countP_cons, List.countP_cons] at count
    have here : weak head = true -> strong head = true := by
      intro holds
      by_contra fails
      rw [if_pos holds, if_neg fails] at count
      omega
    have rest : tail.countP weak ≤ tail.countP strong := by
      by_cases holds : weak head = true
      · rw [if_pos holds, if_pos (here holds)] at count
        exact Nat.le_of_add_le_add_right count
      · rw [if_neg holds, if_neg fun also => holds (weaker head also)] at count
        exact count
    intro element member
    rcases List.mem_cons.mp member with rfl | later
    · exact here
    · exact inductionHypothesis rest element later

omit [DecidableEq Column] in
theorem decipherable_of_counts (counts : ∀ column, column ∈ columns ->
      countNeedsRotation scheme keys column table ≤ countOldOnly scheme keys column table) :
    Decipherable scheme keys columns table := by
  intro row member column listed
  refine readable_of_needsRotation fun needs => ?_
  exact of_countP_le (fun row => needsRotation_of_oldOnly) (counts column listed) row member needs

omit [DecidableEq Column] in
theorem Decipherable.settled (readable : Decipherable scheme keys columns table)
    (counts : ∀ column, column ∈ columns -> countOldOnly scheme keys column table = 0) :
    Settled scheme keys columns table := by
  intro row member column listed
  refine not_needsRotation (readable row member column listed) ?_
  exact Bool.eq_false_iff.mpr (List.countP_eq_zero.mp (counts column listed) row member)

def TargetEnd.complete : TargetEnd -> Bool
  | .nothingToDo | .finished _ false => true
  | _ => false

theorem settled_of_rotateTarget (args : RotationArgs) (events : List (BatchEvent Column Salt))
    (complete : (rotateTarget scheme keys columns args events table).2.complete = true) :
    Settled scheme keys columns (rotateTarget scheme keys columns args events table).1 := by
  have kept : TableKept scheme keys table
      (runBatches scheme keys columns args.batchSize 0 table events).1 :=
    runBatches_kept args.batchSize 0 events
  simp only [rotateTarget] at complete ⊢
  split_ifs at complete ⊢ with undecipherable nothing dry
  · exact absurd complete Bool.false_ne_true
  · intro row member column listed
    have here := of_decide_eq_true (List.all_eq_true.mp nothing column listed)
    exact countNeedsRotation_eq_zero_iff.mp here row member
  · exact absurd complete Bool.false_ne_true
  · have readable : Decipherable scheme keys columns table := by
      refine decipherable_of_counts fun column listed => ?_
      by_contra more
      refine undecipherable (List.any_eq_true.mpr ⟨column, listed, ?_⟩)
      exact decide_eq_true (Nat.lt_of_not_le more)
    split at complete
    · exact absurd complete Bool.false_ne_true
    · refine (readable.kept kept).settled fun column listed => ?_
      by_contra more
      have remaining : (columns.any fun column => decide (countOldOnly scheme keys column
          (runBatches scheme keys columns args.batchSize 0 table events).1 > 0)) = true :=
        List.any_eq_true.mpr ⟨column, listed, decide_eq_true (Nat.pos_of_ne_zero more)⟩
      rw [remaining] at complete
      exact absurd complete Bool.false_ne_true

end

section

variable (scheme : Scheme Key Text Cipher Salt) (keys : Keys Key)

/-- The table after some runs, each of them perhaps stopped between two batches. -/
def auditAfter (table : List (EncryptedRow AuditColumn Cipher)) :
    List (RotationRun AuditColumn Salt) -> List (EncryptedRow AuditColumn Cipher)
  | [] => table
  | run :: later => auditAfter (rotateAudit scheme keys table run).1 later

variable {scheme keys} {table : List (EncryptedRow AuditColumn Cipher)}

theorem rotateAudit_kept (run : RotationRun AuditColumn Salt) :
    TableKept scheme keys table (rotateAudit scheme keys table run).1 :=
  rotateTarget_kept run.args run.events

theorem auditAfter_kept (runs : List (RotationRun AuditColumn Salt)) :
    TableKept scheme keys table (auditAfter scheme keys table runs) := by
  induction runs generalizing table with
  | nil => exact TableKept.refl table
  | cons run later inductionHypothesis =>
    exact (rotateAudit_kept run).trans inductionHypothesis

theorem complete_of_auditExitCode {args : RotationArgs}
    {events : List (BatchEvent AuditColumn Salt)} {columns : List AuditColumn}
    (wet : args.dryRun = false)
    (success : auditExitCode (rotateTarget scheme keys columns args events table).2 = some 0) :
    (rotateTarget scheme keys columns args events table).2.complete = true := by
  cases ended : (rotateTarget scheme keys columns args events table).2 with
  | undecipherable => simp [ended, auditExitCode] at success
  | nothingToDo => rfl
  | dryRun => exact absurd ended (rotateTarget_ne_dryRun wet)
  | stopped => simp [ended, auditExitCode] at success
  | finished gaveUp remaining => cases remaining <;> simp_all [auditExitCode, TargetEnd.complete]

theorem settled_of_rotateAudit {run : RotationRun AuditColumn Salt} (wet : run.args.dryRun = false)
    (success : (rotateAudit scheme keys table run).2 = some 0) :
    Settled scheme keys [.customerEmailEnc, .clientIpEnc] (rotateAudit scheme keys table run).1 :=
  settled_of_rotateTarget run.args run.events (complete_of_auditExitCode wet success)

theorem rotateAudit_of_settled
    (settled : Settled scheme keys [.customerEmailEnc, .clientIpEnc] table)
    (run : RotationRun AuditColumn Salt) : rotateAudit scheme keys table run = (table, some 0) := by
  rw [rotateAudit, rotateTarget_of_settled settled]
  rfl

end

/-! ## Whole runs of the calendar script -/

section

variable (scheme : Scheme Key Text Cipher Salt) (keys : Keys Key)

/-- The tables after some runs, each of them perhaps stopped between two batches. -/
def calendarAfter (tables : CalendarTables Cipher) :
    List (CalendarRun Salt) -> CalendarTables Cipher
  | [] => tables
  | run :: later => calendarAfter (rotateCalendar scheme keys tables run).1 later

/-- Both tables are kept. -/
structure CalendarKept (before after : CalendarTables Cipher) : Prop where
  integrations : TableKept scheme keys before.integrations after.integrations
  busyIntervals : TableKept scheme keys before.busyIntervals after.busyIntervals

def TargetSettled (tables : CalendarTables Cipher) : RotationTarget -> Prop
  | .integration column => Settled scheme keys [column] tables.integrations
  | .busyInterval column => Settled scheme keys [column] tables.busyIntervals

variable {scheme keys} {tables : CalendarTables Cipher}

theorem CalendarKept.refl (tables : CalendarTables Cipher) :
    CalendarKept scheme keys tables tables :=
  ⟨TableKept.refl _, TableKept.refl _⟩

theorem CalendarKept.trans {first second third : CalendarTables Cipher}
    (one : CalendarKept scheme keys first second) (two : CalendarKept scheme keys second third) :
    CalendarKept scheme keys first third :=
  ⟨one.integrations.trans two.integrations, one.busyIntervals.trans two.busyIntervals⟩

theorem TargetSettled.kept {after : CalendarTables Cipher} {target : RotationTarget}
    (settled : TargetSettled scheme keys tables target)
    (kept : CalendarKept scheme keys tables after) : TargetSettled scheme keys after target := by
  cases target with
  | integration column => exact Settled.kept settled kept.integrations
  | busyInterval column => exact Settled.kept settled kept.busyIntervals

theorem rotateCalendarTarget_kept (run : CalendarRun Salt) (target : RotationTarget) :
    CalendarKept scheme keys tables (rotateCalendarTarget scheme keys run tables target).1 := by
  cases target with
  | integration column => exact ⟨rotateTarget_kept _ _, TableKept.refl _⟩
  | busyInterval column => exact ⟨TableKept.refl _, rotateTarget_kept _ _⟩

theorem rotateCalendarTarget_ne_dryRun {run : CalendarRun Salt} (wet : run.args.dryRun = false)
    (target : RotationTarget) :
    (rotateCalendarTarget scheme keys run tables target).2 ≠ .dryRun := by
  cases target with
  | integration column => exact rotateTarget_ne_dryRun wet
  | busyInterval column => exact rotateTarget_ne_dryRun wet

theorem settled_of_rotateCalendarTarget {run : CalendarRun Salt} {target : RotationTarget}
    (complete : (rotateCalendarTarget scheme keys run tables target).2.complete = true) :
    TargetSettled scheme keys (rotateCalendarTarget scheme keys run tables target).1 target := by
  cases target with
  | integration column => exact settled_of_rotateTarget _ _ complete
  | busyInterval column => exact settled_of_rotateTarget _ _ complete

theorem rotateCalendarTarget_of_settled {target : RotationTarget}
    (settled : TargetSettled scheme keys tables target) (run : CalendarRun Salt) :
    rotateCalendarTarget scheme keys run tables target = (tables, .nothingToDo) := by
  cases target with
  | integration column => rw [rotateCalendarTarget, rotateTarget_of_settled settled]
  | busyInterval column => rw [rotateCalendarTarget, rotateTarget_of_settled settled]

theorem rotateTargets_kept (run : CalendarRun Salt) (exitCode : Nat)
    (targets : List RotationTarget) :
    CalendarKept scheme keys tables (rotateTargets scheme keys run exitCode tables targets).1 := by
  induction targets generalizing tables exitCode with
  | nil => exact CalendarKept.refl tables
  | cons target rest inductionHypothesis =>
    have here : CalendarKept scheme keys tables
        (rotateCalendarTarget scheme keys run tables target).1 :=
      rotateCalendarTarget_kept run target
    simp only [rotateTargets]
    split
    · exact here
    · exact here.trans (inductionHypothesis _)
    · exact here.trans (inductionHypothesis _)
    · exact here
    · exact here.trans (inductionHypothesis _)

theorem settled_of_rotateTargets {run : CalendarRun Salt} (wet : run.args.dryRun = false)
    {exitCode : Nat} {targets : List RotationTarget}
    (success : (rotateTargets scheme keys run exitCode tables targets).2 = some 0) :
    exitCode = 0 ∧ ∀ target, target ∈ targets -> TargetSettled scheme keys
      (rotateTargets scheme keys run exitCode tables targets).1 target := by
  induction targets generalizing tables exitCode with
  | nil => exact ⟨Option.some.inj success, fun _ member => absurd member List.not_mem_nil⟩
  | cons target rest inductionHypothesis =>
    let here := rotateCalendarTarget scheme keys run tables target
    -- what the loop makes of a target that is complete, the other targets included
    have step (code : Nat) (complete : here.2.complete = true)
        (success : (rotateTargets scheme keys run code here.1 rest).2 = some 0) :
        code = 0 ∧ ∀ other, other ∈ target :: rest -> TargetSettled scheme keys
          (rotateTargets scheme keys run code here.1 rest).1 other := by
      rcases inductionHypothesis success with ⟨clean, settled⟩
      refine ⟨clean, fun other listed => ?_⟩
      rcases List.mem_cons.mp listed with rfl | later
      · exact (settled_of_rotateCalendarTarget complete).kept (rotateTargets_kept run code rest)
      · exact settled other later
    cases ended : here.2 with
    | undecipherable => simp [rotateTargets, here, ended] at success
    | nothingToDo =>
      simp only [rotateTargets, ended, here] at success step ⊢
      exact step exitCode rfl success
    | dryRun => exact absurd ended (rotateCalendarTarget_ne_dryRun wet target)
    | stopped => simp [rotateTargets, here, ended] at success
    | finished gaveUp remaining =>
      simp only [rotateTargets, ended, here] at success step ⊢
      cases remaining with
      | false =>
        cases gaveUp with
        | false => exact step exitCode rfl success
        | true => exact absurd (step 1 rfl success).1 Nat.one_ne_zero
      | true =>
        rw [Bool.or_true, if_pos rfl] at success
        exact absurd (inductionHypothesis success).1 Nat.one_ne_zero

theorem rotateTargets_of_settled {targets : List RotationTarget}
    (settled : ∀ target, target ∈ targets -> TargetSettled scheme keys tables target)
    (run : CalendarRun Salt) (exitCode : Nat) :
    rotateTargets scheme keys run exitCode tables targets = (tables, some exitCode) := by
  induction targets with
  | nil => rfl
  | cons target rest inductionHypothesis =>
    rw [rotateTargets, rotateCalendarTarget_of_settled (settled target List.mem_cons_self)]
    exact inductionHypothesis fun other later => settled other (List.mem_cons_of_mem _ later)

theorem rotateCalendar_kept (run : CalendarRun Salt) :
    CalendarKept scheme keys tables (rotateCalendar scheme keys tables run).1 :=
  rotateTargets_kept run 0 rotationTargets

theorem calendarAfter_kept (runs : List (CalendarRun Salt)) :
    CalendarKept scheme keys tables (calendarAfter scheme keys tables runs) := by
  induction runs generalizing tables with
  | nil => exact CalendarKept.refl tables
  | cons run later inductionHypothesis =>
    exact (rotateCalendar_kept run).trans inductionHypothesis

theorem settled_of_rotateCalendar {run : CalendarRun Salt} (wet : run.args.dryRun = false)
    (success : (rotateCalendar scheme keys tables run).2 = some 0) (target : RotationTarget) :
    TargetSettled scheme keys (rotateCalendar scheme keys tables run).1 target := by
  refine (settled_of_rotateTargets wet success).2 target ?_
  cases target with
  | integration column => cases column <;> simp [rotationTargets]
  | busyInterval column => cases column; simp [rotationTargets]

end

section

variable (scheme : Scheme Key Text Cipher Salt) (keys : Keys Key)

def OnPrimary (table : List (EncryptedRow Column Cipher)) : Prop :=
  ∀ row, row ∈ table -> ∀ column cipher, row.cells column = some cipher ->
    ∃ text, scheme.decrypt keys.primary cipher = some text

variable {scheme keys}

omit [DecidableEq Column] in
theorem onPrimary_of_forall {table : List (EncryptedRow Column Cipher)}
    (settled : ∀ row, row ∈ table -> ∀ column,
      needsRotation scheme keys (row.cells column) = false) : OnPrimary scheme keys table := by
  intro row member column cipher written
  have opened := settled row member column
  rw [written, needsRotation, Option.any_some] at opened
  exact Option.isSome_iff_exists.mp (Option.isSome_iff_ne_none.mpr fun unopened => by
    simp [unopened] at opened)

variable (scheme keys)

/-- However many runs came before, stopped between batches or not, neither script changes what
a cell says, or a cell that says nothing.  A run that is not a dry one and ends with success
leaves everything it covers to the primary key alone, and no further run changes it. -/
theorem rotation_preserves_plaintext : (∀ (table : List (EncryptedRow AuditColumn Cipher))
      (runs : List (RotationRun AuditColumn Salt)) (run : RotationRun AuditColumn Salt),
      let result := rotateAudit scheme keys (auditAfter scheme keys table runs) run
      TableKept scheme keys table result.1 ∧
      (run.args.dryRun = false -> result.2 = some 0 ->
        OnPrimary scheme keys result.1 ∧
        ∀ further : RotationRun AuditColumn Salt,
          rotateAudit scheme keys result.1 further = (result.1, some 0))) ∧
    (∀ (tables : CalendarTables Cipher) (runs : List (CalendarRun Salt))
      (run : CalendarRun Salt),
      let result := rotateCalendar scheme keys (calendarAfter scheme keys tables runs) run
      CalendarKept scheme keys tables result.1 ∧
      (run.args.dryRun = false -> result.2 = some 0 ->
        OnPrimary scheme keys result.1.integrations ∧
        OnPrimary scheme keys result.1.busyIntervals ∧
        ∀ further : CalendarRun Salt,
          rotateCalendar scheme keys result.1 further = (result.1, some 0))) := by
  constructor
  · intro table runs run result
    refine ⟨(auditAfter_kept runs).trans (rotateAudit_kept run), fun wet success => ?_⟩
    have settled := settled_of_rotateAudit wet success
    refine ⟨onPrimary_of_forall fun row member column => ?_, rotateAudit_of_settled settled⟩
    exact settled row member column (by cases column <;> simp)
  · intro tables runs run result
    refine ⟨(calendarAfter_kept runs).trans (rotateCalendar_kept run), fun wet success => ?_⟩
    have settled := settled_of_rotateCalendar wet success
    refine ⟨onPrimary_of_forall fun row member column => ?_,
      onPrimary_of_forall fun row member column => ?_,
      fun further => rotateTargets_of_settled (fun target _ => settled target) further 0⟩
    · exact settled (.integration column) row member column List.mem_cons_self
    · exact settled (.busyInterval column) row member column List.mem_cons_self

end

def labelled : Scheme Nat String (Nat × String) Unit where
  encrypt key _ text := (key, text)
  decrypt key cipher := if cipher.1 = key then some cipher.2 else none
  decrypt_encrypt _ _ _ := if_pos rfl

def mixedRow : EncryptedRow AuditColumn (Nat × String) where
  id := 1
  age := 1
  cells
    | .customerEmailEnc => some (1, "a@example.org")
    | .clientIpEnc => some (2, "10.0.0.1")

def oneBatch {Column : Type} : List (BatchEvent Column Unit) :=
  [.ran (fun _ => false) fun _ _ => (), .ran (fun _ => false) fun _ _ => ()]

theorem rotation_preserves_plaintext_of_mixedRow :
    let result := rotateAudit labelled ⟨2, 1⟩ [mixedRow] ⟨⟨100, false⟩, oneBatch⟩
    TableKept labelled ⟨2, 1⟩ [mixedRow] result.1 ∧ OnPrimary labelled ⟨2, 1⟩ result.1 := by
  have kept := (rotation_preserves_plaintext labelled ⟨2, 1⟩).1 [mixedRow] []
    ⟨⟨100, false⟩, oneBatch⟩
  exact ⟨kept.1, (kept.2 rfl (by decide +kernel)).1⟩

/-- A dry run ends with success as well, and leaves the old key in use. -/
theorem dryRun_exits_zero_with_old_cells :
    ¬ ∀ (table : List (EncryptedRow AuditColumn (Nat × String)))
      (run : RotationRun AuditColumn Unit), (rotateAudit labelled ⟨2, 1⟩ table run).2 = some 0 ->
        OnPrimary labelled ⟨2, 1⟩ (rotateAudit labelled ⟨2, 1⟩ table run).1 := by
  intro always
  have onPrimary := always [mixedRow] ⟨⟨100, true⟩, []⟩ (by decide +kernel)
  rcases onPrimary mixedRow List.mem_cons_self .customerEmailEnc _ rfl with ⟨text, opened⟩
  exact absurd opened (by simp [labelled])

end Encryption

end LevelChannel
