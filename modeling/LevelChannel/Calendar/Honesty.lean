import LevelChannel.Calendar.Coverage

namespace LevelChannel

open Tables ReadCommitted

namespace Calendar
namespace Coverage

/-!
# Routes that enqueue what they owe

Whether a route tells the calendar can be read off its program alone.  What a commit does to
slots says what has to be enqueued; the program that goes on from it is due to do just that;
and each later statement leaves it due, enqueues it, or has found that no push is wanted.
-/

/-! ## Programs that enqueue what they owe -/

/-- The integration is one that pushes are enqueued for. -/
def Wanted (db : CalendarDb) (teacherAccountId : RowId) : Prop :=
  ((db.integration teacherAccountId).any fun row => connected row && writable row) = true

instance (db : CalendarDb) (teacherAccountId : RowId) : Decidable (Wanted db teacherAccountId) :=
  inferInstanceAs (Decidable (_ = true))

def Due.Leaves : Due -> LessonSlot -> Prop
  | .push slotId teacherAccountId, row =>
    row.id = slotId ∧ row.teacherAccountId = teacherAccountId ∧ row.status = .booked
  | .intent slotId, row => row.id = slotId ∧ row.status = .cancelled

/-- What a labelled statement leaves due.  An integration that wants no pushes settles a
create push. -/
def Pays (label : Label) (committed : CalendarDb) (after : Option Due) : Prop :=
  match label with
  | .readIntegration slotId teacherAccountId =>
    after = some (.push slotId teacherAccountId) ∨
      (after = none ∧ ¬ Wanted committed teacherAccountId)
  | label => after = label.due

def Rewrites (ok : LessonSlot -> Prop) (slots : List (Change LessonSlot)) : Prop :=
  (∃ row, Change.replace row ∈ slots) ∧
    ∀ change, change ∈ slots -> ∃ row, change = .replace row ∧ ok row

def slotChange : LevelChannel.Write -> Option (Change LessonSlot)
  | .slot change => some change
  | _ => none

def Write.slotChange : Write -> Option (Change LessonSlot)
  | .lesson write => Coverage.slotChange write
  | _ => none

/-- A commit leaves due what it makes necessary; a route without a pledge leaves nothing. -/
def Announced (pledge : Option Due) (pending : List Write) (after : Option Due) : Prop :=
  match pledge with
  | none => after = none
  | some pledge =>
    (after = none ∧ pending.filterMap Write.slotChange = []) ∨
      (after = some pledge ∧ Rewrites pledge.Leaves (pending.filterMap Write.slotChange))

/-- Writes of the queues are those that are due. -/
def Single (pending : List Write) : Prop :=
  ∀ write, write ∈ pending -> write.due = none ∨ write.due = pending.findSome? Write.due

/-- Every step of the program leaves due what it should. -/
def Honest (pledge : Option Due) : List Write -> Program -> Prop
  | _, .done _ => True
  | _, .crashed => True
  | pending, .statement label _ onError writes next =>
    (Honest pledge [] onError ∧ due [] onError = none) ∧ ∀ committed own,
      Honest pledge (pending ++ writes committed own) (next committed own) ∧
        Pays label committed (due (pending ++ writes committed own) (next committed own))
  | pending, .commit onError next =>
    (Honest pledge [] onError ∧ due [] onError = none) ∧ Honest pledge [] next ∧
      Announced pledge pending (due [] next) ∧ Single pending
  | _, .rollback next => Honest pledge [] next ∧ due [] next = none
  | pending, .call _ writes next => pledge = none ∧ ∀ committed choice,
    Honest pledge pending (next committed choice) ∧ due pending (next committed choice) = none ∧
      ∀ write, write ∈ writes committed choice -> write.due = none

theorem Honest.inherited (pledge : Option Due) :
    Inherited fun (_ : List Lock) pending (program : Program) => Honest pledge pending program where
  crashed := trivial
  statement honest := ⟨honest.1.1, fun committed own => (honest.2 committed own).1⟩
  commit honest := ⟨honest.1.1, honest.2.1⟩
  rollback honest := honest.1
  call honest committed choice := (honest.2 committed choice).1

section Routes

variable {pledge : Option Due} {slotId teacherAccountId : RowId} {reply : Reply}

theorem enqueuePushJob_honest :
    Honest pledge [] (.enqueuePushJob slotId teacherAccountId (.done reply)) := by
  refine ⟨⟨trivial, rfl⟩, fun committed own => ⟨⟨⟨trivial, rfl⟩, trivial, ?_, ?_⟩, rfl⟩⟩
  · cases pledge with
    | none => rfl
    | some pledge => exact Or.inl ⟨rfl, rfl⟩
  · intro write listed
    rw [List.nil_append, List.mem_singleton] at listed
    subst listed
    exact Or.inr rfl

theorem enqueueCreate_honest : Honest pledge []
      (.enqueueCreatePushIfIntegrationActive slotId teacherAccountId (.done reply)) := by
  refine ⟨⟨trivial, rfl⟩, fun committed own => ?_⟩
  by_cases wanted : Wanted committed teacherAccountId
  · have asks := wanted
    rw [Wanted] at asks
    simp only [asks, if_true]
    exact ⟨enqueuePushJob_honest, Or.inl rfl⟩
  · have asks := wanted
    rw [Wanted] at asks
    simp only [asks]
    exact ⟨trivial, Or.inr ⟨rfl, wanted⟩⟩

theorem insertIntent_honest : Honest pledge [] (.insertPostCancelIntent slotId (.done reply)) := by
  refine ⟨⟨trivial, rfl⟩, fun committed own => ⟨⟨⟨trivial, rfl⟩, trivial, ?_, ?_⟩, rfl⟩⟩
  · cases pledge with
    | none => rfl
    | some pledge => exact Or.inl ⟨rfl, rfl⟩
  · intro write listed
    rw [List.nil_append, List.mem_singleton] at listed
    subst listed
    exact Or.inr rfl

/-! ### Programs on the lesson tables -/

theorem findSome?_lesson (pending : List LevelChannel.Write) :
    (pending.map Write.lesson).findSome? Write.due = none := by
  induction pending with
  | nil => rfl
  | cons write pending extend => exact extend

theorem single_lesson (pending : List LevelChannel.Write) : Single (pending.map Write.lesson) := by
  intro write listed
  rcases List.mem_map.mp listed with ⟨inner, -, rfl⟩
  exact Or.inl rfl

theorem slotChange_lesson (pending : List LevelChannel.Write) :
    (pending.map Write.lesson).filterMap Write.slotChange = pending.filterMap slotChange := by
  rw [List.filterMap_map]
  rfl

theorem due_lesson (pending : List LevelChannel.Write) (inner : LevelChannel.Program) :
    due (pending.map Write.lesson) (.lesson inner) = none := by
  cases inner with
  | commit onError next => exact findSome?_lesson pending
  | _ => rfl

theorem lesson_honest (pending : List LevelChannel.Write) (inner : LevelChannel.Program) :
    Honest none (pending.map Write.lesson) (.lesson inner) := by
  induction inner generalizing pending with
  | done reply => trivial
  | crashed => trivial
  | statement label locks onError writes next failed went =>
    refine ⟨⟨failed [], due_lesson [] onError⟩, fun committed own => ?_⟩
    rw [← List.map_append]
    exact ⟨went _ _ _, due_lesson _ _⟩
  | commit onError next failed went =>
    exact ⟨⟨failed [], due_lesson [] onError⟩, went [], due_lesson [] next,
      single_lesson pending⟩
  | rollback next went => exact ⟨went [], due_lesson [] next⟩
  | call label writes next went =>
    refine ⟨rfl, fun committed choice => ⟨went _ _ pending, due_lesson pending _, ?_⟩⟩
    intro write listed
    rcases List.mem_map.mp listed with ⟨inner, -, rfl⟩
    rfl

/-- The transaction commits rows of one kind and answers that it has, or changes no slot and
answers something else. -/
def Closes (pledge : Due) (tail : Reply -> Program) :
    List LevelChannel.Write -> LevelChannel.Program -> Prop
  | _, .done reply => tail reply = .done reply
  | _, .crashed => True
  | pending, .statement _ _ onError writes next =>
    Closes pledge tail [] onError ∧ ∀ committed own,
      Closes pledge tail (pending ++ writes committed own) (next committed own)
  | pending, .commit onError next =>
    Closes pledge tail [] onError ∧ ∃ reply, next = .done reply ∧
      due [] (tail reply) = some pledge ∧ Rewrites pledge.Leaves (pending.filterMap slotChange)
  | _, .rollback next => Closes pledge tail [] next
  | _, .call _ _ _ => False

variable {tail : Reply -> Program}

theorem due_of_closes {promise : Due} {pending : List LevelChannel.Write}
    {inner : LevelChannel.Program} (closes : Closes promise tail pending inner) :
    due (pending.map Write.lesson) ((Program.lesson inner).andThen tail) = none := by
  cases inner with
  | done reply =>
    have quiet : tail reply = .done reply := closes
    show due _ (tail reply) = none
    rw [quiet]
    rfl
  | commit onError next => exact findSome?_lesson pending
  | _ => rfl

theorem honest_of_closes {promise : Due} {pending : List LevelChannel.Write}
    {inner : LevelChannel.Program} (ends : ∀ reply, Honest (some promise) [] (tail reply))
    (closes : Closes promise tail pending inner) :
    Honest (some promise) (pending.map Write.lesson) ((Program.lesson inner).andThen tail) := by
  induction inner generalizing pending with
  | done reply =>
    have quiet : tail reply = .done reply := closes
    show Honest (some promise) _ (tail reply)
    rw [quiet]
    trivial
  | crashed => trivial
  | statement label locks onError writes next failed went =>
    refine ⟨⟨failed closes.1, due_of_closes closes.1⟩, fun committed own => ?_⟩
    rw [← List.map_append]
    have going := closes.2 committed.lessons own.lessons
    exact ⟨went _ _ going, due_of_closes going⟩
  | commit onError next failed went =>
    rcases closes with ⟨failing, reply, rfl, owes, rewrites⟩
    refine ⟨⟨failed failing, due_of_closes failing⟩, ends reply, Or.inr ⟨owes, ?_⟩,
      single_lesson pending⟩
    rw [slotChange_lesson]
    exact rewrites
  | rollback next went =>
    have going : Closes promise tail [] next := closes
    exact ⟨went going, due_of_closes going⟩
  | call label writes next went => exact closes.elim

end Routes

/-! ## Booking and cancelling -/

section Transactions

variable {pledge : Due} {tail : Reply -> Program} {pending : List LevelChannel.Write}

theorem closes_congr {program : LevelChannel.Program} {same : List LevelChannel.Write}
    (slots : same.filterMap slotChange = pending.filterMap slotChange)
    (closes : Closes pledge tail pending program) : Closes pledge tail same program := by
  induction program generalizing pending same with
  | done reply => exact closes
  | crashed => trivial
  | statement label locks onError writes next failed went =>
    refine ⟨closes.1, fun committed own => went _ _ ?_ (closes.2 committed own)⟩
    rw [List.filterMap_append, List.filterMap_append, slots]
  | commit onError next failed went =>
    rcases closes with ⟨failing, reply, answered, owes, rewrites⟩
    exact ⟨failing, reply, answered, owes, by rwa [slots]⟩
  | rollback next went => exact closes
  | call label writes next went => exact closes

theorem closes_done {reply : Reply} (quiet : tail reply = .done reply) :
    Closes pledge tail pending (.done reply) :=
  quiet

theorem closes_rollbackNotOk {reason : String}
    (quiet : tail (.returned reason []) = .done (.returned reason [])) :
    Closes pledge tail pending (.rollbackNotOk reason) :=
  quiet

theorem query_closes {onError : LevelChannel.Program} {next : Db -> Db -> LevelChannel.Program}
    (failed : Closes pledge tail [] onError)
    (went : ∀ committed own, Closes pledge tail pending (next committed own)) :
    Closes pledge tail pending (.query onError next) := by
  refine ⟨failed, fun committed own => ?_⟩
  rw [List.append_nil]
  exact went committed own

theorem lockFirst_closes {where_ : PackagePurchase -> Bool} {onError : LevelChannel.Program}
    {next : Option PackagePurchase -> LevelChannel.Program} (failed : Closes pledge tail [] onError)
    (went : ∀ chosen, Closes pledge tail pending (next chosen)) (ids : List RowId) :
    Closes pledge tail pending (.lockFirst where_ onError next ids) := by
  induction ids with
  | nil => exact went none
  | cons id rest extend =>
    refine ⟨failed, fun committed own => ?_⟩
    rw [List.append_nil]
    dsimp only
    split
    · exact went _
    · exact extend

theorem insertConsumption_closes {row : PackageConsumption} {onError : LevelChannel.Program}
    {next : Bool -> LevelChannel.Program} (failed : Closes pledge tail [] onError)
    (went : ∀ created, Closes pledge tail pending (next created)) :
    Closes pledge tail pending (.insertConsumption row onError next) := by
  refine ⟨failed, fun committed own => ?_⟩
  dsimp only
  split
  · exact failed
  · refine closes_congr ?_ (went _)
    split <;> simp [slotChange]

theorem consumePackageUnit_closes {now durationMinutes : Nat}
    {accountId slotId expectedTeacherId : RowId} {actor : Actor}
    {onError : LevelChannel.Program} {next : Option RowId -> LevelChannel.Program}
    (failed : Closes pledge tail [] onError)
    (went : ∀ consumed, Closes pledge tail pending (next consumed)) :
    Closes pledge tail pending (.consumePackageUnit now accountId slotId durationMinutes actor
      expectedTeacherId onError next) := by
  apply query_closes failed
  intro committed own
  apply lockFirst_closes failed
  intro chosen
  cases chosen with
  | none => exact went none
  | some purchase => exact insertConsumption_closes failed fun created => went _

theorem restorePackageConsumption_closes {now : Nat} {slotId : RowId} {actor : Actor}
    {reason : Option String} {onError : LevelChannel.Program}
    {next : Option RowId -> LevelChannel.Program} (failed : Closes pledge tail [] onError)
    (went : ∀ restored, Closes pledge tail pending (next restored)) : Closes pledge tail pending
      (.restorePackageConsumption now slotId actor reason onError next) := by
  refine ⟨failed, fun committed own => closes_congr ?_ (went _)⟩
  dsimp only
  split <;> simp [slotChange]

theorem updateSlot_closes {slotId : RowId} {where_ : Db -> LessonSlot -> Bool}
    {set_ : LessonSlot -> LessonSlot} {onError : LevelChannel.Program}
    {next : Option LessonSlot -> LevelChannel.Program} (failed : Closes pledge tail [] onError)
    (missed : Closes pledge tail pending (next none))
    (hit : ∀ own old, own.slot? slotId = some old -> where_ own old = true -> Closes pledge tail
        (pending ++ [.slot (.replace ((set_ old).snapshotOnBook own.catalog))])
        (next (some ((set_ old).snapshotOnBook own.catalog)))) :
    Closes pledge tail pending (.updateSlot slotId where_ set_ onError next) := by
  apply query_closes failed
  intro committed own
  split
  · exact missed
  · refine ⟨failed, fun committed own => ?_⟩
    dsimp only
    split
    · exact failed
    · cases found : own.slotUpdate slotId (where_ own) set_ with
      | none =>
        simp only [slotUpdateWrites, Option.toList_none, List.map_nil, List.append_nil,
          Option.map_none]
        exact missed
      | some versions =>
        rw [Db.slotUpdate, Option.map_eq_some_iff] at found
        rcases found with ⟨old, read, rfl⟩
        rw [Option.filter_eq_some_iff] at read
        exact hit own old read.1 read.2

theorem snapshotOnBook_teacherAccountId (catalog : Catalog) (row : LessonSlot) :
    (row.snapshotOnBook catalog).teacherAccountId = row.teacherAccountId := by
  rw [LessonSlot.snapshotOnBook]
  split <;> rfl

theorem commit_closes {row : LessonSlot} {onError : LevelChannel.Program} {reply : Reply}
    (failed : Closes pledge tail [] onError) (owes : due [] (tail reply) = some pledge)
    (leaves : pledge.Leaves row) :
    Closes pledge tail [.slot (.replace row)] (.commit onError (.done reply)) := by
  refine ⟨failed, reply, rfl, owes, ⟨row, List.mem_singleton.mpr rfl⟩, ?_⟩
  intro change listed
  exact ⟨row, List.mem_singleton.mp listed, leaves⟩

theorem bookTail_thrown {teacherAccountId : RowId} :
    Closes pledge (.bookTail teacherAccountId) pending LevelChannel.Program.thrown :=
  closes_done rfl

theorem bookTail_notOk {teacherAccountId : RowId} (reason : String) :
    Closes pledge (.bookTail teacherAccountId) pending (.notOk reason) :=
  closes_done rfl

theorem cancelTail_thrown {slotId : RowId} :
    Closes pledge (.cancelTail slotId) pending LevelChannel.Program.thrown :=
  closes_done rfl

theorem bookTail_rollback {teacherAccountId : RowId} (reason : String) :
    Closes pledge (.bookTail teacherAccountId) pending (.rollbackNotOk reason) :=
  closes_rollbackNotOk rfl

theorem classifyBookSlotFailure_closes {teacherAccountId : RowId}
    (input : LevelChannel.Program.BookSlot) :
    Closes pledge (.bookTail teacherAccountId) pending (.classifyBookSlotFailure input) := by
  apply query_closes bookTail_thrown
  intro committed own
  split
  · exact bookTail_notOk _
  · split
    · exact bookTail_notOk _
    · split
      · exact bookTail_notOk _
      · apply query_closes bookTail_thrown
        intro committed own
        dsimp only
        split
        · exact bookTail_notOk _
        · apply query_closes bookTail_thrown
          intro committed own
          split
          · exact bookTail_notOk _
          · exact bookTail_notOk _

theorem reserved_leaves {now : Nat} {billingActive : Bool}
    {slotId learnerAccountId teacherAccountId : RowId} {own : Db} {old : LessonSlot}
    (read : own.slot? slotId = some old) (bookable : LevelChannel.Program.bookable now
      ⟨billingActive, slotId, learnerAccountId, .learner, some teacherAccountId⟩ own old = true) :
    Due.Leaves (.push slotId teacherAccountId)
      (LessonSlot.snapshotOnBook own.catalog { old with
        status := .booked
        learnerAccountId := some learnerAccountId
        updatedAt := now }) := by
  simp only [LevelChannel.Program.bookable, Option.all_some, Bool.and_eq_true,
    decide_eq_true_eq] at bookable
  have same : old.id = slotId := key_of_get read
  rw [Due.Leaves, LessonSlot.snapshotOnBook_id, snapshotOnBook_teacherAccountId,
    LessonSlot.snapshotOnBook_status]
  exact ⟨same, bookable.1.2, rfl⟩

theorem bookTail_owes {teacherAccountId slotId : RowId} {row : LessonSlot} {code : String}
    {rest : List RowId} (same : row.id = slotId) :
    due [] (.bookTail teacherAccountId (.returned code (row.id :: rest))) =
      some (.push slotId teacherAccountId) :=
  congrArg (fun id => some (Due.push id teacherAccountId)) same

theorem billReservedSlot_closes {now : Nat} {input : LevelChannel.Program.BookSlot}
    {row : LessonSlot} {teacherAccountId : RowId}
    (leaves : Due.Leaves (.push input.slotId teacherAccountId) row) :
    Closes (.push input.slotId teacherAccountId) (.bookTail teacherAccountId)
      [.slot (.replace row)] (.billReservedSlot now input row) := by
  apply query_closes bookTail_thrown
  intro committed own
  split
  · exact bookTail_rollback _
  · apply query_closes bookTail_thrown
    intro committed own
    split
    · exact bookTail_rollback _
    · apply consumePackageUnit_closes bookTail_thrown
      intro consumed
      cases consumed with
      | some purchaseId => exact commit_closes bookTail_thrown (bookTail_owes leaves.1) leaves
      | none =>
        apply query_closes bookTail_thrown
        intro committed own
        split
        · exact bookTail_rollback _
        · split
          · exact bookTail_rollback _
          · exact commit_closes bookTail_thrown (bookTail_owes leaves.1) leaves

theorem bookSlot_closes (billingActive : Bool) (slotId learnerAccountId teacherAccountId : RowId) :
    Closes (.push slotId teacherAccountId) (.bookTail teacherAccountId) []
      (.bookSlot ⟨billingActive, slotId, learnerAccountId, .learner, some teacherAccountId⟩) := by
  apply query_closes bookTail_thrown
  intro committed own
  split
  · apply updateSlot_closes bookTail_thrown (classifyBookSlotFailure_closes _)
    intro own old read bookable
    have leaves := reserved_leaves read bookable
    exact commit_closes bookTail_thrown (bookTail_owes leaves.1) leaves
  · refine ⟨bookTail_thrown, fun committed own => ?_⟩
    apply updateSlot_closes bookTail_thrown (classifyBookSlotFailure_closes _)
    intro own old read bookable
    exact billReservedSlot_closes (reserved_leaves read bookable)

theorem cancelLearnerSlot_closes (slotId learnerAccountId : RowId) (reason : Option String)
    (envFallbackMinutes : Nat) : Closes (.intent slotId) (.cancelTail slotId) []
      (.cancelLearnerSlot slotId learnerAccountId reason envFallbackMinutes) := by
  rw [LevelChannel.Program.cancelLearnerSlot]
  split
  · exact closes_done rfl
  · apply query_closes cancelTail_thrown
    intro committed own
    apply updateSlot_closes cancelTail_thrown
    · apply query_closes cancelTail_thrown
      intro committed own
      split
      · exact closes_done rfl
      · split
        · exact closes_done rfl
        · split
          · exact closes_done rfl
          · split
            · exact closes_done rfl
            · exact closes_done rfl
    · intro own old read cancellable
      have same : old.id = slotId := key_of_get read
      apply restorePackageConsumption_closes cancelTail_thrown
      intro restored
      apply commit_closes cancelTail_thrown rfl
      rw [Due.Leaves, LessonSlot.snapshotOnBook_id, LessonSlot.snapshotOnBook_status]
      exact ⟨same, rfl⟩

end Transactions

end Coverage
end Calendar
end LevelChannel
