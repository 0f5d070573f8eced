import LevelChannel.Schema.Text
import LevelChannel.Lessons.Lifecycle

namespace LevelChannel

open Tables

/-!
# Settling lessons

A teacher acknowledges a payment of a learner; the oldest outstanding completions are
covered from it.  The route refuses a settlement that looks like a repetition of a
recent one.  It looks before the settlement's transaction begins, so the passed check
is noted in `settling` until the request has committed its settlement or ended.
-/

/-- A settle request after the guards of the route: the session's teacher, the
learner of the path, and the parsed body. -/
structure SettleRequest where
  teacherId : RowId
  learnerId : UuidText
  amountKopecks : Option JsonNumber
  completionIds : List UuidText
  deriving DecidableEq

namespace Db

/-- `coalesce(sum(lsc.amount_kopecks), 0)` -/
def coveredKopecks (db : Db) (completionId : RowId) : Nat :=
  total (fun row => row.completionId = completionId) SettlementCompletion.amountKopecks
    db.settlementCompletions

def recentSettlement (db : Db) (teacherId learnerAccountId : RowId) (amountKopecks : Nat) : Bool :=
  db.settlements.any fun row => row.teacherId = teacherId &&
    row.learnerAccountId = learnerAccountId && row.amountKopecks = amountKopecks &&
    db.clock < row.createdAt + 60000

/-- Outstanding completions of a learner with a teacher, the oldest lesson first, each
with what is already covered.  An empty list of ids asks for all of them. -/
def settleCandidates (db : Db) (teacherId learnerAccountId : RowId)
    (completionIds : List RowId) : List (LessonCompletion × Nat) :=
  (((db.completions.filter fun row => row.teacherId = teacherId &&
      (db.slot? row.slotId).any (fun slot => slot.learnerAccountId = some learnerAccountId) &&
      (completionIds.isEmpty || completionIds.contains row.id)).map fun row =>
        (row, db.coveredKopecks row.id)).filter fun candidate =>
          candidate.2 < candidate.1.amountKopecks).mergeSort fun first second =>
            first.1.completedAt ≤ second.1.completedAt

end Db

namespace Program

/-- The loop of `settleLessonsInTx`: cover candidates in order while the budget lasts.
Each insert refers to its completion, which must still be there. -/
def coverCandidates (settlementId : RowId) (onError : Program) :
    List (LessonCompletion × Nat) -> Nat -> (List RowId -> Program) -> Program
  | [], _, next => next []
  | (completion, covered) :: rest, budget, next =>
    let allocation := min (completion.amountKopecks - covered) budget
    if budget = 0 then next []
    else if allocation = 0 then coverCandidates settlementId onError rest budget next
    else
      checked [(LockTarget.completion completion.id).forKeyShare] onError
        (fun own => (own.completion? completion.id).isNone)
        (fun _ => [.settlementCompletion ⟨settlementId, completion.id, allocation⟩])
        fun _ =>
          coverCandidates settlementId onError rest (budget - allocation) fun coveredIds =>
            next (completion.id :: coveredIds)

def settleLessonsInTx (session now : Nat) (request : SettleRequest) (amountKopecks : Nat)
    (onError : Program) (notEligible : Program) (next : RowId -> List RowId -> Program) : Program :=
  locking
    [(AdvisoryKey.lessonSettle (.canonical request.teacherId) request.learnerId).lock] onError
    fun _ =>
      query onError fun _ own =>
        let candidates := own.settleCandidates request.teacherId request.learnerId.id
          (request.completionIds.map UuidText.id)
        -- the ids of the body are compared as text with those the database prints
        if request.completionIds.all fun id =>
            candidates.any fun candidate => .canonical candidate.1.id = id then
          execute [] onError
            (fun _ => [.settlement
              { id := .minted session 0
                learnerAccountId := request.learnerId.id
                teacherId := request.teacherId
                amountKopecks := amountKopecks
                markedByAccountId := request.teacherId
                createdAt := now }])
            fun _ =>
              coverCandidates (.minted session 0) onError candidates amountKopecks
                (next (.minted session 0))
        else .rollback notEligible

def endSettling (pass : SettlePass) (answer : Program) : Program :=
  .call .plain (fun _ _ => [.settling (.delete pass)]) fun _ _ => answer

/-- `settleLessons`, in a transaction of its own.  The note of the passed check goes
with the commit that records the settlement. -/
def settleLessons (session : Nat) (request : SettleRequest) (pass : SettlePass) : Program :=
  let onError := endSettling pass (.done (.refused 500 "internal_error" ""))
  begin onError fun now =>
    settleLessonsInTx session now request pass.amountKopecks onError
      (endSettling pass (.done (.refused 409 "completion_not_eligible"
        "settle_lessons/completion_not_eligible")))
      fun settlementId coveredIds =>
        execute [] onError (fun _ => [.settling (.delete pass)]) fun _ =>
          .commit onError (.done (.json 200 (settlementId :: coveredIds)))

/-- `POST /api/teacher/learners/[id]/settle`.  The duplicate check reads and answers
in one statement, on a connection of its own. -/
def settle (session : Nat) (request : SettleRequest) : Program :=
  query (.done (.thrown driverError)) fun committed _ =>
    let inLink := committed.catalog.linked request.teacherId request.learnerId.id
    let hasSlot := committed.slots.any fun slot => slot.teacherAccountId = request.teacherId &&
      slot.learnerAccountId = some request.learnerId.id
    if !inLink && !hasSlot then
      .done (.refused 404 "not_in_roster" "Ученик не в вашем списке.")
    else
      match positiveInteger request.amountKopecks with
      | none => .done (.refused 400 "amountKopecks/invalid" "")
      | some amountKopecks =>
        let pass : SettlePass :=
          { session := session
            teacherId := request.teacherId
            learnerAccountId := request.learnerId.id
            amountKopecks := amountKopecks }
        let recent (committed : Db) : Bool :=
          committed.recentSettlement request.teacherId request.learnerId.id amountKopecks
        .call (.settleDedup request.teacherId request.learnerId.id amountKopecks)
          (fun committed _ => if recent committed then [] else [.settling (.insert pass)])
          fun committed _ =>
            if recent committed then
              .done (.refused 409 "idempotent_replay"
                "Аналогичный платёж был сейчас зарегистрирован. Подождите минуту перед повтором.")
            else settleLessons session request pass

end Program

end LevelChannel
