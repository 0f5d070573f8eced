import LevelChannel.Lessons.Booking
import LevelChannel.Lessons.Settle
import LevelChannel.ReadCommitted.Statements
import LevelChannel.Schema.Rules

namespace LevelChannel.Duplicates

open ReadCommitted Tables

/-!
# Settling the same payment twice

The settle route refuses a request when the same teacher has recorded the same amount for
the same learner within the last minute.  The check looks at what is committed, outside
the transaction that records the settlement, and the lock of that transaction is only
taken later.  The refusal is reliable when every check finds no other request between its
own check and its commit.
-/

/-- What two settle requests have in common when one repeats the other. -/
structure Fingerprint where
  teacherId : RowId
  learnerAccountId : RowId
  amountKopecks : Nat
  deriving DecidableEq, Repr

namespace Fingerprint

variable (print : Fingerprint)

def ofSettlement (row : LessonSettlement) : Fingerprint :=
  ⟨row.teacherId, row.learnerAccountId, row.amountKopecks⟩

def ofPass (pass : SettlePass) : Fingerprint :=
  ⟨pass.teacherId, pass.learnerAccountId, pass.amountKopecks⟩

def recorded (db : Db) : Nat :=
  db.settlements.countP fun row => ofSettlement row = print

/-- The requests that have passed the check and have not answered yet. -/
def settling (db : Db) : Nat :=
  db.settling.countP fun pass => ofPass pass = print

def SettledSince (since : Nat) (db : Db) : Prop :=
  ∃ row, row ∈ db.settlements ∧ ofSettlement row = print ∧ since ≤ row.createdAt

/-- A duplicate check finds nobody else settling the payment, and what has been recorded
for it since then is less than a minute old. -/
def Alone (since : Nat) : Label -> Db -> Prop
  | .settleDedup teacherId learnerAccountId amountKopecks, db =>
    ⟨teacherId, learnerAccountId, amountKopecks⟩ = print ->
      print.settling db = 0 ∧
        ∀ row, row ∈ db.settlements -> ofSettlement row = print -> since ≤ row.createdAt ->
          db.clock < row.createdAt + 60000
  | _, _ => True

instance (since : Nat) (label : Label) (db : Db) : Decidable (print.Alone since label db) :=
  match label with
  | .settleDedup _ _ _ => inferInstanceAs (Decidable (_ -> _ ∧ _))
  | .plain => .isTrue trivial
  | .attemptLookup _ _ => .isTrue trivial
  | .refundBound _ _ => .isTrue trivial

end Fingerprint

variable {print : Fingerprint} {since base : Nat}

/-- One settlement more than at the start is either still to come from the one request
that has passed, or has been recorded. -/
structure AtMostOne (print : Fingerprint) (since base : Nat) (db : Db) : Prop where
  begun : since ≤ db.clock
  bounded : (print.recorded db = base ∧ print.settling db ≤ 1) ∨
    (print.recorded db = base + 1 ∧ print.settling db = 0 ∧ print.SettledSince since db)

def contract (print : Fingerprint) (since base : Nat) : Contract Db Lock where
  Good := AtMostOne print since base
  Guarantee session _ before after :=
    ∀ pass, pass ∈ before.settling -> pass.session ≠ session -> pass ∈ after.settling

theorem AtMostOne.fewer {before after : Db} (good : AtMostOne print since base before)
    (later : before.clock ≤ after.clock) (recorded : after.settlements = before.settlements)
    (fewer : print.settling after ≤ print.settling before) : AtMostOne print since base after := by
  have same : print.recorded after = print.recorded before := by
    simp only [Fingerprint.recorded, recorded]
  refine ⟨Nat.le_trans good.begun later, ?_⟩
  rcases good.bounded with ⟨count, passing⟩ | ⟨count, nobody, settled⟩
  · exact Or.inl ⟨same.trans count, Nat.le_trans fewer passing⟩
  · refine Or.inr ⟨same.trans count, by omega, ?_⟩
    rw [Fingerprint.SettledSince, recorded]
    exact settled

theorem AtMostOne.pass {before : Db} (good : AtMostOne print since base before) (pass : SettlePass)
    (alone : print.Alone since
      (.settleDedup pass.teacherId pass.learnerAccountId pass.amountKopecks) before)
    (unseen : before.recentSettlement pass.teacherId pass.learnerAccountId pass.amountKopecks =
      false) :
    AtMostOne print since base { before with settling := before.settling ++ [pass] } := by
  refine ⟨good.begun, ?_⟩
  by_cases mine : Fingerprint.ofPass pass = print
  · rcases alone mine with ⟨nobody, young⟩
    rcases good.bounded with ⟨count, -⟩ | ⟨-, -, row, recorded, matches_, created⟩
    · refine Or.inl ⟨count, ?_⟩
      simp only [Fingerprint.settling] at nobody
      simp [Fingerprint.settling, List.countP_append, nobody, mine]
    · have recent : before.recentSettlement pass.teacherId pass.learnerAccountId
          pass.amountKopecks = true := by
        have same := matches_.trans mine.symm
        simp only [Fingerprint.ofSettlement, Fingerprint.ofPass, Fingerprint.mk.injEq] at same
        simp only [Db.recentSettlement, List.any_eq_true]
        refine ⟨row, recorded, ?_⟩
        simp only [same, decide_true, Bool.true_and, decide_eq_true_eq]
        exact young row recorded matches_ created
      rw [unseen] at recent
      cases recent
  · have unchanged : print.settling { before with settling := before.settling ++ [pass] } =
        print.settling before := by
      simp [Fingerprint.settling, List.countP_append, mine]
    rw [unchanged]
    exact good.bounded

theorem AtMostOne.record {before after : Db} (good : AtMostOne print since base before)
    {pass : SettlePass} (mine : pass ∈ before.settling) {row : LessonSettlement}
    (same : Fingerprint.ofSettlement row = Fingerprint.ofPass pass)
    (created : since ≤ row.createdAt) (clock : after.clock = before.clock)
    (recorded : after.settlements = before.settlements ++ [row])
    (settling : after.settling = (Change.delete pass).apply SettlePass.session before.settling) :
    AtMostOne print since base after := by
  have fewer : after.settling.Sublist before.settling := by
    rw [settling]
    exact List.filter_sublist
  refine ⟨clock ▸ good.begun, ?_⟩
  by_cases matches_ : Fingerprint.ofPass pass = print
  · have one : 0 < print.settling before :=
      List.countP_pos_iff.mpr ⟨pass, mine, decide_eq_true matches_⟩
    rcases good.bounded with ⟨count, passing⟩ | ⟨-, nobody, -⟩
    · refine Or.inr ⟨?_, ?_, row, ?_, same.trans matches_, created⟩
      · simp only [Fingerprint.recorded] at count
        simp [Fingerprint.recorded, recorded, List.countP_append, count, same.trans matches_]
      · -- the only note of this payment is the one that ends
        have split := List.countP_eq_countP_filter_add before.settling
          (fun pass => decide (Fingerprint.ofPass pass = print))
          fun old => decide (old.session ≠ pass.session)
        have ended : 0 < (before.settling.filter fun old =>
            !decide (old.session ≠ pass.session)).countP
              fun pass => decide (Fingerprint.ofPass pass = print) :=
          List.countP_pos_iff.mpr ⟨pass, by simp [mine], decide_eq_true matches_⟩
        simp only [Fingerprint.settling, settling, Change.apply] at passing split ⊢
        omega
      · rw [recorded]
        exact List.mem_append_right _ List.mem_cons_self
    · omega
  · have other : ¬ Fingerprint.ofSettlement row = print := by
      rw [same]
      exact matches_
    have count : print.recorded after = print.recorded before := by
      simp [Fingerprint.recorded, recorded, List.countP_append, other]
    have passing : print.settling after ≤ print.settling before := fewer.countP_le
    rcases good.bounded with ⟨bound, most⟩ | ⟨bound, nobody, old, member, mine, made⟩
    · exact Or.inl ⟨count.trans bound, Nat.le_trans passing most⟩
    · refine Or.inr ⟨count.trans bound, by omega, old, ?_, mine, made⟩
      rw [recorded]
      exact List.mem_append_left _ member

private theorem covers_applyAll {covers : List Write}
    (only : ∀ write, write ∈ covers -> write.table = .settlementCompletions) (db : Db) :
    (store.applyAll db covers).clock = db.clock ∧
      (store.applyAll db covers).settlements = db.settlements ∧
      (store.applyAll db covers).settling = db.settling := by
  induction covers generalizing db with
  | nil => exact ⟨rfl, rfl, rfl⟩
  | cons write rest extend =>
    have rest := extend (fun other member => only other (List.mem_cons_of_mem _ member))
      (store.apply db write)
    cases write with
    | settlementCompletion row => exact rest
    | _ => cases only _ List.mem_cons_self

theorem steady : Contract.Steady (contract print since base) store where
  drift change db good := by
    have untouched := drift_untouched change db
    refine AtMostOne.fewer good untouched.clock untouched.settlements (Nat.le_of_eq ?_)
    rw [store_drift, Fingerprint.settling, untouched.settling, Fingerprint.settling]
  close session held db good :=
    ⟨AtMostOne.fewer good (Nat.le_refl _) rfl List.filter_sublist.countP_le,
      fun pass mine other => List.mem_filter.mpr ⟨mine, decide_eq_true other⟩⟩

variable {session : Nat} {held : List Lock} {pending : List Write} {db : Db} {pass : SettlePass}

theorem noted_stable (own : pass.session = session) :
    (contract print since base).Stable store session held fun now => pass ∈ now.settling := by
  rintro before after noted ⟨-, -, ⟨change, rfl⟩ | ⟨other, theirs, different, -, kept⟩⟩
  · rw [store_drift, (drift_untouched change before).settling]
    exact noted
  · exact kept pass noted fun same => different (same.symm.trans own)

theorem endSettling_safe (own : pass.session = session) (reply : Reply) :
    (contract print since base).Safe store (print.Alone since) session
      (Program.endSettling pass (.done reply)) held pending db := by
  refine Contract.Safe.call _ (Contract.Stable.const session held True) trivial
    (fun now _ good _ _ => ?_) fun _ _ _ _ _ => trivial
  refine ⟨AtMostOne.fewer good (Nat.le_refl _) rfl List.filter_sublist.countP_le,
    fun other noted different => ?_⟩
  refine List.mem_filter.mpr ⟨noted, decide_eq_true ?_⟩
  rw [own]
  exact different

theorem coverCandidates_safe {settlementId : RowId} {onError : Program}
    {candidates : List (LessonCompletion × Nat)} {budget : Nat}
    {next : List RowId -> Program} (own : pass.session = session)
    (noted : pass ∈ db.settling) (good : (contract print since base).Good db)
    (failed : ∀ now, (contract print since base).Safe store (print.Alone since) session
      onError [] [] now) (went : ∀ locks covers coveredIds now,
      (∀ write, write ∈ covers -> write.table = .settlementCompletions) ->
        pass ∈ now.settling -> (contract print since base).Good now ->
          (contract print since base).Safe store (print.Alone since) session (next coveredIds)
            (locks ++ held) (pending ++ covers) now) :
    (contract print since base).Safe store (print.Alone since) session
      (Program.coverCandidates settlementId onError candidates budget next) held pending db := by
  have stop : ∀ coveredIds, (contract print since base).Safe store (print.Alone since) session
      (next coveredIds) held pending db := by
    intro coveredIds
    have here := went [] [] coveredIds db (fun _ member => absurd member List.not_mem_nil)
      noted good
    rwa [List.append_nil] at here
  induction candidates generalizing budget next held pending db with
  | nil => exact stop []
  | cons candidate rest extend =>
    unfold Program.coverCandidates
    extract_lets allocation
    split
    · exact stop []
    · split
      · exact extend noted good went stop
      · refine Program.Safe.checked (fun now => pass ∈ now.settling) (noted_stable own) noted
          (fun now _ _ => failed now) fun now noted good _ => ?_
        have further : ∀ locks covers coveredIds now,
            (∀ write, write ∈ covers -> write.table = .settlementCompletions) ->
              pass ∈ now.settling -> (contract print since base).Good now ->
                (contract print since base).Safe store (print.Alone since) session
                  (next (candidate.1.id :: coveredIds))
                  (locks ++ ([(LockTarget.completion candidate.1.id).forKeyShare] ++ held))
                  (pending ++ [Write.settlementCompletion
                    ⟨settlementId, candidate.1.id, allocation⟩] ++ covers) now := by
          intro locks covers coveredIds now only noted good
          rw [← List.append_assoc, List.append_assoc pending]
          refine went _ _ _ _ (fun write member => ?_) noted good
          rcases List.mem_append.mp member with new | old
          · rw [List.mem_singleton.mp new]
            rfl
          · exact only write old
        apply extend noted good further
        intro coveredIds
        have here := further [] [] coveredIds now (fun _ member => absurd member List.not_mem_nil)
          noted good
        rwa [List.append_nil] at here

theorem settleLessons_safe {request : SettleRequest} (own : pass.session = session)
    (same : Fingerprint.ofPass pass = ⟨request.teacherId, request.learnerId.id, pass.amountKopecks⟩)
    (noted : pass ∈ db.settling) :
    (contract print since base).Safe store (print.Alone since) session
      (Program.settleLessons session request pass) [] [] db := by
  have failed : ∀ now, (contract print since base).Safe store (print.Alone since) session
      (Program.endSettling pass (.done (.refused 500 "internal_error" ""))) [] [] now :=
    fun now => endSettling_safe own _
  have stable : ∀ held, (contract print since base).Stable store session held
      fun now => pass ∈ now.settling := fun _ => noted_stable own
  unfold Program.settleLessons
  extract_lets onError
  refine Program.Safe.begin _ (stable _) noted (fun now _ _ => failed now)
    fun begun noted goodBegun => ?_
  refine Program.Safe.locking _ (stable _) noted (fun now _ _ => failed now)
    fun now noted _ => ?_
  refine Program.Safe.query _ (stable _) noted (fun now _ _ => failed now)
    fun now noted good => ?_
  extract_lets candidates
  split
  · refine Program.Safe.execute _ (stable _) noted (fun now _ _ => failed now)
      fun now noted good => ?_
    refine coverCandidates_safe own noted good failed fun locks covers coveredIds now only noted
      good => ?_
    refine Program.Safe.execute _ (stable _) noted (fun now _ _ => failed now)
      fun now noted good => ?_
    refine Contract.Safe.commit _ (stable _) noted (fun last noted good => ?_)
      (fun _ _ _ => trivial) (fun now _ _ => failed now) fun now _ _ => failed _
    let row : LessonSettlement :=
      { id := .minted session 0
        learnerAccountId := request.learnerId.id
        teacherId := request.teacherId
        amountKopecks := pass.amountKopecks
        markedByAccountId := request.teacherId
        createdAt := begun.clock }
    have paid : Fingerprint.ofSettlement row = Fingerprint.ofPass pass := same.symm
    rcases covers_applyAll only (last.apply (.settlement row)) with
      ⟨clock, settlements, settling⟩
    simp only [List.nil_append, Store.applyAll_append, Store.applyAll_cons, Store.applyAll_nil,
      store_apply]
    have ended := congrArg (fun rows => (Change.delete pass).apply SettlePass.session rows) settling
    refine ⟨AtMostOne.record good noted paid goodBegun.begun clock settlements ended, ?_⟩
    intro other present different
    have kept : other ∈ (Change.delete pass).apply SettlePass.session last.settling := by
      refine List.mem_filter.mpr ⟨present, decide_eq_true ?_⟩
      rw [own]
      exact different
    exact (congrArg (fun rows => other ∈ rows) ended).mpr kept
  · exact Contract.Safe.rollback _ (stable _) noted fun now _ _ => endSettling_safe own _

theorem settle_safe (request : SettleRequest) :
    (contract print since base).Safe store (print.Alone since) session
      (Program.settle session request) [] [] db := by
  have always : ∀ held, (contract print since base).Stable store session held
      fun _ => True := fun held => Contract.Stable.const session held True
  refine Program.Safe.query _ (always _) trivial (fun _ _ _ => trivial) fun now _ good => ?_
  extract_lets inLink hasSlot
  split
  · trivial
  · split
    · trivial
    · next amountKopecks read =>
      extract_lets pass recent
      refine Contract.Safe.call _ (always _) trivial (fun now _ good alone choice => ?_)
        fun now _ good alone choice => ?_
      · split
        · exact ⟨good, fun _ noted _ => noted⟩
        · next unseen =>
          exact ⟨good.pass pass alone (by simpa using unseen),
            fun other noted _ => List.mem_append_left _ noted⟩
      · split
        · trivial
        · exact settleLessons_safe rfl rfl (List.mem_append_right _ List.mem_cons_self)

def opening (db : Db) (requests : Nat -> SettleRequest) : State :=
  State.start db fun session => Program.settle session (requests session)

/-- However often a payment is sent, it is recorded once, if every duplicate check finds
the payment to itself. -/
theorem settled_at_most_once (db : Db) (requests : Nat -> SettleRequest) (print : Fingerprint)
    (idle : db.settling = []) (state : State)
    (reached : Reaches store (print.Alone db.clock) (opening db requests) state) :
    print.recorded state.db ≤ print.recorded db + 1 := by
  have first : AtMostOne print db.clock (print.recorded db) db :=
    ⟨Nat.le_refl _, Or.inl ⟨rfl, by simp [Fingerprint.settling, idle]⟩⟩
  have sound := Contract.Sound.start first fun session =>
    settle_safe (requests session)
  have last := (sound.reaches steady reached).1.good
  rcases last.bounded with ⟨count, -⟩ | ⟨count, -⟩ <;> omega

/-- A learner with a booked lesson of a teacher, and no completions. -/
def rosterDb : Db :=
  { Db.empty with slots :=
      [Program.bookedSlot (.seeded 10) (.seeded 1) (.seeded 2) 86400000 60 none 0] }

def sameRequest : SettleRequest where
  teacherId := .seeded 1
  learnerId := .canonical (.seeded 2)
  amountKopecks := some (.integer 150000)
  completionIds := []

def samePrint : Fingerprint :=
  ⟨.seeded 1, .seeded 2, 150000⟩

/-- Both requests pass the check before either has recorded anything. -/
theorem settled_twice : ¬ ∀ (db : Db) (request : SettleRequest) (state : State), db.settling = [] ->
      Reaches store (fun _ _ => True) (opening db fun _ => request) state ->
        state.db.clock < db.clock + 60000 ->
          ∀ print : Fingerprint, print.recorded state.db ≤ print.recorded db + 1 := by
  intro once
  let steps (session count : Nat) : List Event := Event.steps session count (.unsent "")
  rcases exists_state_of_play store (opening rosterDb fun _ => sameRequest)
    (steps 0 2 ++ steps 1 2 ++ steps 0 6 ++ steps 1 6)
    (fun state => state.db.clock = 0 && samePrint.recorded state.db = 2)
    (by decide +kernel) with ⟨state, reached, result⟩
  simp only [Bool.and_eq_true, decide_eq_true_eq] at result
  have most := once rosterDb sameRequest state rfl reached
    (by rw [result.1]; decide) samePrint
  rw [result.2] at most
  exact absurd most (by decide)

/-- The second request comes after the first has committed, and is refused. -/
theorem settled_at_most_once_again :
    ∃ state, Reaches store (samePrint.Alone 0) (opening rosterDb fun _ => sameRequest) state ∧
      samePrint.recorded state.db = 1 ∧
        samePrint.recorded state.db ≤ samePrint.recorded rosterDb + 1 := by
  let steps (session count : Nat) : List Event := Event.steps session count (.unsent "")
  rcases exists_of_playAllowed store (samePrint.Alone 0) (opening rosterDb fun _ => sameRequest)
    (steps 0 8 ++ steps 1 2) (fun db => samePrint.recorded db = 1) (by decide +kernel) with
    ⟨state, reached, result⟩
  exact ⟨state, reached, of_decide_eq_true result,
    settled_at_most_once rosterDb (fun _ => sameRequest) samePrint rfl state reached⟩

end LevelChannel.Duplicates
