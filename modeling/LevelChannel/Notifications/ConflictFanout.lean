import Mathlib.Data.List.Nodup
import Mathlib.Data.List.Perm.Subperm
import Mathlib.Data.List.Sort
import LevelChannel.Events.Histories

namespace LevelChannel

open Events

namespace ConflictFanout

/-!
# Mails about conflicts with a calendar

A job mails teachers whose booked lessons have been in conflict with their calendar for a
while.  A record of each teacher says when and for which conflicts the last mail went out
and when one was last attempted.  The first two keep a teacher from being mailed again for
the same conflicts within a window; by the third the job picks, up to a cap, the teachers it
has not tried for longest, so that none waits for ever behind those whose mails fail.
-/

/-- A row of the qualifying set, with the columns that the fingerprint reads. -/
structure Offender where
  slotId : String
  teacherAccountId : String
  conflictSourceCalendarId : Option String
  conflictSourceEventId : Option String
  deriving DecidableEq, Repr

structure Group where
  teacherAccountId : String
  slots : List Offender

def addToGroup (offender : Offender) : List Group -> List Group
  | [] => [⟨offender.teacherAccountId, [offender]⟩]
  | group :: rest =>
    if group.teacherAccountId = offender.teacherAccountId then
      { group with slots := group.slots ++ [offender] } :: rest
    else group :: addToGroup offender rest

def groupOffendersByTeacher (offenders : List Offender) : List Group :=
  offenders.foldl (fun groups offender => addToGroup offender groups) []

def fingerprintItem (offender : Offender) : String :=
  offender.slotId ++ "|" ++ offender.conflictSourceCalendarId.getD "" ++ "|" ++
    offender.conflictSourceEventId.getD ""

section

variable {Fingerprint : Type} (hash : List String -> Fingerprint)

def perTeacherFingerprint (slots : List Offender) : Fingerprint :=
  hash ((slots.map fingerprintItem).insertionSort (· ≤ ·))

end

/-! ## A tick -/

/-- An entry of `perTeacher` in the state file. -/
structure TeacherState (Fingerprint : Type) where
  lastAlertAt : Option Nat
  lastFingerprint : Option Fingerprint
  lastAttemptAt : Option Nat
  deriving DecidableEq

/-- `TEACHER_FANOUT_CAP`, `TEACHER_DEDUP_WINDOW_MS` and the hash. -/
structure Fanout (Fingerprint : Type) where
  cap : Nat
  dedupWindowMs : Nat
  hash : List String -> Fingerprint
  cap_pos : 1 ≤ cap

/-- What a tick finds: the instant, the qualifying set, in which a slot has one row, and
whether a mail to a teacher is accepted. -/
structure Tick where
  now : Nat
  offenders : List Offender
  distinct : (offenders.map Offender.slotId).Nodup
  accepts : String -> Bool

structure Candidate (Fingerprint : Type) where
  teacherId : String
  fp : Fingerprint
  lastAttemptAt : Nat

/-- The entries of the state file, and the instant of the last tick. -/
structure FanoutState (Fingerprint : Type) where
  clock : Nat
  perTeacher : String -> Option (TeacherState Fingerprint)

def FanoutState.initial (Fingerprint : Type) : FanoutState Fingerprint where
  clock := 0
  perTeacher := fun _ => none

namespace Tick

variable (tick : Tick)

def qualifies (teacherId : String) : Bool :=
  tick.offenders.any fun offender => offender.teacherAccountId = teacherId

def conflictSet (teacherId : String) : List Offender :=
  tick.offenders.filter fun offender => offender.teacherAccountId = teacherId

end Tick

section

variable {Fingerprint : Type} [DecidableEq Fingerprint] (fanout : Fanout Fingerprint)

/-- A mail for the same conflicts went out within the window.  An instant of zero counts as
none. -/
def dedupActive (prev : Option (TeacherState Fingerprint)) (fp : Fingerprint) (now : Nat) : Bool :=
  prev.any fun entry =>
    entry.lastFingerprint = some fp &&
      entry.lastAlertAt.any fun lastAlertAt =>
        lastAlertAt ≠ 0 && now < lastAlertAt + fanout.dedupWindowMs

/-- The entries of teachers without a qualifying conflict are deleted. -/
def collectGarbage (tick : Tick) (perTeacher : String -> Option (TeacherState Fingerprint)) :
    String -> Option (TeacherState Fingerprint) :=
  fun teacherId => if tick.qualifies teacherId then perTeacher teacherId else none

def candidateOf (tick : Tick) (perTeacher : String -> Option (TeacherState Fingerprint))
    (group : Group) : Option (Candidate Fingerprint) :=
  let fp := perTeacherFingerprint fanout.hash group.slots
  let prev := perTeacher group.teacherAccountId
  if dedupActive fanout prev fp tick.now then none
  else
    some
      { teacherId := group.teacherAccountId
        fp := fp
        lastAttemptAt := (prev.bind TeacherState.lastAttemptAt).getD 0 }

def candidates (tick : Tick) (perTeacher : String -> Option (TeacherState Fingerprint)) :
    List (Candidate Fingerprint) :=
  ((groupOffendersByTeacher tick.offenders).filterMap
    (candidateOf fanout tick perTeacher)).insertionSort
    fun first second => first.lastAttemptAt ≤ second.lastAttemptAt

def attempted (now : Nat) (accepted : Bool) (fp : Fingerprint)
    (prev : Option (TeacherState Fingerprint)) : TeacherState Fingerprint :=
  if accepted then
    { lastAlertAt := some now
      lastFingerprint := some fp
      lastAttemptAt := some now }
  else
    { lastAlertAt := prev.bind TeacherState.lastAlertAt
      lastFingerprint := prev.bind TeacherState.lastFingerprint
      lastAttemptAt := some now }

def attempt (tick : Tick) (perTeacher : String -> Option (TeacherState Fingerprint))
    (candidate : Candidate Fingerprint) : String -> Option (TeacherState Fingerprint) :=
  fun teacherId =>
    if teacherId = candidate.teacherId then
      some (attempted tick.now (tick.accepts teacherId) candidate.fp (perTeacher teacherId))
    else perTeacher teacherId

def selected (tick : Tick) (perTeacher : String -> Option (TeacherState Fingerprint)) :
    List (Candidate Fingerprint) :=
  (candidates fanout tick perTeacher).take fanout.cap

def runTeacherFanout (tick : Tick) (perTeacher : String -> Option (TeacherState Fingerprint)) :
    String -> Option (TeacherState Fingerprint) :=
  (selected fanout tick perTeacher).foldl (attempt tick) perTeacher

/-- `main`, as far as the teachers are concerned. -/
def main (state : FanoutState Fingerprint) (tick : Tick) : FanoutState Fingerprint where
  clock := tick.now
  perTeacher := runTeacherFanout fanout tick (collectGarbage tick state.perTeacher)

namespace FanoutState

variable (state : FanoutState Fingerprint) (tick : Tick) (teacherId : String)

/-- The instants of the ticks increase. -/
def Later (state : FanoutState Fingerprint) (tick : Tick) : Prop :=
  state.clock < tick.now

instance (state : FanoutState Fingerprint) (tick : Tick) : Decidable (state.Later tick) :=
  inferInstanceAs (Decidable (state.clock < tick.now))

def suppressed : Bool :=
  dedupActive fanout (collectGarbage tick state.perTeacher teacherId)
    (perTeacherFingerprint fanout.hash (tick.conflictSet teacherId)) tick.now

def attempts : Bool :=
  (selected fanout tick (collectGarbage tick state.perTeacher)).any fun candidate =>
    candidate.teacherId = teacherId

def mails : Bool :=
  state.attempts fanout tick teacherId && tick.accepts teacherId

end FanoutState

end

/-- Groups of offenders: one for each teacher, with all the offenders of the teacher. -/
structure Grouped (offenders : List Offender) (groups : List Group) : Prop where
  distinct : (groups.map Group.teacherAccountId).Nodup
  complete : ∀ teacherId, teacherId ∈ groups.map Group.teacherAccountId <->
    teacherId ∈ offenders.map Offender.teacherAccountId
  slots : ∀ group, group ∈ groups -> group.slots = offenders.filter fun offender =>
    offender.teacherAccountId = group.teacherAccountId

theorem map_addToGroup (offender : Offender) (groups : List Group) :
    (addToGroup offender groups).map Group.teacherAccountId =
      if offender.teacherAccountId ∈ groups.map Group.teacherAccountId then
        groups.map Group.teacherAccountId
      else groups.map Group.teacherAccountId ++ [offender.teacherAccountId] := by
  induction groups with
  | nil => rfl
  | cons group rest inductionHypothesis =>
    unfold addToGroup
    by_cases same : group.teacherAccountId = offender.teacherAccountId
    · simp [same]
    · have different : offender.teacherAccountId ≠ group.teacherAccountId := Ne.symm same
      rw [if_neg same, List.map_cons, inductionHypothesis, List.map_cons]
      by_cases listed : offender.teacherAccountId ∈ rest.map Group.teacherAccountId
      · rw [if_pos listed, if_pos (List.mem_cons_of_mem _ listed)]
      · rw [if_neg listed, if_neg (List.not_mem_cons_of_ne_of_not_mem different listed)]
        rfl

theorem mem_addToGroup {offender : Offender} {groups : List Group} {group : Group}
    (distinct : (groups.map Group.teacherAccountId).Nodup)
    (member : group ∈ addToGroup offender groups) :
    (group ∈ groups ∧ group.teacherAccountId ≠ offender.teacherAccountId) ∨
    (∃ old, old ∈ groups ∧ old.teacherAccountId = offender.teacherAccountId ∧
      group = { old with slots := old.slots ++ [offender] }) ∨
    (offender.teacherAccountId ∉ groups.map Group.teacherAccountId ∧
      group = ⟨offender.teacherAccountId, [offender]⟩) := by
  induction groups with
  | nil => exact .inr (.inr ⟨List.not_mem_nil, List.mem_singleton.mp member⟩)
  | cons head rest inductionHypothesis =>
    have parts := List.nodup_cons.mp distinct
    unfold addToGroup at member
    by_cases same : head.teacherAccountId = offender.teacherAccountId
    · rw [if_pos same] at member
      rcases List.mem_cons.mp member with rfl | later
      · exact .inr (.inl ⟨head, List.mem_cons_self, same, rfl⟩)
      · refine .inl ⟨List.mem_cons_of_mem _ later, fun again => parts.1 ?_⟩
        rw [same, <- again]
        exact List.mem_map_of_mem later
    · rw [if_neg same] at member
      rcases List.mem_cons.mp member with rfl | later
      · exact .inl ⟨List.mem_cons_self, same⟩
      · rcases inductionHypothesis parts.2 later with
          ⟨listed, different⟩ | ⟨old, listed, its, grown⟩ | ⟨fresh, single⟩
        · exact .inl ⟨List.mem_cons_of_mem _ listed, different⟩
        · exact .inr (.inl ⟨old, List.mem_cons_of_mem _ listed, its, grown⟩)
        · refine .inr (.inr ⟨?_, single⟩)
          rw [List.map_cons, List.mem_cons]
          exact not_or.mpr ⟨Ne.symm same, fresh⟩

theorem Grouped.add {offenders : List Offender} {groups : List Group}
    (grouped : Grouped offenders groups) (offender : Offender) :
    Grouped (offenders ++ [offender]) (addToGroup offender groups) where
  distinct := by
    rw [map_addToGroup]
    split_ifs with listed
    · exact grouped.distinct
    · refine List.nodup_append.mpr ⟨grouped.distinct, List.nodup_singleton _, ?_⟩
      rintro teacherId member _ (single | ⟨_, ⟨⟩⟩) same
      exact listed (same ▸ member)
  complete := by
    intro teacherId
    rw [map_addToGroup, List.map_append, List.mem_append, <- grouped.complete teacherId]
    split_ifs with listed
    · refine ⟨Or.inl, fun either => either.elim id fun single => ?_⟩
      rw [List.mem_singleton.mp single]
      exact listed
    · exact List.mem_append
  slots := by
    intro group member
    rw [List.filter_append]
    rcases mem_addToGroup grouped.distinct member with
      ⟨listed, different⟩ | ⟨old, listed, its, rfl⟩ | ⟨fresh, rfl⟩
    · rw [grouped.slots group listed, List.filter_cons_of_neg (by
        simpa using Ne.symm different), List.filter_nil, List.append_nil]
    · rw [List.filter_cons_of_pos (by simpa using its.symm), List.filter_nil,
        grouped.slots old listed]
    · have none_before : (offenders.filter fun other =>
          other.teacherAccountId = offender.teacherAccountId) = [] := by
        refine List.filter_eq_nil_iff.mpr fun other listed same => fresh ?_
        rw [grouped.complete, <- of_decide_eq_true same]
        exact List.mem_map_of_mem listed
      rw [none_before]
      simp

theorem grouped_groupOffendersByTeacher (offenders : List Offender) :
    Grouped offenders (groupOffendersByTeacher offenders) := by
  suffices ∀ rest seen groups, Grouped seen groups ->
      Grouped (seen ++ rest) (rest.foldl (fun groups offender => addToGroup offender groups)
        groups) from
    this offenders [] [] ⟨List.nodup_nil, fun _ => Iff.rfl, fun _ => nofun⟩
  intro rest
  induction rest with
  | nil =>
    intro seen groups grouped
    rw [List.append_nil]
    exact grouped
  | cons offender rest inductionHypothesis =>
    intro seen groups grouped
    rw [List.append_cons]
    exact inductionHypothesis _ _ (grouped.add offender)

/-! ## Candidates -/

section

variable {Fingerprint : Type} [DecidableEq Fingerprint] (fanout : Fanout Fingerprint)
  (tick : Tick) (perTeacher : String -> Option (TeacherState Fingerprint))

def lastAttempt (teacherId : String) : Nat :=
  ((perTeacher teacherId).bind TeacherState.lastAttemptAt).getD 0

def Tick.fingerprint (teacherId : String) : Fingerprint :=
  perTeacherFingerprint fanout.hash (tick.conflictSet teacherId)

/-- What a candidate says of its teacher. -/
structure Stands (candidate : Candidate Fingerprint) : Prop where
  qualifies : tick.qualifies candidate.teacherId = true
  fp : candidate.fp = tick.fingerprint fanout candidate.teacherId
  free : dedupActive fanout (perTeacher candidate.teacherId)
    (tick.fingerprint fanout candidate.teacherId) tick.now = false
  lastAttemptAt : candidate.lastAttemptAt = lastAttempt perTeacher candidate.teacherId

theorem qualifies_iff {teacherId : String} : tick.qualifies teacherId = true <->
      teacherId ∈ tick.offenders.map Offender.teacherAccountId := by
  simp [Tick.qualifies]

variable {tick perTeacher}

theorem candidateOf_eq_some {group : Group} {candidate : Candidate Fingerprint}
    (made : candidateOf fanout tick perTeacher group = some candidate) :
    candidate.teacherId = group.teacherAccountId ∧
    candidate.fp = perTeacherFingerprint fanout.hash group.slots ∧
    dedupActive fanout (perTeacher group.teacherAccountId)
      (perTeacherFingerprint fanout.hash group.slots) tick.now = false ∧
    candidate.lastAttemptAt = lastAttempt perTeacher group.teacherAccountId := by
  simp only [candidateOf] at made
  split_ifs at made with active
  obtain rfl := Option.some.inj made
  exact ⟨rfl, rfl, Bool.eq_false_iff.mpr active, rfl⟩

theorem stands_of_mem {candidate : Candidate Fingerprint}
    (member : candidate ∈ candidates fanout tick perTeacher) :
    Stands fanout tick perTeacher candidate := by
  have grouped := grouped_groupOffendersByTeacher tick.offenders
  rcases List.mem_filterMap.mp ((List.mem_insertionSort _).mp member) with ⟨group, listed, made⟩
  have slots : group.slots = tick.conflictSet group.teacherAccountId :=
    grouped.slots group listed
  rcases candidateOf_eq_some fanout made with ⟨its, fp, free, lastAttemptAt⟩
  rw [slots, <- its] at fp free
  rw [<- its] at lastAttemptAt
  refine ⟨(qualifies_iff tick).mpr ?_, fp, free, lastAttemptAt⟩
  rw [its]
  exact (grouped.complete _).mp (List.mem_map_of_mem listed)

theorem exists_candidate {teacherId : String} (qualifies : tick.qualifies teacherId = true)
    (free : dedupActive fanout (perTeacher teacherId) (tick.fingerprint fanout teacherId)
      tick.now = false) : ∃ candidate, candidate ∈ candidates fanout tick perTeacher ∧
      candidate.teacherId = teacherId := by
  have grouped := grouped_groupOffendersByTeacher tick.offenders
  have listed := (grouped.complete teacherId).mpr ((qualifies_iff tick).mp qualifies)
  rcases List.mem_map.mp listed with ⟨group, member, rfl⟩
  have slots : group.slots = tick.conflictSet group.teacherAccountId :=
    grouped.slots group member
  rw [Tick.fingerprint, <- slots] at free
  have made : ∃ candidate, candidateOf fanout tick perTeacher group = some candidate := by
    simp [candidateOf, free]
  rcases made with ⟨candidate, made⟩
  exact ⟨candidate, (List.mem_insertionSort _).mpr (List.mem_filterMap.mpr ⟨group, member, made⟩),
    (candidateOf_eq_some fanout made).1⟩

theorem distinct_candidates :
    ((candidates fanout tick perTeacher).map Candidate.teacherId).Nodup := by
  have grouped := grouped_groupOffendersByTeacher tick.offenders
  have apart : ((groupOffendersByTeacher tick.offenders).filterMap
      (candidateOf fanout tick perTeacher)).Pairwise
        fun first second => first.teacherId ≠ second.teacherId := by
    refine (List.pairwise_map.mp grouped.distinct).filterMap _ ?_
    intro first second different _ madeFirst _ madeSecond
    rw [(candidateOf_eq_some fanout madeFirst).1, (candidateOf_eq_some fanout madeSecond).1]
    exact different
  refine List.Perm.nodup ?_ (List.pairwise_map.mpr apart)
  exact ((List.perm_insertionSort _ _).map Candidate.teacherId).symm

theorem sorted_candidates :
    (candidates fanout tick perTeacher).Pairwise fun first second =>
      first.lastAttemptAt ≤ second.lastAttemptAt := by
  let order : Candidate Fingerprint -> Candidate Fingerprint -> Prop :=
    fun first second => first.lastAttemptAt ≤ second.lastAttemptAt
  have total : Std.Total order := ⟨fun _ _ => Nat.le_total _ _⟩
  have transitive : IsTrans _ order := ⟨fun _ _ _ => Nat.le_trans⟩
  exact List.pairwise_insertionSort order _

variable (tick) in
omit [DecidableEq Fingerprint] in
theorem foldl_attempt_of_not_mem {teacherId : String} (chosen : List (Candidate Fingerprint))
    (other : teacherId ∉ chosen.map Candidate.teacherId) :
    chosen.foldl (attempt tick) perTeacher teacherId = perTeacher teacherId := by
  induction chosen generalizing perTeacher with
  | nil => rfl
  | cons candidate rest inductionHypothesis =>
    have parts := not_or.mp (fun either => other (List.mem_cons.mpr either))
    rw [List.foldl_cons, inductionHypothesis parts.2, attempt, if_neg parts.1]

variable (tick) in
omit [DecidableEq Fingerprint] in
theorem foldl_attempt_of_mem {candidate : Candidate Fingerprint}
    {chosen : List (Candidate Fingerprint)}
    (distinct : (chosen.map Candidate.teacherId).Nodup) (member : candidate ∈ chosen) :
    chosen.foldl (attempt tick) perTeacher candidate.teacherId =
      some (attempted tick.now (tick.accepts candidate.teacherId) candidate.fp
        (perTeacher candidate.teacherId)) := by
  induction chosen generalizing perTeacher with
  | nil => cases member
  | cons head rest inductionHypothesis =>
    have parts := List.nodup_cons.mp distinct
    rcases List.mem_cons.mp member with rfl | later
    · rw [List.foldl_cons, foldl_attempt_of_not_mem tick rest parts.1, attempt, if_pos rfl]
    · have different : candidate.teacherId ≠ head.teacherId := fun same =>
        parts.1 (same ▸ List.mem_map_of_mem later)
      rw [List.foldl_cons, inductionHypothesis parts.2 later, attempt, if_neg different]

namespace FanoutState

variable {fanout} {state : FanoutState Fingerprint} {teacherId : String}

theorem distinct_selected : ((selected fanout tick perTeacher).map Candidate.teacherId).Nodup :=
  (distinct_candidates fanout).sublist ((List.take_sublist _ _).map _)

theorem of_attempts (tried : state.attempts fanout tick teacherId = true) :
    tick.qualifies teacherId = true ∧ state.suppressed fanout tick teacherId = false ∧
    (main fanout state tick).perTeacher teacherId =
      some (attempted tick.now (tick.accepts teacherId) (tick.fingerprint fanout teacherId)
        (state.perTeacher teacherId)) := by
  rcases List.any_eq_true.mp tried with ⟨candidate, member, its⟩
  obtain rfl := of_decide_eq_true its
  have stands := stands_of_mem fanout (List.mem_of_mem_take member)
  have entry : (main fanout state tick).perTeacher candidate.teacherId = _ :=
    foldl_attempt_of_mem tick distinct_selected member
  rw [stands.fp] at entry
  refine ⟨stands.qualifies, stands.free, entry.trans ?_⟩
  rw [collectGarbage, if_pos stands.qualifies]

theorem of_not_attempts (idle : state.attempts fanout tick teacherId = false) :
    (main fanout state tick).perTeacher teacherId =
      collectGarbage tick state.perTeacher teacherId := by
  refine foldl_attempt_of_not_mem tick _ fun listed => ?_
  rcases List.mem_map.mp listed with ⟨candidate, member, its⟩
  exact List.any_eq_false.mp idle candidate member (decide_eq_true its)

/-- The entry tells of an accepted mail. -/
def Recalls (state : FanoutState Fingerprint) (teacherId : String) (instant : Nat)
    (fp : Fingerprint) : Prop :=
  ∃ entry, state.perTeacher teacherId = some entry ∧
    entry.lastAlertAt = some instant ∧ entry.lastFingerprint = some fp

variable {instant : Nat} {fp : Fingerprint}

theorem recalls_of_mails (mailed : state.mails fanout tick teacherId = true) :
    (main fanout state tick).Recalls teacherId tick.now (tick.fingerprint fanout teacherId) := by
  have parts := (Bool.and_eq_true _ _).mp mailed
  refine ⟨_, (of_attempts parts.1).2.2, ?_⟩
  rw [attempted, if_pos parts.2]
  exact ⟨rfl, rfl⟩

theorem Recalls.kept (recalls : state.Recalls teacherId instant fp)
    (qualifies : tick.qualifies teacherId = true)
    (unmailed : state.mails fanout tick teacherId = false) :
    (main fanout state tick).Recalls teacherId instant fp := by
  rcases recalls with ⟨entry, found, alerted, hashed⟩
  cases tried : state.attempts fanout tick teacherId with
  | true =>
    have refused : tick.accepts teacherId = false := by
      rw [mails, tried] at unmailed
      exact unmailed
    refine ⟨_, (of_attempts tried).2.2, ?_⟩
    rw [attempted, refused, found]
    exact ⟨alerted, hashed⟩
  | false =>
    refine ⟨entry, ?_, alerted, hashed⟩
    rw [of_not_attempts tried, collectGarbage, if_pos qualifies, found]

theorem Recalls.apart (recalls : state.Recalls teacherId instant fp) (past : 0 < instant)
    (same : tick.fingerprint fanout teacherId = fp)
    (mailed : state.mails fanout tick teacherId = true) :
    instant + fanout.dedupWindowMs ≤ tick.now := by
  rcases recalls with ⟨entry, found, alerted, hashed⟩
  rcases of_attempts ((Bool.and_eq_true _ _).mp mailed).1 with ⟨qualifies, free, -⟩
  by_contra early
  have active : state.suppressed fanout tick teacherId = true := by
    rw [suppressed, collectGarbage, if_pos qualifies, found, <- Tick.fingerprint, same]
    simp [dedupActive, alerted, hashed, Nat.ne_of_gt past, Nat.lt_of_not_le early]
  rw [free] at active
  exact Bool.noConfusion active

end FanoutState

theorem Tick.nodup_conflictSet (tick : Tick) (teacherId : String) :
    (tick.conflictSet teacherId).Nodup :=
  tick.distinct.of_map.filter _

omit [DecidableEq Fingerprint] in
theorem fingerprint_eq {first second : Tick} {teacherId : String}
    (same : ∀ offender, offender ∈ first.conflictSet teacherId <->
      offender ∈ second.conflictSet teacherId) :
    second.fingerprint fanout teacherId = first.fingerprint fanout teacherId := by
  have permuted : (first.conflictSet teacherId).Perm (second.conflictSet teacherId) :=
    (List.perm_ext_iff_of_nodup (first.nodup_conflictSet teacherId)
      (second.nodup_conflictSet teacherId)).mpr same
  have total : Std.Total (fun first second : String => first ≤ second) :=
    ⟨String.le_total⟩
  have transitive : IsTrans String (fun first second => first ≤ second) :=
    ⟨fun _ _ _ => String.le_trans⟩
  refine congrArg fanout.hash (List.Perm.eq_of_pairwise (fun _ _ _ _ => String.le_antisymm)
    (List.pairwise_insertionSort _ _) (List.pairwise_insertionSort _ _) ?_)
  exact ((List.perm_insertionSort _ _).trans (permuted.map fingerprintItem).symm).trans
    (List.perm_insertionSort _ _).symm

/-! ## The rotation -/

namespace FanoutState

variable {fanout} {state : FanoutState Fingerprint} {teacherId : String} {teachers : List String}

def Timely (state : FanoutState Fingerprint) : Prop :=
  ∀ teacherId, lastAttempt state.perTeacher teacherId ≤ state.clock

theorem lastAttempt_of_attempts (tried : state.attempts fanout tick teacherId = true) :
    lastAttempt (main fanout state tick).perTeacher teacherId = tick.now := by
  rw [lastAttempt, (of_attempts tried).2.2, attempted]
  split_ifs <;> rfl

theorem lastAttempt_of_not_attempts (idle : state.attempts fanout tick teacherId = false)
    (qualifies : tick.qualifies teacherId = true) :
    lastAttempt (main fanout state tick).perTeacher teacherId =
      lastAttempt state.perTeacher teacherId := by
  rw [lastAttempt, of_not_attempts idle, collectGarbage, if_pos qualifies, lastAttempt]

theorem Timely.main (timely : state.Timely) (later : state.Later tick) :
    (ConflictFanout.main fanout state tick).Timely := by
  intro teacherId
  cases tried : state.attempts fanout tick teacherId with
  | true => exact Nat.le_of_eq (lastAttempt_of_attempts tried)
  | false =>
    cases qualifies : tick.qualifies teacherId with
    | true =>
      rw [lastAttempt_of_not_attempts tried qualifies]
      exact Nat.le_trans (timely teacherId) (Nat.le_of_lt later)
    | false =>
      rw [lastAttempt, of_not_attempts tried, collectGarbage, qualifies]
      exact Nat.zero_le _

def waiting (state : FanoutState Fingerprint) (teachers : List String) (instant : Nat) :
    List String :=
  teachers.filter fun teacherId => lastAttempt state.perTeacher teacherId ≤ instant

theorem ahead_of_not_attempts (qualifies : tick.qualifies teacherId = true)
    (free : state.suppressed fanout tick teacherId = false)
    (idle : state.attempts fanout tick teacherId = false) :
    (selected fanout tick (collectGarbage tick state.perTeacher)).length = fanout.cap ∧
    ∀ candidate, candidate ∈ selected fanout tick (collectGarbage tick state.perTeacher) ->
      lastAttempt state.perTeacher candidate.teacherId ≤
        lastAttempt state.perTeacher teacherId := by
  rcases exists_candidate fanout qualifies free with ⟨own, member, rfl⟩
  have behind : own ∈ (candidates fanout tick (collectGarbage tick state.perTeacher)).drop
      fanout.cap := by
    rw [<- List.take_append_drop fanout.cap (candidates fanout tick _), List.mem_append] at member
    refine member.resolve_left fun chosen => ?_
    exact List.any_eq_false.mp idle own chosen (decide_eq_true rfl)
  have known (candidate : Candidate Fingerprint)
      (listed : candidate ∈ candidates fanout tick (collectGarbage tick state.perTeacher)) :
      candidate.lastAttemptAt = lastAttempt state.perTeacher candidate.teacherId := by
    have stands := stands_of_mem fanout listed
    rw [stands.lastAttemptAt, lastAttempt, collectGarbage, if_pos stands.qualifies, lastAttempt]
  constructor
  · have room := List.length_pos_of_mem behind
    rw [List.length_drop] at room
    rw [selected, List.length_take]
    omega
  · intro candidate chosen
    rw [<- known candidate (List.mem_of_mem_take chosen), <- known own member]
    exact (sorted_candidates fanout).rel_of_mem_take_of_mem_drop chosen behind

theorem waiting_main (timely : state.Timely) (later : state.Later tick)
    (all : ∀ other, tick.qualifies other = true <-> other ∈ teachers)
    (distinct : teachers.Nodup) (member : teacherId ∈ teachers)
    (free : state.suppressed fanout tick teacherId = false)
    (idle : state.attempts fanout tick teacherId = false) :
    ((main fanout state tick).waiting teachers
        (lastAttempt state.perTeacher teacherId)).length + fanout.cap ≤
      (state.waiting teachers (lastAttempt state.perTeacher teacherId)).length := by
  have qualifies := (all teacherId).mpr member
  rcases ahead_of_not_attempts qualifies free idle with ⟨full, ahead⟩
  let chosen := (selected fanout tick (collectGarbage tick state.perTeacher)).map
    Candidate.teacherId
  have tried (other : String) (listed : other ∈ chosen) :
      state.attempts fanout tick other = true := by
    rcases List.mem_map.mp listed with ⟨candidate, picked, its⟩
    exact List.any_eq_true.mpr ⟨candidate, picked, decide_eq_true its⟩
  have not_waiting (other : String) (attempted : state.attempts fanout tick other = true) :
      ¬lastAttempt (main fanout state tick).perTeacher other ≤
        lastAttempt state.perTeacher teacherId := by
    rw [lastAttempt_of_attempts attempted]
    exact Nat.not_le.mpr (Nat.lt_of_le_of_lt (timely teacherId) later)
  have apart : ((main fanout state tick).waiting teachers
      (lastAttempt state.perTeacher teacherId) ++ chosen).Nodup := by
    refine List.nodup_append.mpr ⟨distinct.filter _, distinct_selected, ?_⟩
    rintro other waits _ listed rfl
    exact not_waiting other (tried other listed)
      (of_decide_eq_true (List.mem_filter.mp waits).2)
  have counted : ((main fanout state tick).waiting teachers
      (lastAttempt state.perTeacher teacherId) ++ chosen).length ≤
        (state.waiting teachers (lastAttempt state.perTeacher teacherId)).length := by
    refine (List.subperm_of_subset apart fun other either => ?_).length_le
    rcases List.mem_append.mp either with waits | listed
    · have parts := List.mem_filter.mp waits
      have idle : state.attempts fanout tick other = false :=
        Bool.eq_false_iff.mpr fun attempted =>
          not_waiting other attempted (of_decide_eq_true parts.2)
      rw [lastAttempt_of_not_attempts idle ((all other).mpr parts.1)] at parts
      exact List.mem_filter.mpr parts
    · rcases List.mem_map.mp listed with ⟨candidate, picked, rfl⟩
      exact List.mem_filter.mpr ⟨(all _).mp (of_attempts (tried _ listed)).1,
        decide_eq_true (ahead candidate picked)⟩
  rw [List.length_append, List.length_map, full] at counted
  exact counted

theorem cap_mul_lt_waiting {ticks : List Tick} (timely : state.Timely)
    (distinct : teachers.Nodup) (member : teacherId ∈ teachers)
    (all : ∀ tick, tick ∈ ticks -> ∀ other, tick.qualifies other = true <-> other ∈ teachers)
    (passed : Throughout (main fanout) (fun state tick => state.Later tick ∧
      state.suppressed fanout tick teacherId = false ∧
      state.attempts fanout tick teacherId = false) state ticks) : fanout.cap * ticks.length <
      (state.waiting teachers (lastAttempt state.perTeacher teacherId)).length := by
  induction ticks generalizing state with
  | nil => exact List.length_pos_of_mem (List.mem_filter.mpr ⟨member, by simp⟩)
  | cons tick ticks inductionHypothesis =>
    rcases passed with ⟨⟨later, free, idle⟩, passed⟩
    have here := all tick List.mem_cons_self
    have fewer := waiting_main timely later here distinct member free idle
    have rest := inductionHypothesis (timely.main later)
      (fun tick listed => all tick (List.mem_cons_of_mem _ listed)) passed
    rw [lastAttempt_of_not_attempts idle ((here teacherId).mpr member)] at rest
    rw [List.length_cons, Nat.mul_add, Nat.mul_one]
    omega

end FanoutState

def reached (fanout : Fanout Fingerprint) (history : List Tick) : FanoutState Fingerprint :=
  after (main fanout) (FanoutState.initial Fingerprint) history

theorem timely_reached {history : List Tick}
    (later : Throughout (main fanout) FanoutState.Later (FanoutState.initial Fingerprint)
      history) : (reached fanout history).Timely :=
  later.keeps (fun _ => Nat.le_refl 0) fun _ _ timely later => timely.main later

theorem apart_of_mails {fanout : Fanout Fingerprint} {history between : List Tick}
    {first second : Tick} {teacherId : String}
    (timely : Throughout (main fanout) FanoutState.Later (FanoutState.initial Fingerprint)
      (history ++ first :: between ++ [second]))
    (mailed : (reached fanout history).mails fanout first teacherId = true)
    (unmailed : Throughout (main fanout) (fun state tick => tick.qualifies teacherId = true ∧
      state.mails fanout tick teacherId = false) (reached fanout (history ++ [first])) between)
    (again : (reached fanout (history ++ first :: between)).mails fanout second teacherId = true)
    (same : ∀ offender, offender ∈ first.conflictSet teacherId <->
      offender ∈ second.conflictSet teacherId) : first.now + fanout.dedupWindowMs ≤ second.now := by
  have past : 0 < first.now := by
    rw [List.append_assoc, Throughout.append_iff] at timely
    exact Nat.lt_of_le_of_lt (Nat.zero_le _) timely.2.1
  have told : (reached fanout (history ++ [first])).Recalls teacherId first.now
      (first.fingerprint fanout teacherId) := by
    rw [reached, after_append]
    exact FanoutState.recalls_of_mails mailed
  have kept : (reached fanout (history ++ first :: between)).Recalls teacherId first.now
      (first.fingerprint fanout teacherId) := by
    rw [List.append_cons, reached, after_append]
    exact @Throughout.keeps _ _ _ _ _
      (fun state => state.Recalls teacherId first.now (first.fingerprint fanout teacherId)) _
      unmailed told fun _ _ recalls met => recalls.kept met.1 met.2
  exact kept.apart past (fingerprint_eq fanout same) again

theorem exists_attempt {fanout : Fanout Fingerprint} {history ticks : List Tick}
    {teachers : List String} {teacherId : String}
    (timely : Throughout (main fanout) FanoutState.Later (FanoutState.initial Fingerprint)
      (history ++ ticks)) (distinct : teachers.Nodup) (member : teacherId ∈ teachers)
    (all : ∀ tick, tick ∈ ticks -> ∀ other, tick.qualifies other = true <-> other ∈ teachers)
    (enough : ticks.length = (teachers.length + fanout.cap - 1) / fanout.cap)
    (free : Throughout (main fanout) (fun state tick =>
      state.suppressed fanout tick teacherId = false) (reached fanout history) ticks) :
    ∃ before tick rest, ticks = before ++ tick :: rest ∧
      (reached fanout (history ++ before)).attempts fanout tick teacherId = true := by
  have parts := Throughout.append_iff.mp timely
  by_contra never
  have passed : Throughout (main fanout) (fun state tick =>
      state.attempts fanout tick teacherId = false) (reached fanout history) ticks := by
    by_contra fails
    rcases Throughout.exists_of_not fails with ⟨before, tick, rest, split, tried⟩
    refine never ⟨before, tick, rest, split, ?_⟩
    rw [reached, after_append]
    exact Bool.not_eq_false _ ▸ tried
  have few := FanoutState.cap_mul_lt_waiting (timely_reached fanout parts.1) distinct member all
    (parts.2.and (free.and passed))
  have bounded := List.length_filter_le
    (fun other => decide (lastAttempt (reached fanout history).perTeacher other ≤
      lastAttempt (reached fanout history).perTeacher teacherId)) teachers
  have rounded : teachers.length ≤ fanout.cap * ticks.length := by
    rw [enough]
    have positive := fanout.cap_pos
    have quotient := @Nat.lt_div_mul_add (teachers.length + fanout.cap - 1) _ fanout.cap_pos
    rw [Nat.mul_comm]
    omega
  exact absurd (Nat.lt_of_lt_of_le few bounded) (Nat.not_lt.mpr rounded)

/-- Whatever the conflicts and however the mails end: two mails that a teacher gets for the
same conflicts, one after the other, are as far apart as the window, unless the teacher was
without conflicts in between; and of the teachers that have conflicts all the while, one that
may be mailed is tried once in as many ticks as the cap needs for all of them. -/
theorem mails_apart_and_teachers_rotate (fanout : Fanout Fingerprint) :
    (∀ (history between : List Tick) (first second : Tick) (teacherId : String),
      Throughout (main fanout) FanoutState.Later (FanoutState.initial Fingerprint)
        (history ++ first :: between ++ [second]) ->
      (reached fanout history).mails fanout first teacherId = true ->
      Throughout (main fanout) (fun state tick => tick.qualifies teacherId = true ∧
        state.mails fanout tick teacherId = false) (reached fanout (history ++ [first])) between ->
      (reached fanout (history ++ first :: between)).mails fanout second teacherId = true ->
      (∀ offender, offender ∈ first.conflictSet teacherId <->
        offender ∈ second.conflictSet teacherId) -> first.now + fanout.dedupWindowMs ≤ second.now) ∧
    (∀ (history ticks : List Tick) (teachers : List String) (teacherId : String),
      Throughout (main fanout) FanoutState.Later (FanoutState.initial Fingerprint)
        (history ++ ticks) -> teachers.Nodup -> teacherId ∈ teachers ->
      (∀ tick, tick ∈ ticks -> ∀ other, tick.qualifies other = true <-> other ∈ teachers) ->
      ticks.length = (teachers.length + fanout.cap - 1) / fanout.cap ->
      Throughout (main fanout) (fun state tick =>
        state.suppressed fanout tick teacherId = false) (reached fanout history) ticks ->
      ∃ before tick rest, ticks = before ++ tick :: rest ∧
        (reached fanout (history ++ before)).attempts fanout tick teacherId = true) := by
  constructor
  · intro history between first second teacherId timely mailed unmailed again same
    exact apart_of_mails timely mailed unmailed again same
  · intro history ticks teachers teacherId timely distinct member all enough free
    exact exists_attempt timely distinct member all enough free

end

def lines : Fanout (List String) where
  cap := 1
  dedupWindowMs := 60000
  hash := id
  cap_pos := Nat.le_refl 1

/-- Each of two teachers has one conflict, and only the second one's mails are accepted. -/
def conflictTick (now : Nat) : Tick where
  now := now
  offenders := [⟨"slot-1", "busy", none, none⟩, ⟨"slot-2", "open", some "calendar", none⟩]
  distinct := by decide
  accepts := fun teacherId => teacherId = "open"

/-- The mails to one teacher are a minute apart, though the other's fail all the time, and it
is tried within two ticks. -/
theorem open_teacher_mailed_again : 2 + 60000 ≤ 60002 ∧
    ∃ before tick rest, [conflictTick 1, conflictTick 2] = before ++ tick :: rest ∧
      (reached lines ([] ++ before)).attempts lines tick "open" = true := by
  have laws := mails_apart_and_teachers_rotate lines
  constructor
  · exact laws.1 [conflictTick 1] [conflictTick 3] (conflictTick 2) (conflictTick 60002) "open"
      (by decide +kernel) (by decide +kernel) (by decide +kernel) (by decide +kernel)
      fun _ => Iff.rfl
  · refine laws.2 [] [conflictTick 1, conflictTick 2] ["busy", "open"] "open"
      (by decide +kernel) (by decide) (by decide) ?_ rfl (by decide +kernel)
    intro tick listed other
    have same : tick.offenders = (conflictTick 1).offenders := by
      rcases List.mem_cons.mp listed with rfl | listed
      · rfl
      · rw [List.mem_singleton.mp listed]
        rfl
    rw [qualifies_iff, same]
    exact Iff.rfl

end ConflictFanout

end LevelChannel
