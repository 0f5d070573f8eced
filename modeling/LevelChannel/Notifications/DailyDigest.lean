import Mathlib.Data.List.Pairwise
import Mathlib.Data.List.Nodup
import LevelChannel.Events.Runs
import LevelChannel.Schema.Text

namespace LevelChannel

open Events

namespace DailyDigest

/-!
# The daily digest of a teacher

A job that runs every minute mails each teacher, at eight in the morning of the teacher's
time zone, the lessons of the day.  A query picks teachers without an end for their day, in
the order of their ids and no more than a limit; each of them is then held against the clock
of its zone, and a row for the teacher and the day says what became of the mail.

The query leaves out the rows whose attempts are used up, so that the step that would end
them is never reached, and it counts teachers whose morning is elsewhere against its limit.
-/

structure LocalTime where
  date : Nat
  seconds : Nat
  deriving DecidableEq

/-- What `Intl.DateTimeFormat` and `AT TIME ZONE` know of the time zones; instants are in
seconds. -/
structure Zones (Zone : Type) where
  moscow : Zone
  nowInTimezoneParts : Nat -> Zone -> LocalTime
  /-- The instant at which a date begins. -/
  midnight : Nat -> Zone -> Nat

def firingBandStart : Nat := 7 * 3600 + 59 * 60

def firingBandEnd : Nat := 8 * 3600 + 60

def isWithinFiringBand (seconds : Nat) : Bool :=
  firingBandStart ≤ seconds && seconds ≤ firingBandEnd

/-- `CANDIDATE_WINDOW_PAST_HOURS` -/
def candidateWindowPast : Nat := 24 * 3600

/-- `CANDIDATE_WINDOW_FUTURE_HOURS` -/
def candidateWindowFuture : Nat := 36 * 3600

def candidateOverfetchBuffer : Nat := 64

/-! ## Tables -/

inductive SkippedReason where
  | emptyDay
  | accountEmailMissing
  | sendFailed
  deriving DecidableEq, Repr

/-- A row of `teacher_account_daily_digests`, with its columns for the mail. -/
structure DigestRow where
  emailSent : Bool
  skippedReason : Option SkippedReason
  attempts : Nat
  deriving DecidableEq, Repr

namespace DigestRow

def initial : DigestRow where
  emailSent := false
  skippedReason := none
  attempts := 0

/-- `tadd_state_consistency` -/
def stateConsistent (row : DigestRow) : Bool :=
  match row.skippedReason with
  | none => true
  | some .sendFailed => !row.emailSent && 1 ≤ row.attempts
  | some _ => !row.emailSent

def isPending (row : DigestRow) : Bool :=
  !row.emailSent && row.skippedReason.isNone

def isExhausted (row : DigestRow) (maxAttempts : Nat) : Bool :=
  row.isPending && maxAttempts ≤ row.attempts

end DigestRow

/-- The primary key `(account_id, sent_date)`. -/
structure DigestKey where
  accountId : Nat
  sentDate : Nat
  deriving DecidableEq, Repr

/-- The table, and for each row the mails that were handed over, the last one first, with
whether they were accepted. -/
structure Digests where
  row : DigestKey -> Option DigestRow
  mails : DigestKey -> List Bool

namespace Digests

def empty : Digests where
  row := fun _ => none
  mails := fun _ => []

def put (digests : Digests) (key : DigestKey) (row : DigestRow) : Digests :=
  { digests with row := fun other => if other = key then some row else digests.row other }

def mail (digests : Digests) (key : DigestKey) (accepted : Bool) : Digests :=
  { digests with
    mails := fun other =>
      if other = key then accepted :: digests.mails other else digests.mails other }

variable (digests : Digests) (key : DigestKey) (row : DigestRow) (accepted : Bool)

@[simp] theorem put_row_self : (digests.put key row).row key = some row :=
  if_pos rfl

@[simp] theorem put_row_of_ne {other : DigestKey} (different : other ≠ key) :
    (digests.put key row).row other = digests.row other :=
  if_neg different

@[simp] theorem mail_row : (digests.mail key accepted).row = digests.row := rfl

@[simp] theorem mail_mails_self :
    (digests.mail key accepted).mails key = accepted :: digests.mails key :=
  if_pos rfl

@[simp] theorem mail_mails_of_ne {other : DigestKey} (different : other ≠ key) :
    (digests.mail key accepted).mails other = digests.mails other :=
  if_neg different

end Digests

/-! ## A tick -/

/-- The operator's settings; their schema has a least value of one for both. -/
structure Settings where
  rateLimitPerTick : Nat
  maxAttempts : Nat
  rateLimit_pos : 1 ≤ rateLimitPerTick
  maxAttempts_pos : 1 ≤ maxAttempts

/-- An account with the time zone of its profile, which a check keeps in the list of those
that both sides know. -/
structure Account (Zone : Type) where
  id : Nat
  email : String
  timezone : Option Zone
  disabled : Bool
  scheduledPurge : Bool
  purged : Bool

/-- What the job reads of a slot whose status is `booked`. -/
structure BookedSlot where
  teacherAccountId : Nat
  startAt : Nat

/-- What a tick that the master switch lets through finds: its settings, the accounts in the
order of their ids, the booked slots, and what comes of the mails.  A transaction that
crashes does so before its mail is handed over. -/
structure Tick (Zone : Type) where
  settings : Settings
  now : Nat
  accounts : List (Account Zone)
  sorted : accounts.Pairwise fun before after => before.id < after.id
  slots : List BookedSlot
  crashes : Nat -> Bool
  accepts : Nat -> Bool

inductive Outcome where
  | outsideBand
  | alreadySent
  | terminalSkip
  | terminalSendFailed
  | emptyDay
  | emailMissing
  | sent
  | sendFailedTransient
  | crashed
  deriving DecidableEq, Repr

namespace Outcome

/-- What `sentThisTick` counts. -/
def takesBudget : Outcome -> Nat
  | sent | sendFailedTransient => 1
  | _ => 0

end Outcome

variable {Zone : Type}

section

variable (zones : Zones Zone) (tick : Tick Zone)

namespace Tick

def localTime (account : Account Zone) : LocalTime :=
  zones.nowInTimezoneParts tick.now (account.timezone.getD zones.moscow)

def inBand (account : Account Zone) : Bool :=
  isWithinFiringBand (tick.localTime zones account).seconds

def keyOf (account : Account Zone) : DigestKey :=
  ⟨account.id, (tick.localTime zones account).date⟩

/-- `current_teachers` -/
def currentTeacher (accountId : Nat) : Bool :=
  tick.slots.any fun slot =>
    slot.teacherAccountId = accountId && tick.now ≤ slot.startAt + candidateWindowPast &&
      slot.startAt < tick.now + candidateWindowFuture

def rowOpen (digests : Digests) (key : DigestKey) : Bool :=
  (digests.row key).all fun row =>
    row.isPending && row.attempts < tick.settings.maxAttempts

def wantedTeachers (digests : Digests) : List (Account Zone) :=
  tick.accounts.filter fun account =>
    tick.currentTeacher account.id && !account.disabled && !account.scheduledPurge &&
      !account.purged && tick.rowOpen digests (tick.keyOf zones account)

def selectCandidateTeachers (digests : Digests) : List (Account Zone) :=
  (tick.wantedTeachers zones digests).take
    (tick.settings.rateLimitPerTick + candidateOverfetchBuffer)

def selectTeacherSlotsForLocalDay (account : Account Zone) : List BookedSlot :=
  let zone := account.timezone.getD zones.moscow
  let today := (tick.localTime zones account).date
  tick.slots.filter fun slot =>
    slot.teacherAccountId = account.id && zones.midnight today zone ≤ slot.startAt &&
      slot.startAt < zones.midnight (today + 1) zone

/-- Steps f to i: the lessons of the day, the address and the mail. -/
def fireDigest (digests : Digests) (account : Account Zone) (row : DigestRow) : Digests × Outcome :=
  let key := tick.keyOf zones account
  if (tick.selectTeacherSlotsForLocalDay zones account).isEmpty then
    (digests.put key { row with skippedReason := some .emptyDay }, .emptyDay)
  else if (jsTrim account.email).isEmpty then
    (digests.put key { row with skippedReason := some .accountEmailMissing }, .emailMissing)
  else
    let attempted := { row with attempts := row.attempts + 1 }
    if tick.accepts account.id then
      ((digests.put key { attempted with emailSent := true }).mail key true, .sent)
    else ((digests.put key attempted).mail key false, .sendFailedTransient)

def processOneTeacher (digests : Digests) (account : Account Zone) : Digests × Outcome :=
  let key := tick.keyOf zones account
  if !tick.inBand zones account then (digests, .outsideBand)
  else if tick.crashes account.id then (digests, .crashed)
  else
    match digests.row key with
    | none => tick.fireDigest zones digests account .initial
    | some row =>
      if row.emailSent then (digests, .alreadySent)
      else if row.skippedReason.isSome then (digests, .terminalSkip)
      else if tick.settings.maxAttempts ≤ row.attempts then
        (digests.put key { row with skippedReason := some .sendFailed }, .terminalSendFailed)
      else tick.fireDigest zones digests account row

/-- The loop over the candidates, which ends when the budget is used up. -/
def processTeachers (sentThisTick : Nat) (digests : Digests) :
    List (Account Zone) -> Digests × List (Nat × Outcome)
  | [] => (digests, [])
  | account :: rest =>
    if tick.settings.rateLimitPerTick ≤ sentThisTick then (digests, [])
    else
      let result := tick.processOneTeacher zones digests account
      let following :=
        processTeachers (sentThisTick + result.2.takesBudget) result.1 rest
      (following.1, (account.id, result.2) :: following.2)

def main (digests : Digests) : Digests × List (Nat × Outcome) :=
  tick.processTeachers zones 0 digests (tick.selectCandidateTeachers zones digests)

end Tick

namespace Tick

variable {digests : Digests} {account : Account Zone} {row : DigestRow} {key : DigestKey}

theorem fireDigest_row_of_ne (different : key ≠ tick.keyOf zones account) :
    (tick.fireDigest zones digests account row).1.row key = digests.row key := by
  unfold fireDigest
  split_ifs <;> simp [different]

theorem processOneTeacher_cases (digests : Digests) (account : Account Zone) :
    (tick.processOneTeacher zones digests account).1 = digests ∨
    (∃ row, digests.row (tick.keyOf zones account) = some row ∧
      row.isExhausted tick.settings.maxAttempts ∧ (tick.processOneTeacher zones digests account).1 =
        digests.put (tick.keyOf zones account)
          { row with skippedReason := some .sendFailed }) ∨
    (∃ row, (digests.row (tick.keyOf zones account)).getD .initial = row ∧
      row.isPending ∧ row.attempts < tick.settings.maxAttempts ∧
      tick.processOneTeacher zones digests account =
        tick.fireDigest zones digests account row) := by
  simp only [processOneTeacher]
  split_ifs
  · exact .inl rfl
  · exact .inl rfl
  · split
    · next none_found =>
      exact .inr (.inr ⟨.initial, by rw [none_found]; rfl, rfl,
        tick.settings.maxAttempts_pos, rfl⟩)
    · next row found =>
      split_ifs with sent skipped exhausted
      · exact .inl rfl
      · exact .inl rfl
      · exact .inr (.inl ⟨row, found, by
          simp_all [DigestRow.isExhausted, DigestRow.isPending], rfl⟩)
      · exact .inr (.inr ⟨row, by rw [found]; rfl, by simp_all [DigestRow.isPending],
          Nat.lt_of_not_le exhausted, rfl⟩)

theorem processOneTeacher_row_of_ne (different : key ≠ tick.keyOf zones account) :
    (tick.processOneTeacher zones digests account).1.row key = digests.row key := by
  rcases tick.processOneTeacher_cases zones digests account with
    same | ⟨row, -, -, ended⟩ | ⟨row, -, -, -, fired⟩
  · rw [same]
  · rw [ended, Digests.put_row_of_ne _ _ _ different]
  · rw [fired, tick.fireDigest_row_of_ne zones different]

theorem processTeachers_row_of_ne (candidates : List (Account Zone)) (sentThisTick : Nat)
    (different : ∀ candidate, candidate ∈ candidates -> key ≠ tick.keyOf zones candidate) :
    (tick.processTeachers zones sentThisTick digests candidates).1.row key = digests.row key := by
  induction candidates generalizing sentThisTick digests with
  | nil => rfl
  | cons candidate rest inductionHypothesis =>
    unfold processTeachers
    split_ifs
    · rfl
    · calc _ = (tick.processOneTeacher zones digests candidate).1.row key :=
            inductionHypothesis _ fun other member =>
              different other (List.mem_cons_of_mem candidate member)
        _ = digests.row key :=
            tick.processOneTeacher_row_of_ne zones (different candidate List.mem_cons_self)

theorem eq_of_id_eq {first second : Account Zone} (firstMember : first ∈ tick.accounts)
    (secondMember : second ∈ tick.accounts) (same : first.id = second.id) : first = second := by
  have distinct : (tick.accounts.map Account.id).Nodup :=
    (List.pairwise_map.mpr tick.sorted).imp Nat.ne_of_lt
  exact List.inj_on_of_nodup_map distinct firstMember secondMember same

end Tick

/-! ## Attempts -/

/-- A row and its mails: the attempts are the mails, no more than a bound, and only the last
one may have been accepted, which the row then says. -/
structure RowLawful (most : Nat) (row : DigestRow) (mails : List Bool) : Prop where
  counted : mails.length = row.attempts
  bounded : row.attempts ≤ most
  unsent : row.emailSent = false -> true ∉ mails
  older : true ∉ mails.tail
  consistent : row.stateConsistent = true

def Digests.Lawful (most : Nat) (digests : Digests) : Prop :=
  ∀ key, RowLawful most ((digests.row key).getD .initial) (digests.mails key)

theorem Digests.empty_lawful (most : Nat) : Digests.empty.Lawful most := fun _ =>
  { counted := rfl
    bounded := Nat.zero_le most
    unsent := fun _ => List.not_mem_nil
    older := List.not_mem_nil
    consistent := rfl }

namespace RowLawful

variable {most : Nat} {row : DigestRow} {mails : List Bool}

theorem ended (lawful : RowLawful most row mails) (pending : row.isPending = true)
    {reason : SkippedReason} (attempted : reason = .sendFailed -> 1 ≤ row.attempts) :
    RowLawful most { row with skippedReason := some reason } mails where
  counted := lawful.counted
  bounded := lawful.bounded
  unsent := lawful.unsent
  older := lawful.older
  consistent := by
    have unsent : row.emailSent = false := by simp_all [DigestRow.isPending]
    cases reason <;> simp_all [DigestRow.stateConsistent]

theorem mailed (lawful : RowLawful most row mails) (pending : row.isPending = true)
    (spare : row.attempts < most) (accepted : Bool) :
    RowLawful most { row with attempts := row.attempts + 1, emailSent := accepted }
      (accepted :: mails) := by
  have parts : row.emailSent = false ∧ row.skippedReason = none := by
    simpa [DigestRow.isPending] using pending
  have failed : true ∉ mails := lawful.unsent parts.1
  constructor
  · rw [List.length_cons, lawful.counted]
  · exact spare
  · intro refused
    have refused : accepted = false := refused
    rw [refused]
    simpa using failed
  · exact failed
  · simp [DigestRow.stateConsistent, parts.2]

end RowLawful

namespace Digests.Lawful

variable {most : Nat} {digests : Digests} {key : DigestKey} {row : DigestRow}

theorem put (lawful : digests.Lawful most) (next : RowLawful most row (digests.mails key)) :
    (digests.put key row).Lawful most := by
  intro other
  by_cases same : other = key
  · rw [same, put_row_self]
    exact next
  · rw [put_row_of_ne _ _ _ same]
    exact lawful other

theorem put_mail (lawful : digests.Lawful most) {accepted : Bool}
    (next : RowLawful most row (accepted :: digests.mails key)) :
    ((digests.put key row).mail key accepted).Lawful most := by
  intro other
  by_cases same : other = key
  · rw [same, mail_row, put_row_self, mail_mails_self]
    exact next
  · rw [mail_row, put_row_of_ne _ _ _ same, mail_mails_of_ne _ _ _ same]
    exact lawful other

end Digests.Lawful

namespace Tick

variable {most : Nat} {digests : Digests} {account : Account Zone} {row : DigestRow}

theorem fireDigest_lawful (lawful : digests.Lawful most)
    (current : (digests.row (tick.keyOf zones account)).getD .initial = row)
    (pending : row.isPending = true) (spare : row.attempts < most) :
    (tick.fireDigest zones digests account row).1.Lawful most := by
  have here : RowLawful most row (digests.mails (tick.keyOf zones account)) := by
    rw [<- current]
    exact lawful _
  simp only [fireDigest]
  split_ifs
  · exact lawful.put (here.ended pending nofun)
  · exact lawful.put (here.ended pending nofun)
  · exact lawful.put_mail (here.mailed pending spare true)
  · have unsent : row.emailSent = false := by simp_all [DigestRow.isPending]
    have next := here.mailed pending spare false
    rw [<- unsent] at next
    exact lawful.put_mail (unsent ▸ next)

theorem processOneTeacher_lawful (lawful : digests.Lawful most)
    (within : tick.settings.maxAttempts ≤ most) :
    (tick.processOneTeacher zones digests account).1.Lawful most := by
  rcases tick.processOneTeacher_cases zones digests account with
    same | ⟨row, found, exhausted, ended⟩ | ⟨row, current, pending, spare, fired⟩
  · rw [same]
    exact lawful
  · have here := lawful (tick.keyOf zones account)
    rw [found, Option.getD_some] at here
    have parts : row.isPending = true ∧ tick.settings.maxAttempts ≤ row.attempts := by
      simpa [DigestRow.isExhausted] using exhausted
    rw [ended]
    exact lawful.put
      (here.ended parts.1 fun _ => Nat.le_trans tick.settings.maxAttempts_pos parts.2)
  · rw [fired]
    exact tick.fireDigest_lawful zones lawful current pending (Nat.lt_of_lt_of_le spare within)

theorem processTeachers_lawful (candidates : List (Account Zone)) (sentThisTick : Nat)
    (lawful : digests.Lawful most) (within : tick.settings.maxAttempts ≤ most) :
    (tick.processTeachers zones sentThisTick digests candidates).1.Lawful most := by
  induction candidates generalizing sentThisTick digests with
  | nil => exact lawful
  | cons candidate rest inductionHypothesis =>
    unfold processTeachers
    split_ifs
    · exact lawful
    · exact inductionHypothesis _ (tick.processOneTeacher_lawful zones lawful within)

end Tick

def tickStep (zones : Zones Zone) (digests : Digests) (tick : Tick Zone) : Option Digests :=
  some (tick.main zones digests).1

def AttemptsWithin (most : Nat) (_ : Digests) (tick : Tick Zone) (_ : Digests) : Prop :=
  tick.settings.maxAttempts ≤ most

theorem lawful_of_runs {most : Nat} {digests : Digests}
    (runs : Runs (tickStep zones) (AttemptsWithin most) Digests.empty digests) :
    digests.Lawful most := by
  refine runs.keeps (Digests.empty_lawful most) ?_
  intro before tick after lawful stepped within
  cases stepped
  exact tick.processTeachers_lawful zones _ 0 lawful within

theorem stateConsistent_of_runs {most : Nat} {digests : Digests} {key : DigestKey}
    {row : DigestRow} (runs : Runs (tickStep zones) (AttemptsWithin most) Digests.empty digests)
    (found : digests.row key = some row) : row.stateConsistent = true := by
  have lawful := lawful_of_runs zones runs key
  rw [found] at lawful
  exact lawful.consistent

namespace Tick

variable (digests : Digests)

/-- Each row of a teacher in the band that is pending without attempts left gets its end. -/
def EndsExhausted : Prop :=
  ∀ account, account ∈ tick.accounts -> tick.inBand zones account = true ->
    ∀ row, digests.row (tick.keyOf zones account) = some row ->
      row.isExhausted tick.settings.maxAttempts = true ->
      (tick.main zones digests).1.row (tick.keyOf zones account) =
        some { row with skippedReason := some .sendFailed }

def meetsExhausted : Bool :=
  tick.accounts.any fun account =>
    tick.inBand zones account &&
      (digests.row (tick.keyOf zones account)).any fun row =>
        row.isExhausted tick.settings.maxAttempts

variable {digests} {account : Account Zone} {row : DigestRow}

theorem main_row_of_exhausted (member : account ∈ tick.accounts)
    (found : digests.row (tick.keyOf zones account) = some row)
    (exhausted : row.isExhausted tick.settings.maxAttempts = true) :
    (tick.main zones digests).1.row (tick.keyOf zones account) = some row := by
  rw [<- found]
  refine tick.processTeachers_row_of_ne zones _ 0 fun candidate chosen same => ?_
  have parts := List.mem_filter.mp (List.mem_of_mem_take chosen)
  have one := tick.eq_of_id_eq member parts.1 (congrArg DigestKey.accountId same)
  have closed : tick.rowOpen digests (tick.keyOf zones account) = false := by
    have parts := (Bool.and_eq_true _ _).mp exhausted
    simp only [rowOpen, found, Option.all_some, Bool.and_eq_false_iff, decide_eq_false_iff_not]
    exact .inr (Nat.not_lt.mpr (of_decide_eq_true parts.2))
  rw [<- one, closed, Bool.and_false] at parts
  exact Bool.noConfusion parts.2

end Tick

/-- However the ticks come and the mails end, a teacher gets at most the set number of
attempts for a day and none after one that was accepted.  Rows whose attempts are used up
get their end in a tick only where it meets none of them in the band. -/
theorem attempts_bounded_and_exhausted_ended_iff {most : Nat} {digests : Digests}
    (runs : Runs (tickStep zones) (AttemptsWithin most) Digests.empty digests) :
    (∀ key, (digests.mails key).length ≤ most ∧
      ∀ newer older, digests.mails key = newer ++ true :: older -> newer = []) ∧
    (tick.EndsExhausted zones digests <-> tick.meetsExhausted zones digests = false) := by
  refine ⟨fun key => ?_, ?_, ?_⟩
  · have lawful := lawful_of_runs zones runs key
    refine ⟨Nat.le_trans (Nat.le_of_eq lawful.counted) lawful.bounded, fun newer older mails => ?_⟩
    cases newer with
    | nil => rfl
    | cons mail newer =>
      have later := lawful.older
      rw [mails] at later
      simp at later
  · intro ends
    rw [Tick.meetsExhausted, List.any_eq_false]
    intro account member met
    have parts := (Bool.and_eq_true _ _).mp met
    rcases (Option.any_eq_true _ _).mp parts.2 with ⟨row, found, exhausted⟩
    have ended := ends account member parts.1 row found exhausted
    rw [tick.main_row_of_exhausted zones member found exhausted] at ended
    -- a pending row has no reason
    have parts := (Bool.and_eq_true _ _).mp exhausted
    have pending := (Bool.and_eq_true _ _).mp parts.1
    rw [Option.some.inj ended] at pending
    exact Bool.noConfusion pending.2
  · intro spared account member fires row found exhausted
    have met : tick.meetsExhausted zones digests = true :=
      List.any_eq_true.mpr ⟨account, member, (Bool.and_eq_true _ _).mpr
        ⟨fires, (Option.any_eq_true _ _).mpr ⟨row, found, exhausted⟩⟩⟩
    rw [spared] at met
    exact Bool.noConfusion met

end

def zonesAhead : Zones Nat where
  moscow := 3
  nowInTimezoneParts now ahead :=
    ⟨(now + ahead * 3600) / 86400, (now + ahead * 3600) % 86400⟩
  midnight date ahead := date * 86400 - ahead * 3600

/-- Teachers with a lesson at noon of the first day in Moscow; all mails are refused. -/
def refusedTick (settings : Settings) (now count : Nat) (zone : Nat -> Nat) : Tick Nat where
  settings := settings
  now := now
  accounts := (List.range count).map fun id =>
    { id := id
      email := "teacher@example.com"
      timezone := some (zone id)
      disabled := false
      scheduledPurge := false
      purged := false }
  sorted := List.pairwise_map.mpr (List.pairwise_lt_range (n := count))
  slots := (List.range count).map fun id => ⟨id, 86400 + 9 * 3600⟩
  crashes := fun _ => false
  accepts := fun _ => false

def singleAttempt : Settings := ⟨1, 1, Nat.zero_lt_one, Nat.zero_lt_one⟩

/-- A tick at `07:59` and one a minute later in Moscow. -/
def morningTick (minute : Nat) : Tick Nat :=
  refusedTick singleAttempt (86400 + 4 * 3600 + 59 * 60 + minute * 60) 1 fun _ => 3

/-- The next tick outside the band meets no row without attempts left. -/
theorem refused_digest_waits :
    ∃ digests, Runs (tickStep zonesAhead) (AttemptsWithin 1) Digests.empty digests ∧
      (digests.mails ⟨0, 1⟩).length = 1 ∧ (morningTick 3).EndsExhausted zonesAhead digests := by
  rcases @exists_of_play _ _ (AttemptsWithin 1) (tickStep zonesAhead)
      (fun _ tick _ => tick.settings.maxAttempts ≤ 1) (fun _ _ _ => of_decide_eq_true)
      Digests.empty [morningTick 0]
      (fun digests => (digests.mails ⟨0, 1⟩).length = 1 &&
        !(morningTick 3).meetsExhausted zonesAhead digests) (by decide +kernel) with
    ⟨digests, runs, facts⟩
  have parts := (Bool.and_eq_true _ _).mp facts
  exact ⟨digests, runs, of_decide_eq_true parts.1,
    (attempts_bounded_and_exhausted_ended_iff zonesAhead (morningTick 3) runs).2.mpr
      (by simpa using parts.2)⟩

/-- A minute after the only attempt failed, its row is still pending. -/
theorem exhausted_digest_not_ended :
    ∃ digests, Runs (tickStep zonesAhead) (AttemptsWithin 1) Digests.empty digests ∧
      ¬(morningTick 1).EndsExhausted zonesAhead digests := by
  rcases @exists_of_play _ _ (AttemptsWithin 1) (tickStep zonesAhead)
      (fun _ tick _ => tick.settings.maxAttempts ≤ 1) (fun _ _ _ => of_decide_eq_true)
      Digests.empty [morningTick 0]
      (fun digests => digests.row ⟨0, 1⟩ = some ⟨false, none, 1⟩ &&
        ((morningTick 1).main zonesAhead digests).1.row ⟨0, 1⟩ = some ⟨false, none, 1⟩)
      (by decide +kernel) with ⟨digests, runs, facts⟩
  have parts := (Bool.and_eq_true _ _).mp facts
  refine ⟨digests, runs, fun ends => ?_⟩
  have ended := ends _ (List.mem_map_of_mem (List.mem_range.mpr Nat.zero_lt_one)) (by decide)
    _ (of_decide_eq_true parts.1) (by decide)
  exact absurd ((of_decide_eq_true parts.2).symm.trans ended) (by decide)

section

variable (zones : Zones Zone) (tick : Tick Zone)

/-! ## The band and the limit -/

namespace Outcome

end Outcome

namespace Tick

variable {digests : Digests} {account : Account Zone} {row : DigestRow}

end Tick

namespace Tick

variable (digests : Digests)

end Tick

end

end DailyDigest

end LevelChannel
