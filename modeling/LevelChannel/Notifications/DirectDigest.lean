import Mathlib.Data.List.Dedup
import Mathlib.Data.List.Sort
import LevelChannel.ReadCommitted.Sessions
import LevelChannel.Schema.Identifiers

namespace LevelChannel

open ReadCommitted

namespace DirectDigest

/-!
# The digest of lessons assigned directly

A teacher who assigns many lessons to a learner marks those over the limit, and an hourly run
announces them in one mail for each learner.  The run reads the marked slots, sends the mails one
after the other, and takes the marks away after each.  Neither is claimed for the run nor read
again, so a second run that reads in between announces the same slots, and a slot that is cancelled
in between, or that was cancelled with its mark, is announced all the same.
-/

/-! ## Rows -/

/-- A row of `lesson_slots` that was assigned directly.  A cancelled one counts the digests that
had been built by then. -/
structure AssignedSlot where
  id : RowId
  teacherAccountId : RowId
  learnerAccountId : RowId
  startAt : Nat
  durationMinutes : Nat
  notifyPending : Bool
  cancelledAt : Option Nat
  deriving DecidableEq

/-- A mail that a run has sent, with the number of those before it. -/
structure Digest where
  learnerAccountId : RowId
  email : String
  lessons : List (Nat × Nat)
  slotIds : List RowId
  moment : Nat
  deriving DecidableEq

/-- The slots and the addresses of the accounts.  The other fields are in no table: the mails, the
last first; what runs have read and not cleared yet; whether a run has read what another had; and
whether a slot was cancelled that waited for its digest, or was marked when it was cancelled. -/
structure DigestDb where
  slots : List AssignedSlot
  emails : List (RowId × String)
  digests : List Digest
  claimed : List (Nat × RowId)
  overlapped : Bool
  stale : Bool

inductive DigestWrite where
  | assign (slot : AssignedSlot)
  | mark (id : RowId)
  | cancel (id : RowId)
  | claim (session : Nat) (ids : List RowId)
  | send (digest : Digest)
  | clear (session : Nat) (ids : List RowId)
  | release (session : Nat) (ids : List RowId)

namespace DigestDb

variable (db : DigestDb)

def marked (id : RowId) : Bool :=
  db.slots.any fun slot => slot.id = id && slot.notifyPending

def cancelled (id : RowId) : Bool :=
  db.slots.any fun slot => slot.id = id && slot.cancelledAt.isSome

def email (accountId : RowId) : Option String :=
  (db.emails.find? fun row => row.1 = accountId).map Prod.snd

def announcements (id : RowId) : Nat :=
  db.digests.countP fun digest => id ∈ digest.slotIds

def waits (id : RowId) : Bool :=
  db.marked id && db.announcements id = 0

def unclaim (session : Nat) (ids : List RowId) : List (Nat × RowId) :=
  db.claimed.filter fun claim => !(decide (claim.1 = session) && decide (claim.2 ∈ ids))

def apply : DigestWrite -> DigestDb
  | .assign slot => { db with slots := slot :: db.slots }
  | .mark id =>
    { db with
      slots := db.slots.map fun slot =>
        if slot.id = id then { slot with notifyPending := true } else slot
      stale := db.stale || db.cancelled id }
  | .cancel id =>
    { db with
      slots := db.slots.map fun slot =>
        if slot.id = id then
          { slot with cancelledAt := some (slot.cancelledAt.getD db.digests.length) }
        else slot
      stale := db.stale || db.waits id }
  | .claim session ids =>
    { db with
      claimed := ids.map (fun id => (session, id)) ++ db.claimed
      overlapped := db.overlapped || ids.any fun id => id ∈ db.claimed.map Prod.snd }
  | .send digest =>
    { db with digests := { digest with moment := db.digests.length } :: db.digests }
  | .clear session ids =>
    { db with
      slots := db.slots.map fun slot =>
        if slot.id ∈ ids then { slot with notifyPending := false } else slot
      claimed := db.unclaim session ids }
  | .release session ids => { db with claimed := db.unclaim session ids }

end DigestDb

def digestStore : Store DigestDb Empty DigestWrite (List (RowId × String)) where
  apply := DigestDb.apply
  drift := fun emails db => { db with emails := emails }
  close := fun _ db => db
  conflict := fun _ _ => false
  conflict_comm := fun _ _ => rfl

inductive DigestReply where
  | refused
  | assigned (emailSkipped : Bool)
  | cancelled
  | noPending
  | ran
  deriving DecidableEq

/-- Whether an assignment is accepted, the limiter refuses or a mail goes out is for the choices to
say. -/
abbrev DigestProgram :=
  ReadCommitted.Program DigestDb Empty DigestWrite Unit Bool DigestReply

abbrev DigestState := ReadCommitted.State DigestDb Empty DigestWrite Unit Bool DigestReply

/-! ## The programs -/

def statement (writes : DigestDb -> List DigestWrite) (next : DigestDb -> DigestProgram) :
    DigestProgram :=
  .call () (fun db _ => writes db) fun db _ => next db

structure AssignDirect where
  teacherAccountId : RowId
  learnerAccountId : RowId
  startAt : Nat
  durationMinutes : Nat

/-- The route: the lesson is assigned, and marked if the limiter refuses a mail of its own. -/
def assignDirect (id : RowId) (request : AssignDirect) : DigestProgram :=
  .call ()
    (fun _ accepted =>
      if accepted then
        [.assign ⟨id, request.teacherAccountId, request.learnerAccountId, request.startAt,
          request.durationMinutes, false, none⟩]
      else [])
    fun _ accepted =>
      if accepted then
        .call () (fun _ _ => []) fun _ limited =>
          if limited then
            statement (fun _ => [.mark id]) fun _ => .done (.assigned true)
          else .done (.assigned false)
      else .done .refused

/-- `update lesson_slots set status = 'cancelled', ..`, by whoever cancels. -/
def cancelSlot (id : RowId) : DigestProgram :=
  statement (fun _ => [.cancel id]) fun _ => .done .cancelled

/-- The order of the rows that the run reads, where identifiers are ordered by rank. -/
def comesFirst (rank : RowId -> Nat) (first second : AssignedSlot) : Prop :=
  rank first.learnerAccountId < rank second.learnerAccountId ∨
    rank first.learnerAccountId = rank second.learnerAccountId ∧ first.startAt ≤ second.startAt

instance (rank : RowId -> Nat) : DecidableRel (comesFirst rank) :=
  fun _ _ => inferInstanceAs (Decidable (_ ∨ _))

def pendingRows (rank : RowId -> Nat) (db : DigestDb) : List AssignedSlot :=
  (db.slots.filter AssignedSlot.notifyPending).insertionSort (comesFirst rank)

def byLearner (rows : List AssignedSlot) : List (RowId × List AssignedSlot) :=
  (rows.map AssignedSlot.learnerAccountId).dedup.map fun learnerId =>
    (learnerId, rows.filter fun slot => slot.learnerAccountId = learnerId)

def slotIds (lessons : List AssignedSlot) : List RowId :=
  lessons.map AssignedSlot.id

def buildEmail (learnerId : RowId) (email : String) (lessons : List AssignedSlot) : Digest where
  learnerAccountId := learnerId
  email := email
  lessons := (lessons.map fun slot => (slot.startAt, slot.durationMinutes)).insertionSort
    fun first second => first.1 ≤ second.1
  slotIds := slotIds lessons
  moment := 0

/-- The loop over the learners.  A mail that fails leaves the marks for the next run. -/
def digestLearners (session : Nat) : List (RowId × List AssignedSlot) -> DigestProgram
  | [] => .done .ran
  | (learnerId, lessons) :: rest =>
    statement (fun _ => []) fun read =>
      match read.email learnerId with
      | none =>
        statement (fun _ => [.clear session (slotIds lessons)]) fun _ =>
          digestLearners session rest
      | some email =>
        .call ()
          (fun _ sent =>
            if sent then [.send (buildEmail learnerId email lessons)]
            else [.release session (slotIds lessons)])
          fun _ sent =>
            if sent then
              statement (fun _ => [.clear session (slotIds lessons)]) fun _ =>
                digestLearners session rest
            else digestLearners session rest

def digestRun (rank : RowId -> Nat) (session : Nat) : DigestProgram :=
  statement (fun db => [.claim session (slotIds (pendingRows rank db))]) fun read =>
    match pendingRows rank read with
    | [] => .done .noPending
    | rows => digestLearners session (byLearner rows)

inductive DigestRequest where
  | assign (request : AssignDirect)
  | cancel (id : RowId)
  | run

def DigestRequest.program (rank : RowId -> Nat) (request : DigestRequest) (session : Nat) :
    DigestProgram :=
  match request with
  | .assign request => assignDirect (.minted session 0) request
  | .cancel id => cancelSlot id
  | .run => digestRun rank session

def DigestDb.opening (emails : List (RowId × String)) : DigestDb :=
  ⟨[], emails, [], [], false, false⟩

def digestOpening (rank : RowId -> Nat) (emails : List (RowId × String))
    (requests : Nat -> DigestRequest) : DigestState :=
  State.start (.opening emails) fun session => (requests session).program rank session

/-- Every slot is in one digest at most, and in none that is built once it is cancelled. -/
structure Announced (db : DigestDb) : Prop where
  once : ∀ id, db.announcements id ≤ 1
  fresh : ∀ slot, slot ∈ db.slots -> ∀ moment, slot.cancelledAt = some moment ->
    ∀ digest, digest ∈ db.digests -> slot.id ∈ digest.slotIds -> digest.moment < moment

namespace DigestDb

/-- No run has read what another had read and not cleared, and no slot has been cancelled while it
waited for its digest, or marked after it was cancelled. -/
def Straight (db : DigestDb) : Prop :=
  db.overlapped = false ∧ db.stale = false

structure Orderly (db : DigestDb) : Prop extends Announced db where
  owner : ∀ one other id, (one, id) ∈ db.claimed -> (other, id) ∈ db.claimed -> one = other
  waiting : ∀ id, db.marked id = true -> (∀ session, (session, id) ∉ db.claimed) ->
    db.announcements id = 0
  current : ∀ slot, slot ∈ db.slots -> db.waits slot.id = true -> slot.cancelledAt = none

structure Consistent (db : DigestDb) : Prop where
  past : ∀ digest, digest ∈ db.digests -> digest.moment < db.digests.length
  learners : ∀ one, one ∈ db.slots -> ∀ other, other ∈ db.slots -> one.id = other.id ->
    one.learnerAccountId = other.learnerAccountId
  orderly : db.Straight -> db.Orderly

/-- What a session does to the tables: it marks its own slots, claims what is marked, and announces
and clears what it has claimed. -/
structure Respects (session : Nat) (before after : DigestDb) : Prop where
  straight : after.Straight -> before.Straight
  rows : ∀ slot, slot ∈ after.slots -> slot.id.minter = some session ∨
    ∃ old, old ∈ before.slots ∧ old.id = slot.id
  marks : ∀ id, after.marked id = true -> before.marked id = true ∨ id.minter = some session
  keeps : ∀ id, before.marked id = true -> after.marked id = true ∨
    (session, id) ∈ before.claimed
  claims : ∀ id, (session, id) ∈ after.claimed -> (session, id) ∈ before.claimed ∨
    before.marked id = true
  others : ∀ other id, other ≠ session ->
    ((other, id) ∈ after.claimed <-> (other, id) ∈ before.claimed)
  announces : ∀ id, (session, id) ∈ before.claimed ∨
    after.announcements id = before.announcements id

end DigestDb

def digestContract : Contract DigestDb Empty where
  Good := DigestDb.Consistent
  Guarantee session _ before after := DigestDb.Respects session before after

/-! ## What the writes keep -/

namespace DigestDb

variable {db before after : DigestDb} {id other : RowId} {ids : List RowId} {session : Nat}

theorem marked_iff : db.marked id = true <->
    ∃ slot, slot ∈ db.slots ∧ slot.id = id ∧ slot.notifyPending = true := by
  simp only [marked, List.any_eq_true, Bool.and_eq_true, decide_eq_true_eq]

theorem cancelled_iff : db.cancelled id = true <->
    ∃ slot, slot ∈ db.slots ∧ slot.id = id ∧ slot.cancelledAt.isSome = true := by
  simp only [cancelled, List.any_eq_true, Bool.and_eq_true, decide_eq_true_eq]

theorem waits_iff : db.waits id = true <-> db.marked id = true ∧ db.announcements id = 0 := by
  simp only [waits, Bool.and_eq_true, decide_eq_true_eq]

theorem mem_unclaim {claim : Nat × RowId} : claim ∈ db.unclaim session ids <->
    claim ∈ db.claimed ∧ ¬ (claim.1 = session ∧ claim.2 ∈ ids) := by
  simp only [unclaim, List.mem_filter, Bool.not_eq_true', Bool.and_eq_false_iff,
    decide_eq_false_iff_not, not_and_or]

theorem mem_unclaim_other {one : Nat} (different : one ≠ session) :
    (one, id) ∈ db.unclaim session ids <-> (one, id) ∈ db.claimed := by
  rw [mem_unclaim]
  exact ⟨fun claim => claim.1, fun claim => ⟨claim, fun own => different own.1⟩⟩

theorem marked_map {change : AssignedSlot -> AssignedSlot}
    (slots : after.slots = before.slots.map change)
    (same : ∀ slot, (change slot).id = slot.id) (id : RowId)
    (pending : ∀ slot, slot.id = id -> (change slot).notifyPending = slot.notifyPending) :
    after.marked id = before.marked id := by
  rw [Bool.eq_iff_iff, marked_iff, marked_iff, slots]
  constructor
  · rintro ⟨slot, member, named, notified⟩
    rcases List.mem_map.mp member with ⟨old, there, rfl⟩
    rw [same] at named
    exact ⟨old, there, named, pending old named ▸ notified⟩
  · rintro ⟨slot, member, named, notified⟩
    exact ⟨change slot, List.mem_map_of_mem member, (same slot).trans named,
      (pending slot named).trans notified⟩

theorem Respects.of_same (straight : after.Straight -> before.Straight)
    (rows : ∀ slot, slot ∈ after.slots -> ∃ old, old ∈ before.slots ∧ old.id = slot.id)
    (marked : ∀ id, after.marked id = before.marked id)
    (claimed : after.claimed = before.claimed) (digests : after.digests = before.digests) :
    Respects session before after where
  straight := straight
  rows slot member := Or.inr (rows slot member)
  marks id now := Or.inl (marked id ▸ now)
  keeps id then_ := Or.inl ((marked id).trans then_)
  claims id now := Or.inl (claimed ▸ now)
  others _ _ _ := by rw [claimed]
  announces id := Or.inr (by rw [announcements, announcements, digests])

theorem Respects.refl (session : Nat) (db : DigestDb) : Respects session db db :=
  .of_same id (fun slot member => ⟨slot, member, rfl⟩) (fun _ => rfl) rfl rfl

theorem Consistent.learners_map (consistent : Consistent before)
    {change : AssignedSlot -> AssignedSlot} (slots : after.slots = before.slots.map change)
    (same : ∀ slot, (change slot).id = slot.id ∧
      (change slot).learnerAccountId = slot.learnerAccountId) :
    ∀ one, one ∈ after.slots -> ∀ other, other ∈ after.slots -> one.id = other.id ->
      one.learnerAccountId = other.learnerAccountId := by
  rw [slots]
  intro one member other memberOther named
  rcases List.mem_map.mp member with ⟨first, there, rfl⟩
  rcases List.mem_map.mp memberOther with ⟨second, thereOther, rfl⟩
  rw [(same first).2, (same second).2]
  rw [(same first).1, (same second).1] at named
  exact consistent.learners first there second thereOther named

theorem rows_map {change : AssignedSlot -> AssignedSlot}
    (slots : after.slots = before.slots.map change) (same : ∀ slot, (change slot).id = slot.id) :
    ∀ slot, slot ∈ after.slots -> ∃ old, old ∈ before.slots ∧ old.id = slot.id := by
  rw [slots]
  intro slot member
  rcases List.mem_map.mp member with ⟨old, there, rfl⟩
  exact ⟨old, there, (same old).symm⟩

theorem announced_map (law : Announced before) {change : AssignedSlot -> AssignedSlot}
    (slots : after.slots = before.slots.map change) (same : ∀ slot, (change slot).id = slot.id)
    (cancelled : ∀ slot, (change slot).cancelledAt = slot.cancelledAt)
    (digests : after.digests = before.digests) : Announced after := by
  refine ⟨fun id => ?_, ?_⟩
  · rw [announcements, digests]
    exact law.once id
  · rw [slots, digests]
    intro slot member moment known
    rcases List.mem_map.mp member with ⟨old, there, rfl⟩
    rw [cancelled] at known
    rw [same]
    exact law.fresh old there moment known

/-! ### Assigning, marking and cancelling -/

def Absent (id : RowId) (db : DigestDb) : Prop :=
  ∀ slot, slot ∈ db.slots -> slot.id ≠ id

/-- The slot, if it is there, is not marked, and no run has had to do with it. -/
structure Untouched (id : RowId) (db : DigestDb) : Prop where
  unmarked : db.marked id = false
  unclaimed : ∀ session, (session, id) ∉ db.claimed
  unannounced : db.announcements id = 0

theorem marked_assign {slot : AssignedSlot} (plain : slot.notifyPending = false) (id : RowId) :
    (db.apply (.assign slot)).marked id = db.marked id := by
  simp only [marked, apply, List.any_cons, plain, Bool.and_false, Bool.false_or]

theorem apply_assign (consistent : Consistent db) {slot : AssignedSlot}
    (absent : Absent slot.id db) (plain : slot.notifyPending = false)
    (booked : slot.cancelledAt = none) (minted : slot.id.minter = some session) :
    Consistent (db.apply (.assign slot)) ∧ Respects session db (db.apply (.assign slot)) := by
  have waits (id : RowId) : (db.apply (.assign slot)).waits id = db.waits id := by
    rw [DigestDb.waits, marked_assign plain]
    rfl
  refine ⟨⟨consistent.past, ?_, fun straight => ?_⟩, ?_⟩
  · intro one member other memberOther named
    rcases List.mem_cons.mp member with rfl | there
    · rcases List.mem_cons.mp memberOther with rfl | thereOther
      · rfl
      · exact absurd named.symm (absent other thereOther)
    · rcases List.mem_cons.mp memberOther with rfl | thereOther
      · exact absurd named (absent one there)
      · exact consistent.learners one there other thereOther named
  · have orderly := consistent.orderly straight
    refine ⟨⟨orderly.once, ?_⟩, orderly.owner, fun id marked => ?_, ?_⟩
    · intro one member moment cancelled
      rcases List.mem_cons.mp member with rfl | there
      · rw [booked] at cancelled
        cases cancelled
      · exact orderly.fresh one there moment cancelled
    · rw [marked_assign plain] at marked
      exact orderly.waiting id marked
    · intro one member waiting
      rcases List.mem_cons.mp member with rfl | there
      · exact booked
      · rw [waits] at waiting
        exact orderly.current one there waiting
  · refine ⟨id, ?_, fun id now => Or.inl (marked_assign plain id ▸ now),
      fun id then_ => Or.inl ((marked_assign plain id).trans then_), fun id now => Or.inl now,
      fun _ _ _ => Iff.rfl, fun _ => Or.inr rfl⟩
    intro one member
    rcases List.mem_cons.mp member with rfl | there
    · exact Or.inl minted
    · exact Or.inr ⟨one, there, rfl⟩

theorem apply_mark (consistent : Consistent db) (untouched : Untouched id db)
    (minted : id.minter = some session) :
    Consistent (db.apply (.mark id)) ∧ Respects session db (db.apply (.mark id)) := by
  have same : ∀ slot : AssignedSlot,
      (if slot.id = id then { slot with notifyPending := true } else slot).id = slot.id ∧
      (if slot.id = id then { slot with notifyPending := true } else slot).learnerAccountId =
        slot.learnerAccountId ∧
      (if slot.id = id then { slot with notifyPending := true } else slot).cancelledAt =
        slot.cancelledAt := by
    intro slot
    split <;> exact ⟨rfl, rfl, rfl⟩
  have marked : ∀ other, other ≠ id ->
      (db.apply (.mark id)).marked other = db.marked other := by
    intro other different
    refine marked_map rfl (fun slot => (same slot).1) other fun slot named => ?_
    rw [if_neg (named ▸ different)]
  refine ⟨⟨consistent.past,
    consistent.learners_map rfl fun slot => ⟨(same slot).1, (same slot).2.1⟩,
    fun straight => ?_⟩, ?_⟩
  · rcases Bool.or_eq_false_iff.mp straight.2 with ⟨before, open_⟩
    have orderly := consistent.orderly ⟨straight.1, before⟩
    refine ⟨announced_map orderly.toAnnounced rfl (fun slot => (same slot).1)
      (fun slot => (same slot).2.2) rfl, orderly.owner, fun other now unclaimed => ?_, ?_⟩
    · by_cases mine : other = id
      · exact mine ▸ untouched.unannounced
      · rw [marked other mine] at now
        exact orderly.waiting other now unclaimed
    · intro one member waiting
      rcases List.mem_map.mp member with ⟨slot, there, rfl⟩
      rw [(same slot).2.2]
      rw [(same slot).1] at waiting
      by_cases mine : slot.id = id
      · by_contra cancelled
        have found := cancelled_iff.mpr ⟨slot, there, mine, Option.isSome_iff_ne_none.mpr cancelled⟩
        rw [found] at open_
        cases open_
      · rw [waits, marked slot.id mine] at waiting
        exact orderly.current slot there waiting
  · refine ⟨fun straight => ⟨straight.1, (Bool.or_eq_false_iff.mp straight.2).1⟩,
      fun slot member => Or.inr (rows_map rfl (fun slot => (same slot).1) slot member), ?_, ?_,
      fun id now => Or.inl now, fun _ _ _ => Iff.rfl, fun _ => Or.inr rfl⟩
    · intro other now
      by_cases mine : other = id
      · exact Or.inr (mine ▸ minted)
      · exact Or.inl (marked other mine ▸ now)
    · intro other then_
      by_cases mine : other = id
      · rw [mine, untouched.unmarked] at then_
        cases then_
      · exact Or.inl ((marked other mine).trans then_)

theorem apply_cancel (consistent : Consistent db) (id : RowId) :
    Consistent (db.apply (.cancel id)) ∧ Respects session db (db.apply (.cancel id)) := by
  have same : ∀ slot : AssignedSlot,
      (if slot.id = id then
        { slot with cancelledAt := some (slot.cancelledAt.getD db.digests.length) }
      else slot).id = slot.id ∧
      (if slot.id = id then
        { slot with cancelledAt := some (slot.cancelledAt.getD db.digests.length) }
      else slot).learnerAccountId = slot.learnerAccountId ∧
      (if slot.id = id then
        { slot with cancelledAt := some (slot.cancelledAt.getD db.digests.length) }
      else slot).notifyPending = slot.notifyPending := by
    intro slot
    split <;> exact ⟨rfl, rfl, rfl⟩
  have marked : ∀ other, (db.apply (.cancel id)).marked other = db.marked other :=
    fun other => marked_map rfl (fun slot => (same slot).1) other fun slot _ => (same slot).2.2
  have waits (other : RowId) : (db.apply (.cancel id)).waits other = db.waits other := by
    rw [DigestDb.waits, marked]
    rfl
  refine ⟨⟨consistent.past,
    consistent.learners_map rfl fun slot => ⟨(same slot).1, (same slot).2.1⟩,
    fun straight => ?_⟩, ?_⟩
  · rcases Bool.or_eq_false_iff.mp straight.2 with ⟨before, told⟩
    have orderly := consistent.orderly ⟨straight.1, before⟩
    refine ⟨⟨orderly.once, ?_⟩, orderly.owner, fun other now unclaimed => ?_, ?_⟩
    · intro one member moment cancelled digest sent listed
      rcases List.mem_map.mp member with ⟨slot, there, rfl⟩
      rw [(same slot).1] at listed
      by_cases mine : slot.id = id
      · rw [if_pos mine] at cancelled
        injection cancelled with cancelled
        subst cancelled
        cases earlier : slot.cancelledAt with
        | none => exact consistent.past digest sent
        | some first => exact orderly.fresh slot there first earlier digest sent listed
      · rw [if_neg mine] at cancelled
        exact orderly.fresh slot there moment cancelled digest sent listed
    · rw [marked other] at now
      exact orderly.waiting other now unclaimed
    · intro one member waiting
      rcases List.mem_map.mp member with ⟨slot, there, rfl⟩
      rw [(same slot).1, waits] at waiting
      by_cases mine : slot.id = id
      · rw [mine, told] at waiting
        cases waiting
      · rw [if_neg mine]
        exact orderly.current slot there waiting
  · exact .of_same (fun straight => ⟨straight.1, (Bool.or_eq_false_iff.mp straight.2).1⟩)
      (rows_map rfl fun slot => (same slot).1) marked rfl rfl

/-! ### Reading, sending and clearing -/

/-- The run has read the slots, and has not cleared them. -/
def Holds (session : Nat) (ids : List RowId) (db : DigestDb) : Prop :=
  ∀ id, id ∈ ids -> (session, id) ∈ db.claimed

/-- The slots that the run still has to announce wait for it. -/
def Unsent (ids : List RowId) (db : DigestDb) : Prop :=
  db.Straight -> ∀ id, id ∈ ids -> db.waits id = true

theorem apply_claim (consistent : Consistent db) (marked : ∀ id, id ∈ ids -> db.marked id = true) :
    Consistent (db.apply (.claim session ids)) ∧
      Respects session db (db.apply (.claim session ids)) := by
  have held : ∀ claim, claim ∈ (db.apply (.claim session ids)).claimed <->
      (claim.1 = session ∧ claim.2 ∈ ids) ∨ claim ∈ db.claimed := by
    intro claim
    show claim ∈ ids.map (fun id => (session, id)) ++ db.claimed <-> _
    rw [List.mem_append, List.mem_map]
    constructor
    · rintro (⟨id, listed, rfl⟩ | old)
      · exact Or.inl ⟨rfl, listed⟩
      · exact Or.inr old
    · rintro (⟨rfl, listed⟩ | old)
      · exact Or.inl ⟨claim.2, listed, rfl⟩
      · exact Or.inr old
  refine ⟨⟨consistent.past, consistent.learners, fun straight => ?_⟩, ?_⟩
  · rcases Bool.or_eq_false_iff.mp straight.1 with ⟨before, apart⟩
    have orderly := consistent.orderly ⟨before, straight.2⟩
    rw [List.any_eq_false] at apart
    have new : ∀ one id, id ∈ ids -> (one, id) ∉ db.claimed := by
      intro one id listed claim
      have theirs := List.mem_map_of_mem (f := Prod.snd) claim
      exact apart id listed (decide_eq_true theirs)
    refine ⟨⟨orderly.once, orderly.fresh⟩, fun one other id claim claimOther => ?_, ?_,
      orderly.current⟩
    · rcases (held _).mp claim with mine | old
      · rcases (held _).mp claimOther with mineOther | oldOther
        · exact mine.1.trans mineOther.1.symm
        · exact absurd oldOther (new other id mine.2)
      · rcases (held _).mp claimOther with mineOther | oldOther
        · exact absurd old (new one id mineOther.2)
        · exact orderly.owner one other id old oldOther
    · intro id now unclaimed
      exact orderly.waiting id now fun one claim => unclaimed one ((held _).mpr (Or.inr claim))
  · refine ⟨fun straight => ⟨(Bool.or_eq_false_iff.mp straight.1).1, straight.2⟩,
      fun slot member => Or.inr ⟨slot, member, rfl⟩, fun id now => Or.inl now,
      fun id then_ => Or.inl then_, fun id claim => ?_, fun other id different => ?_,
      fun _ => Or.inr rfl⟩
    · rcases (held _).mp claim with mine | old
      · exact Or.inr (marked id mine.2)
      · exact Or.inl old
    · rw [held]
      exact ⟨fun either => either.resolve_left fun mine => different mine.1, Or.inr⟩

theorem announcements_send {digest : Digest} : (db.apply (.send digest)).announcements id =
    db.announcements id + if id ∈ digest.slotIds then 1 else 0 := by
  rw [announcements, apply, List.countP_cons]
  simp only [decide_eq_true_eq]
  rfl

theorem apply_send (consistent : Consistent db) {digest : Digest}
    (holds : Holds session digest.slotIds db) (unsent : Unsent digest.slotIds db) :
    Consistent (db.apply (.send digest)) ∧ Respects session db (db.apply (.send digest)) := by
  refine ⟨⟨?_, consistent.learners, fun straight => ?_⟩, ?_⟩
  · intro other member
    rcases List.mem_cons.mp member with rfl | there
    · exact Nat.lt_succ_self _
    · exact Nat.lt_succ_of_lt (consistent.past other there)
  · have orderly := consistent.orderly straight
    have waits := unsent straight
    refine ⟨⟨fun id => ?_, ?_⟩, orderly.owner, fun id now unclaimed => ?_, ?_⟩
    · rw [announcements_send]
      split
      · next listed => rw [(waits_iff.mp (waits id listed)).2]
      · exact orderly.once id
    · intro slot member moment cancelled other sent listed
      rcases List.mem_cons.mp sent with rfl | there
      · rw [orderly.current slot member (waits slot.id listed)] at cancelled
        cases cancelled
      · exact orderly.fresh slot member moment cancelled other there listed
    · have elsewhere : id ∉ digest.slotIds := fun listed => unclaimed session (holds id listed)
      rw [announcements_send, if_neg elsewhere]
      exact orderly.waiting id now unclaimed
    · intro slot member waiting
      rcases waits_iff.mp waiting with ⟨now, none_yet⟩
      rw [announcements_send] at none_yet
      exact orderly.current slot member (waits_iff.mpr ⟨now, by omega⟩)
  · refine ⟨id, fun slot member => Or.inr ⟨slot, member, rfl⟩, fun id now => Or.inl now,
      fun id then_ => Or.inl then_, fun id claim => Or.inl claim, fun _ _ _ => Iff.rfl,
      fun id => ?_⟩
    by_cases listed : id ∈ digest.slotIds
    · exact Or.inl (holds id listed)
    · rw [announcements_send, if_neg listed]
      exact Or.inr rfl

theorem apply_clear (consistent : Consistent db) (holds : Holds session ids db) :
    Consistent (db.apply (.clear session ids)) ∧
      Respects session db (db.apply (.clear session ids)) := by
  have same : ∀ slot : AssignedSlot,
      (if slot.id ∈ ids then { slot with notifyPending := false } else slot).id = slot.id ∧
      (if slot.id ∈ ids then { slot with notifyPending := false } else slot).learnerAccountId =
        slot.learnerAccountId ∧
      (if slot.id ∈ ids then { slot with notifyPending := false } else slot).cancelledAt =
        slot.cancelledAt := by
    intro slot
    split <;> exact ⟨rfl, rfl, rfl⟩
  have kept : ∀ id, id ∉ ids ->
      (db.apply (.clear session ids)).marked id = db.marked id := by
    intro id elsewhere
    refine marked_map rfl (fun slot => (same slot).1) id fun slot named => ?_
    rw [if_neg (named ▸ elsewhere)]
  have cleared : ∀ id, (db.apply (.clear session ids)).marked id = true -> id ∉ ids := by
    intro id now listed
    rcases marked_iff.mp now with ⟨slot, member, named, notified⟩
    rcases List.mem_map.mp member with ⟨old, there, rfl⟩
    rw [(same old).1] at named
    rw [if_pos (named ▸ listed)] at notified
    cases notified
  refine ⟨⟨consistent.past,
    consistent.learners_map rfl fun slot => ⟨(same slot).1, (same slot).2.1⟩,
    fun straight => ?_⟩, ?_⟩
  · have orderly := consistent.orderly straight
    refine ⟨announced_map orderly.toAnnounced rfl (fun slot => (same slot).1)
      (fun slot => (same slot).2.2) rfl, fun one other id claim claimOther => ?_,
      fun id now unclaimed => ?_, ?_⟩
    · exact orderly.owner one other id (mem_unclaim.mp claim).1 (mem_unclaim.mp claimOther).1
    · have elsewhere := cleared id now
      rw [kept id elsewhere] at now
      refine orderly.waiting id now fun one claim => unclaimed one ?_
      exact mem_unclaim.mpr ⟨claim, fun own => elsewhere own.2⟩
    · intro one member waiting
      rcases List.mem_map.mp member with ⟨slot, there, rfl⟩
      rcases waits_iff.mp waiting with ⟨now, none_yet⟩
      rw [(same slot).1] at now none_yet
      rw [kept slot.id (cleared slot.id now)] at now
      rw [(same slot).2.2]
      exact orderly.current slot there (waits_iff.mpr ⟨now, none_yet⟩)
  · refine ⟨id, fun slot member => Or.inr (rows_map rfl (fun slot => (same slot).1) slot member),
      fun id now => Or.inl (kept id (cleared id now) ▸ now), fun id then_ => ?_,
      fun id claim => Or.inl (mem_unclaim.mp claim).1,
      fun other id different => mem_unclaim_other different, fun _ => Or.inr rfl⟩
    by_cases listed : id ∈ ids
    · exact Or.inr (holds id listed)
    · exact Or.inl ((kept id listed).trans then_)

theorem apply_release (consistent : Consistent db) (unsent : Unsent ids db) :
    Consistent (db.apply (.release session ids)) ∧
      Respects session db (db.apply (.release session ids)) := by
  refine ⟨⟨consistent.past, consistent.learners, fun straight => ?_⟩, ?_⟩
  · have orderly := consistent.orderly straight
    refine ⟨⟨orderly.once, orderly.fresh⟩, fun one other id claim claimOther => ?_,
      fun id now unclaimed => ?_, orderly.current⟩
    · exact orderly.owner one other id (mem_unclaim.mp claim).1 (mem_unclaim.mp claimOther).1
    · by_cases listed : id ∈ ids
      · exact (waits_iff.mp (unsent straight id listed)).2
      · refine orderly.waiting id now fun one claim => unclaimed one ?_
        exact mem_unclaim.mpr ⟨claim, fun own => listed own.2⟩
  · exact ⟨id, fun slot member => Or.inr ⟨slot, member, rfl⟩, fun id now => Or.inl now,
      fun id then_ => Or.inl then_, fun id claim => Or.inl (mem_unclaim.mp claim).1,
      fun other id different => mem_unclaim_other different, fun _ => Or.inr rfl⟩

theorem waits_clear (elsewhere : id ∉ ids) :
    (db.apply (.clear session ids)).waits id = db.waits id := by
  have same : (db.apply (.clear session ids)).marked id = db.marked id := by
    refine marked_map rfl (fun slot => ?_) id fun slot named => ?_
    · split <;> rfl
    · rw [if_neg (named ▸ elsewhere)]
  rw [waits, same]
  rfl

theorem waits_send {digest : Digest} (elsewhere : id ∉ digest.slotIds) :
    (db.apply (.send digest)).waits id = db.waits id := by
  rw [waits, announcements_send, if_neg elsewhere]
  rfl

end DigestDb

theorem digestContract_steady : digestContract.Steady digestStore where
  drift _ _ consistent :=
    ⟨consistent.past, consistent.learners, fun straight =>
      have orderly := consistent.orderly straight
      ⟨⟨orderly.once, orderly.fresh⟩, orderly.owner, orderly.waiting, orderly.current⟩⟩
  close session _ db consistent := ⟨consistent, .refl session db⟩

/-! ## What the programs do -/

section Programs

open Contract DigestDb

variable {permits : Unit -> DigestDb -> Prop} {session : Nat} {db : DigestDb} {id : RowId}
  {ids rest : List RowId}

private abbrev anyDigests (_ : DigestDb) : Prop := True

private theorem stable_anyDigests (session : Nat) :
    Stable digestContract digestStore session [] anyDigests :=
  Stable.const session [] True

theorem stable_absent (minted : id.minter = some session) :
    Stable digestContract digestStore session [] (Absent id) := by
  rintro before after absent ⟨-, -, ⟨change, rfl⟩ | ⟨other, theirs, different, -, respects⟩⟩
  · exact absent
  · intro slot member named
    rcases respects.rows slot member with theirs | ⟨old, there, same⟩
    · rw [named, minted] at theirs
      exact different (Option.some.inj theirs).symm
    · exact absent old there (same.trans named)

theorem stable_untouched (minted : id.minter = some session) :
    Stable digestContract digestStore session [] (Untouched id) := by
  rintro before after untouched ⟨-, -, ⟨change, rfl⟩ | ⟨other, theirs, different, -, respects⟩⟩
  · exact ⟨untouched.unmarked, untouched.unclaimed, untouched.unannounced⟩
  · refine ⟨?_, fun one claim => ?_, ?_⟩
    · by_contra marked
      rcases respects.marks id (Bool.of_not_eq_false marked) with before | theirs
      · rw [untouched.unmarked] at before
        cases before
      · rw [minted] at theirs
        exact different (Option.some.inj theirs).symm
    · by_cases mine : one = other
      · subst mine
        rcases respects.claims id claim with before | marked
        · exact untouched.unclaimed one before
        · rw [untouched.unmarked] at marked
          cases marked
      · exact untouched.unclaimed one ((respects.others one id mine).mp claim)
    · rcases respects.announces id with claim | same
      · exact absurd claim (untouched.unclaimed other)
      · exact same.trans untouched.unannounced

/-- What a run has read and not cleared, and what of it is still to be announced. -/
structure Carries (session : Nat) (ids rest : List RowId) (db : DigestDb) : Prop where
  holds : Holds session ids db
  covers : ∀ id, id ∈ rest -> id ∈ ids
  unsent : Unsent rest db

theorem stable_carries : Stable digestContract digestStore session []
    (Carries session ids rest) := by
  rintro before after carries
    ⟨consistent, -, ⟨change, rfl⟩ | ⟨other, theirs, different, -, respects⟩⟩
  · exact ⟨carries.holds, carries.covers, carries.unsent⟩
  · refine ⟨fun id listed => ?_, carries.covers, fun straight id listed => ?_⟩
    · exact (respects.others session id (Ne.symm different)).mpr (carries.holds id listed)
    · -- what this run has claimed no other run has
      have earlier := respects.straight straight
      have mine := carries.holds id (carries.covers id listed)
      have theirs : (other, id) ∉ before.claimed := fun claim =>
        different ((consistent.orderly earlier).owner other session id claim mine)
      rcases waits_iff.mp (carries.unsent earlier id listed) with ⟨marked, none_yet⟩
      refine waits_iff.mpr ⟨(respects.keeps id marked).resolve_right theirs, ?_⟩
      exact ((respects.announces id).resolve_left theirs).trans none_yet

/-- No slot is in the mails of two learners. -/
def Apart (groups : List (RowId × List AssignedSlot)) : Prop :=
  groups.Pairwise fun first second => ∀ id, id ∈ slotIds first.2 -> id ∉ slotIds second.2

def listedIds (groups : List (RowId × List AssignedSlot)) : List RowId :=
  groups.flatMap fun group => slotIds group.2

theorem safe_clear {lessons : List AssignedSlot} {groups : List (RowId × List AssignedSlot)}
    (apart : ∀ id, id ∈ slotIds lessons -> id ∉ listedIds groups)
    (carries : Carries session (slotIds lessons ++ listedIds groups) (listedIds groups) db)
    (next : ∀ now, Carries session (listedIds groups) (listedIds groups) now ->
      digestContract.Safe digestStore permits session (digestLearners session groups) [] [] now) :
    digestContract.Safe digestStore permits session
      (statement (fun _ => [.clear session (slotIds lessons)]) fun _ =>
        digestLearners session groups) [] [] db := by
  refine Safe.call _ stable_carries carries (fun now carries good _ _ => ?_)
    fun now carries good _ _ => next _ ?_
  · exact apply_clear good fun id listed => carries.holds id (List.mem_append_left _ listed)
  · have elsewhere : ∀ id, id ∈ listedIds groups -> id ∉ slotIds lessons :=
      fun id listed both => apart id both listed
    refine ⟨fun id listed => ?_, fun _ => id, fun straight id listed => ?_⟩
    · refine mem_unclaim.mpr ⟨carries.holds id (List.mem_append_right _ listed), fun own => ?_⟩
      exact elsewhere id listed own.2
    · exact (waits_clear (elsewhere id listed)).trans (carries.unsent straight id listed)

theorem safe_digestLearners (groups : List (RowId × List AssignedSlot)) (apart : Apart groups)
    (db : DigestDb) (carries : Carries session (listedIds groups) (listedIds groups) db) :
    digestContract.Safe digestStore permits session (digestLearners session groups) [] [] db := by
  induction groups generalizing db with
  | nil => trivial
  | cons group rest extend =>
    rcases group with ⟨learnerId, lessons⟩
    rcases List.pairwise_cons.mp apart with ⟨first, others⟩
    have disjoint : ∀ id, id ∈ slotIds lessons -> id ∉ listedIds rest := by
      intro id mine listed
      rcases List.mem_flatMap.mp listed with ⟨group, member, theirs⟩
      exact first group member id mine theirs
    have split_ : listedIds ((learnerId, lessons) :: rest) =
        slotIds lessons ++ listedIds rest := List.flatMap_cons
    rw [split_] at carries
    refine Safe.call _ stable_carries carries (fun now _ good _ _ => ⟨good, .refl session now⟩)
      fun now carries _ _ _ => ?_
    have later : ∀ now : DigestDb, Carries session (slotIds lessons ++ listedIds rest)
        (slotIds lessons ++ listedIds rest) now ->
          Carries session (slotIds lessons ++ listedIds rest) (listedIds rest) now :=
      fun now carries => ⟨carries.holds, fun id listed => List.mem_append_right _ listed,
        fun straight id listed => carries.unsent straight id (List.mem_append_right _ listed)⟩
    dsimp only
    split
    · exact safe_clear disjoint (later _ carries) (extend others)
    · next email _ =>
      refine Safe.call _ stable_carries carries (fun now carries good _ sent => ?_)
        fun now carries _ _ sent => ?_
      · cases sent with
        | true =>
          exact @apply_send now session good (buildEmail learnerId email lessons)
            (fun id listed => carries.holds id (List.mem_append_left _ listed))
            fun straight id listed => carries.unsent straight id (List.mem_append_left _ listed)
        | false =>
          exact apply_release good fun straight id listed =>
            carries.unsent straight id (List.mem_append_left _ listed)
      · cases sent with
        | true =>
          refine safe_clear disjoint ⟨carries.holds, fun id listed =>
            List.mem_append_right _ listed, fun straight id listed => ?_⟩ (extend others)
          exact (waits_send fun both => disjoint id both listed).trans
            (carries.unsent straight id (List.mem_append_right _ listed))
        | false =>
          refine extend others _ ⟨fun id listed => ?_, fun _ => id, fun straight id listed => ?_⟩
          · refine mem_unclaim.mpr ⟨carries.holds id (List.mem_append_right _ listed), ?_⟩
            exact fun own => disjoint id own.2 listed
          · exact carries.unsent straight id (List.mem_append_right _ listed)

theorem mem_pendingRows {rank : RowId -> Nat} {slot : AssignedSlot} :
    slot ∈ pendingRows rank db <-> slot ∈ db.slots ∧ slot.notifyPending = true := by
  rw [pendingRows, List.mem_insertionSort, List.mem_filter]

theorem listedIds_byLearner (rows : List AssignedSlot) {id : RowId} :
    id ∈ listedIds (byLearner rows) <-> id ∈ slotIds rows := by
  rw [listedIds, byLearner, List.mem_flatMap, slotIds, List.mem_map]
  constructor
  · rintro ⟨group, member, listed⟩
    rcases List.mem_map.mp member with ⟨learnerId, _, rfl⟩
    rcases List.mem_map.mp listed with ⟨slot, mine, named⟩
    exact ⟨slot, List.mem_of_mem_filter mine, named⟩
  · rintro ⟨slot, member, named⟩
    refine ⟨(slot.learnerAccountId, _), List.mem_map_of_mem (List.mem_dedup.mpr
      (List.mem_map_of_mem member)), ?_⟩
    refine List.mem_map.mpr ⟨slot, List.mem_filter.mpr ⟨member, ?_⟩, named⟩
    exact decide_eq_true rfl

theorem apart_byLearner {rows : List AssignedSlot}
    (learners : ∀ one, one ∈ rows -> ∀ other, other ∈ rows -> one.id = other.id ->
      one.learnerAccountId = other.learnerAccountId) : Apart (byLearner rows) := by
  rw [Apart, byLearner, List.pairwise_map]
  refine List.Pairwise.imp ?_ (List.nodup_dedup _)
  intro one other different id mine theirs
  rcases List.mem_map.mp mine with ⟨slot, member, named⟩
  rcases List.mem_map.mp theirs with ⟨otherSlot, memberOther, namedOther⟩
  rw [List.mem_filter, decide_eq_true_eq] at member memberOther
  refine different ?_
  rw [← member.2, ← memberOther.2]
  exact learners slot member.1 otherSlot memberOther.1 (named.trans namedOther.symm)

theorem safe_digestRun (rank : RowId -> Nat) :
    digestContract.Safe digestStore permits session (digestRun rank session) [] [] db := by
  have marked : ∀ (now : DigestDb) id, id ∈ slotIds (pendingRows rank now) ->
      now.marked id = true := by
    intro now id listed
    rcases List.mem_map.mp listed with ⟨slot, member, named⟩
    rcases mem_pendingRows.mp member with ⟨there, notified⟩
    exact marked_iff.mpr ⟨slot, there, named, notified⟩
  refine Safe.call anyDigests (stable_anyDigests session) trivial
    (fun now _ good _ _ => apply_claim good (marked now)) fun now _ good _ _ => ?_
  dsimp only
  split
  · trivial
  · refine safe_digestLearners _ (apart_byLearner fun one member other memberOther named => ?_) _
      ⟨fun id listed => ?_, fun _ => id, fun straight id listed => ?_⟩
    · exact DigestDb.Consistent.learners good one (mem_pendingRows.mp member).1 other
        (mem_pendingRows.mp memberOther).1 named
    · rw [listedIds_byLearner] at listed
      exact List.mem_append_left _ (List.mem_map_of_mem listed)
    · rw [listedIds_byLearner] at listed
      rcases Bool.or_eq_false_iff.mp straight.1 with ⟨before, apart⟩
      rw [List.any_eq_false] at apart
      refine waits_iff.mpr ⟨marked now id listed, ?_⟩
      refine (DigestDb.Consistent.orderly good ⟨before, straight.2⟩).waiting id
        (marked now id listed) fun one claim => apart id listed ?_
      exact decide_eq_true (List.mem_map_of_mem (f := Prod.snd) claim)

theorem safe_assignDirect (minted : id.minter = some session) (request : AssignDirect)
    (absent : Absent id db) (untouched : Untouched id db) :
    digestContract.Safe digestStore permits session (assignDirect id request) [] [] db := by
  have both : Stable digestContract digestStore session [] fun db =>
      Absent id db ∧ Untouched id db :=
    fun before after start disturbed => ⟨stable_absent minted before after start.1 disturbed,
      stable_untouched minted before after start.2 disturbed⟩
  refine Safe.call _ both ⟨absent, untouched⟩ (fun now fresh good _ accepted => ?_)
    fun now fresh _ _ accepted => ?_
  · cases accepted with
    | true => exact apply_assign good fresh.1 rfl rfl minted
    | false => exact ⟨good, .refl session now⟩
  · cases accepted with
    | false => trivial
    | true =>
      have fresh : Untouched id (digestStore.applyAll now [.assign ⟨id, request.teacherAccountId,
          request.learnerAccountId, request.startAt, request.durationMinutes, false, none⟩]) :=
        ⟨(marked_assign rfl id).trans fresh.2.unmarked, fresh.2.unclaimed,
          fresh.2.unannounced⟩
      refine Safe.call _ (stable_untouched minted) fresh
        (fun now _ good _ _ => ⟨good, .refl session now⟩) fun now fresh _ _ limited => ?_
      cases limited with
      | false => trivial
      | true =>
        exact Safe.call _ (stable_untouched minted) fresh
          (fun now fresh good _ _ => apply_mark good fresh minted) fun _ _ _ _ _ => trivial

theorem safe_cancelSlot (id : RowId) :
    digestContract.Safe digestStore permits session (cancelSlot id) [] [] db :=
  Safe.call anyDigests (stable_anyDigests session) trivial
    (fun _ _ good _ _ => apply_cancel good id) fun _ _ _ _ _ => trivial

end Programs

/-- Where no run reads what another has read and not cleared, and no slot is cancelled while it
waits for its digest or marked once it is cancelled, every slot is announced at most once and none
after it was cancelled. -/
theorem announced {rank : RowId -> Nat} {emails : List (RowId × String)}
    {requests : Nat -> DigestRequest} {last : DigestState}
    (reached : Reaches digestStore (fun _ _ => True) (digestOpening rank emails requests) last)
    (straight : last.db.Straight) : Announced last.db := by
  have start : (DigestDb.opening emails).Consistent := by
    refine ⟨fun _ member => absurd member List.not_mem_nil,
      fun _ member => absurd member List.not_mem_nil, fun _ => ⟨⟨fun _ => Nat.zero_le _,
        fun _ member => absurd member List.not_mem_nil⟩, fun _ _ _ claim =>
          absurd claim List.not_mem_nil, fun _ _ _ => rfl,
        fun _ member => absurd member List.not_mem_nil⟩⟩
  have sound : Contract.Sound digestContract digestStore (fun _ _ => True)
      (digestOpening rank emails requests) := by
    refine Contract.Sound.start start fun session => ?_
    cases requests session with
    | assign request =>
      exact safe_assignDirect rfl request (fun _ member => absurd member List.not_mem_nil)
        ⟨rfl, fun _ => List.not_mem_nil, rfl⟩
    | cancel id => exact safe_cancelSlot id
    | run => exact safe_digestRun rank
  exact ((sound.reaches digestContract_steady reached).1.good.orderly straight).toAnnounced

/-- A lesson is assigned over the limit; two runs; the lesson is cancelled. -/
private def hourly : Nat -> DigestRequest
  | 0 => .assign ⟨.seeded 1, .seeded 2, 100, 60⟩
  | 1 => .run
  | 2 => .run
  | _ => .cancel (.minted 0 0)

private def inbox : List (RowId × String) := [(.seeded 2, "learner@example.com")]

private def noRank (_ : RowId) : Nat := 0

theorem announced_in_turn :
    ∃ last : DigestState, last.db.announcements (.minted 0 0) = 1 ∧ Announced last.db := by
  rcases exists_of_play digestStore (digestOpening noRank inbox hourly)
    (Event.steps 0 3 true ++ Event.steps 1 4 true ++ Event.steps 2 1 true ++
      Event.steps 3 1 true)
    (fun db => db.announcements (.minted 0 0) = 1 ∧ db.overlapped = false ∧ db.stale = false)
    (by decide +kernel) with ⟨last, reached, told, straight⟩
  exact ⟨last, told, announced reached straight⟩

/-- The second run reads before the first has cleared; or the lesson is cancelled before a run. -/
theorem announced_twice_or_stale :
    (∃ last, Reaches digestStore (fun _ _ => True) (digestOpening noRank inbox hourly) last ∧
        last.db.announcements (.minted 0 0) = 2) ∧
      ∃ last, Reaches digestStore (fun _ _ => True) (digestOpening noRank inbox hourly) last ∧
        ¬ Announced last.db := by
  constructor
  · exact exists_of_play digestStore (digestOpening noRank inbox hourly)
      (Event.steps 0 3 true ++ Event.steps 1 1 true ++ Event.steps 2 1 true ++
        Event.steps 1 3 true ++ Event.steps 2 3 true)
      (fun db => db.announcements (.minted 0 0) = 2) (by decide +kernel)
  · rcases exists_of_play digestStore (digestOpening noRank inbox hourly)
      (Event.steps 0 3 true ++ Event.steps 3 1 true ++ Event.steps 1 4 true)
      (fun db => ∃ slot, slot ∈ db.slots ∧ slot.cancelledAt = some 0 ∧
        ∃ digest, digest ∈ db.digests ∧ slot.id ∈ digest.slotIds)
      (by decide +kernel) with ⟨last, reached, slot, member, cancelled, digest, sent, listed⟩
    refine ⟨last, reached, fun law => ?_⟩
    exact Nat.not_lt_zero _ (law.fresh slot member 0 cancelled digest sent listed)

end DirectDigest

end LevelChannel
