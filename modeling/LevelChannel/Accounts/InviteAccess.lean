import Mathlib.Data.List.Infix
import Mathlib.Logic.Function.Basic
import LevelChannel.Tables.Log
import LevelChannel.Schema.Catalog

namespace LevelChannel

open Tables

namespace InviteAccess

/-!
# What an invite grants

An invite names tariffs and packages that the learner is to see.  Redeeming it binds the learner
and then grants one after the other in the same transaction.  A trigger refuses what is gone or
has another owner, and the loop means to skip what is refused: it looks for some names in the
message.  The trigger's messages contain none of them, and it never asks whether something has
been archived.
-/

/-! ## Rows -/

/-- What can be granted: the two kinds have a table of offers and one of access each. -/
inductive Offer where
  | tariff
  | package
  deriving DecidableEq, Repr

/-- A row of `pricing_tariffs` or `lesson_packages`. -/
structure OfferRow where
  id : RowId
  teacherId : Option RowId
  isActive : Bool
  deletedAt : Option Nat
  deriving DecidableEq

/-- A row of `learner_tariff_access` or `learner_package_access`; only the latter has a
`priority`. -/
structure AccessRow where
  teacherId : RowId
  learnerAccountId : RowId
  offerId : RowId
  overrideAmountKopecks : Option Nat
  priority : Nat
  grantedAt : Nat
  grantedByAccountId : Option RowId
  revokedAt : Option Nat
  deriving DecidableEq

def AccessRow.key (row : AccessRow) : RowId × RowId × RowId :=
  (row.teacherId, row.learnerAccountId, row.offerId)

/-- A row of `teacher_invites`. -/
structure InviteRow where
  id : RowId
  teacherAccountId : RowId
  expiresAt : Nat
  usedAt : Option Nat
  usedByAccountId : Option RowId
  revokedAt : Option Nat
  defaultPaymentMethod : PaymentMethod
  defaultTariffIds : List RowId
  defaultPackageIds : List RowId
  teacherNoteSeed : Option String
  deriving DecidableEq

def InviteRow.defaults (invite : InviteRow) : Offer -> List RowId
  | .tariff => invite.defaultTariffIds
  | .package => invite.defaultPackageIds

/-- A row of `learner_teacher_links`. -/
structure LinkRow where
  learnerAccountId : RowId
  teacherAccountId : RowId
  linkedAt : Nat
  unlinkedAt : Option Nat
  viaInviteId : Option RowId
  teacherNote : Option String
  deriving DecidableEq

def LinkRow.key (row : LinkRow) : RowId × RowId :=
  (row.learnerAccountId, row.teacherAccountId)

/-- A row of `learner_billing_preferences`. -/
structure PreferenceRow where
  teacherAccountId : RowId
  learnerAccountId : RowId
  paymentMethod : PaymentMethod
  updatedByAccountId : Option RowId
  deriving DecidableEq

def PreferenceRow.key (row : PreferenceRow) : RowId × RowId :=
  (row.teacherAccountId, row.learnerAccountId)

structure AccountRow where
  id : RowId
  assignedTeacherId : Option RowId
  deriving DecidableEq

structure InviteDb where
  clock : Nat
  accounts : List AccountRow
  teachers : List RowId
  invites : List InviteRow
  links : List LinkRow
  preferences : List PreferenceRow
  offers : Offer -> List OfferRow
  access : Offer -> List AccessRow

namespace InviteDb

variable (db : InviteDb)

def invite? (id : RowId) : Option InviteRow :=
  get InviteRow.id db.invites id

def link? (learnerAccountId teacherAccountId : RowId) : Option LinkRow :=
  get LinkRow.key db.links (learnerAccountId, teacherAccountId)

def preference? (teacherAccountId learnerAccountId : RowId) : Option PreferenceRow :=
  get PreferenceRow.key db.preferences (teacherAccountId, learnerAccountId)

def offer? (offer : Offer) (id : RowId) : Option OfferRow :=
  get OfferRow.id (db.offers offer) id

def access? (offer : Offer) (key : RowId × RowId × RowId) : Option AccessRow :=
  get AccessRow.key (db.access offer) key

/-- The invite, if the update of the redeeming statement reaches it. -/
def redeemable (inviteId : RowId) : Option InviteRow :=
  (db.invite? inviteId).filter fun row =>
    row.usedAt.isNone && row.revokedAt.isNone && decide (db.clock < row.expiresAt) &&
      decide (row.teacherAccountId ∈ db.teachers)

end InviteDb

/-- The state of a transaction: what it sees, and whether a statement has failed. -/
structure Tx where
  db : InviteDb
  aborted : Bool

def Tx.run (tx : Tx) (statement : InviteDb -> Except String InviteDb) : Except String Unit × Tx :=
  if tx.aborted then
    (.error "current transaction is aborted, commands ignored until end of transaction block", tx)
  else
    match statement tx.db with
    | .error message => (.error message, { tx with aborted := true })
    | .ok db => (.ok (), { tx with db := db })

/-- `commit`, which undoes everything if a statement has failed. -/
def Tx.commit (tx : Tx) (before : InviteDb) : InviteDb :=
  if tx.aborted then before else tx.db

section Grant

-- how the database prints an identifier
variable (text : RowId -> String)

def Offer.noun : Offer -> String
  | .tariff => "tariff"
  | .package => "package"

/-- `learner_tariff_access_invariants` and `learner_package_access_invariants`, for a row that is
not only being revoked. -/
def invariants (offer : Offer) (db : InviteDb) (row : AccessRow) : Except String Unit :=
  match (db.offer? offer row.offerId).bind OfferRow.teacherId with
  | none => .error (offer.noun ++ " " ++ text row.offerId ++ " not found")
  | some owner =>
    if owner ≠ row.teacherId then
      .error (offer.noun ++ " " ++ text row.offerId ++ " owned by " ++ text owner ++ " not " ++
        text row.teacherId)
    else if (db.link? row.learnerAccountId row.teacherId).any fun link =>
        link.unlinkedAt.isNone then .ok ()
    else
      .error ("no active link teacher=" ++ text row.teacherId ++ " learner=" ++
        text row.learnerAccountId)

/-- The row that `insert .. on conflict do update` leaves. -/
def grantedRow (now : Nat) (teacherId learnerAccountId offerId : RowId) (old : Option AccessRow) :
    AccessRow where
  teacherId := teacherId
  learnerAccountId := learnerAccountId
  offerId := offerId
  overrideAmountKopecks := none
  priority := 0
  grantedAt :=
    match old with
    | none => now
    | some row => if row.revokedAt.isSome then now else row.grantedAt
  grantedByAccountId := some teacherId
  revokedAt := none

/-- `grantLearnerTariffAccess` and `grantLearnerPackageAccess`, as the redeeming calls them. -/
def grantAccess (offer : Offer) (teacherId learnerAccountId offerId : RowId) (db : InviteDb) :
    Except String InviteDb :=
  let row := grantedRow db.clock teacherId learnerAccountId offerId
    (db.access? offer (teacherId, learnerAccountId, offerId))
  match invariants text offer db row with
  | .error message => .error message
  | .ok () =>
    .ok { db with
      access := Function.update db.access offer (upsert AccessRow.key (db.access offer) row) }

end Grant

/-- `message.includes(..)` -/
def includes (message part : String) : Bool :=
  decide (part.toList <:+: message.toList)

/-- The names that `isTariffPackageGrantSkippable` looks for. -/
def skippableNames : List String :=
  ["learner_tariff_access_invariants", "learner_package_access_invariants",
    "learner_tariff_not_owned_or_archived", "learner_package_not_owned_or_archived",
    "learner_link_not_active"]

def isTariffPackageGrantSkippable (message : String) : Bool :=
  skippableNames.any (includes message)

structure RedeemReply where
  teacherAccountId : RowId
  defaultPaymentMethod : PaymentMethod
  seededPrefInserted : Bool
  seededTariffIds : List RowId
  seededPackageIds : List RowId
  deriving DecidableEq

def RedeemReply.seeded (reply : RedeemReply) : Offer -> List RowId
  | .tariff => reply.seededTariffIds
  | .package => reply.seededPackageIds

def linkedRow (now : Nat) (learnerAccountId : RowId) (invite : InviteRow) (old : Option LinkRow) :
    LinkRow where
  learnerAccountId := learnerAccountId
  teacherAccountId := invite.teacherAccountId
  linkedAt :=
    match old with
    | none => now
    | some row => if row.unlinkedAt.isSome then now else row.linkedAt
  unlinkedAt := none
  viaInviteId := some ((old.bind LinkRow.viaInviteId).getD invite.id)
  teacherNote := (old.bind LinkRow.teacherNote).or invite.teacherNoteSeed

def bindRows (learnerAccountId : RowId) (invite : InviteRow) (db : InviteDb) : InviteDb :=
  { db with
    invites := db.invites.map fun row =>
      if row.id = invite.id then
        { row with usedAt := some db.clock, usedByAccountId := some learnerAccountId }
      else row
    links := upsert LinkRow.key db.links (linkedRow db.clock learnerAccountId invite
      (db.link? learnerAccountId invite.teacherAccountId))
    accounts := db.accounts.map fun row =>
      if row.id = learnerAccountId then
        { row with assignedTeacherId := some invite.teacherAccountId }
      else row
    preferences :=
      if (db.preference? invite.teacherAccountId learnerAccountId).isSome then db.preferences
      else
        (Change.insert ⟨invite.teacherAccountId, learnerAccountId, invite.defaultPaymentMethod,
          some invite.teacherAccountId⟩).apply PreferenceRow.key db.preferences }

def bindLearner (learnerAccountId : RowId) (invite : InviteRow) (db : InviteDb) :
    Except String InviteDb :=
  if db.accounts.any fun row => row.id = learnerAccountId then
    .ok (bindRows learnerAccountId invite db)
  else .error "violates foreign key constraint"

section Redeem

variable (text : RowId -> String)

/-- The loop that grants one offer after the other; what is refused and skippable is skipped. -/
def seed (offer : Offer) (teacherId learnerAccountId : RowId) :
    List RowId -> Tx -> Except String (List RowId) × Tx
  | [], tx => (.ok [], tx)
  | id :: rest, tx =>
    match tx.run (grantAccess text offer teacherId learnerAccountId id) with
    | (.ok (), tx) =>
      match seed offer teacherId learnerAccountId rest tx with
      | (.ok seeded, tx) => (.ok (id :: seeded), tx)
      | failed => failed
    | (.error message, tx) =>
      if isTariffPackageGrantSkippable message then seed offer teacherId learnerAccountId rest tx
      else (.error message, tx)

/-- `redeemInviteAndBindLearnerAtomic`: the answer, or the error that is thrown once everything
has been rolled back, and the database afterwards. -/
def redeemInviteAndBindLearnerAtomic (inviteId learnerAccountId : RowId) (db : InviteDb) :
    Except String (Option RedeemReply) × InviteDb :=
  match db.redeemable inviteId with
  | none => (.ok none, db)
  | some invite =>
    match (Tx.mk db false).run (bindLearner learnerAccountId invite) with
    | (.error message, _) => (.error message, db)
    | (.ok (), tx) =>
      match seed text .tariff invite.teacherAccountId learnerAccountId invite.defaultTariffIds
          tx with
      | (.error message, _) => (.error message, db)
      | (.ok seededTariffIds, tx) =>
        match seed text .package invite.teacherAccountId learnerAccountId
            invite.defaultPackageIds tx with
        | (.error message, _) => (.error message, db)
        | (.ok seededPackageIds, tx) =>
          (.ok (some
            { teacherAccountId := invite.teacherAccountId
              defaultPaymentMethod := invite.defaultPaymentMethod
              seededPrefInserted :=
                (db.preference? invite.teacherAccountId learnerAccountId).isNone
              seededTariffIds := seededTariffIds
              seededPackageIds := seededPackageIds }), tx.commit db)

end Redeem

def InviteDb.stillOffered (db : InviteDb) (offer : Offer) (teacherId id : RowId) : Bool :=
  (db.offer? offer id).any fun row =>
    row.teacherId = some teacherId && row.isActive && row.deletedAt.isNone

/-- The learner is bound, and has been granted what the reply says, which is what is still
offered. -/
structure SeedsValid (before after : InviteDb) (invite : InviteRow) (learnerAccountId : RowId)
    (reply : RedeemReply) : Prop where
  used : (after.invite? invite.id).any fun row =>
    row.usedAt = some before.clock && row.usedByAccountId = some learnerAccountId
  linked : (after.link? learnerAccountId invite.teacherAccountId).any fun row =>
    row.unlinkedAt.isNone
  preferred : after.preference? invite.teacherAccountId learnerAccountId =
    (before.preference? invite.teacherAccountId learnerAccountId).or
      (some ⟨invite.teacherAccountId, learnerAccountId, invite.defaultPaymentMethod,
        some invite.teacherAccountId⟩)
  seeded : ∀ offer id, id ∈ reply.seeded offer <-> id ∈ invite.defaults offer ∧
    before.stillOffered offer invite.teacherAccountId id = true
  granted : ∀ offer id, id ∈ reply.seeded offer ->
    (after.access? offer (invite.teacherAccountId, learnerAccountId, id)).any fun row =>
      row.revokedAt.isNone
  others : ∀ offer key, (∀ id, id ∈ reply.seeded offer ->
    key ≠ (invite.teacherAccountId, learnerAccountId, id)) ->
      after.access? offer key = before.access? offer key

section Trigger

variable {text : RowId -> String} {offer : Offer} {db : InviteDb}
  {teacherId learnerAccountId : RowId}

theorem not_skippable {message : String} (plain : '_' ∉ message.toList) :
    isTariffPackageGrantSkippable message = false := by
  have scored : ∀ name, name ∈ skippableNames -> '_' ∈ name.toList := by decide
  rw [isTariffPackageGrantSkippable, List.any_eq_false]
  intro name listed found
  rw [includes, decide_eq_true_eq] at found
  exact plain (found.subset (scored name listed))

theorem invariants_message (hex : ∀ id, '_' ∉ (text id).toList) {row : AccessRow}
    {message : String} (raised : invariants text offer db row = .error message) :
    '_' ∉ message.toList := by
  have noun : '_' ∉ offer.noun.toList := by cases offer <;> decide
  rw [invariants] at raised
  split at raised
  · injection raised with raised
    subst raised
    simp [noun, hex]
  · split at raised
    · injection raised with raised
      subst raised
      simp [noun, hex]
    · split at raised
      · cases raised
      · injection raised with raised
        subst raised
        simp [hex]

/-- The offer belongs to the teacher; whether it is archived the trigger does not ask. -/
def InviteDb.owned (db : InviteDb) (offer : Offer) (teacherId id : RowId) : Prop :=
  (db.offer? offer id).bind OfferRow.teacherId = some teacherId

instance (db : InviteDb) (offer : Offer) (teacherId id : RowId) :
    Decidable (db.owned offer teacherId id) :=
  inferInstanceAs (Decidable (_ = _))

def InviteDb.bound (db : InviteDb) (learnerAccountId teacherId : RowId) : Bool :=
  (db.link? learnerAccountId teacherId).any fun link => link.unlinkedAt.isNone

theorem grantAccess_owned (bound : db.bound learnerAccountId teacherId = true) {id : RowId}
    (owned : db.owned offer teacherId id) :
    grantAccess text offer teacherId learnerAccountId id db =
      .ok { db with
        access := Function.update db.access offer (upsert AccessRow.key (db.access offer)
          (grantedRow db.clock teacherId learnerAccountId id
            (db.access? offer (teacherId, learnerAccountId, id)))) } := by
  have passes : invariants text offer db (grantedRow db.clock teacherId learnerAccountId id
      (db.access? offer (teacherId, learnerAccountId, id))) = .ok () := by
    rw [InviteDb.owned] at owned
    rw [InviteDb.bound] at bound
    simp [invariants, grantedRow, owned, bound]
  rw [grantAccess]
  simp only [passes]

theorem grantAccess_foreign (hex : ∀ id, '_' ∉ (text id).toList) {id : RowId}
    (foreign : ¬ db.owned offer teacherId id) :
    ∃ message, grantAccess text offer teacherId learnerAccountId id db = .error message ∧
      isTariffPackageGrantSkippable message = false := by
  cases raised : invariants text offer db (grantedRow db.clock teacherId learnerAccountId id
      (db.access? offer (teacherId, learnerAccountId, id))) with
  | error message =>
    refine ⟨message, ?_, not_skippable (invariants_message hex raised)⟩
    rw [grantAccess]
    simp only [raised]
  | ok passed =>
    rw [invariants] at raised
    split at raised
    · cases raised
    · next owner found =>
      split at raised
      · cases raised
      · next same =>
        rw [ne_eq, not_not] at same
        exact absurd (found.trans (congrArg some same)) foreign

/-- What a loop that skips nothing leaves: the tables it does not write, and the access it
grants. -/
structure Seeds (offer : Offer) (teacherId learnerAccountId : RowId) (ids : List RowId)
    (before after : InviteDb) : Prop where
  clock : after.clock = before.clock
  invites : after.invites = before.invites
  links : after.links = before.links
  preferences : after.preferences = before.preferences
  offers : after.offers = before.offers
  granted : ∀ id, id ∈ ids ->
    (after.access? offer (teacherId, learnerAccountId, id)).any (fun row =>
      row.revokedAt.isNone) = true
  others : ∀ other key, (other = offer -> ∀ id, id ∈ ids ->
    key ≠ (teacherId, learnerAccountId, id)) -> after.access? other key = before.access? other key

theorem seed_owned (ids : List RowId) (db : InviteDb)
    (bound : db.bound learnerAccountId teacherId = true)
    (owned : ∀ id, id ∈ ids -> db.owned offer teacherId id) :
    ∃ after, seed text offer teacherId learnerAccountId ids ⟨db, false⟩ =
        (.ok ids, ⟨after, false⟩) ∧ Seeds offer teacherId learnerAccountId ids db after := by
  induction ids generalizing db with
  | nil =>
    exact ⟨db, rfl, rfl, rfl, rfl, rfl, rfl, fun _ member => absurd member List.not_mem_nil,
      fun _ _ _ => rfl⟩
  | cons id rest extend =>
    let row := grantedRow db.clock teacherId learnerAccountId id
      (db.access? offer (teacherId, learnerAccountId, id))
    let next : InviteDb := { db with
      access := Function.update db.access offer (upsert AccessRow.key (db.access offer) row) }
    rcases extend next bound fun id member => owned id (List.mem_cons_of_mem _ member) with
      ⟨after, ran, seeds⟩
    have first := @grantAccess_owned text offer db teacherId learnerAccountId bound id
      (owned id List.mem_cons_self)
    have reads : ∀ other key, next.access? other key =
        if other = offer ∧ (teacherId, learnerAccountId, id) = key then some row
        else db.access? other key := by
      intro other key
      show get AccessRow.key (Function.update db.access offer _ other) key = _
      by_cases same : other = offer
      · subst same
        rw [Function.update_self, get_upsert]
        by_cases here : (teacherId, learnerAccountId, id) = key
        · exact (if_pos here).trans (if_pos ⟨rfl, here⟩).symm
        · exact (if_neg here).trans (if_neg fun both => here both.2).symm
      · rw [Function.update_of_ne same]
        simp [same, InviteDb.access?]
    refine ⟨after, ?_, seeds.clock, seeds.invites, seeds.links, seeds.preferences, seeds.offers,
      fun other member => ?_, fun other key away => ?_⟩
    · rw [seed, Tx.run]
      simp only [first, Bool.false_eq_true, if_false]
      rw [ran]
    · by_cases again : other ∈ rest
      · exact seeds.granted other again
      · have same : other = id := (List.mem_cons.mp member).resolve_right again
        rw [seeds.others offer _ fun _ later listed clash => again ?_, reads,
          if_pos ⟨rfl, by rw [same]⟩]
        · rfl
        · injection clash with _ clash
          injection clash with _ clash
          exact clash ▸ listed
    · rw [seeds.others other key fun same later listed =>
        away same later (List.mem_cons_of_mem _ listed), reads, if_neg]
      rintro ⟨same, clash⟩
      exact away same id List.mem_cons_self clash.symm

theorem seed_foreign (hex : ∀ id, '_' ∉ (text id).toList) (ids : List RowId)
    (db : InviteDb) (bound : db.bound learnerAccountId teacherId = true)
    (foreign : ¬ ∀ id, id ∈ ids -> db.owned offer teacherId id) :
    ∃ message tx, seed text offer teacherId learnerAccountId ids ⟨db, false⟩ =
      (.error message, tx) := by
  induction ids generalizing db with
  | nil => exact absurd (fun _ member => absurd member List.not_mem_nil) foreign
  | cons id rest extend =>
    by_cases mine : db.owned offer teacherId id
    · let next : InviteDb := { db with
        access := Function.update db.access offer (upsert AccessRow.key (db.access offer)
          (grantedRow db.clock teacherId learnerAccountId id
            (db.access? offer (teacherId, learnerAccountId, id)))) }
      have later : ¬ ∀ id, id ∈ rest -> next.owned offer teacherId id := by
        intro owned
        refine foreign fun other member => ?_
        rcases List.mem_cons.mp member with rfl | listed
        · exact mine
        · exact owned other listed
      rcases extend next bound later with ⟨message, tx, ran⟩
      refine ⟨message, tx, ?_⟩
      rw [seed, Tx.run]
      simp only [grantAccess_owned bound mine, Bool.false_eq_true, if_false]
      rw [ran]
    · rcases @grantAccess_foreign text offer db teacherId learnerAccountId hex id mine with
        ⟨message, refused, thrown⟩
      refine ⟨message, ⟨db, true⟩, ?_⟩
      rw [seed, Tx.run]
      simp only [refused, Bool.false_eq_true, if_false]
      rw [if_neg]
      rw [thrown]
      exact Bool.false_ne_true

end Trigger

/-! ## Redeeming an invite -/

section Redeem

variable {text : RowId -> String} {db : InviteDb} {inviteId learnerAccountId : RowId}
  {invite : InviteRow}

theorem run_bindLearner (there : db.accounts.any (fun row => row.id = learnerAccountId) = true) :
    (Tx.mk db false).run (bindLearner learnerAccountId invite) =
      (.ok (), ⟨bindRows learnerAccountId invite db, false⟩) := by
  simp only [Tx.run, bindLearner, there, Bool.false_eq_true, if_false, if_true]

theorem bindRows_invite (found : db.invite? invite.id = some invite) :
    ((bindRows learnerAccountId invite db).invite? invite.id).any (fun row =>
      row.usedAt = some db.clock && row.usedByAccountId = some learnerAccountId) = true := by
  have kept : ∀ row : InviteRow, (if row.id = invite.id then
      { row with usedAt := some db.clock, usedByAccountId := some learnerAccountId }
      else row).id = row.id := by
    intro row
    split <;> rfl
  have read : get InviteRow.id (db.invites.map _) invite.id = (get InviteRow.id _ _).map _ :=
    get_map kept
  rw [InviteDb.invite?] at found ⊢
  rw [bindRows, read, found]
  simp

theorem bindRows_link : (bindRows learnerAccountId invite db).link? learnerAccountId
    invite.teacherAccountId = some (linkedRow db.clock learnerAccountId invite
      (db.link? learnerAccountId invite.teacherAccountId)) := by
  rw [InviteDb.link?, bindRows, get_upsert]
  exact if_pos rfl

theorem bindRows_preference :
    (bindRows learnerAccountId invite db).preference? invite.teacherAccountId learnerAccountId =
      (db.preference? invite.teacherAccountId learnerAccountId).or
        (some ⟨invite.teacherAccountId, learnerAccountId, invite.defaultPaymentMethod,
          some invite.teacherAccountId⟩) := by
  rw [InviteDb.preference?, bindRows]
  cases read : db.preference? invite.teacherAccountId learnerAccountId with
  | some row =>
    simp only [Option.isSome_some, if_true]
    exact read
  | none =>
    simp only [Option.isSome_none, Bool.false_eq_true, if_false]
    exact get_insert_self _ read

theorem bindRows_bound :
    (bindRows learnerAccountId invite db).bound learnerAccountId invite.teacherAccountId =
      true := by
  rw [InviteDb.bound, bindRows_link]
  rfl

theorem InviteDb.owned_of_stillOffered {offer : Offer} {teacherId id : RowId}
    (still : db.stillOffered offer teacherId id = true) : db.owned offer teacherId id := by
  rw [InviteDb.stillOffered, Option.any_eq_true] at still
  rcases still with ⟨row, found, offered⟩
  rw [Bool.and_eq_true, Bool.and_eq_true, decide_eq_true_eq] at offered
  rw [InviteDb.owned, found]
  exact offered.1.1

def InviteRow.fullReply (invite : InviteRow) (inserted : Bool) : RedeemReply :=
  ⟨invite.teacherAccountId, invite.defaultPaymentMethod, inserted, invite.defaultTariffIds,
    invite.defaultPackageIds⟩

theorem InviteRow.seeded_fullReply (inserted : Bool) (offer : Offer) :
    (invite.fullReply inserted).seeded offer = invite.defaults offer := by
  cases offer <;> rfl

theorem redeem_owned (there : db.accounts.any (fun row => row.id = learnerAccountId) = true)
    (found : db.redeemable inviteId = some invite)
    (owned : ∀ offer id, id ∈ invite.defaults offer -> db.owned offer invite.teacherAccountId id) :
    ∃ first second, redeemInviteAndBindLearnerAtomic text inviteId learnerAccountId db =
        (.ok (some (invite.fullReply
          (db.preference? invite.teacherAccountId learnerAccountId).isNone)), second) ∧
      Seeds .tariff invite.teacherAccountId learnerAccountId invite.defaultTariffIds
          (bindRows learnerAccountId invite db) first ∧
        Seeds .package invite.teacherAccountId learnerAccountId invite.defaultPackageIds first
          second := by
  rcases @seed_owned text .tariff _ learnerAccountId invite.defaultTariffIds
      (bindRows learnerAccountId invite db) bindRows_bound (owned .tariff) with
    ⟨first, tariffs, seeds⟩
  have bound : first.bound learnerAccountId invite.teacherAccountId = true := by
    rw [InviteDb.bound, InviteDb.link?, seeds.links]
    exact bindRows_bound
  have mine : ∀ id, id ∈ invite.defaultPackageIds ->
      first.owned .package invite.teacherAccountId id := by
    intro id member
    rw [InviteDb.owned, InviteDb.offer?, seeds.offers]
    exact owned .package id member
  rcases @seed_owned text .package _ learnerAccountId invite.defaultPackageIds first bound mine
    with ⟨second, packages, last⟩
  refine ⟨first, second, ?_, seeds, last⟩
  rw [redeemInviteAndBindLearnerAtomic]
  simp only [found, run_bindLearner there, tariffs, packages, Tx.commit, Bool.false_eq_true,
    if_false, InviteRow.fullReply]

theorem redeem_foreign (hex : ∀ id, '_' ∉ (text id).toList)
    (there : db.accounts.any (fun row => row.id = learnerAccountId) = true)
    (found : db.redeemable inviteId = some invite)
    (foreign : ¬ ∀ offer id, id ∈ invite.defaults offer ->
      db.owned offer invite.teacherAccountId id) :
    ∃ message, redeemInviteAndBindLearnerAtomic text inviteId learnerAccountId db =
      (.error message, db) := by
  rw [redeemInviteAndBindLearnerAtomic]
  simp only [found, run_bindLearner there]
  by_cases tariffs : ∀ id, id ∈ invite.defaultTariffIds ->
      (bindRows learnerAccountId invite db).owned .tariff invite.teacherAccountId id
  · rcases @seed_owned text _ _ _ _ _ bindRows_bound tariffs with ⟨first, went, seeds⟩
    have bound : first.bound learnerAccountId invite.teacherAccountId = true := by
      rw [InviteDb.bound, InviteDb.link?, seeds.links]
      exact bindRows_bound
    have packages : ¬ ∀ id, id ∈ invite.defaultPackageIds ->
        first.owned .package invite.teacherAccountId id := by
      intro packages
      refine foreign fun offer id member => ?_
      cases offer with
      | tariff => exact tariffs id member
      | package =>
        have mine := packages id member
        rw [InviteDb.owned, InviteDb.offer?, seeds.offers] at mine
        exact mine
    rcases seed_foreign hex _ _ bound packages with ⟨message, tx, thrown⟩
    refine ⟨message, ?_⟩
    simp only [went, thrown]
  · rcases seed_foreign hex _ _ bindRows_bound tariffs with ⟨message, tx, thrown⟩
    refine ⟨message, ?_⟩
    simp only [thrown]

/-- The invite is redeemed as promised if and only if everything it names is still offered. -/
theorem seeds_valid_iff (hex : ∀ id, '_' ∉ (text id).toList)
    (there : db.accounts.any (fun row => row.id = learnerAccountId) = true)
    (found : db.redeemable inviteId = some invite) :
    (∃ reply after, redeemInviteAndBindLearnerAtomic text inviteId learnerAccountId db =
        (.ok (some reply), after) ∧ SeedsValid db after invite learnerAccountId reply) <->
      ∀ offer id, id ∈ invite.defaults offer ->
        db.stillOffered offer invite.teacherAccountId id = true := by
  constructor
  · rintro ⟨reply, after, ran, valid⟩ offer id member
    by_cases owned : ∀ offer id, id ∈ invite.defaults offer ->
        db.owned offer invite.teacherAccountId id
    · rcases @redeem_owned text _ _ _ _ there found owned with ⟨first, second, granted, _⟩
      rw [granted] at ran
      injection ran with answer _
      injection answer with answer
      injection answer with answer
      subst answer
      rw [← InviteRow.seeded_fullReply] at member
      exact ((valid.seeded offer id).mp member).2
    · rcases redeem_foreign hex there found owned with ⟨message, thrown⟩
      rw [thrown] at ran
      injection ran with answer _
      cases answer
  · intro still
    rcases @redeem_owned text _ _ _ _ there found fun offer id member =>
      InviteDb.owned_of_stillOffered (still offer id member) with
      ⟨first, second, granted, seeds, last⟩
    have same : invite.id = inviteId := key_of_get (Option.filter_eq_some_iff.mp found).1
    have held : db.invite? invite.id = some invite := by
      rw [same]
      exact (Option.filter_eq_some_iff.mp found).1
    refine ⟨_, second, granted, ?_, ?_, ?_, ?_, ?_, ?_⟩
    · rw [InviteDb.invite?, last.invites, seeds.invites]
      exact bindRows_invite held
    · rw [InviteDb.link?, last.links, seeds.links]
      exact bindRows_bound
    · rw [InviteDb.preference?, last.preferences, seeds.preferences]
      exact bindRows_preference
    · intro offer id
      rw [InviteRow.seeded_fullReply]
      exact ⟨fun member => ⟨member, still offer id member⟩, fun both => both.1⟩
    · intro offer id member
      cases offer with
      | tariff =>
        rw [last.others .tariff _ (fun clash => Offer.noConfusion clash)]
        exact seeds.granted id member
      | package => exact last.granted id member
    · intro offer key away
      have untouched : first.access? offer key = db.access? offer key :=
        seeds.others offer key fun tariff id member => away id (by rw [tariff]; exact member)
      rw [← untouched]
      exact last.others offer key fun package id member =>
        away id (by rw [package]; exact member)

private def offeredInvite : InviteRow :=
  ⟨.seeded 22, .seeded 31, 10, none, none, none, .postpaid, [.seeded 11, .seeded 14],
    [.seeded 41], none⟩

/-- Teacher 31 has invited with tariff 11 and another: 12, which they have archived since, or 13,
which by now belongs to teacher 32. -/
private def changedOffers : InviteDb where
  clock := 5
  accounts := [⟨.seeded 31, none⟩, ⟨.seeded 32, none⟩, ⟨.seeded 33, none⟩]
  teachers := [.seeded 31, .seeded 32]
  invites :=
    [⟨.seeded 20, .seeded 31, 10, none, none, none, .postpaid, [.seeded 11, .seeded 12], [], none⟩,
      ⟨.seeded 21, .seeded 31, 10, none, none, none, .postpaid, [.seeded 11, .seeded 13], [], none⟩,
      offeredInvite]
  links := []
  preferences := []
  offers
    | .tariff =>
      [⟨.seeded 11, some (.seeded 31), true, none⟩, ⟨.seeded 12, some (.seeded 31), false, some 4⟩,
        ⟨.seeded 13, some (.seeded 32), true, none⟩, ⟨.seeded 14, some (.seeded 31), true, none⟩]
    | .package => [⟨.seeded 41, some (.seeded 31), true, none⟩]
  access _ := []

private def uuidText : RowId -> String
  | .seeded number => "00000000-0000-4000-8000-0000000000" ++ String.ofList (Nat.toDigits 10 number)
  | .minted session number =>
    "00000000-0000-4000-9000-" ++ String.ofList (Nat.toDigits 10 session) ++
      String.ofList (Nat.toDigits 10 number)

private theorem plain_append {first second : String} (left : '_' ∉ first.toList)
    (right : '_' ∉ second.toList) : '_' ∉ (first ++ second).toList := by
  rw [String.toList_append, List.mem_append, not_or]
  exact ⟨left, right⟩

private theorem plain_digits (number : Nat) :
    '_' ∉ (String.ofList (Nat.toDigits 10 number)).toList := by
  rw [String.toList_ofList]
  exact Nat.underscore_not_in_toDigits

private theorem uuidText_hex : ∀ id, '_' ∉ (uuidText id).toList
  | .seeded number => plain_append (by decide) (plain_digits number)
  | .minted session number =>
    plain_append (plain_append (by decide) (plain_digits session)) (plain_digits number)

theorem seeds_valid_for_offered : ∃ reply after,
      redeemInviteAndBindLearnerAtomic uuidText (.seeded 22) (.seeded 33) changedOffers =
        (.ok (some reply), after) ∧
      SeedsValid changedOffers after offeredInvite (.seeded 33) reply :=
  (seeds_valid_iff uuidText_hex (by decide) (by decide)).mpr fun offer => by
    cases offer <;> decide

/-- The archived tariff is granted, and the foreign one costs the learner the link. -/
theorem redeem_grants_archived_throws_foreign :
    ((redeemInviteAndBindLearnerAtomic uuidText (.seeded 20) (.seeded 33)
          changedOffers).1.toOption.bind id).map RedeemReply.seededTariffIds =
        some [.seeded 11, .seeded 12] ∧
      changedOffers.stillOffered .tariff (.seeded 31) (.seeded 12) = false ∧
      (redeemInviteAndBindLearnerAtomic uuidText (.seeded 21) (.seeded 33) changedOffers).1 =
        .error ("tariff 00000000-0000-4000-8000-000000000013 owned by " ++
          "00000000-0000-4000-8000-000000000032 not 00000000-0000-4000-8000-000000000031") ∧
      (redeemInviteAndBindLearnerAtomic uuidText (.seeded 21) (.seeded 33) changedOffers).2.links =
        [] := by
  decide +kernel

end Redeem

end InviteAccess

end LevelChannel
