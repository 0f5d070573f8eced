import LevelChannel.Tables.Rows
import LevelChannel.Schema.Identifiers

namespace LevelChannel

open Tables

namespace Payments

/-!
# Idempotent replay

A request that carries an idempotency key is looked up under its route and its key.  A
record that is found there is the answer, if its body is the one that was sent now; else
the executor runs and what it returns is recorded.  The account of the session is no part
of the record, nor of what it is looked up by.
-/

inductive IdempotencyScope where
  | paymentsCreate
  | paymentsChargeToken
  deriving DecidableEq, Repr

variable {Body : Type}

structure IdempotencyOutcome (Body : Type) where
  status : Nat
  body : Body
  deriving DecidableEq

/-- A row of `idempotency_records`. -/
structure IdempotencyRecord (Body : Type) where
  scope : IdempotencyScope
  key : String
  requestHash : String
  responseStatus : Nat
  responseBody : Body
  deriving DecidableEq

def IdempotencyRecord.primaryKey (record : IdempotencyRecord Body) : IdempotencyScope × String :=
  (record.scope, record.key)

/-- `IDEMPOTENCY_KEY_PATTERN` -/
def idempotencyKeyPattern (key : String) : Bool :=
  8 ≤ key.length && key.length ≤ 128 &&
    key.toList.all fun character => character.isAlphanum || character = '_' || character = '-'

/-- A request to one of the routes, with the account of its session.  `computed` is what the
executor returns if it runs, and none if it throws; `saved` says whether the insert of the
record goes through. -/
structure IdempotentRequest (Body : Type) where
  account : RowId
  scope : IdempotencyScope
  idempotencyKey : Option String
  rawBody : String
  computed : Option (IdempotencyOutcome Body)
  saved : Bool

inductive IdempotentReply (Body : Type) where
  | json (outcome : IdempotencyOutcome Body) (replay : Bool)
  | invalidKey
  | keyReused
  | thrown
  deriving DecidableEq

/-- `sha256Hex`, and whether `storageBackend` is `postgres`. -/
structure IdempotencyConfig where
  sha256Hex : String -> String
  postgres : Bool

namespace IdempotentRequest

variable (config : IdempotencyConfig) (request : IdempotentRequest Body)

def recordKey : Option (IdempotencyScope × String) :=
  match request.idempotencyKey with
  | none => none
  | some key => if key ≠ "" ∧ config.postgres = true then some (request.scope, key) else none

/-- `withIdempotency` up to the executor: the answer, unless the executor has to run. -/
def lookup (records : List (IdempotencyRecord Body)) : Option (IdempotentReply Body) :=
  match request.idempotencyKey with
  | none => none
  | some key =>
    if key = "" then none
    else if idempotencyKeyPattern key = false then some .invalidKey
    else if config.postgres = false then none
    else
      match get IdempotencyRecord.primaryKey records (request.scope, key) with
      | none => none
      | some existing =>
        if existing.requestHash ≠ config.sha256Hex request.rawBody then some .keyReused
        else some (.json ⟨existing.responseStatus, existing.responseBody⟩ true)

/-- `insert into idempotency_records … on conflict (scope, key) do nothing` -/
def saveIdempotencyRecord (records : List (IdempotencyRecord Body))
    (record : IdempotencyRecord Body) : List (IdempotencyRecord Body) :=
  if (get IdempotencyRecord.primaryKey records record.primaryKey).isSome then records
  else (Change.insert record).apply IdempotencyRecord.primaryKey records

/-- `withIdempotency` after the executor: the records it leaves. -/
def record (records : List (IdempotencyRecord Body)) : List (IdempotencyRecord Body) :=
  match request.recordKey config, request.computed with
  | some (scope, key), some outcome =>
    if outcome.status < 500 ∧ request.saved = true then
      saveIdempotencyRecord records
        ⟨scope, key, config.sha256Hex request.rawBody, outcome.status, outcome.body⟩
    else records
  | _, _ => records

def respond : IdempotentReply Body :=
  match request.computed with
  | some outcome => .json outcome false
  | none => .thrown

end IdempotentRequest

/-- The records, the requests whose executors run, and all answers, latest first. -/
structure IdempotencyState (Body : Type) where
  records : List (IdempotencyRecord Body)
  executing : List Nat
  replies : List (Nat × IdempotentReply Body)

inductive IdempotencyEvent where
  | arrive (request : Nat)
  | finish (request : Nat)
  deriving DecidableEq

def IdempotencyEvent.request : IdempotencyEvent -> Nat
  | .arrive request => request
  | .finish request => request

namespace IdempotencyState

variable (config : IdempotencyConfig) (requests : Nat -> IdempotentRequest Body)

def empty : IdempotencyState Body := ⟨[], [], []⟩

def handle (state : IdempotencyState Body) : IdempotencyEvent -> IdempotencyState Body
  | .arrive request =>
    match (requests request).lookup config state.records with
    | some reply => { state with replies := (request, reply) :: state.replies }
    | none => { state with executing := request :: state.executing }
  | .finish request =>
    if request ∈ state.executing then
      { records := (requests request).record config state.records
        executing := state.executing.filter fun other => other ≠ request
        replies := (request, (requests request).respond) :: state.replies }
    else state

def run (events : List IdempotencyEvent) : IdempotencyState Body :=
  events.foldl (handle config requests) empty

end IdempotencyState

def IsOf (requests : Nat -> IdempotentRequest Body) (account : RowId) (request : Nat) : Bool :=
  (requests request).account = account

def seenBy (requests : Nat -> IdempotentRequest Body) (account : RowId)
    (state : IdempotencyState Body) : List (Nat × IdempotentReply Body) :=
  state.replies.filter fun entry => IsOf requests account entry.1

def eventsOf (requests : Nat -> IdempotentRequest Body) (account : RowId)
    (events : List IdempotencyEvent) : List IdempotencyEvent :=
  events.filter fun event => IsOf requests account event.request

def KeysApart (requests : Nat -> IdempotentRequest Body) (events : List IdempotencyEvent) : Prop :=
  ∀ first, first ∈ events -> ∀ second, second ∈ events ->
    (requests first.request).account ≠ (requests second.request).account ->
      (requests first.request).scope = (requests second.request).scope ->
        (requests first.request).idempotencyKey = none ∨
          (requests first.request).idempotencyKey ≠ (requests second.request).idempotencyKey

/-- An account is answered as if nobody else used the routes, and only with what was
computed for a request of its own. -/
structure AnsweredApart (config : IdempotencyConfig)
    (requests : Nat -> IdempotentRequest Body) (events : List IdempotencyEvent)
    (account : RowId) : Prop where
  independent : seenBy requests account (IdempotencyState.run config requests events) =
    seenBy requests account
      (IdempotencyState.run config requests (eventsOf requests account events))
  own : ∀ request outcome replay,
    (request, .json outcome replay) ∈
        seenBy requests account (IdempotencyState.run config requests events) ->
      ∃ other, (requests other).account = account ∧
        (requests other).computed = some outcome

/-! ## What a request does to the records -/

variable {config : IdempotencyConfig} {requests : Nat -> IdempotentRequest Body}
  {account : RowId} {events : List IdempotencyEvent}

namespace IdempotentRequest

variable {request : IdempotentRequest Body} {records others : List (IdempotencyRecord Body)}

theorem recordKey_eq {wanted : IdempotencyScope × String}
    (keyed : request.recordKey config = some wanted) :
    request.scope = wanted.1 ∧ request.idempotencyKey = some wanted.2 := by
  rw [recordKey] at keyed
  cases given : request.idempotencyKey with
  | none =>
    rw [given] at keyed
    cases keyed
  | some key =>
    simp only [given] at keyed
    split at keyed
    · rw [← Option.some.inj keyed]
      exact ⟨rfl, rfl⟩
    · cases keyed

theorem lookup_congr (same : ∀ wanted, request.recordKey config = some wanted ->
      get IdempotencyRecord.primaryKey records wanted =
        get IdempotencyRecord.primaryKey others wanted) :
    request.lookup config records = request.lookup config others := by
  rw [lookup, lookup]
  cases given : request.idempotencyKey with
  | none => rfl
  | some key =>
    by_cases empty : key = ""
    · simp only [empty, if_true]
    · by_cases postgres : config.postgres = true
      · have keyed : request.recordKey config = some (request.scope, key) := by
          rw [recordKey, given]
          simp only
          rw [if_pos ⟨empty, postgres⟩]
        simp only [same _ keyed]
      · simp only [Bool.not_eq_true] at postgres
        simp only [postgres, if_true]

theorem get_save (record : IdempotencyRecord Body) (wanted : IdempotencyScope × String) :
    get IdempotencyRecord.primaryKey (saveIdempotencyRecord records record) wanted =
      (get IdempotencyRecord.primaryKey records wanted).or
        (if record.primaryKey = wanted then some record else none) := by
  rw [saveIdempotencyRecord]
  split
  · next taken =>
    by_cases same : record.primaryKey = wanted
    · subst same
      rw [Option.isSome_iff_exists] at taken
      rcases taken with ⟨old, found⟩
      rw [found, Option.some_or]
    · rw [if_neg same, Option.or_none]
  · exact get_insert record

theorem get_record_of_ne {wanted : IdempotencyScope × String}
    (different : request.recordKey config ≠ some wanted) :
    get IdempotencyRecord.primaryKey (request.record config records) wanted =
      get IdempotencyRecord.primaryKey records wanted := by
  rw [record]
  split
  · next scope key outcome keyed computed =>
    split
    · rw [get_save, if_neg, Option.or_none]
      exact fun same => different (keyed.trans (congrArg some same))
    · rfl
  · rfl

theorem get_record_congr {wanted : IdempotencyScope × String}
    (same : get IdempotencyRecord.primaryKey records wanted =
      get IdempotencyRecord.primaryKey others wanted) :
    get IdempotencyRecord.primaryKey (request.record config records) wanted =
      get IdempotencyRecord.primaryKey (request.record config others) wanted := by
  rw [record, record]
  split
  · split
    · rw [get_save, get_save, same]
    · exact same
  · exact same

theorem of_get_record {wanted : IdempotencyScope × String} {found : IdempotencyRecord Body}
    (read : get IdempotencyRecord.primaryKey (request.record config records) wanted = some found) :
    get IdempotencyRecord.primaryKey records wanted = some found ∨
      request.recordKey config = some wanted ∧
        request.computed = some ⟨found.responseStatus, found.responseBody⟩ := by
  rw [record] at read
  split at read
  · next scope key outcome keyed computed =>
    split at read
    · rw [get_save, Option.or_eq_some_iff] at read
      rcases read with old | ⟨-, new⟩
      · exact Or.inl old
      · split at new
        · next same =>
          rw [← Option.some.inj new]
          exact Or.inr ⟨keyed.trans (congrArg some same), computed⟩
        · cases new
    · exact Or.inl read
  · exact Or.inl read

theorem of_lookup {outcome : IdempotencyOutcome Body} {replay : Bool}
    (answered : request.lookup config records = some (.json outcome replay)) :
    ∃ wanted found, request.recordKey config = some wanted ∧
      get IdempotencyRecord.primaryKey records wanted = some found ∧
        outcome = ⟨found.responseStatus, found.responseBody⟩ := by
  rw [lookup] at answered
  cases given : request.idempotencyKey with
  | none =>
    rw [given] at answered
    cases answered
  | some key =>
    simp only [given] at answered
    split at answered
    · cases answered
    · next nonempty =>
      split at answered
      · cases answered
      · split at answered
        · cases answered
        · next postgres =>
          simp only [Bool.not_eq_false] at postgres
          split at answered
          · cases answered
          · next found read =>
            split at answered
            · cases answered
            · injection answered with reply
              injection reply with outcome
              refine ⟨(request.scope, key), found, ?_, read, outcome.symm⟩
              rw [recordKey, given]
              simp only
              rw [if_pos ⟨nonempty, postgres⟩]

end IdempotentRequest

theorem KeysApart.recordKey_ne (apart : KeysApart requests events)
    {first second : IdempotencyEvent} (one : first ∈ events) (two : second ∈ events)
    (different : (requests first.request).account ≠ (requests second.request).account)
    {wanted : IdempotencyScope × String}
    (keyed : (requests first.request).recordKey config = some wanted) :
    (requests second.request).recordKey config ≠ some wanted := by
  intro same
  rcases IdempotentRequest.recordKey_eq keyed with ⟨scope, key⟩
  rcases IdempotentRequest.recordKey_eq same with ⟨scopeToo, keyToo⟩
  rcases apart first one second two different (scope.trans scopeToo.symm) with absent | unequal
  · rw [key] at absent
    cases absent
  · exact unequal (key.trans keyToo.symm)

/-- The state of a run, and that of the run of one account alone. -/
structure AloneAlike (config : IdempotencyConfig) (requests : Nat -> IdempotentRequest Body)
    (events : List IdempotencyEvent) (account : RowId) (state alone : IdempotencyState Body) :
    Prop where
  records : ∀ event, event ∈ events -> IsOf requests account event.request = true ->
    ∀ wanted, (requests event.request).recordKey config = some wanted ->
      get IdempotencyRecord.primaryKey state.records wanted =
        get IdempotencyRecord.primaryKey alone.records wanted
  executing : ∀ request, IsOf requests account request = true ->
    (request ∈ state.executing <-> request ∈ alone.executing)
  replies : seenBy requests account state = seenBy requests account alone

theorem AloneAlike.handle_own {state alone : IdempotencyState Body}
    (alike : AloneAlike config requests events account state alone) {event : IdempotencyEvent}
    (listed : event ∈ events) (mine : IsOf requests account event.request = true) :
    AloneAlike config requests events account (state.handle config requests event)
      (alone.handle config requests event) := by
  cases event with
  | arrive request =>
    have same : (requests request).lookup config state.records =
        (requests request).lookup config alone.records :=
      IdempotentRequest.lookup_congr (alike.records _ listed mine)
    simp only [IdempotencyState.handle, same]
    split
    · refine ⟨alike.records, alike.executing, ?_⟩
      simp only [seenBy, List.filter_cons]
      rw [show IsOf requests account request = true from mine, if_pos rfl, if_pos rfl]
      exact congrArg _ alike.replies
    · refine ⟨alike.records, fun other own => ?_, alike.replies⟩
      rw [List.mem_cons, List.mem_cons, alike.executing other own]
  | finish request =>
    have both := alike.executing request mine
    simp only [IdempotencyState.handle]
    by_cases runs : request ∈ state.executing
    · rw [if_pos runs, if_pos (both.mp runs)]
      refine ⟨?_, fun other own => ?_, ?_⟩
      · intro event member own wanted keyed
        exact IdempotentRequest.get_record_congr (alike.records event member own wanted keyed)
      · simp only [List.mem_filter, alike.executing other own]
      · simp only [seenBy, List.filter_cons]
        rw [show IsOf requests account request = true from mine, if_pos rfl, if_pos rfl]
        exact congrArg _ alike.replies
    · rw [if_neg runs, if_neg fun alone => runs (both.mpr alone)]
      exact alike

theorem AloneAlike.handle_other (apart : KeysApart requests events)
    {state alone : IdempotencyState Body}
    (alike : AloneAlike config requests events account state alone) {event : IdempotencyEvent}
    (listed : event ∈ events) (theirs : IsOf requests account event.request = false) :
    AloneAlike config requests events account (state.handle config requests event) alone := by
  have unseen : ∀ reply, seenBy requests account
      { state with replies := (event.request, reply) :: state.replies } =
        seenBy requests account state := by
    intro reply
    simp only [seenBy, List.filter_cons, theirs, Bool.false_eq_true, if_false]
  have other : ∀ request, IsOf requests account request = true ->
      request ≠ event.request := by
    rintro request own rfl
    rw [own] at theirs
    cases theirs
  cases event with
  | arrive request =>
    simp only [IdempotencyState.handle]
    split
    · next reply _ => exact ⟨alike.records, alike.executing, (unseen reply).trans alike.replies⟩
    · refine ⟨alike.records, fun one own => ?_, alike.replies⟩
      have different : one ≠ request := other one own
      rw [List.mem_cons, or_iff_right different, alike.executing one own]
  | finish request =>
    simp only [IdempotencyState.handle]
    split
    · refine ⟨?_, fun one own => ?_, ?_⟩
      · intro event member own wanted keyed
        have accounts : (requests event.request).account ≠ (requests request).account := by
          intro same
          simp only [IsOf, decide_eq_true_eq] at own
          have not : (requests request).account ≠ account := of_decide_eq_false theirs
          exact not (same.symm.trans own)
        have different := apart.recordKey_ne member listed accounts keyed
        exact (IdempotentRequest.get_record_of_ne different).trans
          (alike.records event member own wanted keyed)
      · have different : one ≠ request := other one own
        rw [List.mem_filter, decide_eq_true_eq, and_iff_left different]
        exact alike.executing one own
      · exact (unseen (requests request).respond).trans alike.replies
    · exact alike

theorem alike_of_run (apart : KeysApart requests events) (account : RowId) :
    AloneAlike config requests events account (IdempotencyState.run config requests events)
      (IdempotencyState.run config requests (eventsOf requests account events)) := by
  have steps : ∀ rest : List IdempotencyEvent,
      (∀ event, event ∈ rest -> event ∈ events) ->
      ∀ state alone : IdempotencyState Body,
        AloneAlike config requests events account state alone ->
          AloneAlike config requests events account
            (rest.foldl (IdempotencyState.handle config requests) state)
            ((eventsOf requests account rest).foldl (IdempotencyState.handle config requests)
              alone) := by
    intro rest
    induction rest with
    | nil => exact fun _ _ _ alike => alike
    | cons event rest extend =>
      intro within state alone alike
      have listed := within event List.mem_cons_self
      have later := extend fun other member => within other (List.mem_cons_of_mem _ member)
      rw [List.foldl_cons, eventsOf, List.filter_cons]
      cases mine : IsOf requests account event.request with
      | true =>
        simp only [if_true, List.foldl_cons]
        exact later _ _ (alike.handle_own listed mine)
      | false =>
        simp only [Bool.false_eq_true, if_false]
        exact later _ _ (alike.handle_other apart listed mine)
  exact steps events (fun _ member => member) _ _ ⟨fun _ _ _ _ _ => rfl, fun _ _ => Iff.rfl, rfl⟩

/-- Every record and every answer was computed for a request that uses its key. -/
structure Computed (config : IdempotencyConfig) (requests : Nat -> IdempotentRequest Body)
    (events : List IdempotencyEvent) (state : IdempotencyState Body) : Prop where
  records : ∀ wanted found,
    get IdempotencyRecord.primaryKey state.records wanted = some found ->
      ∃ event, event ∈ events ∧ (requests event.request).recordKey config = some wanted ∧
        (requests event.request).computed = some ⟨found.responseStatus, found.responseBody⟩
  replies : ∀ request outcome replay, (request, .json outcome replay) ∈ state.replies ->
    ∃ other, (requests other).account = (requests request).account ∧
      (requests other).computed = some outcome

theorem Computed.handle (apart : KeysApart requests events) {state : IdempotencyState Body}
    (computed : Computed config requests events state) {event : IdempotencyEvent}
    (listed : event ∈ events) :
    Computed config requests events (state.handle config requests event) := by
  cases event with
  | arrive request =>
    simp only [IdempotencyState.handle]
    split
    · next reply answered =>
      refine ⟨computed.records, fun one outcome replay member => ?_⟩
      rcases List.mem_cons.mp member with same | old
      · injection same with one reply
        subst one reply
        rcases IdempotentRequest.of_lookup answered with ⟨wanted, found, keyed, read, rfl⟩
        rcases computed.records wanted found read with ⟨source, known, sourceKeyed, outcome⟩
        refine ⟨source.request, ?_, outcome⟩
        by_contra different
        exact apart.recordKey_ne known listed different sourceKeyed keyed
      · exact computed.replies one outcome replay old
    · exact ⟨computed.records, computed.replies⟩
  | finish request =>
    simp only [IdempotencyState.handle]
    split
    · constructor
      · intro wanted found read
        rcases IdempotentRequest.of_get_record read with old | ⟨keyed, outcome⟩
        · exact computed.records wanted found old
        · exact ⟨.finish request, listed, keyed, outcome⟩
      · intro one outcome replay member
        rcases List.mem_cons.mp member with same | old
        · injection same with one reply
          subst one
          rw [IdempotentRequest.respond] at reply
          cases returned : (requests one).computed with
          | none =>
            rw [returned] at reply
            cases reply
          | some result =>
            rw [returned] at reply
            injection reply with same
            exact ⟨one, rfl, returned.trans (congrArg some same.symm)⟩
        · exact computed.replies one outcome replay old
    · exact computed

theorem computed_of_run (apart : KeysApart requests events) :
    Computed config requests events (IdempotencyState.run config requests events) := by
  have steps : ∀ rest : List IdempotencyEvent,
      (∀ event, event ∈ rest -> event ∈ events) ->
      ∀ state : IdempotencyState Body, Computed config requests events state ->
        Computed config requests events
          (rest.foldl (IdempotencyState.handle config requests) state) := by
    intro rest
    induction rest with
    | nil => exact fun _ _ computed => computed
    | cons event rest extend =>
      intro within state computed
      exact extend (fun other member => within other (List.mem_cons_of_mem _ member)) _
        (computed.handle apart (within event List.mem_cons_self))
  refine steps events (fun _ member => member) _ ⟨fun wanted found read => ?_, ?_⟩
  · cases read
  · intro request outcome replay member
    cases member

/-- Where no two accounts use a key in common, the records of one account have no part in
what another account is answered. -/
theorem answered_apart (config : IdempotencyConfig)
    (requests : Nat -> IdempotentRequest Body) (events : List IdempotencyEvent)
    (apart : KeysApart requests events) (account : RowId) :
    AnsweredApart config requests events account where
  independent := (alike_of_run apart account).replies
  own := by
    intro request outcome replay member
    rcases List.mem_filter.mp member with ⟨answered, mine⟩
    rcases (computed_of_run apart).replies request outcome replay answered with
      ⟨other, same, computed⟩
    exact ⟨other, same.trans (of_decide_eq_true mine), computed⟩

private def basketBody : String :=
  "\x7b\"amountRub\":2000,\"customerEmail\":\"ann@example.com\"," ++
    "\"personalDataConsentAccepted\":true\x7d"

/-- Two accounts send the same body, the first under the key `basket-1`. -/
private def twoBuyers (key : String) : Nat -> IdempotentRequest String
  | 0 => ⟨.seeded 1, .paymentsCreate, some "basket-1", basketBody, some ⟨200, "lc_1"⟩, true⟩
  | _ => ⟨.seeded 2, .paymentsCreate, some key, basketBody, some ⟨200, "lc_2"⟩, true⟩

private def oneAfterTheOther : List IdempotencyEvent :=
  [.arrive 0, .finish 0, .arrive 1, .finish 1]

private def hashing : IdempotencyConfig := ⟨id, true⟩

/-- Under keys of their own each is answered with its own order. -/
theorem answered_apart_two_keys : seenBy (twoBuyers "basket-2") (.seeded 2)
        (IdempotencyState.run hashing (twoBuyers "basket-2") oneAfterTheOther) =
      [(1, .json ⟨200, "lc_2"⟩ false)] ∧
    AnsweredApart hashing (twoBuyers "basket-2") oneAfterTheOther (.seeded 2) := by
  refine ⟨by decide, answered_apart hashing _ _ ?_ _⟩
  unfold KeysApart
  decide

/-- Under the same key the second is answered with the order of the first. -/
theorem replayed_to_another_account :
    ¬ ∀ (config : IdempotencyConfig) (requests : Nat -> IdempotentRequest String)
        (events : List IdempotencyEvent) (account : RowId),
      AnsweredApart config requests events account := by
  intro always
  have apart := always hashing (twoBuyers "basket-1") oneAfterTheOther (.seeded 2)
  have seen : seenBy (twoBuyers "basket-1") (.seeded 2)
      (IdempotencyState.run hashing (twoBuyers "basket-1") oneAfterTheOther) =
        [(1, .json ⟨200, "lc_1"⟩ true)] := by decide
  have alone : seenBy (twoBuyers "basket-1") (.seeded 2)
      (IdempotencyState.run hashing (twoBuyers "basket-1")
        (eventsOf (twoBuyers "basket-1") (.seeded 2) oneAfterTheOther)) =
        [(1, .json ⟨200, "lc_2"⟩ false)] := by decide
  have same := apart.independent
  rw [seen, alone] at same
  exact absurd same (by decide)

end Payments

end LevelChannel
