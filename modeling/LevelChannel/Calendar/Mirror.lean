import LevelChannel.Calendar.BusyCache

namespace LevelChannel.Calendar

open Tables

/-!
# What the busy cache mirrors

After a pull the cache should hold what the calendar has between a day before the pull and
thirty days after it.  A full pull makes it so.  Delta pulls carry over every change since,
so that the cache goes on to hold what the window of the last full pull let through and
what has changed since then, and nothing else.
-/

/-! ## Reading the pages -/

variable {delta : Bool} {items first second : List ListedEvent} {event : ListedEvent}
  {interval : ParsedBusyInterval}

/-- The event takes up the time from `startAt` to `endAt`. -/
def ListedEvent.IsBusy (event : ListedEvent) (startAt endAt : Nat) : Prop :=
  event.status ≠ some .cancelled ∧ event.instants = some (startAt, endAt) ∧ startAt < endAt

theorem shapeEvent_some (shaped : shapeEvent event = some interval) :
    event.id ≠ "" ∧ interval.externalEventId = event.id ∧
      event.IsBusy interval.startAt interval.endAt := by
  rw [shapeEvent] at shaped
  split at shaped
  · cases shaped
  rename_i proper
  rw [not_or] at proper
  split at shaped
  · rename_i startAt startAllDay endAt endAllDay starts ends
    split at shaped
    · cases shaped
    · rename_i later
      cases shaped
      refine ⟨proper.1, rfl, proper.2, ?_, Nat.lt_of_not_le later⟩
      rw [ListedEvent.instants, starts, ends]
  · cases shaped

theorem shapeEvent_isSome {startAt endAt : Nat} (named : event.id ≠ "")
    (busy : event.IsBusy startAt endAt) :
    ∃ interval, shapeEvent event = some interval ∧ interval.startAt = startAt ∧
      interval.endAt = endAt := by
  rcases busy with ⟨alive, instants, proper⟩
  rw [ListedEvent.instants] at instants
  split at instants
  · rename_i starts ends
    cases instants
    rw [shapeEvent, if_neg (not_or.mpr ⟨named, alive⟩), starts, ends]
    dsimp only
    rw [if_neg (Nat.not_le_of_lt proper)]
    exact ⟨_, rfl, rfl, rfl⟩
  · cases instants

theorem isCancelledTombstone_iff :
    isCancelledTombstone event = true <-> event.id ≠ "" ∧ event.status = some .cancelled := by
  rw [isCancelledTombstone, decide_eq_true_eq]

theorem mem_intervalsOf : interval ∈ intervalsOf delta items <->
      ∃ event, event ∈ items ∧ shapeEvent event = some interval := by
  rw [intervalsOf, List.mem_filterMap]
  constructor
  · rintro ⟨event, member, shaped⟩
    exact ⟨event, List.mem_of_mem_filter member, shaped⟩
  · rintro ⟨event, member, shaped⟩
    refine ⟨event, List.mem_filter.mpr ⟨member, ?_⟩, shaped⟩
    have alive : isCancelledTombstone event = false := by
      rw [Bool.eq_false_iff]
      intro gone
      exact (shapeEvent_some shaped).2.2.1 (isCancelledTombstone_iff.mp gone).2
    rw [alive, Bool.and_false, Bool.not_false]

theorem mem_cancelledOf {id : String} : id ∈ cancelledOf true items <->
      ∃ event, event ∈ items ∧ isCancelledTombstone event = true ∧ event.id = id := by
  simp only [cancelledOf, if_true, List.mem_map, List.mem_filter, and_assoc]

theorem intervalsOf_append :
    intervalsOf delta (first ++ second) = intervalsOf delta first ++ intervalsOf delta second := by
  rw [intervalsOf, List.filter_append, List.filterMap_append]
  rfl

theorem cancelledOf_append :
    cancelledOf delta (first ++ second) = cancelledOf delta first ++ cancelledOf delta second := by
  cases delta with
  | false => rfl
  | true =>
    simp only [cancelledOf, if_true, List.filter_append, List.map_append]

theorem ids_intervalsOf : ((intervalsOf delta items).map ParsedBusyInterval.externalEventId).Sublist
      (items.map ListedEvent.id) := by
  induction items with
  | nil => exact List.Sublist.slnil
  | cons event items inside =>
    rw [intervalsOf] at inside ⊢
    rw [List.filter_cons, List.map_cons]
    split
    · rw [List.filterMap_cons]
      cases shaped : shapeEvent event with
      | none => exact inside.cons event.id
      | some interval =>
        rw [List.map_cons, (shapeEvent_some shaped).2.1]
        exact inside.cons_cons event.id
    · exact inside.cons event.id

theorem unique_intervalsOf (unique : Unique ListedEvent.id items) :
    Unique ParsedBusyInterval.externalEventId (intervalsOf delta items) :=
  ids_intervalsOf.nodup unique

theorem pullPages_eq {left : Nat} {value result : PullValue} {pages : List EventsPage}
    (inOrder : paged pages = true) (done : pullPages delta left value pages = some result) :
    result.intervals = value.intervals ++ intervalsOf delta (pages.flatMap EventsPage.items) ∧
      result.cancelledEventIds =
        value.cancelledEventIds ++ cancelledOf delta (pages.flatMap EventsPage.items) ∧
      result.nextSyncToken =
        (pages.getLast?.bind EventsPage.nextSyncToken).filter fun token => token ≠ "" := by
  induction pages generalizing left value with
  | nil => cases inOrder
  | cons page pages onward =>
    cases left with
    | zero => cases done
    | succ left =>
      rw [pullPages] at done
      dsimp only at done
      cases pages with
      | nil =>
        have final : page.hasNextPage = false := by
          rw [paged, Bool.not_eq_true'] at inOrder
          exact inOrder
        rw [final] at done
        cases done
        rw [List.flatMap_cons, List.flatMap_nil, List.append_nil]
        exact ⟨rfl, rfl, rfl⟩
      | cons next pages =>
        rw [paged, Bool.and_eq_true] at inOrder
        · rw [if_pos inOrder.1] at done
          rcases onward inOrder.2 done with ⟨intervals, cancelled, token⟩
          rw [List.flatMap_cons, intervalsOf_append, cancelledOf_append, ← List.append_assoc,
            ← List.append_assoc]
          exact ⟨intervals, cancelled, token⟩
        · exact List.cons_ne_nil next pages

/-- What a pull has read: the shapes of some events, and the tombstones among them. -/
structure Reads (delta : Bool) (events : List ListedEvent) (value : PullValue) : Prop where
  intervals : ∀ interval, interval ∈ value.intervals <->
    ∃ event, event ∈ events ∧ shapeEvent event = some interval
  unique : Unique ParsedBusyInterval.externalEventId value.intervals
  cancelled : delta = true -> ∀ id, id ∈ value.cancelledEventIds <->
    ∃ event, event ∈ events ∧ isCancelledTombstone event = true ∧ event.id = id

variable {issuedAt : String -> Nat} {syncToken : Option String} {now : Nat}
  {log : List ListedEvent} {pages : List EventsPage} {value : PullValue}

theorem mem_window : event ∈ eventsList.window now log <-> event ∈ latest ListedEvent.id log ∧
      event.status ≠ some .cancelled ∧ event.withinWindow now = true := by
  rw [eventsList.window, List.mem_filter, decide_eq_true_eq]

theorem unique_window : Unique ListedEvent.id (eventsList.window now log) :=
  (List.filter_sublist.map ListedEvent.id).nodup (unique_latest log)

theorem unique_eventsList : Unique ListedEvent.id (eventsList issuedAt syncToken now log) := by
  cases syncToken with
  | none => exact unique_window
  | some token =>
    rw [eventsList]
    split
    · exact unique_window
    · exact unique_latest _

theorem pull_reads (answers : Answers issuedAt syncToken now log pages)
    (done : pullBusyIntervalsForCalendar syncToken pages = some value) :
    Reads (isDelta syncToken) (eventsList issuedAt syncToken now log) value ∧
      ∃ token, value.nextSyncToken = some token ∧ token ≠ "" ∧ issuedAt token = log.length := by
  rcases answers with ⟨inOrder, same, issued⟩
  rcases pullPages_eq inOrder done with ⟨intervals, cancelled, next⟩
  rw [List.nil_append] at intervals cancelled
  refine ⟨⟨?_, ?_, ?_⟩, ?_⟩
  · intro interval
    rw [intervals, mem_intervalsOf]
    simp only [same.mem_iff]
  · rw [intervals]
    exact unique_intervalsOf ((same.map ListedEvent.id).nodup_iff.mpr unique_eventsList)
  · intro isDelta id
    rw [cancelled, isDelta, mem_cancelledOf]
    simp only [same.mem_iff]
  · cases last : pages.getLast?.bind EventsPage.nextSyncToken with
    | none =>
      rw [last] at issued
      cases issued
    | some token =>
      rw [last, Option.any_some, decide_eq_true_eq] at issued
      refine ⟨token, ?_, issued⟩
      rw [next, last, Option.filter_some, if_pos (decide_eq_true issued.1)]

/-- The event has changed since the last full pull, or the window of that pull let it
through. -/
def LastPull.Reached (last : LastPull) (event : ListedEvent) : Prop :=
  (∃ changed, changed ∈ last.log.drop last.fullLog.length ∧ changed.id = event.id) ∨
    event.withinWindow last.fullTime = true

/-- The invariant of the cache.  Of what the last pull saw it has a row for each event that
was reached, and every row is of such an event that is not cancelled.  An event that has
become malformed keeps its old row. -/
structure Tracks (last : LastPull) (cache : List BusyInterval) : Prop where
  onward : last.fullLog <+: last.log
  present : ∀ event, event ∈ latest ListedEvent.id last.log -> ∀ startAt endAt,
    event.IsBusy startAt endAt -> last.Reached event ->
      ∃ row, row ∈ cache ∧ row.externalEventId = event.id
  known : ∀ row, row ∈ cache -> ∃ event, event ∈ latest ListedEvent.id last.log ∧
    event.id = row.externalEventId ∧ event.status ≠ some .cancelled ∧ last.Reached event ∧
      ∀ startAt endAt, event.IsBusy startAt endAt ->
        row.startAt = startAt ∧ row.endAt = endAt

variable {mode : PullMode} {epoch : String} {knownSlotIds : List String} {time : Nat}
  {cache : List BusyInterval} {row : BusyInterval} {last : LastPull}

theorem mem_mergePull (unique : Unique ParsedBusyInterval.externalEventId value.intervals) :
    row ∈ mergePull mode value epoch knownSlotIds now cache <->
      (∃ interval, interval ∈ value.intervals ∧ busyRow epoch knownSlotIds now interval = row) ∨
      (mode = .delta ∧ row ∈ cache ∧ row.externalEventId ∉ value.cancelledEventIds) ∧
        ∀ interval, interval ∈ value.intervals ->
          interval.externalEventId ≠ row.externalEventId := by
  have distinct : Unique BusyInterval.externalEventId
      (value.intervals.map (busyRow epoch knownSlotIds now)) := by
    rw [Tables.Unique, List.map_map]
    exact unique
  cases mode with
  | full =>
    rw [mergePull, mem_upserts distinct, List.mem_map]
    simp only [List.not_mem_nil, false_and, or_false, reduceCtorEq]
  | delta =>
    rw [mergePull, mem_upserts distinct, List.mem_map]
    simp only [List.mem_filter, decide_eq_true_eq, true_and, List.forall_mem_map, busyRow]

theorem busyRow_times {startAt endAt : Nat} (shaped : shapeEvent event = some interval)
    (busy : event.IsBusy startAt endAt) :
    (busyRow epoch knownSlotIds now interval).startAt = startAt ∧
      (busyRow epoch knownSlotIds now interval).endAt = endAt := by
  have same := (shapeEvent_some shaped).2.2.2.1.symm.trans busy.2.1
  cases same
  exact ⟨rfl, rfl⟩

theorem full_tracks (cache : List BusyInterval) (named : ∀ event, event ∈ log -> event.id ≠ "")
    (reads : Reads delta (eventsList.window time log) value) :
    Tracks ⟨log, time, log, time⟩ (mergePull .full value epoch knownSlotIds now cache) := by
  constructor
  · exact List.prefix_refl log
  · rintro event member startAt endAt busy (⟨changed, later, -⟩ | within)
    · rw [List.drop_length] at later
      cases later
    · rcases shapeEvent_isSome (named event (mem_of_mem_latest member)) busy with
        ⟨interval, shaped, -, -⟩
      have read : interval ∈ value.intervals :=
        (reads.intervals interval).mpr ⟨event, mem_window.mpr ⟨member, busy.1, within⟩, shaped⟩
      exact ⟨_, (mem_mergePull reads.unique).mpr (Or.inl ⟨interval, read, rfl⟩),
        (shapeEvent_some shaped).2.1⟩
  · intro row member
    rcases (mem_mergePull reads.unique).mp member with ⟨interval, read, rfl⟩ | ⟨⟨delta, -⟩, -⟩
    · rcases (reads.intervals interval).mp read with ⟨event, inWindow, shaped⟩
      rcases mem_window.mp inWindow with ⟨seen, alive, within⟩
      exact ⟨event, seen, (shapeEvent_some shaped).2.1.symm, alive, Or.inr within,
        fun startAt endAt busy => busyRow_times shaped busy⟩
    · cases delta

theorem LastPull.Reached.append {changes : List ListedEvent} (reached : last.Reached event) :
    LastPull.Reached { last with log := last.log ++ changes, time := time } event := by
  rcases reached with ⟨changed, later, same⟩ | within
  · refine Or.inl ⟨changed, ?_, same⟩
    rw [List.drop_append]
    exact List.mem_append_left _ later
  · exact Or.inr within

theorem delta_tracks {changes : List ListedEvent}
    (named : ∀ event, event ∈ last.log ++ changes -> event.id ≠ "")
    (tracks : Tracks last cache) (reads : Reads true (latest ListedEvent.id changes) value) :
    Tracks { last with log := last.log ++ changes, time := time }
      (mergePull .delta value epoch knownSlotIds now cache) := by
  -- what has changed is reached by the changes themselves
  have changed : ∀ event, event ∈ latest ListedEvent.id changes ->
      LastPull.Reached { last with log := last.log ++ changes, time := time } event := by
    intro event member
    refine Or.inl ⟨event, ?_, rfl⟩
    rw [List.drop_append_of_le_length tracks.onward.length_le]
    exact List.mem_append_right _ (mem_of_mem_latest member)
  constructor
  · exact tracks.onward.trans (List.prefix_append last.log changes)
  · intro event member startAt endAt busy reached
    rcases mem_latest_append.mp member with new | ⟨old, untouched⟩
    · rcases shapeEvent_isSome (named event (mem_of_mem_latest member)) busy with
        ⟨interval, shaped, -, -⟩
      have read : interval ∈ value.intervals :=
        (reads.intervals interval).mpr ⟨event, new, shaped⟩
      exact ⟨_, (mem_mergePull reads.unique).mpr (Or.inl ⟨interval, read, rfl⟩),
        (shapeEvent_some shaped).2.1⟩
    · have before : last.Reached event := by
        rcases reached with ⟨other, later, same⟩ | within
        · rw [List.drop_append_of_le_length tracks.onward.length_le] at later
          rcases List.mem_append.mp later with earlier | new
          · exact Or.inl ⟨other, earlier, same⟩
          · exact absurd same (untouched other new)
        · exact Or.inr within
      rcases tracks.present event old startAt endAt busy before with ⟨row, held, same⟩
      refine ⟨row, (mem_mergePull reads.unique).mpr (Or.inr ⟨⟨rfl, held, ?_⟩, ?_⟩), same⟩
      · intro deleted
        rcases (reads.cancelled rfl row.externalEventId).mp deleted with ⟨gone, new, -, id⟩
        exact untouched gone (mem_of_mem_latest new) (id.trans same)
      · intro interval read clash
        rcases (reads.intervals interval).mp read with ⟨other, new, shaped⟩
        apply untouched other (mem_of_mem_latest new)
        rw [← (shapeEvent_some shaped).2.1, clash, same]
  · intro row member
    rcases (mem_mergePull reads.unique).mp member with
      ⟨interval, read, rfl⟩ | ⟨⟨-, held, kept⟩, alone⟩
    · rcases (reads.intervals interval).mp read with ⟨event, new, shaped⟩
      exact ⟨event, mem_latest_append.mpr (Or.inl new), (shapeEvent_some shaped).2.1.symm,
        (shapeEvent_some shaped).2.2.1, changed event new,
        fun startAt endAt busy => busyRow_times shaped busy⟩
    · rcases tracks.known row held with ⟨event, old, id, alive, reached, times⟩
      by_cases touched : ∃ other, other ∈ changes ∧ other.id = event.id
      · rcases touched with ⟨other, inChanges, same⟩
        have latestChange : ∃ final, final ∈ latest ListedEvent.id changes ∧
            final.id = other.id := exists_latest inChanges
        rcases latestChange with ⟨final, new, alike⟩
        have finalId : final.id = row.externalEventId := alike.trans (same.trans id)
        refine ⟨final, mem_latest_append.mpr (Or.inl new), finalId, ?_, changed final new, ?_⟩
        · intro gone
          apply kept
          refine (reads.cancelled rfl row.externalEventId).mpr ⟨final, new, ?_, finalId⟩
          have name := named final (List.mem_append_right _ (mem_of_mem_latest new))
          exact isCancelledTombstone_iff.mpr ⟨name, gone⟩
        · intro startAt endAt busy
          have name := named final (List.mem_append_right _ (mem_of_mem_latest new))
          rcases shapeEvent_isSome name busy with ⟨interval, shaped, -, -⟩
          have read : interval ∈ value.intervals :=
            (reads.intervals interval).mpr ⟨final, new, shaped⟩
          exact absurd ((shapeEvent_some shaped).2.1.trans finalId) (alone interval read)
      · have untouched : ∀ other, other ∈ changes -> other.id ≠ event.id :=
          fun other inChanges same => touched ⟨other, inChanges, same⟩
        exact ⟨event, mem_latest_append.mpr (Or.inr ⟨old, untouched⟩), id, alive,
          reached.append, times⟩

/-! ## Runs -/

/-- What is known of a pull under way: the token it sends is not from the future, and what it
has fetched is what Google answered at some time. -/
structure PullSound (issuedAt : String -> Nat) (log : List ListedEvent) (pull : Pull) :
    Prop where
  request : pull.mode = .delta -> ∃ token, pull.startedToken = some token ∧ token ≠ "" ∧
    issuedAt token ≤ log.length
  fetched : ∀ fetched, pull.fetched = some fetched -> fetched.log <+: log ∧
    (pull.mode = .delta -> ∀ token, pull.startedToken = some token ->
      issuedAt token ≤ fetched.log.length) ∧
    Reads (isDelta pull.syncToken)
      (eventsList issuedAt pull.syncToken fetched.time fetched.log) fetched.value ∧
    ∃ token, fetched.value.nextSyncToken = some token ∧ token ≠ "" ∧
      issuedAt token = fetched.log.length

/-- The invariant of a run: the cache tracks the last pull, and a stored sync token is the
one that this pull was given. -/
structure Synced (issuedAt : String -> Nat) (db : BusyDb) : Prop where
  named : ∀ event, event ∈ db.log -> event.id ≠ ""
  tracks : ∀ last, db.last = some last -> last.log <+: db.log ∧ Tracks last db.cache
  token : ∀ row token, db.integration.row = some row ->
    row.nextSyncToken = some token -> token ≠ "" ∧
      ∃ last, db.last = some last ∧ issuedAt token = last.log.length
  pulls : ∀ worker pull, db.pulls worker = some pull -> PullSound issuedAt db.log pull

def OlderToken (before after : IntegrationDb) : Prop :=
  ∀ row token, after.row = some row -> row.nextSyncToken = some token ->
    ∃ old, before.row = some old ∧ old.nextSyncToken = some token

variable {db after : BusyDb} {pull : Pull} {fetched : Fetched} {worker : Nat}

theorem PullSound.later {changes : List ListedEvent} (sound : PullSound issuedAt log pull) :
    PullSound issuedAt (log ++ changes) pull := by
  constructor
  · intro delta
    rcases sound.request delta with ⟨token, sent, proper, known⟩
    refine ⟨token, sent, proper, Nat.le_trans known ?_⟩
    rw [List.length_append]
    exact Nat.le_add_right _ _
  · intro fetched read
    rcases sound.fetched fetched read with ⟨earlier, rest⟩
    exact ⟨earlier.trans (List.prefix_append log changes), rest⟩

theorem Synced.setPull (synced : Synced issuedAt db) {next : Option Pull}
    (sound : ∀ pull, next = some pull -> PullSound issuedAt db.log pull) :
    Synced issuedAt { db with pulls := Function.update db.pulls worker next } := by
  refine ⟨synced.named, synced.tracks, synced.token, ?_⟩
  intro other pull held
  dsimp only at held ⊢
  by_cases same : other = worker
  · subst same
    rw [Function.update_self] at held
    exact sound pull held
  · rw [Function.update_of_ne same] at held
    exact synced.pulls other pull held

theorem Synced.release (synced : Synced issuedAt db) : Synced issuedAt (db.release worker) := by
  apply synced.setPull
  intro pull held
  cases held

theorem Synced.write {write : IntegrationWrite} (synced : Synced issuedAt db)
    (older : OlderToken db.integration (db.integration.apply write)) :
    Synced issuedAt (db.write write) := by
  refine ⟨synced.named, synced.tracks, ?_, synced.pulls⟩
  intro row token found stored
  rcases older row token found stored with ⟨old, foundOld, storedOld⟩
  exact synced.token old token foundOld storedOld

theorem older_update {integration : IntegrationDb} {set : Integration -> Integration}
    (kept : ∀ row, (set row).nextSyncToken = row.nextSyncToken ∨ (set row).nextSyncToken = none) :
    OlderToken integration (integration.update set) := by
  intro row token found stored
  rcases Option.map_eq_some_iff.mp found with ⟨old, foundOld, rfl⟩
  rcases kept old with same | cleared
  · exact ⟨old, foundOld, same.symm.trans stored⟩
  · rw [cleared] at stored
    cases stored

theorem older_disconnect (integration : IntegrationDb) :
    OlderToken integration (integration.apply .disconnect) := by
  rw [IntegrationDb.apply, IntegrationDb.disconnect]
  intro row token found stored
  cases read : integration.row with
  | none =>
    rw [read] at found
    exact absurd (read.symm.trans found) (Option.some_ne_none row).symm
  | some old =>
    rw [read] at found
    dsimp only at found
    split at found
    · rw [read] at found
      cases found
      exact ⟨row, rfl, stored⟩
    · cases found
      rw [Integration.disconnect] at stored
      split at stored
      · exact ⟨old, rfl, stored⟩
      · exact ⟨old, rfl, stored⟩

theorem Synced.change (synced : Synced issuedAt db) (named : event.id ≠ "") :
    Synced issuedAt { db with log := db.log ++ [event] } := by
  constructor
  · intro other member
    rcases List.mem_append.mp member with old | new
    · exact synced.named other old
    · rw [List.mem_singleton.mp new]
      exact named
  · intro last pulled
    rcases synced.tracks last pulled with ⟨earlier, tracks⟩
    exact ⟨earlier.trans (List.prefix_append db.log [event]), tracks⟩
  · exact synced.token
  · intro worker pull held
    exact (synced.pulls worker pull held).later

theorem Synced.started {row : Integration} (synced : Synced issuedAt db)
    (found : db.integration.row = some row) (active : Bool) : PullSound issuedAt db.log
      ⟨row.nextSyncToken, row.epoch, pullMode row.nextSyncToken active, none⟩ := by
  constructor
  · intro delta
    dsimp only at delta ⊢
    cases stored : row.nextSyncToken with
    | none =>
      rw [stored, pullMode, if_neg (fun both => Bool.false_ne_true both.1)] at delta
      cases delta
    | some token =>
      rcases synced.token row token found stored with ⟨proper, last, pulled, issued⟩
      refine ⟨token, rfl, proper, ?_⟩
      rw [issued]
      exact (synced.tracks last pulled).1.length_le
  · intro fetched read
    cases read

theorem PullSound.fetch (sound : PullSound issuedAt log pull)
    (answers : Answers issuedAt pull.syncToken now log pages)
    (done : pullBusyIntervalsForCalendar pull.syncToken pages = some value) :
    PullSound issuedAt log { pull with fetched := some ⟨value, log, now⟩ } := by
  constructor
  · exact sound.request
  · intro fetched read
    cases read
    rcases pull_reads answers done with ⟨reads, issued⟩
    refine ⟨List.prefix_refl log, ?_, reads, issued⟩
    intro delta token sent
    rcases sound.request delta with ⟨other, sentOther, -, known⟩
    cases sent.symm.trans sentOther
    exact known

theorem changes_between {earlier later : List ListedEvent} (known : earlier <+: log)
    (seen : later <+: log) (order : earlier.length ≤ later.length) :
    ∃ changes, later = earlier ++ changes := by
  rcases List.prefix_of_prefix_length_le known seen order with ⟨changes, same⟩
  exact ⟨changes, same.symm⟩

theorem Synced.commit {row : Integration} (synced : Synced issuedAt db)
    (sound : PullSound issuedAt db.log pull) (read : pull.fetched = some fetched)
    (found : db.integration.row = some row)
    (guarded : row.guarded pull.startedToken pull.startedEpoch = true) :
    Synced issuedAt (db.commit pull fetched) := by
  rcases sound.fetched fetched read with ⟨seen, sent, reads, next, given, proper, issued⟩
  have named : ∀ event, event ∈ fetched.log -> event.id ≠ "" :=
    fun event member => synced.named event (seen.subset member)
  have same : row.nextSyncToken = pull.startedToken := (of_decide_eq_true guarded).1
  -- what the transaction leaves, whichever way the pull was made
  have committed : ∃ last, (db.commit pull fetched).last = some last ∧
      last.log = fetched.log ∧ Tracks last (db.commit pull fetched).cache := by
    cases mode : pull.mode with
    | full =>
      have plain : pull.syncToken = none := by
        rw [Pull.syncToken, mode, if_neg (fun delta => PullMode.noConfusion delta)]
      rw [plain, eventsList] at reads
      rw [BusyDb.commit, mode]
      exact ⟨_, rfl, rfl, full_tracks db.cache named reads⟩
    | delta =>
      rcases sound.request mode with ⟨token, started, filled, -⟩
      have requested : pull.syncToken = some token := by
        rw [Pull.syncToken, if_pos mode, started]
      rcases synced.token row token found (same.trans started) with ⟨-, last, pulled, stored⟩
      rcases synced.tracks last pulled with ⟨known, tracks⟩
      have order : last.log.length ≤ fetched.log.length := by
        rw [← stored]
        exact sent mode token started
      rcases changes_between known seen order with ⟨changes, split⟩
      have isDelta : isDelta (some token) = true := by
        rw [isDelta, Option.any_some, decide_eq_true_eq]
        exact filled
      rw [requested, eventsList, if_neg filled, stored, split, List.drop_left, isDelta] at reads
      rw [split] at named
      rw [BusyDb.commit, mode, pulled, Option.map_some, split]
      exact ⟨_, rfl, rfl, delta_tracks named tracks reads⟩
  rcases committed with ⟨last, pulled, current, tracks⟩
  constructor
  · exact synced.named
  · intro other pulledOther
    cases pulled.symm.trans pulledOther
    rw [current]
    exact ⟨seen, tracks⟩
  · intro written token foundWritten stored
    rw [BusyDb.commit, BusyDb.write, IntegrationDb.apply, IntegrationDb.update] at foundWritten
    dsimp only at foundWritten
    rw [found, Option.map_some, if_pos guarded, given, Option.some_or] at foundWritten
    cases foundWritten
    cases stored
    exact ⟨proper, last, pulled, by rw [current, issued]⟩
  · exact synced.pulls

theorem Synced.step {event : BusyEvent} (synced : Synced issuedAt db)
    (stepped : db.step issuedAt event = some after) : Synced issuedAt after := by
  cases event with
  | tick passed =>
    cases stepped
    exact ⟨synced.named, synced.tracks, synced.token, synced.pulls⟩
  | booked recently =>
    cases stepped
    exact ⟨synced.named, synced.tracks, synced.token, synced.pulls⟩
  | slots ids =>
    cases stepped
    exact ⟨synced.named, synced.tracks, synced.token, synced.pulls⟩
  | change event =>
    rw [BusyDb.step] at stepped
    split at stepped
    · cases stepped
    · cases stepped
      exact synced.change ‹_›
  | connect tokens readCalendarIds writeCalendarId epoch =>
    cases stepped
    apply synced.write
    intro row token found stored
    cases found
    cases stored
  | disconnect =>
    cases stepped
    exact synced.write (older_disconnect db.integration)
  | refresh tokens =>
    cases stepped
    exact synced.write (older_update fun _ => Or.inl rfl)
  | start worker =>
    rw [BusyDb.step] at stepped
    cases found : db.integration.row with
    | none =>
      rw [found] at stepped
      cases stepped
    | some row =>
      rw [found] at stepped
      dsimp only at stepped
      split at stepped
      · cases stepped
        apply synced.setPull
        intro pull started
        cases started
        exact synced.started found _
      · cases stepped
  | fetch worker pages =>
    rw [BusyDb.step] at stepped
    cases held : db.pulls worker with
    | none =>
      rw [held] at stepped
      cases stepped
    | some pull =>
      rw [held] at stepped
      dsimp only at stepped
      split at stepped
      · rename_i asked
        split at stepped
        · cases stepped
          exact synced.release
        · rename_i value done
          cases stepped
          apply synced.setPull
          intro pull fetched
          cases fetched
          exact (synced.pulls worker _ held).fetch asked.2 done
      · cases stepped
  | syncTokenExpired worker =>
    rw [BusyDb.step] at stepped
    cases held : db.pulls worker with
    | none =>
      rw [held] at stepped
      cases stepped
    | some pull =>
      rw [held] at stepped
      dsimp only at stepped
      split at stepped
      · cases stepped
        apply Synced.release
        apply synced.write
        apply older_update
        intro row
        split
        · exact Or.inr rfl
        · exact Or.inl rfl
      · cases stepped
  | fail worker =>
    cases stepped
    exact synced.release
  | commit worker =>
    rw [BusyDb.step] at stepped
    cases held : db.pulls worker with
    | none =>
      rw [held] at stepped
      cases stepped
    | some pull =>
      rw [held] at stepped
      dsimp only at stepped
      cases read : pull.fetched with
      | none =>
        rw [read] at stepped
        cases stepped
      | some fetched =>
        rw [read] at stepped
        dsimp only at stepped
        split at stepped
        · rename_i guarded
          cases stepped
          cases found : db.integration.row with
          | none =>
            rw [found] at guarded
            cases guarded
          | some row =>
            rw [found, Option.any_some] at guarded
            exact (synced.commit (synced.pulls worker pull held) read found guarded).release
        · cases stepped
          exact synced.release

theorem Synced.play {events : List BusyEvent} (synced : Synced issuedAt db)
    (played : db.play issuedAt events = some after) : Synced issuedAt after := by
  induction events generalizing db with
  | nil =>
    cases played
    exact synced
  | cons event events onward =>
    rw [BusyDb.play, Option.bind_eq_some_iff] at played
    rcases played with ⟨middle, stepped, rest⟩
    exact onward (synced.step stepped) rest

theorem synced_opening (now : Nat) : Synced issuedAt (busyOpening now) := by
  constructor
  · intro event member
    cases member
  · intro last pulled
    cases pulled
  · intro row token found
    cases found
  · intro worker pull held
    cases held

/-- What a pull is to bring about: every event that overlaps the window of the pull is there,
as the calendar has it, and no event that is cancelled. -/
structure Mirrors (time : Nat) (log : List ListedEvent) (cache : List BusyInterval) : Prop where
  busy : ∀ event, event ∈ latest ListedEvent.id log -> ∀ startAt endAt,
    event.IsBusy startAt endAt -> Overlaps time startAt endAt ->
      (∃ row, row ∈ cache ∧ row.externalEventId = event.id) ∧
        ∀ row, row ∈ cache -> row.externalEventId = event.id ->
          row.startAt = startAt ∧ row.endAt = endAt
  alive : ∀ event, event ∈ latest ListedEvent.id log -> event.status = some .cancelled ->
    ∀ row, row ∈ cache -> row.externalEventId ≠ event.id

/-- Every event that overlaps the window of the last pull has changed since the last full
pull, or overlapped the window of that one. -/
def LastPull.Covered (last : LastPull) : Prop :=
  ∀ event, event ∈ latest ListedEvent.id last.log -> ∀ startAt endAt,
    event.IsBusy startAt endAt -> Overlaps last.time startAt endAt ->
      (∃ changed, changed ∈ last.log.drop last.fullLog.length ∧ changed.id = event.id) ∨
        Overlaps last.fullTime startAt endAt

theorem withinWindow_iff {startAt endAt : Nat} (busy : event.IsBusy startAt endAt) :
    event.withinWindow now = true <-> Overlaps now startAt endAt := by
  rw [ListedEvent.withinWindow, busy.2.1, Option.all_some, decide_eq_true_eq]

theorem eq_of_id_latest {other : ListedEvent} (member : event ∈ latest ListedEvent.id log)
    (memberOther : other ∈ latest ListedEvent.id log) (same : event.id = other.id) :
    event = other :=
  List.inj_on_of_nodup_map (unique_latest log) member memberOther same

theorem Tracks.mirrors_iff (tracks : Tracks last cache) :
    Mirrors last.time last.log cache <-> last.Covered := by
  constructor
  · intro mirrors event member startAt endAt busy overlaps
    rcases (mirrors.busy event member startAt endAt busy overlaps).1 with ⟨row, held, same⟩
    rcases tracks.known row held with ⟨other, memberOther, id, -, reached, -⟩
    cases eq_of_id_latest member memberOther (same.symm.trans id.symm)
    rcases reached with changed | within
    · exact Or.inl changed
    · exact Or.inr ((withinWindow_iff busy).mp within)
  · intro covered
    constructor
    · intro event member startAt endAt busy overlaps
      constructor
      · apply tracks.present event member startAt endAt busy
        rcases covered event member startAt endAt busy overlaps with changed | within
        · exact Or.inl changed
        · exact Or.inr ((withinWindow_iff busy).mpr within)
      · intro row held same
        rcases tracks.known row held with ⟨other, memberOther, id, -, -, times⟩
        cases eq_of_id_latest member memberOther (same.symm.trans id.symm)
        exact times startAt endAt busy
    · intro event member gone row held same
      rcases tracks.known row held with ⟨other, memberOther, id, alive, -, -⟩
      cases eq_of_id_latest member memberOther (same.symm.trans id.symm)
      exact alive gone

/-- In every run, after a pull the cache mirrors the calendar exactly when no event has come
into the window since the last full pull that has not changed since then. -/
theorem cache_mirrors_iff (issuedAt : String -> Nat) {start : Nat} {events : List BusyEvent}
    {db : BusyDb} {last : LastPull} (played : (busyOpening start).play issuedAt events = some db)
    (pulled : db.last = some last) : Mirrors last.time last.log db.cache <-> last.Covered := by
  have synced : Synced issuedAt db := (synced_opening start).play played
  exact (synced.tracks last pulled).2.mirrors_iff

private def hourAt (startAt : Nat) : ListedEvent where
  id := "e"
  status := some .confirmed
  startPart := some (.dateTime (some startAt))
  endPart := some (.dateTime (some (startAt + 60 * 60000)))
  etag := none
  lcOrigin := none
  lcSlotId := none
  lcEpoch := none

private def issuedAfterOne (token : String) : Nat :=
  if token = "t1" ∨ token = "t2" then 1 else 0

private def tokensUntil (expiresAt : Nat) : GoogleTokens := ⟨"a", some "r", "calendar", expiresAt⟩

private def pulledTwice (event : ListedEvent) (inWindow : List ListedEvent) : List BusyEvent :=
  [.change event, .connect (tokensUntil (11 * dayMs)) ["primary"] (some "primary") "1",
    .start 0, .fetch 0 [⟨inWindow, false, some "t1"⟩], .commit 0, .booked true,
    .tick (15 * dayMs), .refresh (tokensUntil (26 * dayMs)),
    .start 0, .fetch 0 [⟨[], false, some "t2"⟩], .commit 0]

theorem exists_of_pulled (issuedAt : String -> Nat) (start : Nat) (events : List BusyEvent)
    (fact : BusyDb -> Prop) [DecidablePred fact]
    (found : (((busyOpening start).play issuedAt events).any fun db => fact db) = true) :
    ∃ db, (busyOpening start).play issuedAt events = some db ∧ fact db := by
  cases played : (busyOpening start).play issuedAt events with
  | none =>
    rw [played] at found
    cases found
  | some db =>
    rw [played, Option.any_some, decide_eq_true_eq] at found
    exact ⟨db, rfl, found⟩

theorem mem_latest_singleton {other : ListedEvent} :
    other ∈ latest ListedEvent.id [event] <-> other = event := by
  simp [latest]

/-- An event of the thirtieth day is in the window of both pulls. -/
theorem cache_mirrors_thirtieth : ∃ db last, (busyOpening (10 * dayMs)).play issuedAfterOne
        (pulledTwice (hourAt (30 * dayMs)) [hourAt (30 * dayMs)]) = some db ∧
      db.last = some last ∧ (last.time = 25 * dayMs ∧ db.cache.length = 1) ∧
      Mirrors last.time last.log db.cache := by
  rcases exists_of_pulled issuedAfterOne (10 * dayMs)
    (pulledTwice (hourAt (30 * dayMs)) [hourAt (30 * dayMs)])
    (fun db => db.last = some ⟨[hourAt (30 * dayMs)], 25 * dayMs, [hourAt (30 * dayMs)],
      10 * dayMs⟩ ∧ db.cache.length = 1) (by decide +kernel) with ⟨db, played, pulled, single⟩
  refine ⟨db, _, played, pulled, ⟨rfl, single⟩, ?_⟩
  apply (cache_mirrors_iff issuedAfterOne played pulled).mpr
  intro event member startAt endAt busy _
  cases mem_latest_singleton.mp member
  cases busy.2.1
  exact Or.inr (by decide +kernel)

/-- An event of the fiftieth day is in the window of the second pull only, and the cache does
not have it. -/
theorem event_not_mirrored : ∃ db last, (busyOpening (10 * dayMs)).play issuedAfterOne
        (pulledTwice (hourAt (50 * dayMs)) []) = some db ∧
      db.last = some last ∧ ¬ Mirrors last.time last.log db.cache := by
  rcases exists_of_pulled issuedAfterOne (10 * dayMs)
    (pulledTwice (hourAt (50 * dayMs)) [])
    (fun db => db.last = some ⟨[hourAt (50 * dayMs)], 25 * dayMs, [hourAt (50 * dayMs)],
      10 * dayMs⟩ ∧ db.cache = []) (by decide +kernel) with ⟨db, played, pulled, empty⟩
  refine ⟨db, _, played, pulled, ?_⟩
  intro mirrors
  have busy : (hourAt (50 * dayMs)).IsBusy (50 * dayMs) (50 * dayMs + 60 * 60000) := by
    refine ⟨?_, rfl, ?_⟩
    · decide
    · decide +kernel
  have mirrored := mirrors.busy (hourAt (50 * dayMs)) (mem_latest_singleton.mpr rfl) _ _ busy
    (by decide +kernel)
  rcases mirrored.1 with ⟨row, held, -⟩
  rw [empty] at held
  cases held

end LevelChannel.Calendar
