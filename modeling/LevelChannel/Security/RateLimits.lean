import Mathlib.Data.List.Forall2
import Mathlib.Logic.Function.Basic

namespace LevelChannel

/-!
# Two rate limiters

Requests are counted in windows: the first request of a key opens one, and the first request that
comes after its end opens the next.  One limiter keeps the windows in the memory of the process.
It forgets those that have ended whenever it is asked, and it stops counting at the limit.  The
other keeps them in a table and counts refused requests too, as far as the column holds them.
-/

namespace RateLimits

structure RateLimitBucket where
  count : Nat
  resetAt : Int
  deriving DecidableEq

structure RateLimitResult where
  allowed : Bool
  remaining : Nat
  retryAfterSeconds : Int
  deriving DecidableEq

variable {Key : Type} [DecidableEq Key]

/-- At most one bucket for each key: a `Map`, or a table whose key is primary. -/
abbrev Buckets (Key : Type) :=
  Key -> Option RateLimitBucket

/-- `Math.ceil(ms / 1000)` -/
def ceilSeconds (ms : Int) : Int :=
  (ms + 999) / 1000

/-- `Math.max(1, Math.ceil((resetAt - currentTime) / 1000))` -/
def retryAfter (resetAt currentTime : Int) : Int :=
  max 1 (ceilSeconds (resetAt - currentTime))

def cleanupExpiredMemoryBuckets (memoryBuckets : Buckets Key) (currentTime : Int) : Buckets Key :=
  fun key => (memoryBuckets key).filter fun bucket => !decide (bucket.resetAt ≤ currentTime)

def newMemoryBucket (memoryBuckets : Buckets Key) (currentTime : Int) (key : Key)
    (limit windowMs : Nat) : RateLimitResult × Buckets Key :=
  (⟨true, limit - 1, ceilSeconds windowMs⟩,
    Function.update memoryBuckets key (some ⟨1, currentTime + windowMs⟩))

def takeMemoryBucket (memoryBuckets : Buckets Key) (currentTime : Int) (key : Key)
    (limit windowMs : Nat) : RateLimitResult × Buckets Key :=
  let buckets := cleanupExpiredMemoryBuckets memoryBuckets currentTime
  match buckets key with
  | none => newMemoryBucket buckets currentTime key limit windowMs
  | some current =>
    if current.resetAt ≤ currentTime then newMemoryBucket buckets currentTime key limit windowMs
    else if limit ≤ current.count then
      (⟨false, 0, retryAfter current.resetAt currentTime⟩, buckets)
    else
      (⟨true, limit - (current.count + 1), retryAfter current.resetAt currentTime⟩,
        Function.update buckets key (some { current with count := current.count + 1 }))

/-- The greatest number of the column `count integer`. -/
def maxInteger : Nat :=
  2147483647

/-- `insert .. on conflict (bucket_key) do update .. returning count, reset_at`, which fails when
the count runs out of the column. -/
def upsertBucket (rateLimitBuckets : Buckets Key) (now : Int) (key : Key) (windowSeconds : Int) :
    Option RateLimitBucket :=
  match rateLimitBuckets key with
  | none => some ⟨1, now + 1000 * windowSeconds⟩
  | some row =>
    if row.resetAt ≤ now then some ⟨1, now + 1000 * windowSeconds⟩
    else if row.count + 1 ≤ maxInteger then some { row with count := row.count + 1 }
    else none

/-- No result is the `null` of the source: the statement failed and changed nothing. -/
def takePostgresBucket (rateLimitBuckets : Buckets Key) (now : Int) (key : Key)
    (limit windowMs : Nat) : Option RateLimitResult × Buckets Key :=
  match upsertBucket rateLimitBuckets now key (max 1 (ceilSeconds windowMs)) with
  | none => (none, rateLimitBuckets)
  | some row =>
    (some (if limit < row.count then ⟨false, 0, retryAfter row.resetAt now⟩
      else ⟨true, limit - row.count, retryAfter row.resetAt now⟩),
      Function.update rateLimitBuckets key (some row))

structure Request (Key : Type) where
  key : Key
  time : Int
  deriving DecidableEq

/-- The clock does not run backwards. -/
def Timed (requests : List (Request Key)) : Prop :=
  requests.Pairwise fun earlier later => earlier.time ≤ later.time

def memoryAnswers (limit windowMs : Nat) : Buckets Key -> List (Request Key) -> List RateLimitResult
  | _, [] => []
  | buckets, request :: requests =>
    let taken := takeMemoryBucket buckets request.time request.key limit windowMs
    taken.1 :: memoryAnswers limit windowMs taken.2 requests

def postgresAnswers (limit windowMs : Nat) :
    Buckets Key -> List (Request Key) -> List (Option RateLimitResult)
  | _, [] => []
  | buckets, request :: requests =>
    let taken := takePostgresBucket buckets request.time request.key limit windowMs
    taken.1 :: postgresAnswers limit windowMs taken.2 requests

def noBuckets : Buckets Key :=
  fun _ => none

/-! ## What a request sees -/

omit [DecidableEq Key] in
theorem cleanup_none {buckets : Buckets Key} {key : Key} (held : buckets key = none) (now : Int) :
    cleanupExpiredMemoryBuckets buckets now key = none := by
  rw [cleanupExpiredMemoryBuckets, held, Option.filter_none]

omit [DecidableEq Key] in
theorem cleanup_ended {buckets : Buckets Key} {key : Key} {bucket : RateLimitBucket} {now : Int}
    (held : buckets key = some bucket) (ended : bucket.resetAt ≤ now) :
    cleanupExpiredMemoryBuckets buckets now key = none := by
  simp [cleanupExpiredMemoryBuckets, held, Option.filter_some, ended]

omit [DecidableEq Key] in
theorem cleanup_live {buckets : Buckets Key} {key : Key} {bucket : RateLimitBucket} {now : Int}
    (held : buckets key = some bucket) (live : now < bucket.resetAt) :
    cleanupExpiredMemoryBuckets buckets now key = some bucket := by
  simp [cleanupExpiredMemoryBuckets, held, Option.filter_some, live]

omit [DecidableEq Key] in
theorem cleanup_cases (buckets : Buckets Key) (now : Int) (key : Key) :
    cleanupExpiredMemoryBuckets buckets now key = none ∨
      ∃ bucket, cleanupExpiredMemoryBuckets buckets now key = some bucket ∧
        buckets key = some bucket ∧ now < bucket.resetAt := by
  cases held : buckets key with
  | none => exact .inl (cleanup_none held now)
  | some bucket =>
    rcases Int.lt_or_le now bucket.resetAt with live | ended
    · exact .inr ⟨bucket, cleanup_live held live, rfl, live⟩
    · exact .inl (cleanup_ended held ended)

omit [DecidableEq Key] in
theorem cleanup_of_le (buckets : Buckets Key) {earlier later : Int} (le : earlier ≤ later) :
    cleanupExpiredMemoryBuckets (cleanupExpiredMemoryBuckets buckets earlier) later =
      cleanupExpiredMemoryBuckets buckets later := by
  funext key
  rcases cleanup_cases buckets earlier key with gone | ⟨bucket, kept, held, -⟩
  · rw [cleanup_none gone]
    cases held : buckets key with
    | none => exact (cleanup_none held later).symm
    | some bucket =>
      rcases Int.lt_or_le earlier bucket.resetAt with live | ended
      · rw [cleanup_live held live] at gone
        cases gone
      · exact (cleanup_ended held (Int.le_trans ended le)).symm
  · rcases Int.lt_or_le later bucket.resetAt with live | ended
    · rw [cleanup_live kept live, cleanup_live held live]
    · rw [cleanup_ended kept ended, cleanup_ended held ended]

theorem cleanup_update (buckets : Buckets Key) (key other : Key) {now : Int}
    {bucket : RateLimitBucket} (live : now < bucket.resetAt) :
    cleanupExpiredMemoryBuckets (Function.update buckets key (some bucket)) now other =
      if other = key then some bucket else cleanupExpiredMemoryBuckets buckets now other := by
  by_cases same : other = key
  · subst same
    rw [if_pos rfl, cleanup_live (Function.update_self other (some bucket) buckets) live]
  · rw [if_neg same]
    simp only [cleanupExpiredMemoryBuckets, Function.update_of_ne same]

theorem takeMemoryBucket_eq (buckets : Buckets Key) (now : Int) (key : Key) (limit windowMs : Nat) :
    takeMemoryBucket buckets now key limit windowMs =
      match cleanupExpiredMemoryBuckets buckets now key with
      | none => newMemoryBucket (cleanupExpiredMemoryBuckets buckets now) now key limit windowMs
      | some current =>
        if limit ≤ current.count then
          (⟨false, 0, retryAfter current.resetAt now⟩, cleanupExpiredMemoryBuckets buckets now)
        else
          (⟨true, limit - (current.count + 1), retryAfter current.resetAt now⟩,
            Function.update (cleanupExpiredMemoryBuckets buckets now) key
              (some { current with count := current.count + 1 })) := by
  rcases cleanup_cases buckets now key with gone | ⟨bucket, kept, -, live⟩
  · simp only [takeMemoryBucket, gone]
  · simp only [takeMemoryBucket, kept, Int.not_le.mpr live, if_false]

omit [DecidableEq Key] in
theorem upsertBucket_eq (table : Buckets Key) (now : Int) (key : Key) (windowSeconds : Int) :
    upsertBucket table now key windowSeconds =
      match cleanupExpiredMemoryBuckets table now key with
      | none => some ⟨1, now + 1000 * windowSeconds⟩
      | some row =>
        if row.count + 1 ≤ maxInteger then some { row with count := row.count + 1 } else none := by
  cases held : table key with
  | none => simp only [upsertBucket, held, cleanup_none held]
  | some row =>
    rcases Int.lt_or_le now row.resetAt with live | ended
    · simp only [upsertBucket, held, cleanup_live held live, Int.not_le.mpr live, if_false]
    · simp only [upsertBucket, held, cleanup_ended held ended, ended, if_true]

theorem ceilSeconds_window (windowSeconds : Nat) :
    ceilSeconds ((1000 * windowSeconds : Nat) : Int) = windowSeconds := by
  unfold ceilSeconds
  omega

theorem max_ceilSeconds {windowSeconds : Nat} (lasts : 0 < windowSeconds) :
    max 1 (ceilSeconds ((1000 * windowSeconds : Nat) : Int)) = windowSeconds := by
  rw [ceilSeconds_window]
  omega

theorem retryAfter_window {windowSeconds : Nat} (lasts : 0 < windowSeconds) (now : Int) :
    retryAfter (now + 1000 * (windowSeconds : Int)) now = windowSeconds := by
  unfold retryAfter ceilSeconds
  omega

/-- A window in memory and the same one in the table.  The one stops at the limit and the other
at the end of its column, whichever comes first. -/
structure SameWindow (limit : Nat) (inMemory inTable : RateLimitBucket) : Prop where
  resetAt : inMemory.resetAt = inTable.resetAt
  counts : inMemory.count = min inTable.count limit ∨
    maxInteger ≤ inTable.count ∧ maxInteger ≤ inMemory.count

/-- What is left of the two stores when what has ended is taken away. -/
def Simulates (limit : Nat) (now : Int) (memory table : Buckets Key) : Prop :=
  ∀ key, Option.Rel (SameWindow limit) (cleanupExpiredMemoryBuckets memory now key)
    (cleanupExpiredMemoryBuckets table now key)

omit [DecidableEq Key] in
theorem Simulates.later {limit : Nat} {earlier later : Int} {memory table : Buckets Key}
    (same : Simulates limit earlier memory table) (le : earlier ≤ later) :
    Simulates limit later memory table := by
  intro key
  rw [← cleanup_of_le memory le, ← cleanup_of_le table le]
  have related := same key
  cases inMemory : cleanupExpiredMemoryBuckets memory earlier key with
  | none =>
    cases inTable : cleanupExpiredMemoryBuckets table earlier key with
    | none =>
      rw [cleanup_none inMemory, cleanup_none inTable]
      exact .none
    | some row => simp [inMemory, inTable] at related
  | some bucket =>
    cases inTable : cleanupExpiredMemoryBuckets table earlier key with
    | none => simp [inMemory, inTable] at related
    | some row =>
      rw [inMemory, inTable, Option.rel_some_some] at related
      rcases Int.lt_or_le later row.resetAt with live | ended
      · rw [cleanup_live inMemory (related.resetAt ▸ live), cleanup_live inTable live]
        exact .some related
      · rw [cleanup_ended inMemory (related.resetAt ▸ ended), cleanup_ended inTable ended]
        exact .none

theorem Simulates.update {limit : Nat} {now : Int} {memory table : Buckets Key}
    (same : Simulates limit now memory table) (key : Key) {inMemory inTable : RateLimitBucket}
    (window : SameWindow limit inMemory inTable) (live : now < inTable.resetAt) :
    Simulates limit now (Function.update memory key (some inMemory))
      (Function.update table key (some inTable)) := by
  intro other
  rw [cleanup_update _ _ _ (window.resetAt ▸ live), cleanup_update _ _ _ live]
  split
  · exact .some window
  · exact same other

omit [DecidableEq Key] in
theorem Simulates.swept {limit : Nat} {now : Int} {memory table : Buckets Key}
    (same : Simulates limit now memory table) :
    Simulates limit now (cleanupExpiredMemoryBuckets memory now) table := by
  intro key
  rw [cleanup_of_le memory (Int.le_refl now)]
  exact same key

/-- Where the table answers, memory gives the same answer. -/
def Follows (inMemory : RateLimitResult) (inTable : Option RateLimitResult) : Prop :=
  ∀ result, inTable = some result -> inMemory = result

theorem take_simulates {limit windowSeconds : Nat} (allows : 0 < limit) (lasts : 0 < windowSeconds)
    {now : Int} {memory table : Buckets Key} (same : Simulates limit now memory table) (key : Key) :
    Follows (takeMemoryBucket memory now key limit (1000 * windowSeconds)).1
        (takePostgresBucket table now key limit (1000 * windowSeconds)).1 ∧
      Simulates limit now (takeMemoryBucket memory now key limit (1000 * windowSeconds)).2
        (takePostgresBucket table now key limit (1000 * windowSeconds)).2 := by
  have related := same key
  have swept := same.swept
  rw [takeMemoryBucket_eq, takePostgresBucket, upsertBucket_eq, max_ceilSeconds lasts]
  rcases cleanup_cases table now key with gone | ⟨row, inTable, held, live⟩
  · have goneToo : cleanupExpiredMemoryBuckets memory now key = none := by
      cases inMemory : cleanupExpiredMemoryBuckets memory now key with
      | none => rfl
      | some bucket => simp [inMemory, gone] at related
    have notOver : ¬limit < 1 := Nat.not_lt.mpr allows
    have ends : now < now + 1000 * (windowSeconds : Int) := by omega
    have sameEnd : now + ((1000 * windowSeconds : Nat) : Int) = now + 1000 * windowSeconds := by
      omega
    simp only [gone, goneToo, newMemoryBucket, notOver, if_false, ceilSeconds_window,
      retryAfter_window lasts]
    refine ⟨?_, swept.update key ⟨sameEnd, .inl (Nat.min_eq_left allows).symm⟩ ends⟩
    intro result answered
    exact Option.some.inj answered
  · cases inMemory : cleanupExpiredMemoryBuckets memory now key with
    | none => simp [inMemory, inTable] at related
    | some bucket =>
      rw [inMemory, inTable, Option.rel_some_some] at related
      have asSet : Function.update (cleanupExpiredMemoryBuckets memory now) key (some bucket) =
          cleanupExpiredMemoryBuckets memory now := by
        rw [← inMemory, Function.update_eq_self]
      have asStored : Function.update table key (some row) = table := by
        rw [← held, Function.update_eq_self]
      by_cases stops : limit ≤ bucket.count
      · by_cases fits : row.count + 1 ≤ maxInteger
        · have counted : bucket.count = min row.count limit := by
            rcases related.counts with counted | ⟨full, -⟩ <;> omega
          have refused : limit < row.count + 1 := by omega
          have next : SameWindow limit bucket { row with count := row.count + 1 } :=
            ⟨related.resetAt, .inl (by dsimp only; omega)⟩
          have kept := swept.update key next live
          rw [asSet] at kept
          simp only [inTable, if_pos fits, if_pos stops, if_pos refused, related.resetAt]
          exact ⟨fun result answered => Option.some.inj answered, kept⟩
        · simp only [inTable, if_neg fits, if_pos stops]
          exact ⟨fun _ answered => (nomatch answered), swept⟩
      · by_cases fits : row.count + 1 ≤ maxInteger
        · have counted : bucket.count = row.count := by
            rcases related.counts with counted | ⟨full, -⟩ <;> omega
          have granted : ¬limit < row.count + 1 := by omega
          have goesOn : ¬limit ≤ row.count := by omega
          have next : SameWindow limit { bucket with count := bucket.count + 1 }
              { row with count := row.count + 1 } :=
            ⟨related.resetAt, .inl (by dsimp only; omega)⟩
          simp only [inTable, if_pos fits, if_neg goesOn, if_neg granted, related.resetAt, counted]
          refine ⟨fun result answered => Option.some.inj answered, ?_⟩
          have kept := swept.update key next live
          rwa [related.resetAt, counted] at kept
        · have next : SameWindow limit { bucket with count := bucket.count + 1 } row := by
            refine ⟨related.resetAt, .inr ?_⟩
            rcases related.counts with counted | ⟨full, more⟩ <;> dsimp only <;> omega
          have kept := swept.update key next live
          rw [asStored] at kept
          simp only [inTable, if_neg fits, if_neg stops]
          exact ⟨fun _ answered => (nomatch answered), kept⟩

omit [DecidableEq Key] in
theorem simulates_noBuckets (limit : Nat) (now : Int) :
    Simulates limit now (noBuckets : Buckets Key) noBuckets := by
  intro key
  rw [cleanup_none (rfl : noBuckets key = none)]
  exact .none

theorem answers_follow {limit windowSeconds : Nat} (allows : 0 < limit) (lasts : 0 < windowSeconds)
    {requests : List (Request Key)} (timed : Timed requests) {now : Int}
    (from_ : ∀ request, request ∈ requests -> now ≤ request.time) {memory table : Buckets Key}
    (same : Simulates limit now memory table) :
    List.Forall₂ Follows (memoryAnswers limit (1000 * windowSeconds) memory requests)
      (postgresAnswers limit (1000 * windowSeconds) table requests) := by
  induction requests generalizing now memory table with
  | nil => exact .nil
  | cons request requests ih =>
    have ⟨later, rest⟩ := List.pairwise_cons.mp timed
    have atRequest := same.later (from_ request List.mem_cons_self)
    have ⟨first, next⟩ := take_simulates allows lasts atRequest request.key
    exact .cons first (ih rest later next)

def allowedWithin (key : Key) (since upTo : Int) (requests : List (Request Key))
    (allowed : List Bool) : Nat :=
  (requests.zip allowed).countP fun (request, allowed) =>
    allowed && decide (request.key = key ∧ since ≤ request.time ∧ request.time ≤ upTo)

/-- How far a key has come in an interval that is as long as a window: it has not been counted
there yet, the bucket is the first that reaches into the interval, that bucket is gone, the bucket
is the second one and lasts longer than the interval, or the interval has passed. -/
inductive Phase (limit : Nat) (since upTo now : Int) : Nat -> Option RateLimitBucket -> Prop where
  | before (bucket : Option RateLimitBucket) : Phase limit since upTo now 0 bucket
  | first {counted : Nat} {bucket : RateLimitBucket} (le_count : counted ≤ bucket.count)
      (count_le : bucket.count ≤ limit) (reaches : since < bucket.resetAt) :
      Phase limit since upTo now counted (some bucket)
  | between {counted : Nat} (le_limit : counted ≤ limit) (begun : since < now) :
      Phase limit since upTo now counted none
  | second {counted : Nat} {bucket : RateLimitBucket} (le_count : counted ≤ limit + bucket.count)
      (count_le : bucket.count ≤ limit) (outlasts : upTo < bucket.resetAt) :
      Phase limit since upTo now counted (some bucket)
  | after {counted : Nat} (bucket : Option RateLimitBucket) (le_limits : counted ≤ 2 * limit)
      (passed : upTo < now) : Phase limit since upTo now counted bucket

namespace Phase

variable {limit : Nat} {since upTo now : Int} {counted : Nat}

theorem le_limits {bucket : Option RateLimitBucket}
    (phase : Phase limit since upTo now counted bucket) : counted ≤ 2 * limit := by
  cases phase <;> omega

omit [DecidableEq Key] in
theorem swept {buckets : Buckets Key} {key : Key}
    (phase : Phase limit since upTo now counted (buckets key)) {later : Int} (le : now ≤ later) :
    Phase limit since upTo later counted (cleanupExpiredMemoryBuckets buckets later key) := by
  cases held : buckets key with
  | none =>
    rw [held] at phase
    rw [cleanup_none held]
    cases phase with
    | before => exact .before none
    | between le_limit begun => exact .between le_limit (by omega)
    | after _ le_limits passed => exact .after none le_limits (by omega)
  | some bucket =>
    rw [held] at phase
    rcases Int.lt_or_le later bucket.resetAt with live | ended
    · rw [cleanup_live held live]
      cases phase with
      | before => exact .before _
      | first le_count count_le reaches => exact .first le_count count_le reaches
      | second le_count count_le outlasts => exact .second le_count count_le outlasts
      | after _ le_limits passed => exact .after _ le_limits (by omega)
    · rw [cleanup_ended held ended]
      cases phase with
      | before => exact .before none
      | first le_count count_le reaches => exact .between (by omega) (by omega)
      | second le_count count_le outlasts => exact .after none (by omega) (by omega)
      | after _ le_limits passed => exact .after none le_limits (by omega)

theorem opened {windowMs : Nat} (phase : Phase limit since upTo now counted none)
    (allows : 0 < limit) (lasts : 0 < windowMs) (span : upTo ≤ since + windowMs) :
    Phase limit since upTo now
      (counted + if since ≤ now ∧ now ≤ upTo then 1 else 0) (some ⟨1, now + windowMs⟩) := by
  cases phase with
  | before =>
    split
    · exact .first (by dsimp only; omega) allows (by dsimp only; omega)
    · exact .before _
  | between le_limit begun =>
    exact .second (by dsimp only; split <;> omega) allows (by dsimp only; omega)
  | after _ le_limits passed =>
    rw [if_neg (by omega)]
    exact .after _ le_limits passed

theorem counts_on {bucket : RateLimitBucket}
    (phase : Phase limit since upTo now counted (some bucket)) (live : now < bucket.resetAt)
    (goesOn : bucket.count < limit) :
    Phase limit since upTo now (counted + if since ≤ now ∧ now ≤ upTo then 1 else 0)
      (some { bucket with count := bucket.count + 1 }) := by
  cases phase with
  | before =>
    split
    · exact .first (by dsimp only; omega) goesOn (by dsimp only; omega)
    · exact .before _
  | first le_count count_le reaches =>
    exact .first (by dsimp only; split <;> omega) goesOn reaches
  | second le_count count_le outlasts =>
    exact .second (by dsimp only; split <;> omega) goesOn outlasts
  | after _ le_limits passed =>
    rw [if_neg (by omega)]
    exact .after _ le_limits passed

end Phase

theorem take_phase {limit windowMs : Nat} (allows : 0 < limit) (lasts : 0 < windowMs)
    {since now later : Int} {counted : Nat} {buckets : Buckets Key} {key : Key}
    (phase : Phase limit since (since + windowMs) now counted (buckets key)) (le : now ≤ later)
    (requested : Key) : Phase limit since (since + windowMs) later
      (counted + if (takeMemoryBucket buckets later requested limit windowMs).1.allowed &&
        decide (requested = key ∧ since ≤ later ∧ later ≤ since + windowMs) then 1 else 0)
      ((takeMemoryBucket buckets later requested limit windowMs).2 key) := by
  have swept := phase.swept le
  rw [takeMemoryBucket_eq]
  by_cases asked : requested = key
  · subst asked
    rcases cleanup_cases buckets later requested with gone | ⟨bucket, kept, -, live⟩
    · rw [gone] at swept
      simpa [gone, newMemoryBucket] using swept.opened allows lasts (Int.le_refl _)
    · rw [kept] at swept
      by_cases stops : limit ≤ bucket.count
      · simpa [kept, stops] using swept
      · simpa [kept, stops] using swept.counts_on live (by omega)
  · have apart : key ≠ requested := fun same => asked same.symm
    rcases cleanup_cases buckets later requested with gone | ⟨bucket, kept, -, live⟩
    · simpa [gone, newMemoryBucket, asked, Function.update_of_ne apart] using swept
    · by_cases stops : limit ≤ bucket.count
      · simpa [kept, stops, asked] using swept
      · simpa [kept, stops, asked, Function.update_of_ne apart] using swept

theorem memory_allows {limit windowMs : Nat} (allows : 0 < limit) (lasts : 0 < windowMs)
    {requests : List (Request Key)} (timed : Timed requests) {now : Int}
    (from_ : ∀ request, request ∈ requests -> now ≤ request.time) {key : Key} {since : Int}
    {counted : Nat} {buckets : Buckets Key}
    (phase : Phase limit since (since + windowMs) now counted (buckets key)) :
    counted + allowedWithin key since (since + windowMs) requests
      ((memoryAnswers limit windowMs buckets requests).map (·.allowed)) ≤ 2 * limit := by
  induction requests generalizing now counted buckets with
  | nil => exact phase.le_limits
  | cons request requests ih =>
    have ⟨later, rest⟩ := List.pairwise_cons.mp timed
    have next := take_phase allows lasts phase (from_ request List.mem_cons_self) request.key
    have bounded := ih rest later next
    simp only [memoryAnswers, List.map_cons, allowedWithin, List.zip_cons_cons,
      List.countP_cons] at bounded ⊢
    omega

theorem allowedWithin_of_follows (key : Key) (since upTo : Int) {requests : List (Request Key)}
    {inMemory : List RateLimitResult} {inTable : List (Option RateLimitResult)}
    (follow : List.Forall₂ Follows inMemory inTable) :
    allowedWithin key since upTo requests (inTable.map fun answer => answer.any (·.allowed)) ≤
      allowedWithin key since upTo requests (inMemory.map (·.allowed)) := by
  induction follow generalizing requests with
  | nil => simp [allowedWithin]
  | @cons memoryAnswer tableAnswer _ _ follows _ ih =>
    cases requests with
    | nil => simp [allowedWithin]
    | cons request requests =>
      have fewer := @ih requests
      have implied : tableAnswer.any (·.allowed) = true -> memoryAnswer.allowed = true := by
        cases tableAnswer with
        | none => simp
        | some result => simp [follows result rfl]
      simp only [allowedWithin, List.map_cons, List.zip_cons_cons, List.countP_cons] at fewer ⊢
      grind

/-! ## The end of the column -/

/-- How many requests of the key come from an instant on until a window later, the end
excluded. -/
def requestedWithin (windowMs : Nat) (key : Key) (since : Int) (requests : List (Request Key)) :
    Nat :=
  requests.countP fun request =>
    decide (request.key = key ∧ since ≤ request.time ∧ request.time < since + windowMs)

/-- Every row has counted requests of its own window only. -/
structure Counts (windowMs : Nat) (now : Int) (past : List (Request Key)) (table : Buckets Key) :
    Prop where
  begun : ∀ key row, table key = some row -> row.resetAt ≤ now + windowMs
  counted : ∀ key row, table key = some row ->
    row.count ≤ requestedWithin windowMs key (row.resetAt - windowMs) past

theorem Counts.nothing (windowMs : Nat) (now : Int) :
    Counts windowMs now [] (noBuckets : Buckets Key) where
  begun := fun _ _ held => nomatch held
  counted := fun _ _ held => nomatch held

theorem Counts.later {windowMs : Nat} {now later : Int} {past : List (Request Key)}
    {table : Buckets Key} (counts : Counts windowMs now past table) (le : now ≤ later)
    (request : Request Key) : Counts windowMs later (past ++ [request]) table where
  begun := by
    intro key row held
    have begun := counts.begun key row held
    omega
  counted := by
    intro key row held
    have counted := counts.counted key row held
    simp only [requestedWithin, List.countP_append] at counted ⊢
    omega

theorem Counts.update {windowMs : Nat} {now : Int} {past : List (Request Key)}
    {table : Buckets Key} (counts : Counts windowMs now past table) {key : Key}
    {row : RateLimitBucket} (begun : row.resetAt ≤ now + windowMs)
    (counted : row.count ≤ requestedWithin windowMs key (row.resetAt - windowMs) past) :
    Counts windowMs now past (Function.update table key (some row)) where
  begun := by
    intro other found held
    by_cases same : other = key
    · subst same
      rw [Function.update_self, Option.some.injEq] at held
      exact held ▸ begun
    · rw [Function.update_of_ne same] at held
      exact counts.begun other found held
  counted := by
    intro other found held
    by_cases same : other = key
    · subst same
      rw [Function.update_self, Option.some.injEq] at held
      exact held ▸ counted
    · rw [Function.update_of_ne same] at held
      exact counts.counted other found held

theorem take_answers {windowSeconds : Nat} (limit : Nat) (lasts : 0 < windowSeconds)
    {now : Int} {past : List (Request Key)} {table : Buckets Key}
    (counts : Counts (1000 * windowSeconds) now past table) (request : Request Key)
    (le : now ≤ request.time) (room : ∀ since,
      requestedWithin (1000 * windowSeconds) request.key since (past ++ [request]) ≤ maxInteger) :
    (takePostgresBucket table request.time request.key limit (1000 * windowSeconds)).1 ≠ none ∧
      Counts (1000 * windowSeconds) request.time (past ++ [request])
        (takePostgresBucket table request.time request.key limit (1000 * windowSeconds)).2 := by
  have stays := counts.later le request
  rw [takePostgresBucket, upsertBucket_eq, max_ceilSeconds lasts]
  rcases cleanup_cases table request.time request.key with gone | ⟨row, kept, held, live⟩
  · simp only [gone]
    refine ⟨Option.some_ne_none _, stays.update (by dsimp only; omega) ?_⟩
    dsimp only [requestedWithin]
    rw [List.countP_append, List.countP_singleton, if_pos (decide_eq_true (by grind))]
    omega
  · have counted := counts.counted request.key row held
    have begun := counts.begun request.key row held
    have here : row.count + 1 ≤ requestedWithin (1000 * windowSeconds) request.key
        (row.resetAt - (1000 * windowSeconds : Nat)) (past ++ [request]) := by
      unfold requestedWithin at counted ⊢
      rw [List.countP_append, List.countP_singleton, if_pos (decide_eq_true (by grind))]
      omega
    have fits : row.count + 1 ≤ maxInteger := Nat.le_trans here (room _)
    simp only [kept, if_pos fits]
    exact ⟨Option.some_ne_none _, stays.update (by dsimp only; omega) here⟩

theorem postgres_answers {windowSeconds : Nat} (limit : Nat) (lasts : 0 < windowSeconds)
    {requests : List (Request Key)} (timed : Timed requests) {now : Int}
    (from_ : ∀ request, request ∈ requests -> now ≤ request.time)
    {past : List (Request Key)} {table : Buckets Key}
    (counts : Counts (1000 * windowSeconds) now past table) (room : ∀ key since,
      requestedWithin (1000 * windowSeconds) key since (past ++ requests) ≤ maxInteger) :
    none ∉ postgresAnswers limit (1000 * windowSeconds) table requests := by
  induction requests generalizing now past table with
  | nil => exact List.not_mem_nil
  | cons request requests ih =>
    have ⟨later, rest⟩ := List.pairwise_cons.mp timed
    have asOne : past ++ request :: requests = (past ++ [request]) ++ requests := by simp
    rw [asOne] at room
    have ⟨answered, next⟩ := take_answers limit lasts counts request
      (from_ request List.mem_cons_self) (fun since => by
        have fewer := room request.key since
        simp only [requestedWithin, List.countP_append] at fewer ⊢
        omega)
    rw [postgresAnswers, List.mem_cons, not_or]
    exact ⟨fun same => answered same.symm, ih rest later next room⟩

theorem eq_map_some_of_follows {inMemory : List RateLimitResult}
    {inTable : List (Option RateLimitResult)} (follow : List.Forall₂ Follows inMemory inTable)
    (answered : none ∉ inTable) : inTable = inMemory.map some := by
  induction follow with
  | nil => rfl
  | @cons memoryAnswer tableAnswer _ _ follows _ ih =>
    rw [List.mem_cons, not_or] at answered
    cases tableAnswer with
    | none => exact absurd rfl answered.1
    | some result => rw [ih answered.2, List.map_cons, follows result rfl]

/-- What the database answers is what memory answers, and it answers everything until a key comes
more often within a window than its column can count.  Neither allows more than twice the limit
in an interval as long as a window, its ends included. -/
theorem rateLimiters_agree {limit windowSeconds : Nat} (allows : 0 < limit)
    (lasts : 0 < windowSeconds) {requests : List (Request Key)} (timed : Timed requests) :
    List.Forall₂ Follows (memoryAnswers limit (1000 * windowSeconds) noBuckets requests)
        (postgresAnswers limit (1000 * windowSeconds) noBuckets requests) ∧ ((∀ key since,
          requestedWithin (1000 * windowSeconds) key since requests ≤ maxInteger) ->
        postgresAnswers limit (1000 * windowSeconds) noBuckets requests =
          (memoryAnswers limit (1000 * windowSeconds) noBuckets requests).map some) ∧ ∀ key since,
        allowedWithin key since (since + (1000 * windowSeconds : Nat)) requests
            ((memoryAnswers limit (1000 * windowSeconds) noBuckets requests).map (·.allowed)) ≤
          2 * limit ∧ allowedWithin key since (since + (1000 * windowSeconds : Nat)) requests
            ((postgresAnswers limit (1000 * windowSeconds) noBuckets requests).map
              fun answer => answer.any (·.allowed)) ≤
          2 * limit := by
  obtain ⟨start, from_⟩ : ∃ start, ∀ request, request ∈ requests ->
      start ≤ request.time := by
    cases requests with
    | nil => exact ⟨0, fun _ none => absurd none List.not_mem_nil⟩
    | cons request requests =>
      refine ⟨request.time, fun other member => ?_⟩
      rcases List.mem_cons.mp member with rfl | later
      · exact Int.le_refl _
      · exact (List.pairwise_cons.mp timed).1 other later
  have follow := answers_follow allows lasts timed from_ (simulates_noBuckets limit start)
  refine ⟨follow, fun room => ?_, fun key since => ?_⟩
  · exact eq_map_some_of_follows follow
      (postgres_answers limit lasts timed from_ (.nothing _ start) (by simpa using room))
  · have unseen : Phase limit since (since + (1000 * windowSeconds : Nat)) start 0
        ((noBuckets : Buckets Key) key) := .before none
    have few := memory_allows allows (by omega) timed from_ unseen
    rw [Nat.zero_add] at few
    exact ⟨few, Nat.le_trans (allowedWithin_of_follows key since _ follow) few⟩

def threeLogins : List (Request String) :=
  [⟨"login", 0⟩, ⟨"login", 1⟩, ⟨"login", 60000⟩]

/-- One a minute: the second request is refused, and the third one finds the window expired. -/
theorem rateLimiters_agree_three :
    (memoryAnswers 1 60000 noBuckets threeLogins).map (·.allowed) = [true, false, true] ∧
      postgresAnswers 1 60000 noBuckets threeLogins =
        (memoryAnswers 1 60000 noBuckets threeLogins).map some := by
  have timed : Timed threeLogins := by simp [Timed, threeLogins]
  refine ⟨by decide +kernel, ?_⟩
  refine (rateLimiters_agree (by decide : 0 < 1) (by decide : 0 < 60) timed).2.1 ?_
  intro key since
  exact Nat.le_trans List.countP_le_length (by decide)

theorem none_mem_postgresAnswers {limit windowMs : Nat} {key : Key} {now : Int} (left : Nat)
    {table : Buckets Key} {row : RateLimitBucket} (held : table key = some row)
    (live : now < row.resetAt) (full : maxInteger ≤ row.count + left) :
    none ∈ postgresAnswers limit windowMs table (List.replicate (left + 1) ⟨key, now⟩) := by
  induction left generalizing table row with
  | zero =>
    have overflows : ¬row.count + 1 ≤ maxInteger := by omega
    simp [postgresAnswers, takePostgresBucket, upsertBucket, held, Int.not_le.mpr live, overflows]
  | succ left ih =>
    rw [List.replicate_succ, postgresAnswers, List.mem_cons]
    by_cases fits : row.count + 1 ≤ maxInteger
    · right
      have counted : (takePostgresBucket table now key limit windowMs).2 key =
          some { row with count := row.count + 1 } := by
        simp [takePostgresBucket, upsertBucket, held, Int.not_le.mpr live, fits]
      exact ih counted live (by dsimp only; omega)
    · left
      simp [takePostgresBucket, upsertBucket, held, Int.not_le.mpr live, fits]

/-- Ten a minute, and more requests in one minute than an integer counts: memory refuses the last
and the table has no answer. -/
theorem rateLimiters_disagree : ¬∀ (limit windowSeconds : Nat) (requests : List (Request String)),
      0 < limit -> 0 < windowSeconds -> Timed requests ->
      (postgresAnswers limit (1000 * windowSeconds) noBuckets requests).map
          (Option.map fun result => (result.allowed, result.remaining)) =
        (memoryAnswers limit (1000 * windowSeconds) noBuckets requests).map
          fun result => some (result.allowed, result.remaining) := by
  intro agree
  have timed : Timed (List.replicate (maxInteger + 1) (⟨"login", 0⟩ : Request String)) :=
    List.pairwise_replicate.mpr (.inr (Int.le_refl _))
  have same := agree 10 60 _ (by decide) (by decide) timed
  have unanswered : none ∈ postgresAnswers 10 (1000 * 60) noBuckets
      (List.replicate (maxInteger + 1) (⟨"login", 0⟩ : Request String)) := by
    obtain ⟨left, count⟩ : ∃ left, maxInteger = 1 + left := ⟨2147483646, rfl⟩
    have opened : (takePostgresBucket noBuckets 0 "login" 10 60000).2 "login" =
        some ⟨1, 60000⟩ := by
      decide
    rw [count, Nat.add_comm 1 left, List.replicate_succ]
    exact List.mem_cons_of_mem _
      (none_mem_postgresAnswers left opened (by decide) (Nat.le_of_eq count))
  have noDecision := List.mem_map_of_mem (f := Option.map fun result : RateLimitResult =>
    (result.allowed, result.remaining)) unanswered
  rw [same] at noDecision
  simp at noDecision

end RateLimits

end LevelChannel
