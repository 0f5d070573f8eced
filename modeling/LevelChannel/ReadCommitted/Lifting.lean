import LevelChannel.ReadCommitted.Statements

namespace ReadCommitted

open Relation

/-!
# Programs on a part of a database

A program that was written for some tables also runs where there are more of them.  It
reads its own part of the larger state and its writes are among the larger ones.  A
program that is safe under a contract for its part is safe under a contract for the whole
that lets the part be disturbed no more than the first one does, and that accepts whatever
the first one guarantees.
-/

variable {DB Whole Lock OuterLock Write Outer Drift OuterDrift Label OuterLabel Choice Result
  Answer : Type}

namespace Program

/-- The program on the larger database. -/
def within (read : Whole -> DB) (inject : Write -> Outer) :
    Program DB Lock Write Label Choice Result -> Program Whole Lock Outer Label Choice Result
  | .done result => .done result
  | .crashed => .crashed
  | .statement label locks onError writes next =>
    .statement label locks (within read inject onError)
      (fun committed own => (writes (read committed) (read own)).map inject)
      fun committed own => within read inject (next (read committed) (read own))
  | .commit onError next => .commit (within read inject onError) (within read inject next)
  | .rollback next => .rollback (within read inject next)
  | .call label writes next =>
    .call label (fun committed choice => (writes (read committed) choice).map inject)
      fun committed choice => within read inject (next (read committed) choice)

def renamed (relabel : Label -> OuterLabel) (relock : Lock -> OuterLock) :
    Program DB Lock Write Label Choice Result -> Program DB OuterLock Write OuterLabel Choice Result
  | .done result => .done result
  | .crashed => .crashed
  | .statement label locks onError writes next =>
    .statement (relabel label) (locks.map relock) (renamed relabel relock onError) writes
      fun committed own => renamed relabel relock (next committed own)
  | .commit onError next =>
    .commit (renamed relabel relock onError) (renamed relabel relock next)
  | .rollback next => .rollback (renamed relabel relock next)
  | .call label writes next =>
    .call (relabel label) writes
      fun committed choice => renamed relabel relock (next committed choice)

def beforeCommit (label : Label) (writes : DB -> List Write) :
    Program DB Lock Write Label Choice Result -> Program DB Lock Write Label Choice Result
  | .done result => .done result
  | .crashed => .crashed
  | .statement own locks onError queued next =>
    .statement own locks (beforeCommit label writes onError) queued
      fun committed own => beforeCommit label writes (next committed own)
  | .commit onError next =>
    .statement label [] (beforeCommit label writes onError) (fun _ own => writes own) fun _ _ =>
      .commit (beforeCommit label writes onError) (beforeCommit label writes next)
  | .rollback next => .rollback (beforeCommit label writes next)
  | .call own outside next =>
    .call own outside fun committed choice => beforeCommit label writes (next committed choice)

/-- Where the program is done, `next` goes on. -/
def andThen (next : Result -> Program DB Lock Write Label Choice Answer) :
    Program DB Lock Write Label Choice Result -> Program DB Lock Write Label Choice Answer
  | .done result => next result
  | .crashed => .crashed
  | .statement label locks onError writes onward =>
    .statement label locks (andThen next onError) writes
      fun committed own => andThen next (onward committed own)
  | .commit onError onward => .commit (andThen next onError) (andThen next onward)
  | .rollback onward => .rollback (andThen next onward)
  | .call label writes onward =>
    .call label writes fun committed choice => andThen next (onward committed choice)

end Program

/-- The store of the part, as the whole has it. -/
structure Store.Part (whole : Store Whole Lock Outer OuterDrift)
    (part : Store DB Lock Write Drift) (read : Whole -> DB) (inject : Write -> Outer) : Prop where
  apply : ∀ db write, read (whole.apply db (inject write)) = part.apply (read db) write

theorem Store.Part.applyAll {whole : Store Whole Lock Outer OuterDrift}
    {part : Store DB Lock Write Drift} {read : Whole -> DB} {inject : Write -> Outer}
    (is : whole.Part part read inject) (db : Whole) (writes : List Write) :
    read (whole.applyAll db (writes.map inject)) = part.applyAll (read db) writes := by
  induction writes generalizing db with
  | nil => rfl
  | cons write writes extend =>
    rw [List.map_cons, Store.applyAll_cons, Store.applyAll_cons, extend, is.apply]

namespace Contract

variable {whole : Store Whole Lock Outer OuterDrift} {part : Store DB Lock Write Drift}
  {read : Whole -> DB} {inject : Write -> Outer}

/-- What relates a contract for the whole to one for the part: the others disturb the part
no more than it allows for, and what its own programs guarantee is enough. -/
structure Lifts (outer : Contract Whole Lock) (inner : Contract DB Lock)
    (whole : Store Whole Lock Outer OuterDrift) (part : Store DB Lock Write Drift)
    (read : Whole -> DB) (inject : Write -> Outer) : Prop where
  good : ∀ db, outer.Good db -> inner.Good (read db)
  relies : ∀ session held before after, outer.Disturbs whole session held before after ->
    inner.Drifts part session held (read before) (read after)
  keeps : ∀ session held db (writes : List Write), outer.Good db ->
    inner.Good (part.applyAll (read db) writes) ->
    inner.Guarantee session held (read db) (part.applyAll (read db) writes) ->
      outer.Good (whole.applyAll db (writes.map inject)) ∧
        outer.Guarantee session held db (whole.applyAll db (writes.map inject))

variable {outer : Contract Whole Lock} {inner : Contract DB Lock}

theorem Lifts.drifts (lifts : outer.Lifts inner whole part read inject) {session : Nat}
    {held : List Lock} {before after : Whole} (moved : outer.Drifts whole session held before after) :
    inner.Drifts part session held (read before) (read after) := by
  induction moved with
  | refl => exact .refl
  | tail _ step extend => exact extend.trans (lifts.relies session held _ _ step)

theorem Safe.within (is : whole.Part part read inject)
    (lifts : outer.Lifts inner whole part read inject) {permits : Label -> DB -> Prop}
    {allows : Label -> Whole -> Prop}
    (permitted : ∀ label db, allows label db -> permits label (read db)) {session : Nat}
    {program : Program DB Lock Write Label Choice Result} {held : List Lock}
    {pending : List Write} {db : Whole}
    (safe : inner.Safe part permits session program held pending (read db)) :
    outer.Safe whole allows session (program.within read inject) held (pending.map inject) db := by
  induction program generalizing held pending db with
  | done result => trivial
  | crashed => trivial
  | statement label locks onError writes next failed went =>
    intro now moved good
    have here := safe (read now) (lifts.drifts moved) (lifts.good now good)
    refine ⟨failed here.1, fun allowed => ?_⟩
    have going := here.2 (permitted label now allowed)
    rw [← is.applyAll] at going
    rw [← List.map_append]
    exact went _ _ going
  | commit onError next failed went =>
    intro now moved good
    rcases safe (read now) (lifts.drifts moved) (lifts.good now good) with
      ⟨goodAfter, kept, going, back, lost⟩
    rw [← is.applyAll] at going lost
    rcases lifts.keeps session held now pending good goodAfter kept with ⟨outerGood, outerKept⟩
    exact ⟨outerGood, outerKept, went going, failed back, failed lost⟩
  | rollback next went =>
    intro now moved good
    exact went (safe (read now) (lifts.drifts moved) (lifts.good now good))
  | call label writes next went =>
    intro now moved good allowed choice
    rcases safe (read now) (lifts.drifts moved) (lifts.good now good)
      (permitted label now allowed) choice with ⟨goodAfter, kept, going⟩
    rw [← is.applyAll] at going
    rcases lifts.keeps session held now _ good goodAfter kept with ⟨outerGood, outerKept⟩
    exact ⟨outerGood, outerKept, went _ _ going⟩

end Contract

end ReadCommitted
