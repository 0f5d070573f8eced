import LevelChannel.ReadCommitted.Interference

namespace ReadCommitted

/-!
# Disciplines of writing

A `Contract` bounds what a transaction does as a whole.  A discipline says, write by
write, what a session may queue while it holds given locks, and when two states look
alike to the holder of those locks.  What the discipline allows is judged on the
session's own view, so its laws carry three things across the other sessions at once:
that the queued writes are still allowed, that the facts read under the locks still
hold of the own view, and that a commit would leave a good state.

A program whose statements are each lawful on whatever view they find is then safe
without further argument (`Discipline.safe_of_obeys`).  Only where a statement relies
on what an earlier one has read does a proof have to follow the program.
-/

variable {DB Lock Write Drift Label Choice Result : Type}

def Fits (store : Store DB Lock Write Drift) (allows : DB -> Write -> Prop) :
    DB -> List Write -> Prop
  | _, [] => True
  | db, write :: writes => allows db write ∧ Fits store allows (store.apply db write) writes

namespace Fits

variable {store : Store DB Lock Write Drift} {allows : DB -> Write -> Prop} {db : DB}

theorem append {first second : List Write} (one : Fits store allows db first)
    (two : Fits store allows (store.applyAll db first) second) :
    Fits store allows db (first ++ second) := by
  induction first generalizing db with
  | nil => exact two
  | cons write writes extend => exact ⟨one.1, extend one.2 two⟩

theorem mono {wider : DB -> Write -> Prop} (more : ∀ db write, allows db write -> wider db write)
    {writes : List Write} (fits : Fits store allows db writes) : Fits store wider db writes := by
  induction writes generalizing db with
  | nil => trivial
  | cons write writes extend => exact ⟨more _ _ fits.1, extend fits.2⟩

theorem of_pairwise {writes : List Write}
    (apart : writes.Pairwise fun first second =>
      ∀ db, allows db first -> allows db second -> allows (store.apply db first) second)
    (each : ∀ write, write ∈ writes -> allows db write) : Fits store allows db writes := by
  induction writes generalizing db with
  | nil => trivial
  | cons write writes extend =>
    rcases List.pairwise_cons.mp apart with ⟨before, rest⟩
    have first := each write List.mem_cons_self
    refine ⟨first, extend rest ?_⟩
    intro other member
    exact before other member db first (each other (List.mem_cons_of_mem _ member))

end Fits

/-- What sessions may write under a contract.  `Inv` is the part of the invariant that
every single write keeps; `Agrees session held` relates states the session cannot tell
apart while it holds the locks. -/
structure Discipline (contract : Contract DB Lock) (store : Store DB Lock Write Drift) where
  Inv : DB -> Prop
  Allows : Nat -> List Lock -> DB -> Write -> Prop
  Agrees : Nat -> List Lock -> DB -> DB -> Prop
  inv_of_good : ∀ {db}, contract.Good db -> Inv db
  keeps : ∀ {session held db write}, Inv db -> Allows session held db write ->
    Inv (store.apply db write)
  widen : ∀ {session held more db write}, (∀ lock, lock ∈ held -> lock ∈ more) ->
    Allows session held db write -> Allows session more db write
  narrow : ∀ {session held more first second}, (∀ lock, lock ∈ held -> lock ∈ more) ->
    Agrees session more first second -> Agrees session held first second
  transfer : ∀ {session held first second write}, Inv first -> Inv second ->
    Agrees session held first second -> Allows session held first write ->
    Allows session held second write ∧
      Agrees session held (store.apply first write) (store.apply second write)
  disturbed : ∀ {session held before after},
    contract.Disturbs store session held before after -> Agrees session held before after
  settles : ∀ {session held first second writes}, contract.Good first ->
    contract.Good second -> Agrees session held first second ->
    Fits store (Allows session held) first writes ->
    contract.Good (store.applyAll first writes) -> contract.Good (store.applyAll second writes)
  guarantee : ∀ {session held db writes}, contract.Good db ->
    Fits store (Allows session held) db writes -> contract.Good (store.applyAll db writes) ->
    contract.Guarantee session held db (store.applyAll db writes)

namespace Discipline

variable {contract : Contract DB Lock} {store : Store DB Lock Write Drift}
  (discipline : Discipline contract store) {permits : Label -> DB -> Prop}
  {session : Nat} {held : List Lock} {pending : List Write} {db : DB}

theorem inv_applyAll {writes : List Write} (inv : discipline.Inv db)
    (fits : Fits store (discipline.Allows session held) db writes) :
    discipline.Inv (store.applyAll db writes) := by
  induction writes generalizing db with
  | nil => exact inv
  | cons write writes extend => exact extend (discipline.keeps inv fits.1) fits.2

theorem transfer_all {first second : DB} {writes : List Write} (one : discipline.Inv first)
    (two : discipline.Inv second) (agree : discipline.Agrees session held first second)
    (fits : Fits store (discipline.Allows session held) first writes) :
    Fits store (discipline.Allows session held) second writes ∧
      discipline.Agrees session held (store.applyAll first writes)
        (store.applyAll second writes) := by
  induction writes generalizing first second with
  | nil => exact ⟨trivial, agree⟩
  | cons write writes extend =>
    rcases discipline.transfer one two agree fits.1 with ⟨allowed, still⟩
    have rest := extend (discipline.keeps one fits.1) (discipline.keeps two allowed) still fits.2
    exact ⟨⟨allowed, rest.1⟩, rest.2⟩

/-! ## Facts about the own view -/

def Local (session : Nat) (held : List Lock) (fact : DB -> Prop) : Prop :=
  ∀ first second, discipline.Inv first -> discipline.Inv second ->
    discipline.Agrees session held first second -> fact first -> fact second

variable {discipline}

theorem Local.and {fact other : DB -> Prop} (one : discipline.Local session held fact)
    (two : discipline.Local session held other) :
    discipline.Local session held (fun db => fact db ∧ other db) := by
  intro first second invFirst invSecond agree both
  exact ⟨one first second invFirst invSecond agree both.1,
    two first second invFirst invSecond agree both.2⟩

theorem Local.all {Index : Sort*} {fact : Index -> DB -> Prop}
    (each : ∀ index, discipline.Local session held (fact index)) :
    discipline.Local session held (fun db => ∀ index, fact index db) := by
  intro first second invFirst invSecond agree every index
  exact each index first second invFirst invSecond agree (every index)

variable (discipline session held) in
theorem Local.const (fact : Prop) : discipline.Local session held (fun _ => fact) :=
  fun _ _ _ _ _ holds => holds

variable (discipline) in
/-- The queued writes are allowed, and the session's own view satisfies a fact. -/
def Holds (session : Nat) (held : List Lock) (pending : List Write) (fact : DB -> Prop)
    (db : DB) : Prop :=
  Fits store (discipline.Allows session held) db pending ∧ fact (store.applyAll db pending)

variable (discipline) in
/-- The same, where a commit would also leave a good state. -/
def Stands (session : Nat) (held : List Lock) (pending : List Write) (fact : DB -> Prop)
    (db : DB) : Prop :=
  discipline.Holds session held pending (fun own => contract.Good own ∧ fact own) db

theorem Holds.stable {fact : DB -> Prop} (loc : discipline.Local session held fact) :
    contract.Stable store session held (discipline.Holds session held pending fact) := by
  intro before after holds disturbed
  have one := discipline.inv_of_good disturbed.1
  have two := discipline.inv_of_good disturbed.2.1
  rcases discipline.transfer_all one two (discipline.disturbed disturbed) holds.1 with ⟨fits, agree⟩
  exact ⟨fits, loc _ _ (discipline.inv_applyAll one holds.1) (discipline.inv_applyAll two fits)
    agree holds.2⟩

theorem Stands.stable {fact : DB -> Prop} (loc : discipline.Local session held fact) :
    contract.Stable store session held (discipline.Stands session held pending fact) := by
  intro before after stands disturbed
  have still := Holds.stable loc before after ⟨stands.1, stands.2.2⟩ disturbed
  exact ⟨still.1, discipline.settles disturbed.1 disturbed.2.1 (discipline.disturbed disturbed)
    stands.1 stands.2.1, still.2⟩

theorem Stands.start {fact : DB -> Prop} (good : contract.Good db) (holds : fact db) :
    discipline.Stands session held [] fact db :=
  ⟨trivial, good, holds⟩

theorem Holds.more {fact : DB -> Prop} (holds : discipline.Holds session held pending fact db)
    (locks : List Lock) : discipline.Holds session (locks ++ held) pending fact db :=
  ⟨holds.1.mono fun _ _ => discipline.widen fun _ member => List.mem_append_right locks member,
    holds.2⟩

theorem Holds.queue {fact after : DB -> Prop} {writes : List Write}
    (holds : discipline.Holds session held pending fact db)
    (fits : Fits store (discipline.Allows session held) (store.applyAll db pending) writes)
    (then_ : after (store.applyAll (store.applyAll db pending) writes)) :
    discipline.Holds session held (pending ++ writes) after db := by
  refine ⟨holds.1.append fits, ?_⟩
  rwa [store.applyAll_append]

theorem Holds.weaken {fact weaker : DB -> Prop}
    (holds : discipline.Holds session held pending fact db)
    (implies : ∀ own, fact own -> weaker own) : discipline.Holds session held pending weaker db :=
  ⟨holds.1, implies _ holds.2⟩

theorem Stands.kept {fact : DB -> Prop} (good : contract.Good db)
    (stands : discipline.Stands session held pending fact db) :
    contract.Good (store.applyAll db pending) ∧
      contract.Guarantee session held db (store.applyAll db pending) :=
  ⟨stands.2.1, discipline.guarantee good stands.1 stands.2.1⟩

theorem safe_commit {fact : DB -> Prop} {onError next : Program DB Lock Write Label Choice Result}
    (loc : discipline.Local session held fact)
    (start : discipline.Stands session held pending fact db) (went : ∀ now, contract.Good now ->
      contract.Safe store permits session next [] [] now) (failed : ∀ now, contract.Good now ->
      contract.Safe store permits session onError [] [] now) :
    contract.Safe store permits session (.commit onError next) held pending db := by
  refine Contract.Safe.commit _ (Stands.stable loc) start ?_ ?_ ?_ ?_
  · intro now stands good
    exact stands.kept good
  · intro now stands good
    exact went _ (stands.kept good).1
  · intro now _ good
    exact failed now good
  · intro now stands good
    exact failed _ (stands.kept good).1

variable (discipline)

/-- Whatever good view a statement finds, its locks allow its writes, and they leave a
good view. -/
def Lawful (session : Nat) (locks : List Lock) (own : DB) (writes : List Write) : Prop :=
  contract.Good own -> ∀ held, (∀ lock, lock ∈ locks -> lock ∈ held) ->
    Fits store (discipline.Allows session held) own writes ∧
      contract.Good (store.applyAll own writes)

def Idle (session : Nat) (db : DB) (writes : List Write) : Prop :=
  contract.Good db -> contract.Good (store.applyAll db writes) ∧
    ∀ held, contract.Guarantee session held db (store.applyAll db writes) ∧
      discipline.Agrees session held db (store.applyAll db writes)

def Obeys (session : Nat) : Program DB Lock Write Label Choice Result -> Prop
  | .done _ => True
  | .crashed => True
  | .statement _ locks onError writes next =>
    Obeys session onError ∧ ∀ committed own,
      discipline.Lawful session locks own (writes committed own) ∧
        Obeys session (next committed own)
  | .commit onError next => Obeys session onError ∧ Obeys session next
  | .rollback next => Obeys session next
  | .call _ writes next => ∀ committed choice,
      discipline.Idle session committed (writes committed choice) ∧
        Obeys session (next committed choice)

variable {discipline}

theorem Stands.queue {fact after : DB -> Prop} {locks : List Lock} {writes : List Write}
    (stands : discipline.Stands session held pending fact db)
    (lawful : discipline.Lawful session locks (store.applyAll db pending) writes)
    (then_ : after (store.applyAll (store.applyAll db pending) writes)) :
    discipline.Stands session (locks ++ held) (pending ++ writes) after db := by
  have made := lawful stands.2.1 (locks ++ held) fun _ member => List.mem_append_left held member
  exact Holds.queue (Holds.more stands locks) made.1 ⟨made.2, then_⟩

theorem Stands.onward {fact : DB -> Prop} {locks : List Lock} {writes : List Write}
    (stands : discipline.Stands session held pending fact db)
    (lawful : discipline.Lawful session locks (store.applyAll db pending) writes) :
    discipline.Stands session (locks ++ held) (pending ++ writes) (fun _ => True) db :=
  stands.queue lawful trivial

theorem Lawful.nothing (locks : List Lock) (own : DB) : discipline.Lawful session locks own [] :=
  fun good _ _ => ⟨trivial, good⟩

theorem safe_of_obeys {program : Program DB Lock Write Label Choice Result}
    (obeys : discipline.Obeys session program) (good : contract.Good db)
    (start : discipline.Stands session held pending (fun _ => True) db) :
    contract.Safe store permits session program held pending db := by
  induction program generalizing held pending db with
  | done result => trivial
  | crashed => trivial
  | statement label locks onError writes next onErrorSafe nextSafe =>
    refine Contract.Safe.statement _ (Stands.stable (Local.const discipline session held True))
      start ?_ ?_
    · intro now _ good
      exact onErrorSafe obeys.1 good (Stands.start good trivial)
    · intro now stands good _
      have lawful := obeys.2 now (store.applyAll now pending)
      exact nextSafe _ _ lawful.2 good (stands.queue lawful.1 trivial)
  | commit onError next onErrorSafe nextSafe =>
    refine safe_commit (Local.const discipline session held True) start ?_ ?_
    · intro now good
      exact nextSafe obeys.2 good (Stands.start good trivial)
    · intro now good
      exact onErrorSafe obeys.1 good (Stands.start good trivial)
  | rollback next nextSafe =>
    refine Contract.Safe.rollback _ (Stands.stable (Local.const discipline session held True))
      start ?_
    intro now _ good
    exact nextSafe obeys good (Stands.start good trivial)
  | call label writes next nextSafe =>
    refine Contract.Safe.call _ (Stands.stable (Local.const discipline session held True))
      start ?_ ?_
    · intro now _ good _ choice
      have made := (obeys now choice).1 good
      exact ⟨made.1, (made.2 held).1⟩
    · intro now stands good _ choice
      have made := (obeys now choice).1 good
      have agree := (made.2 held).2
      have fits := (discipline.transfer_all (discipline.inv_of_good good)
        (discipline.inv_of_good made.1) agree stands.1).1
      exact nextSafe _ _ (obeys now choice).2 made.1
        ⟨fits, discipline.settles good made.1 agree stands.1 stands.2.1, trivial⟩

end Discipline

end ReadCommitted
