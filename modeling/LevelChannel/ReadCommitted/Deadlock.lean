import Mathlib.Order.Basic
import LevelChannel.ReadCommitted.Interference

namespace ReadCommitted

open Relation

/-!
# Lock orders

A session waits when its next statement asks for a lock that another session has taken.
A deadlock is a cycle of such waits.  If every lock has a rank and every session asks for
locks of a higher rank than all those it has, the ranks grow along a chain of waits, and
there is no cycle.

Two kinds of requests need no rank: for a lock that one already held stands in for, since
nobody else can have taken it, and for a row the session inserts, since nobody else can
have seen it.
-/

variable {DB Lock Write Drift Label Choice Result : Type}

theorem exists_waiting_nodes {Node : Type} {waits : Node -> Node -> Prop} {node : Node}
    (circle : TransGen waits node node) :
    ∃ nodes : List Node, (∀ first, first ∈ nodes -> ∃ second, waits first second) ∧
      TransGen (fun first second => waits first second ∧ first ∈ nodes ∧ second ∈ nodes)
        node node := by
  have path : ∀ first, TransGen waits first node -> ∃ nodes : List Node,
      (∀ first, first ∈ nodes -> ∃ second, waits first second) ∧ first ∈ nodes ∧
        TransGen (fun first second => waits first second ∧ first ∈ nodes ∧
          (second ∈ nodes ∨ second = node)) first node := by
    intro first chain
    induction chain using TransGen.head_induction_on with
    | @single first step =>
      refine ⟨[first], ?_, List.mem_singleton_self first,
        .single ⟨step, List.mem_singleton_self first, Or.inr rfl⟩⟩
      intro other member
      rw [List.mem_singleton.mp member]
      exact ⟨node, step⟩
    | @head first second step rest extend =>
      rcases extend with ⟨nodes, each, member, chain⟩
      refine ⟨first :: nodes, ?_, List.mem_cons_self, ?_⟩
      · intro other listed
        rcases List.mem_cons.mp listed with rfl | old
        · exact ⟨second, step⟩
        · exact each other old
      · apply TransGen.head ⟨step, List.mem_cons_self, Or.inl (List.mem_cons_of_mem _ member)⟩
        refine TransGen.mono ?_ _ _ chain
        rintro one two ⟨wait, listed, last⟩
        exact ⟨wait, List.mem_cons_of_mem _ listed, last.imp_left (List.mem_cons_of_mem _)⟩
  rcases path node circle with ⟨nodes, each, member, chain⟩
  refine ⟨nodes, each, TransGen.mono ?_ _ _ chain⟩
  rintro one two ⟨wait, listed, listedTwo | rfl⟩
  · exact ⟨wait, listed, listedTwo⟩
  · exact ⟨wait, listed, member⟩

/-- The ranks of the locks that are looked at, and the locks of rows a session inserts. -/
structure LockOrder (Lock : Type) where
  rank : Lock -> Option Nat
  fresh : Nat -> Lock -> Bool

namespace LockOrder

variable (order : LockOrder Lock) (store : Store DB Lock Write Drift)

def Respects : Prop :=
  ∀ first second, store.conflict first second = true -> order.rank first = order.rank second

/-- Whoever holds `own` keeps the others from everything that `lock` conflicts with. -/
def Covers (own lock : Lock) : Prop :=
  ∀ taken, store.conflict lock taken = true -> store.conflict own taken = true

/-- A session that holds `held` may ask for the lock. -/
def InOrder (session : Nat) (held : List Lock) (lock : Lock) : Prop :=
  order.fresh session lock = true ∨ order.rank lock = none ∨
    (∃ own, own ∈ held ∧ Covers store own lock) ∨
    ∀ own, own ∈ held -> ∀ low, order.rank own = some low ->
      ∀ high, order.rank lock = some high -> low < high

def Follows (session : Nat) (excused : Lock -> Prop) :
    List Lock -> Program DB Lock Write Label Choice Result -> Prop
  | _, .done _ => True
  | _, .crashed => True
  | held, .statement _ locks onError _ next =>
    (∀ lock, lock ∈ locks -> excused lock ∨ order.InOrder store session held lock) ∧
      Follows session excused [] onError ∧
      ∀ committed own, Follows session excused (locks ++ held) (next committed own)
  | _, .commit onError next =>
    Follows session excused [] onError ∧ Follows session excused [] next
  | _, .rollback next => Follows session excused [] next
  | held, .call _ _ next =>
    ∀ committed choice, Follows session excused held (next committed choice)

end LockOrder

def Session.requested (session : Session DB Lock Write Label Choice Result) : List Lock :=
  match session.program with
  | .statement _ locks _ _ _ => locks
  | _ => []

namespace State

variable (state : State DB Lock Write Label Choice Result) (order : LockOrder Lock)
  (store : Store DB Lock Write Drift)

def waitsFor (session other : Nat) : Bool :=
  other ≠ session && (state.sessions session).requested.any fun lock =>
    !order.fresh session lock && (order.rank lock).isSome &&
      (state.held other).any fun taken => store.conflict lock taken

/-- A chain of sessions that wait for each other leads back to its start. -/
def Deadlocked : Prop :=
  ∃ session, TransGen (fun first second => state.waitsFor order store first second = true)
    session session

/-- The same wait, with the lock and its rank. -/
structure WaitsAt (session other : Nat) (rank : Nat) : Prop where
  different : other ≠ session
  request : ∃ lock, lock ∈ (state.sessions session).requested ∧
    order.fresh session lock = false ∧ order.rank lock = some rank ∧
      ∃ taken, taken ∈ state.held other ∧ store.conflict lock taken = true

variable {state order store}

theorem waitsFor_iff {session other : Nat} : state.waitsFor order store session other = true <->
      ∃ rank, state.WaitsAt order store session other rank := by
  simp only [waitsFor, Bool.and_eq_true, decide_eq_true_eq, List.any_eq_true,
    Bool.not_eq_true']
  constructor
  · rintro ⟨different, lock, asked, ⟨seen, ranked⟩, taken, held, clash⟩
    rcases Option.isSome_iff_exists.mp ranked with ⟨rank, read⟩
    exact ⟨rank, different, lock, asked, seen, read, taken, held, clash⟩
  · rintro ⟨rank, different, lock, asked, seen, read, taken, held, clash⟩
    exact ⟨different, lock, asked, ⟨seen, by rw [read]; rfl⟩, taken, held, clash⟩

def Waits (state : State DB Lock Write Label Choice Result) (order : LockOrder Lock)
    (store : Store DB Lock Write Drift) (session : Nat) : Prop :=
  ∃ other, state.waitsFor order store session other = true

def Unexcused (state : State DB Lock Write Label Choice Result) (order : LockOrder Lock)
    (store : Store DB Lock Write Drift) (excused : Nat -> Lock -> Prop) : Prop :=
  ∀ session other, other ≠ session -> Waits state order store other ->
    ∀ lock, lock ∈ (state.sessions session).requested ->
      ∀ taken, taken ∈ state.held other -> store.conflict lock taken = true ->
        ¬ excused session lock

/-- Every session follows the order, and no two hold locks that conflict. -/
structure Ordered (state : State DB Lock Write Label Choice Result) (order : LockOrder Lock)
    (store : Store DB Lock Write Drift) (excused : Nat -> Lock -> Prop) : Prop where
  apart : ∀ first second, first ≠ second ->
    store.Compatible (state.held first) (state.held second)
  follows : ∀ session, order.Follows store session (excused session) (state.held session)
    (state.sessions session).program

section Chains

variable {excused : Nat -> Lock -> Prop} {first second third : Nat} {low high : Nat}

private theorem requested_inOrder (ordered : state.Ordered order store excused) {session : Nat}
    {lock : Lock} (asked : lock ∈ (state.sessions session).requested) :
    excused session lock ∨ order.InOrder store session (state.held session) lock := by
  have follows := ordered.follows session
  rw [Session.requested] at asked
  cases program : (state.sessions session).program with
  | statement label locks onError writes next =>
    rw [program] at asked follows
    exact follows.1 lock asked
  | _ => simp [program] at asked

theorem WaitsAt.lt (respects : order.Respects store) (ordered : state.Ordered order store excused)
    (unexcused : state.Unexcused order store excused)
    (one : state.WaitsAt order store first second low)
    (two : state.WaitsAt order store second third high) (waits : Waits state order store third) :
    low < high := by
  rcases one.request with ⟨lock, -, -, ranked, taken, held, clash⟩
  rcases two.request with ⟨next, asked, seen, nextRanked, nextTaken, nextHeld, nextClash⟩
  have free : ¬ excused second next :=
    unexcused second third two.different waits next asked nextTaken nextHeld nextClash
  rcases requested_inOrder ordered asked with out | fresh | unranked | ⟨own, mine, covers⟩ | above
  · exact absurd out free
  · rw [seen] at fresh
    cases fresh
  · rw [unranked] at nextRanked
    cases nextRanked
  · exact absurd nextHeld
      ((ordered.apart second third two.different.symm).not_mem mine (covers nextTaken nextClash))
  · exact above taken held low (by rw [← respects lock taken clash, ranked]) high nextRanked

theorem WaitsAt.chain_lt (respects : order.Respects store)
    (ordered : state.Ordered order store excused) (unexcused : state.Unexcused order store excused)
    (chain : TransGen (fun first second => state.waitsFor order store first second = true)
      second third) (one : state.WaitsAt order store first second low) {fourth : Nat}
    (two : state.WaitsAt order store third fourth high)
    (waits : Waits state order store fourth) : low < high := by
  have thirdWaits : Waits state order store third := ⟨fourth, waitsFor_iff.mpr ⟨high, two⟩⟩
  induction chain using TransGen.head_induction_on generalizing first low with
  | single step =>
    rcases waitsFor_iff.mp step with ⟨middle, wait⟩
    exact Nat.lt_trans (one.lt respects ordered unexcused wait thirdWaits)
      (wait.lt respects ordered unexcused two waits)
  | head step rest extend =>
    rcases waitsFor_iff.mp step with ⟨middle, wait⟩
    rcases TransGen.head'_iff.mp rest with ⟨next, onward, -⟩
    exact Nat.lt_trans (one.lt respects ordered unexcused wait ⟨next, onward⟩) (extend wait)

theorem Ordered.not_deadlocked (ordered : state.Ordered order store excused)
    (respects : order.Respects store) (unexcused : state.Unexcused order store excused) :
    ¬ state.Deadlocked order store := by
  rintro ⟨session, cycle⟩
  rcases TransGen.head'_iff.mp cycle with ⟨next, step, back⟩
  rcases waitsFor_iff.mp step with ⟨rank, wait⟩
  rcases reflTransGen_iff_eq_or_transGen.mp back with same | chain
  · exact wait.different same.symm
  · have nextWaits : Waits state order store next := by
      rcases TransGen.head'_iff.mp chain with ⟨after, onward, -⟩
      exact ⟨after, onward⟩
    exact Nat.lt_irrefl rank
      (WaitsAt.chain_lt respects ordered unexcused chain wait wait nextWaits)

end Chains

end State

section Runs

variable {store : Store DB Lock Write Drift} {order : LockOrder Lock}
  {excused : Nat -> Lock -> Prop} {state after : State DB Lock Write Label Choice Result}

def State.AllFollow (state : State DB Lock Write Label Choice Result) (order : LockOrder Lock)
    (store : Store DB Lock Write Drift) (excused : Nat -> Lock -> Prop) : Prop :=
  ∀ session, order.Follows store session (excused session) (state.held session)
    (state.sessions session).program

private theorem AllFollow.release (follow : state.AllFollow order store excused) {db : DB}
    {session : Nat} {program : Program DB Lock Write Label Choice Result}
    (next : order.Follows store session (excused session) [] program) :
    State.AllFollow (State.release { state with db := db } session program) order store
      excused := by
  intro other
  by_cases same : other = session
  · subst other
    rw [State.release_held_self, State.release_sessions_self]
    exact next
  · rw [State.release_held_of_ne _ same, State.release_sessions_of_ne _ same]
    exact follow other

private theorem AllFollow.resume (follow : state.AllFollow order store excused) {db : DB}
    {session : Nat} {locks : List Lock} {program : Program DB Lock Write Label Choice Result}
    {pending : List Write}
    (next : order.Follows store session (excused session) (locks ++ state.held session) program) :
    State.AllFollow (State.resume (State.grant { state with db := db } session locks) session
      program pending) order store excused := by
  intro other
  rw [State.resume_held]
  by_cases same : other = session
  · subst other
    rw [State.grant_held_self, State.resume_sessions_self]
    exact next
  · rw [State.grant_held_of_ne _ same, State.resume_sessions_of_ne _ same]
    exact follow other

theorem AllFollow.step (follow : state.AllFollow order store excused)
    (event : Event Drift Choice) (stepped : ReadCommitted.step store state event = some after) :
    after.AllFollow order store excused := by
  cases stepped_of_step stepped with
  | @answered session _ _ _ _ _ _ program _ =>
    have here := follow session
    rw [program] at here
    exact AllFollow.resume follow (here.2.2 _ _)
  | @committed session _ _ _ program =>
    have here := follow session
    rw [program] at here
    exact AllFollow.release follow here.2
  | @rolledBack session _ _ program =>
    have here := follow session
    rw [program] at here
    exact AllFollow.release follow here
  | @called session choice _ _ _ program =>
    have here := follow session
    rw [program] at here
    have going := here state.db choice
    rw [← List.nil_append (state.held session)] at going
    exact AllFollow.resume follow going
  | @failed session _ _ _ _ _ program =>
    have here := follow session
    rw [program] at here
    exact AllFollow.release follow here.2.1
  | @abandoned session _ _ program | @unheard session _ _ program =>
    have here := follow session
    rw [program] at here
    exact AllFollow.release follow here.1
  | stopped => exact AllFollow.release follow trivial
  | drifted => exact follow

private def noContract (DB Lock : Type) : Contract DB Lock where
  Good _ := True
  Guarantee _ _ _ _ := True

private theorem noContract_safe {permits : Label -> DB -> Prop} (session : Nat)
    (program : Program DB Lock Write Label Choice Result) (held : List Lock)
    (pending : List Write) (db : DB) :
    (noContract DB Lock).Safe store permits session program held pending db := by
  have every : program.Emits fun _ => True := by
    induction program with
    | done result => trivial
    | crashed => trivial
    | statement label locks onError writes next failed went =>
      exact ⟨failed, fun committed own => ⟨fun _ _ => trivial, went committed own⟩⟩
    | commit onError next failed went => exact ⟨failed, went⟩
    | rollback next went => exact went
    | call label writes next went =>
      exact fun committed choice => ⟨fun _ _ => trivial, went committed choice⟩
  exact Contract.Safe.of_emits (fun _ _ _ _ _ => ⟨trivial, trivial⟩) every
    (fun _ _ => trivial) held db

theorem apart_of_reaches {permits : Label -> DB -> Prop} {db : DB}
    {programs : Nat -> Program DB Lock Write Label Choice Result}
    (reached : Reaches store permits (State.start db programs) state) :
    ∀ first second, first ≠ second -> store.Compatible (state.held first) (state.held second) := by
  have sound : Contract.Sound (noContract DB Lock) store permits (State.start db programs) :=
    Contract.Sound.start trivial fun session => noContract_safe session _ _ _ _
  have steady : Contract.Steady (noContract DB Lock) store :=
    ⟨fun _ _ _ => trivial, fun _ _ _ _ => ⟨trivial, trivial⟩⟩
  exact (sound.reaches steady reached).1.apart

theorem ordered_of_reaches {permits : Label -> DB -> Prop} {db : DB}
    {programs : Nat -> Program DB Lock Write Label Choice Result}
    (follow : ∀ session, order.Follows store session (excused session) [] (programs session))
    (reached : Reaches store permits (State.start db programs) state) :
    state.Ordered order store excused where
  apart := apart_of_reaches reached
  follows := by
    induction reached with
    | refl => exact follow
    | step event before allowed stepped extend => exact AllFollow.step extend event stepped

end Runs

end ReadCommitted
