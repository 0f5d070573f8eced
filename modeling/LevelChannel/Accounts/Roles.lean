import LevelChannel.ReadCommitted.Sessions
import LevelChannel.Tables.Rows
import LevelChannel.Schema.Identifiers

namespace LevelChannel

open ReadCommitted Tables

namespace Accounts

/-!
# Roles of an account

An account is an administrator, or a teacher or a student; the two sides exclude each
other.  No constraint says so: a grant of the administrator's role first deletes the
others, a grant of another role first looks for the administrator's, and both insert in
a second statement of its own.  The rule survives as long as no insert comes between the
first statement of a grant to the other side and its insert.
-/

inductive AccountRole where
  | admin
  | teacher
  | student
  deriving DecidableEq, Repr

/-- A row of `account_roles`.  Its primary key is the account with the role. -/
structure AccountRoleRow where
  accountId : RowId
  role : AccountRole
  grantedByAccountId : Option RowId
  deriving DecidableEq, Repr

def AccountRoleRow.key (row : AccountRoleRow) : RowId × AccountRole :=
  (row.accountId, row.role)

/-- A grant between its first statement and its insert.  No table holds this. -/
structure PendingGrant where
  session : Nat
  accountId : RowId
  role : AccountRole
  deriving DecidableEq, Repr

structure RoleDb where
  roles : List AccountRoleRow
  pendingGrants : List PendingGrant

inductive RoleWrite where
  | row (change : Change AccountRoleRow)
  | checked (grant : PendingGrant)
  | inserted (session : Nat)

def RoleDb.forget (db : RoleDb) (session : Nat) : RoleDb :=
  { db with pendingGrants := db.pendingGrants.filter fun grant => grant.session ≠ session }

def RoleDb.apply (db : RoleDb) : RoleWrite -> RoleDb
  | .row change => { db with roles := change.apply AccountRoleRow.key db.roles }
  | .checked grant => { db with pendingGrants := grant :: db.pendingGrants }
  | .inserted session => db.forget session

/-- Nothing is locked from one statement to the next, and nothing else moves the roles. -/
def roleStore : Store RoleDb Empty RoleWrite Empty where
  apply := RoleDb.apply
  drift := fun change _ => nomatch change
  close := fun session db => db.forget session
  conflict := fun _ _ => false
  conflict_comm _ _ := rfl

/-- What becomes of a statement outside a transaction: it is done, it is refused, or it is
done and its answer is lost. -/
inductive Outcome where
  | done
  | refused
  | unheard
  deriving DecidableEq, Repr

inductive RoleLabel where
  | plain
  | insert (accountId : RowId) (role : AccountRole)

inductive RoleReply where
  | ok
  | adminExclusive
  | thrown
  deriving DecidableEq

abbrev RoleProgram := Program RoleDb Empty RoleWrite RoleLabel Outcome RoleReply

abbrev RoleState := State RoleDb Empty RoleWrite RoleLabel Outcome RoleReply

/-! ## The two functions -/

/-- `CONSUMER_ROLES` -/
def consumerRoles : List AccountRole := [.teacher, .student]

def RoleDb.holds (db : RoleDb) (accountId : RowId) (role : AccountRole) : Bool :=
  (get AccountRoleRow.key db.roles (accountId, role)).isSome

/-- `delete from account_roles where account_id = $1 and role = any($2)` -/
def deleteRoles (db : RoleDb) (accountId : RowId) (roles : List AccountRole) : List RoleWrite :=
  (db.roles.filter fun row => row.accountId = accountId && roles.contains row.role).map
    fun row => .row (.delete row)

/-- `insert into account_roles … on conflict (account_id, role) do nothing` -/
def insertRole (db : RoleDb) (row : AccountRoleRow) : List RoleWrite :=
  if db.holds row.accountId row.role then [] else [.row (.insert row)]

/-- The second statement of `grantAccountRole`. -/
def grantInsert (session : Nat) (row : AccountRoleRow) : RoleProgram :=
  .call (.insert row.accountId row.role)
    (fun db outcome =>
      (if outcome = .refused then [] else insertRole db row) ++ [.inserted session])
    fun _ outcome => if outcome = .done then .done .ok else .done .thrown

def grantAccountRole (session : Nat) (accountId : RowId) (role : AccountRole)
    (grantedByAccountId : Option RowId) : RoleProgram :=
  let insert := grantInsert session ⟨accountId, role, grantedByAccountId⟩
  let grant : PendingGrant := ⟨session, accountId, role⟩
  if role = .admin then
    .call .plain
      (fun db outcome => match outcome with
        | .done => deleteRoles db accountId consumerRoles ++ [.checked grant]
        | .refused => []
        | .unheard => deleteRoles db accountId consumerRoles)
      fun _ outcome => if outcome = .done then insert else .done .thrown
  else
    .call .plain
      (fun db outcome =>
        if outcome = .done ∧ db.holds accountId .admin = false then [.checked grant] else [])
      fun db outcome =>
        if outcome = .done then
          if db.holds accountId .admin then .done .adminExclusive else insert
        else .done .thrown

def revokeAccountRole (accountId : RowId) (role : AccountRole) : RoleProgram :=
  .call .plain
    (fun db outcome => if outcome = .refused then [] else deleteRoles db accountId [role])
    fun _ outcome => if outcome = .done then .done .ok else .done .thrown

inductive RoleRequest where
  | grant (accountId : RowId) (role : AccountRole) (grantedByAccountId : Option RowId)
  | revoke (accountId : RowId) (role : AccountRole)
  deriving DecidableEq

def RoleRequest.program (session : Nat) : RoleRequest -> RoleProgram
  | .grant accountId role grantedByAccountId =>
    grantAccountRole session accountId role grantedByAccountId
  | .revoke accountId role => revokeAccountRole accountId role

def roleOpening (roles : List AccountRoleRow) (requests : Nat -> RoleRequest) : RoleState :=
  State.start ⟨roles, []⟩ fun session => (requests session).program session

variable {db before after : RoleDb} {session : Nat} {accountId other : RowId}
  {role held : AccountRole}

theorem holds_delete (row : AccountRoleRow) :
    (db.apply (.row (.delete row))).holds accountId role = true <->
      db.holds accountId role = true ∧ row.key ≠ (accountId, role) := by
  simp only [RoleDb.holds, RoleDb.apply]
  by_cases same : row.key = (accountId, role)
  · rw [← same, get_delete_self]
    simp
  · rw [get_delete_of_ne row (Ne.symm same)]
    simp [same]

theorem holds_deletes (rows : List AccountRoleRow) :
    (roleStore.applyAll db (rows.map fun row => .row (.delete row))).holds accountId role =
        true <->
      db.holds accountId role = true ∧ ∀ row, row ∈ rows -> row.key ≠ (accountId, role) := by
  induction rows generalizing db with
  | nil => simp
  | cons row rows extend =>
    rw [List.map_cons, Store.applyAll_cons, extend]
    change (db.apply (.row (.delete row))).holds accountId role = true ∧ _ <-> _
    rw [holds_delete, List.forall_mem_cons, and_assoc]

theorem pendingGrants_deletes (rows : List AccountRoleRow) :
    (roleStore.applyAll db (rows.map fun row => .row (.delete row))).pendingGrants =
      db.pendingGrants := by
  induction rows generalizing db with
  | nil => rfl
  | cons row rows extend =>
    rw [List.map_cons, Store.applyAll_cons, extend]
    rfl

theorem holds_deleteRoles (roles : List AccountRole) :
    (roleStore.applyAll db (deleteRoles db accountId roles)).holds other held = true <->
      db.holds other held = true ∧ ¬ (other = accountId ∧ held ∈ roles) := by
  rw [deleteRoles, holds_deletes]
  apply and_congr_right
  intro holds
  simp only [List.mem_filter, Bool.and_eq_true, decide_eq_true_eq, List.contains_iff_mem,
    AccountRoleRow.key, ne_eq, Prod.mk.injEq]
  constructor
  · rintro spared ⟨rfl, listed⟩
    rw [RoleDb.holds, Option.isSome_iff_exists] at holds
    rcases holds with ⟨row, found⟩
    have key := key_of_get found
    simp only [AccountRoleRow.key, Prod.mk.injEq] at key
    exact spared row ⟨mem_of_get found, key.1, key.2 ▸ listed⟩ key
  · rintro spared row ⟨-, owner, listed⟩ ⟨rfl, rfl⟩
    exact spared ⟨owner, listed⟩

theorem pendingGrants_deleteRoles (roles : List AccountRole) :
    (roleStore.applyAll db (deleteRoles db accountId roles)).pendingGrants = db.pendingGrants :=
  pendingGrants_deletes _

theorem holds_insertRole (row : AccountRoleRow) :
    (roleStore.applyAll db (insertRole db row)).holds other held = true <->
      db.holds other held = true ∨ (other = row.accountId ∧ held = row.role) := by
  rw [insertRole]
  split
  · next taken =>
    rw [Store.applyAll_nil, or_iff_left_of_imp]
    rintro ⟨rfl, rfl⟩
    exact taken
  · change (db.apply (.row (.insert row))).holds other held = true <-> _
    simp only [RoleDb.holds, RoleDb.apply, get_insert, Option.isSome_or, Bool.or_eq_true,
      AccountRoleRow.key, Prod.mk.injEq]
    refine or_congr_right ?_
    by_cases same : row.accountId = other ∧ row.role = held
    · simp [same]
    · simp only [same, if_false, Option.isSome_none, Bool.false_eq_true, false_iff]
      rintro ⟨rfl, rfl⟩
      exact same ⟨rfl, rfl⟩

theorem pendingGrants_insertRole (row : AccountRoleRow) :
    (roleStore.applyAll db (insertRole db row)).pendingGrants = db.pendingGrants := by
  rw [insertRole]
  split <;> rfl

theorem mem_forget {grant : PendingGrant} : grant ∈ (db.forget session).pendingGrants <->
      grant ∈ db.pendingGrants ∧ grant.session ≠ session := by
  simp [RoleDb.forget]

/-! ## The contract -/

def AccountRole.Opposes (first second : AccountRole) : Prop :=
  ¬ (first = .admin <-> second = .admin)

def Exclusive (db : RoleDb) : Prop :=
  ∀ accountId role, role ≠ .admin ->
    ¬ (db.holds accountId .admin = true ∧ db.holds accountId role = true)

/-- The rule, and what it takes to keep it: the account of a grant holds nothing of the
other side while the grant is between its two statements. -/
structure RolesKept (db : RoleDb) : Prop where
  exclusive : Exclusive db
  pending : ∀ grant, grant ∈ db.pendingGrants -> ∀ held, grant.role.Opposes held ->
    db.holds grant.accountId held = false

def KeepsOthers (session : Nat) (before after : RoleDb) : Prop :=
  ∀ grant, grant ∈ before.pendingGrants -> grant.session ≠ session ->
    grant ∈ after.pendingGrants

def roleContract : Contract RoleDb Empty where
  Good := RolesKept
  Guarantee session _ := KeepsOthers session

/-- An insert runs while no grant to the other side is between its two statements. -/
def Apart : RoleLabel -> RoleDb -> Prop
  | .insert accountId role, now => ∀ grant, grant ∈ now.pendingGrants ->
      grant.accountId = accountId -> ¬ grant.role.Opposes role
  | .plain, _ => True

theorem RolesKept.shrink (kept : RolesKept before)
    (fewer : ∀ accountId role, after.holds accountId role = true ->
      before.holds accountId role = true)
    (grants : ∀ grant, grant ∈ after.pendingGrants -> grant ∈ before.pendingGrants ∨
      ∀ held, grant.role.Opposes held -> after.holds grant.accountId held = false) :
    RolesKept after where
  exclusive accountId role other both :=
    kept.exclusive accountId role other ⟨fewer _ _ both.1, fewer _ _ both.2⟩
  pending grant member held opposes := by
    rcases grants grant member with old | new
    · apply Bool.eq_false_iff.mpr
      intro holds
      have free := kept.pending grant old held opposes
      rw [fewer _ _ holds] at free
      cases free
    · exact new held opposes

theorem RolesKept.forget (kept : RolesKept db) (session : Nat) :
    RolesKept (db.forget session) ∧ KeepsOthers session db (db.forget session) :=
  ⟨kept.shrink (fun _ _ holds => holds) fun _ member => Or.inl (mem_forget.mp member).1,
    fun _ member different => mem_forget.mpr ⟨member, different⟩⟩

theorem role_steady : Contract.Steady roleContract roleStore where
  drift change := nomatch change
  close session _ _ good := RolesKept.forget good session

theorem RolesKept.deleteRoles (kept : RolesKept db) (session : Nat) (accountId : RowId)
    (roles : List AccountRole) :
    RolesKept (roleStore.applyAll db (deleteRoles db accountId roles)) ∧
      KeepsOthers session db (roleStore.applyAll db (deleteRoles db accountId roles)) := by
  refine ⟨kept.shrink (fun _ _ holds => ((holds_deleteRoles roles).mp holds).1) ?_, ?_⟩
  · intro grant member
    rw [pendingGrants_deleteRoles] at member
    exact Or.inl member
  · intro grant member _
    rw [pendingGrants_deleteRoles]
    exact member

theorem RolesKept.checked (kept : RolesKept db) {grant : PendingGrant}
    (free : ∀ held, grant.role.Opposes held -> db.holds grant.accountId held = false)
    (session : Nat) :
    RolesKept (db.apply (.checked grant)) ∧ KeepsOthers session db (db.apply (.checked grant)) := by
  refine ⟨kept.shrink (fun _ _ holds => holds) ?_, fun _ member _ => List.mem_cons_of_mem _ member⟩
  intro other member
  rcases List.mem_cons.mp member with rfl | old
  · exact Or.inr free
  · exact Or.inl old

theorem RolesKept.insertRole (kept : RolesKept db) {row : AccountRoleRow}
    (pending : ⟨session, row.accountId, row.role⟩ ∈ db.pendingGrants)
    (apart : Apart (.insert row.accountId row.role) db) :
    RolesKept (roleStore.applyAll db (insertRole db row)) where
  exclusive accountId role different both := by
    have free := kept.pending _ pending
    rcases (holds_insertRole row).mp both.1 with admin | ⟨owner, admin⟩
    · rcases (holds_insertRole row).mp both.2 with held | ⟨rfl, rfl⟩
      · exact kept.exclusive accountId role different ⟨admin, held⟩
      · have none_held := free .admin fun same => different (same.mpr rfl)
        rw [admin] at none_held
        cases none_held
    · rcases (holds_insertRole row).mp both.2 with held | ⟨-, same⟩
      · have none_held := free role fun same => different (same.mp admin.symm)
        rw [← owner, held] at none_held
        cases none_held
      · exact different (same.trans admin.symm)
  pending grant member held opposes := by
    rw [pendingGrants_insertRole] at member
    apply Bool.eq_false_iff.mpr
    intro holds
    rcases (holds_insertRole row).mp holds with old | ⟨owner, rfl⟩
    · have free := kept.pending grant member held opposes
      rw [old] at free
      cases free
    · exact apart grant member owner opposes

theorem stable_pending {grant : PendingGrant} (own : grant.session = session) (locks : List Empty) :
    roleContract.Stable roleStore session locks fun now => grant ∈ now.pendingGrants := by
  rintro before after member ⟨-, -, ⟨change, -⟩ | ⟨other, theirs, different, -, kept⟩⟩
  · exact nomatch change
  · exact kept grant member fun same => different (same.symm.trans own)

theorem grantInsert_safe (row : AccountRoleRow)
    (pending : ⟨session, row.accountId, row.role⟩ ∈ db.pendingGrants) :
    roleContract.Safe roleStore Apart session (grantInsert session row) [] [] db := by
  refine Contract.Safe.call _
    (@stable_pending session ⟨session, row.accountId, row.role⟩ rfl []) pending ?_ ?_
  · intro now member good apart outcome
    have inserted : RolesKept (roleStore.applyAll now
        (if outcome = .refused then [] else insertRole now row)) := by
      split
      · exact good
      · exact RolesKept.insertRole good member apart
    have same : (roleStore.applyAll now
        (if outcome = .refused then [] else insertRole now row)).pendingGrants =
          now.pendingGrants := by
      split
      · rfl
      · exact pendingGrants_insertRole row
    rw [Store.applyAll_append]
    refine ⟨(inserted.forget session).1, fun grant listed different => ?_⟩
    rw [← same] at listed
    exact (inserted.forget session).2 grant listed different
  · intro now _ _ _ outcome
    split <;> trivial

theorem grantAccountRole_safe (accountId : RowId) (role : AccountRole)
    (grantedByAccountId : Option RowId) (db : RoleDb) : roleContract.Safe roleStore Apart session
      (grantAccountRole session accountId role grantedByAccountId) [] [] db := by
  unfold grantAccountRole
  extract_lets insert grant
  have always : roleContract.Stable roleStore session [] fun _ => True :=
    Contract.Stable.const session [] True
  by_cases admin : role = .admin
  · rw [if_pos admin]
    refine Contract.Safe.call _ always trivial ?_ ?_
    · intro now _ good _ outcome
      have deleted := RolesKept.deleteRoles good session accountId consumerRoles
      cases outcome with
      | done =>
        rw [Store.applyAll_append]
        have free : ∀ held, grant.role.Opposes held -> (roleStore.applyAll now
            (deleteRoles now accountId consumerRoles)).holds grant.accountId held = false := by
          intro held opposes
          apply Bool.eq_false_iff.mpr
          intro holds
          refine ((holds_deleteRoles consumerRoles).mp holds).2 ⟨rfl, ?_⟩
          cases held with
          | admin => exact absurd (iff_of_true admin rfl) opposes
          | teacher => decide
          | student => decide
        have checked := deleted.1.checked free session
        refine ⟨checked.1, fun other member different => ?_⟩
        exact checked.2 other (deleted.2 other member different) different
      | refused => exact ⟨good, fun _ member _ => member⟩
      | unheard => exact deleted
    · intro now _ _ _ outcome
      cases outcome with
      | done =>
        refine grantInsert_safe _ ?_
        rw [Store.applyAll_append]
        exact List.mem_cons_self
      | refused => trivial
      | unheard => trivial
  · rw [if_neg admin]
    refine Contract.Safe.call _ always trivial ?_ ?_
    · intro now _ good _ outcome
      split
      · next passed =>
        refine RolesKept.checked good (fun held opposes => ?_) session
        have heldAdmin : held = .admin := by
          by_contra different
          exact opposes (iff_of_false admin different)
        rw [heldAdmin]
        exact passed.2
      · exact ⟨good, fun _ member _ => member⟩
    · intro now _ _ _ outcome
      by_cases answered : outcome = .done
      · rw [if_pos answered]
        cases free : now.holds accountId .admin with
        | true => trivial
        | false =>
          have listed : grant ∈ (roleStore.applyAll now [.checked grant]).pendingGrants :=
            List.mem_cons_self
          simp only [answered, and_self, if_true]
          exact grantInsert_safe _ listed
      · rw [if_neg answered]
        trivial

theorem revokeAccountRole_safe (accountId : RowId) (role : AccountRole) (db : RoleDb) :
    roleContract.Safe roleStore Apart session (revokeAccountRole accountId role) [] [] db := by
  refine Contract.Safe.call _ (Contract.Stable.const session [] True) trivial ?_ ?_
  · intro now _ good _ outcome
    split
    · exact ⟨good, fun _ member _ => member⟩
    · exact RolesKept.deleteRoles good session accountId [role]
  · intro now _ _ _ outcome
    split <;> trivial

/-- While no insert comes between the two statements of a grant to the other side, no
account holds the administrator's role together with another one. -/
theorem roles_exclusive {roles : List AccountRoleRow} {requests : Nat -> RoleRequest}
    {state : RoleState} (start : Exclusive ⟨roles, []⟩)
    (reached : Reaches roleStore Apart (roleOpening roles requests) state) :
    Exclusive state.db := by
  have good : RolesKept ⟨roles, []⟩ := ⟨start, fun _ member => absurd member List.not_mem_nil⟩
  have sound : Contract.Sound roleContract roleStore Apart (roleOpening roles requests) := by
    apply Contract.Sound.start good
    intro session
    cases requests session with
    | grant accountId role grantedByAccountId =>
      exact grantAccountRole_safe accountId role grantedByAccountId _
    | revoke accountId role => exact revokeAccountRole_safe accountId role _
  exact (sound.reaches role_steady reached).1.good.exclusive

theorem nobody_exclusive : Exclusive ⟨[], []⟩ := by
  rintro accountId role - ⟨held, -⟩
  cases held

def rivalGrants : Nat -> RoleRequest
  | 0 => .grant (.seeded 7) .teacher none
  | 1 => .grant (.seeded 7) .student none
  | _ => .grant (.seeded 7) .admin none

/-- A test of `Apart`. -/
private def apartNow : RoleLabel -> RoleDb -> Bool
  | .insert accountId role, now => now.pendingGrants.all fun grant =>
      grant.accountId ≠ accountId || (grant.role = .admin) = (role = .admin)
  | .plain, _ => true

private theorem apartNow_sound (label : RoleLabel) (now : RoleDb)
    (met : apartNow label now = true) : Apart label now := by
  cases label with
  | plain => trivial
  | insert accountId role =>
    intro grant pending owner opposes
    have tested := List.all_eq_true.mp met grant pending
    simp only [ne_eq, owner, not_true, decide_false, Bool.false_or, decide_eq_true_eq,
      eq_iff_iff] at tested
    exact opposes tested

/-- The first two grants overlap, and the administrator's takes both roles away. -/
theorem roles_exclusive_unassigned :
    ∃ state, Reaches roleStore Apart (roleOpening [] rivalGrants) state ∧
      state.db.roles = [⟨.seeded 7, .admin, none⟩] ∧ Exclusive state.db := by
  rcases exists_of_playWhen roleStore (permitted_of_testing apartNow_sound)
    [.run 0 .done, .run 1 .done, .run 0 .done, .run 1 .done, .run 2 .done, .run 2 .done]
    (fun state => state.db.roles = [⟨.seeded 7, .admin, none⟩])
    (.refl (roleOpening [] rivalGrants)) (by decide +kernel) with ⟨state, reached, roles⟩
  exact ⟨state, reached.permitted, by simpa using roles,
    roles_exclusive nobody_exclusive reached.permitted⟩

/-- The teacher's grant has looked before the administrator's grant inserts, and inserts
after it. -/
theorem roles_overlap :
    ¬ ∀ (roles : List AccountRoleRow) (requests : Nat -> RoleRequest) (state : RoleState),
      Exclusive ⟨roles, []⟩ ->
        Reaches roleStore (fun _ _ => True) (roleOpening roles requests) state ->
          Exclusive state.db := by
  intro exclusive
  rcases exists_of_play roleStore (roleOpening [] rivalGrants)
    [.run 0 .done, .run 2 .done, .run 2 .done, .run 0 .done]
    (fun db => db.holds (.seeded 7) .admin = true ∧ db.holds (.seeded 7) .teacher = true)
    (by decide) with ⟨state, reached, both⟩
  exact exclusive [] rivalGrants state nobody_exclusive reached (.seeded 7) .teacher (by decide) both

end Accounts
end LevelChannel
