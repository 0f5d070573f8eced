import LevelChannel.Encryption.Rotation

namespace LevelChannel

namespace Encryption

/-!
# Removal of the plaintext

Once the payment audit holds every e-mail and address encrypted, a script removes the plain
ones.  Before it does so it counts the rows that have no encrypted copy, opens those of the rows
with an encrypted e-mail, and compares the three newest of these with the plain values.

What it does not look at is the rows with an address only, and what the other copies say.  Their
values can be lost.
-/

variable {Key Cipher Salt : Type}

/-- A row of `payment_audit_events` as far as personal data goes. -/
structure PiiRow (Cipher : Type) where
  id : Nat
  createdAt : Int
  customerEmail : Option String
  customerEmailEnc : Option Cipher
  clientIp : Option String
  clientIpEnc : Option Cipher
  deriving DecidableEq

inductive PiiColumn where
  | customerEmail
  | clientIp
  deriving DecidableEq

def PiiRow.plain (row : PiiRow Cipher) : PiiColumn -> Option String
  | .customerEmail => row.customerEmail
  | .clientIp => row.clientIp

def PiiRow.encrypted (row : PiiRow Cipher) : PiiColumn -> Option Cipher
  | .customerEmail => row.customerEmailEnc
  | .clientIp => row.clientIpEnc

structure NullingArgs where
  execute : Bool
  confirm : Bool

inductive NullingEnd (Cipher : Type) where
  | exited (code : Nat)
  | committed (table : List (PiiRow Cipher))
  deriving DecidableEq

def countPlaintextOnly (column : PiiColumn) (table : List (PiiRow Cipher)) : Nat :=
  table.countP fun row => (row.plain column).isSome && (row.encrypted column).isNone

def countEncrypted (column : PiiColumn) (table : List (PiiRow Cipher)) : Nat :=
  table.countP fun row => (row.encrypted column).isSome

def withEmail (table : List (PiiRow Cipher)) : List (PiiRow Cipher) :=
  table.filter fun row => row.customerEmailEnc.isSome

def sample (table : List (PiiRow Cipher)) : List (PiiRow Cipher) :=
  ((withEmail table).insertionSort fun first second => second.createdAt ≤ first.createdAt).take 3

def nullPlaintextRow (row : PiiRow Cipher) : PiiRow Cipher :=
  if row.customerEmailEnc.isSome || row.clientIpEnc.isSome then
    { row with customerEmail := none, clientIp := none }
  else row

section

variable (scheme : Scheme Key String Cipher Salt) (key : Key)

/-- `pgp_sym_decrypt` of the column raises. -/
def undecryptable (row : PiiRow Cipher) (column : PiiColumn) : Bool :=
  (row.encrypted column).any fun cipher => (scheme.decrypt key cipher).isNone

def decrypted (row : PiiRow Cipher) (column : PiiColumn) : Option String :=
  (row.encrypted column).bind (scheme.decrypt key)

def mismatchEmail (row : PiiRow Cipher) : Bool :=
  row.customerEmail.isSome && decrypted scheme key row .customerEmail ≠ row.customerEmail

def mismatchIp (row : PiiRow Cipher) : Bool :=
  row.clientIp.isSome && (decrypted scheme key row .clientIp).isSome &&
    decrypted scheme key row .clientIp ≠ row.clientIp

/-- A run, with what it finds: the table of a snapshot that exists already, or an update that
fails.  The query of the sample decrypts all rows with an e-mail before it sorts them, so one of
them that the key does not open ends the run. -/
def nullPlaintext (args : NullingArgs) (snapshotExists updateFails : Bool)
    (table : List (PiiRow Cipher)) : NullingEnd Cipher :=
  if countPlaintextOnly .customerEmail table > 0 || countPlaintextOnly .clientIp table > 0 then
    .exited 2
  else if countEncrypted .customerEmail table = 0 && countEncrypted .clientIp table = 0 then
    .exited 2
  else if (withEmail table).any fun row =>
      undecryptable scheme key row .customerEmail || undecryptable scheme key row .clientIp then
    .exited 1
  else if (sample table).any fun row => mismatchEmail scheme key row || mismatchIp scheme key row
    then .exited 2
  else if !args.execute then .exited 0
  else if !args.confirm then .exited 2
  else if snapshotExists then .exited 2
  else if updateFails then .exited 1
  else .committed (table.map nullPlaintextRow)

/-! ## What can be read back -/

/-- Whatever the update takes from the row, its own cipher of the column gives back. -/
def Recoverable (row : PiiRow Cipher) : Prop :=
  ∀ column value, row.plain column = some value ->
    (nullPlaintextRow row).plain column = none ->
      ∃ cipher, (nullPlaintextRow row).encrypted column = some cipher ∧
        scheme.decrypt key cipher = some value

def Foreign (row : PiiRow Cipher) : Prop :=
  ∃ column value cipher, row.plain column = some value ∧
    row.encrypted column = some cipher ∧ scheme.decrypt key cipher ≠ some value

end

section

variable {scheme : Scheme Key String Cipher Salt} {key : Key} {row : PiiRow Cipher}

@[simp]
theorem nullPlaintextRow_encrypted (column : PiiColumn) :
    (nullPlaintextRow row).encrypted column = row.encrypted column := by
  cases column <;> simp only [nullPlaintextRow] <;> split_ifs <;> rfl

theorem nullPlaintextRow_plain {column : PiiColumn} {cipher : Cipher}
    (written : row.encrypted column = some cipher) (other : PiiColumn) :
    (nullPlaintextRow row).plain other = none := by
  have chosen : (row.customerEmailEnc.isSome || row.clientIpEnc.isSome) = true := by
    cases column with
    | customerEmail =>
      have written : row.customerEmailEnc = some cipher := written
      rw [written]
      rfl
    | clientIp =>
      have written : row.clientIpEnc = some cipher := written
      rw [written]
      exact Bool.or_true _
  rw [nullPlaintextRow, if_pos chosen]
  cases other <;> rfl

theorem recoverable_iff_not_foreign (copied : ∀ column value, row.plain column = some value ->
      ∃ cipher, row.encrypted column = some cipher) :
    Recoverable scheme key row <-> ¬ Foreign scheme key row := by
  constructor
  · rintro recoverable ⟨column, value, cipher, stored, written, foreign⟩
    rcases recoverable column value stored (nullPlaintextRow_plain written column) with
      ⟨other, kept, opened⟩
    rw [nullPlaintextRow_encrypted, written] at kept
    obtain rfl := Option.some.inj kept
    exact foreign opened
  · intro own column value stored _
    rcases copied column value stored with ⟨cipher, written⟩
    refine ⟨cipher, by rw [nullPlaintextRow_encrypted, written], ?_⟩
    by_contra foreign
    exact own ⟨column, value, cipher, stored, written, foreign⟩

theorem not_foreign_of_passed (opens : (undecryptable scheme key row .customerEmail ||
      undecryptable scheme key row .clientIp) = false)
    (matching : (mismatchEmail scheme key row || mismatchIp scheme key row) = false) :
    ¬ Foreign scheme key row := by
  rintro ⟨column, value, cipher, stored, written, foreign⟩
  obtain ⟨email, ip⟩ := Bool.or_eq_false_iff.mp matching
  obtain ⟨-, opensIp⟩ := Bool.or_eq_false_iff.mp opens
  cases column with
  | customerEmail =>
    have same : decrypted scheme key row .customerEmail = row.customerEmail := by
      by_contra other
      simp [mismatchEmail, other] at email
      simp [PiiRow.plain, email] at stored
    rw [decrypted, written] at same
    exact foreign (same.trans stored)
  | clientIp =>
    have opened : ∃ text, scheme.decrypt key cipher = some text := by
      rw [undecryptable, written, Option.any_some] at opensIp
      exact Option.isSome_iff_exists.mp (by simpa using opensIp)
    rcases opened with ⟨text, opened⟩
    have given : decrypted scheme key row .clientIp = some text := by
      rw [decrypted, written]
      exact opened
    have stored : row.clientIp = some value := stored
    simp only [mismatchIp, given, stored, Option.isSome_some, Bool.true_and,
      decide_eq_false_iff_not, not_not] at ip
    exact foreign (opened.trans ip)

variable {table after : List (PiiRow Cipher)} {args : NullingArgs}
  {snapshotExists updateFails : Bool}

/-- What a run that commits has found, and what it does. -/
structure Passed (scheme : Scheme Key String Cipher Salt) (key : Key)
    (table after : List (PiiRow Cipher)) : Prop where
  copied : ∀ row, row ∈ table -> ∀ column value, row.plain column = some value ->
    ∃ cipher, row.encrypted column = some cipher
  sampled : ∀ row, row ∈ sample table -> ¬ Foreign scheme key row
  written : after = table.map nullPlaintextRow

theorem exists_of_countPlaintextOnly {column : PiiColumn}
    (none_alone : ¬ countPlaintextOnly column table > 0) (member : row ∈ table) {value : String}
    (stored : row.plain column = some value) : ∃ cipher, row.encrypted column = some cipher := by
  have zero := List.countP_eq_zero.mp (Nat.eq_zero_of_not_pos none_alone) row member
  rw [stored, Option.isSome_some, Bool.true_and, Option.isNone_iff_eq_none] at zero
  exact Option.ne_none_iff_exists'.mp zero

theorem passed_of_committed
    (committed : nullPlaintext scheme key args snapshotExists updateFails table =
      .committed after) : Passed scheme key table after := by
  simp only [nullPlaintext] at committed
  split_ifs at committed with alone empty raised mismatched
  obtain ⟨email, ip⟩ := not_or.mp (by simpa only [Bool.or_eq_true, decide_eq_true_eq] using alone)
  refine ⟨fun row member column value stored => ?_, fun row sampled => ?_,
    (NullingEnd.committed.inj committed).symm⟩
  · cases column with
    | customerEmail => exact exists_of_countPlaintextOnly email member stored
    | clientIp => exact exists_of_countPlaintextOnly ip member stored
  · refine not_foreign_of_passed ?_ ?_
    · have listed : row ∈ withEmail table :=
        (List.mem_insertionSort _).mp (List.mem_of_mem_take sampled)
      exact Bool.eq_false_iff.mpr fun raises => raised (List.any_eq_true.mpr ⟨row, listed, raises⟩)
    · exact Bool.eq_false_iff.mpr fun differs =>
        mismatched (List.any_eq_true.mpr ⟨row, sampled, differs⟩)

end

/-- The update loses no value exactly when no row outside the sample has a cipher of another
text or under another key. -/
theorem nulling_recoverable_iff (scheme : Scheme Key String Cipher Salt) (key : Key)
    (args : NullingArgs) (snapshotExists updateFails : Bool) (table after : List (PiiRow Cipher))
    (committed : nullPlaintext scheme key args snapshotExists updateFails table =
      .committed after) :
    (after = table.map nullPlaintextRow ∧ ∀ row, row ∈ table -> Recoverable scheme key row) <->
      ∀ row, row ∈ table -> row ∉ sample table -> ¬ Foreign scheme key row := by
  have passed := passed_of_committed committed
  have each (row : PiiRow Cipher) (member : row ∈ table) :
      Recoverable scheme key row <-> ¬ Foreign scheme key row :=
    recoverable_iff_not_foreign (passed.copied row member)
  constructor
  · rintro ⟨-, recoverable⟩ row member -
    exact (each row member).mp (recoverable row member)
  · intro own
    refine ⟨passed.written, fun row member => (each row member).mpr ?_⟩
    by_cases sampled : row ∈ sample table
    · exact passed.sampled row sampled
    · exact own row member sampled

def emailRow (createdAt : Int) (key : Nat) : PiiRow (Nat × String) where
  id := createdAt.toNat
  createdAt := createdAt
  customerEmail := some "a@example.org"
  customerEmailEnc := some (key, "a@example.org")
  clientIp := none
  clientIpEnc := none

def addressRow (createdAt : Int) (key : Nat) : PiiRow (Nat × String) where
  id := createdAt.toNat
  createdAt := createdAt
  customerEmail := none
  customerEmailEnc := none
  clientIp := some "192.0.2.1"
  clientIpEnc := some (key, "192.0.2.1")

theorem emailRow_own (createdAt : Int) (key : Nat) :
    ¬ Foreign labelled key (emailRow createdAt key) := by
  rintro ⟨column, value, cipher, stored, written, foreign⟩
  cases column with
  | customerEmail =>
    rw [← Option.some.inj written, ← Option.some.inj stored] at foreign
    exact foreign (if_pos rfl)
  | clientIp => cases stored

theorem addressRow_own (createdAt : Int) (key : Nat) :
    ¬ Foreign labelled key (addressRow createdAt key) := by
  rintro ⟨column, value, cipher, stored, written, foreign⟩
  cases column with
  | customerEmail => cases stored
  | clientIp =>
    rw [← Option.some.inj written, ← Option.some.inj stored] at foreign
    exact foreign (if_pos rfl)

/-- The oldest of the rows with an e-mail is outside the sample, as the row with an address
only. -/
def fiveRows : List (PiiRow (Nat × String)) :=
  [emailRow 4 2, emailRow 3 2, emailRow 2 2, emailRow 1 2, addressRow 5 2]

/-- All copies are under the key of the run, so nothing is lost. -/
theorem nulling_recoverable_iff_of_five :
    nullPlaintext labelled 2 ⟨true, true⟩ false false fiveRows =
        .committed (fiveRows.map nullPlaintextRow) ∧
      Recoverable labelled 2 (emailRow 1 2) ∧ Recoverable labelled 2 (addressRow 5 2) := by
  have committed : nullPlaintext labelled 2 ⟨true, true⟩ false false fiveRows =
      .committed (fiveRows.map nullPlaintextRow) := by decide +kernel
  have own : ∀ row, row ∈ fiveRows -> ¬ Foreign labelled 2 row := by
    intro row member
    simp only [fiveRows, List.mem_cons, List.not_mem_nil, or_false] at member
    rcases member with rfl | rfl | rfl | rfl | rfl
    · exact emailRow_own 4 2
    · exact emailRow_own 3 2
    · exact emailRow_own 2 2
    · exact emailRow_own 1 2
    · exact addressRow_own 5 2
  have recoverable := ((nulling_recoverable_iff labelled 2 ⟨true, true⟩ false false _ _
    committed).mpr fun row member _ => own row member).2
  exact ⟨committed, recoverable _ (by simp [fiveRows]), recoverable _ (by simp [fiveRows])⟩

/-- An address beside a copy under an older key is not looked at, and the update takes it away. -/
theorem nulling_loses_old_address : ¬ ∀ (table after : List (PiiRow (Nat × String))),
      nullPlaintext labelled 2 ⟨true, true⟩ false false table = .committed after ->
        ∀ row, row ∈ table -> Recoverable labelled 2 row := by
  intro always
  have recoverable := always [emailRow 2 2, addressRow 1 1]
    ([emailRow 2 2, addressRow 1 1].map nullPlaintextRow) (by decide +kernel) (addressRow 1 1)
    (by simp)
  rcases recoverable .clientIp "192.0.2.1" rfl rfl with ⟨cipher, written, opened⟩
  obtain rfl := Option.some.inj written
  exact absurd opened (by decide)

end Encryption

end LevelChannel
