namespace LevelChannel

namespace Encryption

/-!
# Cells under one of two keys

A scheme of authenticated encryption, and cells that may be empty, under a primary key, under
an old one, or under neither.  Encrypting a cell anew keeps what it says.
-/

/-- A key opens what was encrypted under it and gives the text back; of a cipher it does not
open it says so. -/
structure Scheme (Key Text Cipher Salt : Type) where
  encrypt : Key -> Salt -> Text -> Cipher
  decrypt : Key -> Cipher -> Option Text
  decrypt_encrypt : ∀ key salt text, decrypt key (encrypt key salt text) = some text

structure Keys (Key : Type) where
  primary : Key
  old : Key

variable {Key Text Cipher Salt : Type} (scheme : Scheme Key Text Cipher Salt) (keys : Keys Key)

def needsRotation (cell : Option Cipher) : Bool :=
  cell.any fun cipher => (scheme.decrypt keys.primary cipher).isNone

def oldOnly (cell : Option Cipher) : Bool :=
  cell.any fun cipher =>
    (scheme.decrypt keys.primary cipher).isNone && (scheme.decrypt keys.old cipher).isSome

def plaintext (cell : Option Cipher) : Option Text :=
  cell.bind fun cipher =>
    (scheme.decrypt keys.primary cipher).or (scheme.decrypt keys.old cipher)

def reencrypt (salt : Salt) (cell : Option Cipher) : Option Cipher :=
  if oldOnly scheme keys cell then
    (cell.bind (scheme.decrypt keys.old)).map (scheme.encrypt keys.primary salt)
  else cell

variable {scheme keys} {cell : Option Cipher} {salt : Salt}

theorem reencrypt_of_not_oldOnly (kept : oldOnly scheme keys cell = false) :
    reencrypt scheme keys salt cell = cell :=
  if_neg (Bool.eq_false_iff.mp kept)

theorem exists_of_oldOnly (old : oldOnly scheme keys cell = true) :
    ∃ cipher text, cell = some cipher ∧ scheme.decrypt keys.primary cipher = none ∧
      scheme.decrypt keys.old cipher = some text := by
  cases cell with
  | none => cases old
  | some cipher =>
    simp only [oldOnly, Option.any_some, Bool.and_eq_true, Option.isNone_iff_eq_none,
      Option.isSome_iff_exists] at old
    rcases old with ⟨unopened, text, opened⟩
    exact ⟨cipher, text, rfl, unopened, opened⟩

theorem reencrypt_of_oldOnly (salt : Salt) (old : oldOnly scheme keys cell = true) :
    ∃ text, plaintext scheme keys cell = some text ∧
      reencrypt scheme keys salt cell = some (scheme.encrypt keys.primary salt text) := by
  rcases exists_of_oldOnly old with ⟨cipher, text, rfl, unopened, opened⟩
  have same : plaintext scheme keys (some cipher) = some text := by
    simp [plaintext, unopened, opened]
  exact ⟨text, same, by rw [reencrypt, if_pos old, Option.bind_some, opened]; rfl⟩

theorem plaintext_reencrypt :
    plaintext scheme keys (reencrypt scheme keys salt cell) = plaintext scheme keys cell := by
  cases old : oldOnly scheme keys cell with
  | false => rw [reencrypt_of_not_oldOnly old]
  | true =>
    rcases reencrypt_of_oldOnly salt old with ⟨text, same, written⟩
    rw [written, same, plaintext, Option.bind_some, scheme.decrypt_encrypt, Option.some_or]

theorem reencrypt_of_unreadable (unreadable : plaintext scheme keys cell = none) :
    reencrypt scheme keys salt cell = cell := by
  refine reencrypt_of_not_oldOnly (Bool.eq_false_iff.mpr fun old => ?_)
  rcases exists_of_oldOnly old with ⟨cipher, text, rfl, unopened, opened⟩
  simp [plaintext, unopened, opened] at unreadable

theorem not_needsRotation (readable : cell = none ∨ plaintext scheme keys cell ≠ none)
    (kept : oldOnly scheme keys cell = false) : needsRotation scheme keys cell = false := by
  cases cell with
  | none => rfl
  | some cipher =>
    simp only [plaintext, oldOnly, needsRotation, Option.bind_some, Option.any_some] at *
    cases primary : scheme.decrypt keys.primary cipher with
    | some text => rfl
    | none =>
      rw [primary] at readable kept
      cases old : scheme.decrypt keys.old cipher with
      | none => simp [old] at readable
      | some text => simp [old] at kept

theorem reencrypt_of_not_needsRotation (settled : needsRotation scheme keys cell = false) :
    reencrypt scheme keys salt cell = cell := by
  refine reencrypt_of_not_oldOnly (Bool.eq_false_iff.mpr fun old => ?_)
  rcases exists_of_oldOnly old with ⟨cipher, -, rfl, unopened, -⟩
  simp [needsRotation, unopened] at settled

theorem needsRotation_of_oldOnly (old : oldOnly scheme keys cell = true) :
    needsRotation scheme keys cell = true := by
  rcases exists_of_oldOnly old with ⟨cipher, -, rfl, unopened, -⟩
  simp [needsRotation, unopened]

theorem readable_of_needsRotation
    (old : needsRotation scheme keys cell = true -> oldOnly scheme keys cell = true) :
    cell = none ∨ plaintext scheme keys cell ≠ none := by
  cases cell with
  | none => exact .inl rfl
  | some cipher =>
    right
    cases primary : scheme.decrypt keys.primary cipher with
    | some text => simp [plaintext, primary]
    | none =>
      rcases exists_of_oldOnly (old (by simp [needsRotation, primary])) with
        ⟨other, text, same, -, opened⟩
      obtain rfl := Option.some.inj same
      simp [plaintext, primary, opened]

end Encryption

end LevelChannel
