import Mathlib.Data.List.Basic

namespace Tables

/-!
# Columns that are read and written

A row is read into an object, the object is changed, and all of it is written back.  A column that
the change left alone keeps its value if what is read of it writes the same value again, and the
object is what the next reader finds if what is written of each field reads the same again.
-/

structure Codec (Stored Field : Type) where
  read : Stored -> Option Field
  write : Field -> Stored

namespace Codec

variable {Stored Field : Type} (codec : Codec Stored Field)

def Keeps (stored : Stored) : Prop :=
  ∀ field, codec.read stored = some field -> codec.write field = stored

def Returns (field : Field) : Prop :=
  codec.read (codec.write field) = some field

def plain (Stored : Type) : Codec Stored Stored where
  read := some
  write := id

def nullable : Codec (Option Stored) (Option Field) where
  read
    | none => some none
    | some stored => (codec.read stored).map some
  write := Option.map codec.write

def filtered (p : Stored -> Bool) : Codec (Option Stored) (Option Stored) where
  read stored := some (stored.filter p)
  write field := field.filter p

theorem plain_keeps (stored : Stored) : (plain Stored).Keeps stored := by
  intro field read
  exact (Option.some.inj read).symm

theorem plain_returns (stored : Stored) : (plain Stored).Returns stored :=
  rfl

variable {codec}

theorem nullable_keeps_iff {stored : Option Stored} :
    codec.nullable.Keeps stored <-> ∀ value, stored = some value -> codec.Keeps value := by
  cases stored with
  | none =>
    constructor
    · intro _ value no
      cases no
    · intro _ field read
      cases read
      rfl
  | some value =>
    constructor
    · rintro keeps value ⟨⟩ field read
      have whole := keeps (some field) (by simp [nullable, read])
      exact Option.some.inj whole
    · intro keeps field read
      obtain ⟨inner, readInner, rfl⟩ := Option.map_eq_some_iff.mp read
      exact congrArg some (keeps value rfl inner readInner)

theorem nullable_returns_iff {field : Option Field} :
    codec.nullable.Returns field <-> ∀ value, field = some value -> codec.Returns value := by
  cases field with
  | none =>
    constructor
    · intro _ value no
      cases no
    · intro _
      rfl
  | some value =>
    simp only [Returns, nullable, Option.map_some, Option.map_eq_some_iff, Option.some.injEq,
      exists_eq_right, forall_eq']

theorem filtered_keeps_iff {p : Stored -> Bool} {stored : Option Stored} :
    (filtered p).Keeps stored <-> ∀ value, stored = some value -> p value = true := by
  cases stored with
  | none => simp [Keeps, filtered]
  | some value => cases holds : p value <;> simp [Keeps, filtered, holds]

theorem filtered_returns_iff {p : Stored -> Bool} {field : Option Stored} :
    (filtered p).Returns field <-> ∀ value, field = some value -> p value = true := by
  cases field with
  | none => simp [Returns, filtered]
  | some value => cases holds : p value <;> simp [Returns, filtered, holds]

end Codec

structure Column (Row Object : Type) where
  Stored : Type
  Field : Type
  codec : Codec Stored Field
  stored : Row -> Stored
  field : Object -> Field

namespace Column

variable {Row Object : Type} {columns : List (Column Row Object)}

def Reads (columns : List (Column Row Object)) (row : Row) (object : Object) : Prop :=
  ∀ column, column ∈ columns ->
    column.codec.read (column.stored row) = some (column.field object)

def Writes (columns : List (Column Row Object)) (row : Row) (object : Object) : Prop :=
  ∀ column, column ∈ columns -> column.stored row = column.codec.write (column.field object)

def Frame (columns : List (Column Row Object)) (before after : Row) (old new : Object) : Prop :=
  ∀ column, column ∈ columns -> column.field new = column.field old ->
    column.stored after = column.stored before

theorem frame_iff {before after : Row} {old new : Object} (reads : Reads columns before old)
    (writes : Writes columns after new) : Frame columns before after old new <->
      ∀ column, column ∈ columns -> column.field new = column.field old ->
        column.codec.Keeps (column.stored before) := by
  refine forall₂_congr fun column listed => imp_congr_right fun unchanged => ?_
  rw [writes column listed, unchanged]
  constructor
  · intro same field read
    rw [reads column listed] at read
    exact Option.some.inj read ▸ same
  · intro keeps
    exact keeps _ (reads column listed)

theorem reads_iff {row : Row} {object : Object} (writes : Writes columns row object) :
    Reads columns row object <->
      ∀ column, column ∈ columns -> column.codec.Returns (column.field object) := by
  refine forall₂_congr fun column listed => ?_
  rw [writes column listed]
  rfl

end Column

end Tables
