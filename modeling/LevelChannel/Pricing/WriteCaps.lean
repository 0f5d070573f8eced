import LevelChannel.ReadCommitted.Statements
import LevelChannel.Schema.Identifiers
import LevelChannel.Schema.Text
import LevelChannel.Tables.Rows

namespace LevelChannel.WriteCaps

open ReadCommitted Tables

/-!
# What a tier lets a teacher keep

A tier limits how many active packages and how many tariffs a teacher may have.  A route
that adds one takes an advisory lock on the teacher, counts, and adds in the same
transaction, so that the count still holds when the addition is committed.

Editing a package takes the lock only when it finds the package archived and is asked to
activate it.  That is decided before the lock and before the update: an edit that has found
the package active writes the flag without counting.
-/

/-! ## The tables -/

/-- A row of `lesson_packages`. -/
structure LessonPackage where
  id : RowId
  teacherId : RowId
  slug : String
  titleRu : String
  descriptionRu : Option String
  durationMinutes : Int
  count : Int
  amountKopecks : Int
  isActive : Bool
  displayOrder : Int
  deletedAt : Option Nat
  deriving DecidableEq

/-- A row of `pricing_tariffs`. -/
structure Tariff where
  id : RowId
  teacherId : RowId
  slug : String
  titleRu : String
  descriptionRu : Option String
  amountKopecks : Int
  durationMinutes : Int
  isActive : Bool
  displayOrder : Int
  deletedAt : Option Nat
  deriving DecidableEq

structure CatalogDb where
  packages : List LessonPackage
  tariffs : List Tariff
  clock : Nat

inductive CatalogWrite where
  | package (change : Change LessonPackage)
  | tariff (change : Change Tariff)

inductive CatalogLock where
  | tierCap (teacherId : RowId)
  | package (id : RowId)
  | packageSlug (teacherId : RowId) (slug : String)
  | tariff (id : RowId)
  | tariffSlug (slug : String)
  deriving DecidableEq

namespace CatalogDb

def apply (db : CatalogDb) : CatalogWrite -> CatalogDb
  | .package change => { db with packages := change.apply LessonPackage.id db.packages }
  | .tariff change => { db with tariffs := change.apply Tariff.id db.tariffs }

variable (db : CatalogDb)

def package? (id : RowId) : Option LessonPackage := get LessonPackage.id db.packages id

def tariff? (id : RowId) : Option Tariff := get Tariff.id db.tariffs id

end CatalogDb

/-- The lock modes in use all exclude each other.  Only the time passes by itself. -/
def catalogStore : Store CatalogDb CatalogLock CatalogWrite Nat where
  apply := CatalogDb.apply
  drift := fun milliseconds db => { db with clock := db.clock + milliseconds }
  close := fun _ db => db
  conflict := fun first second => decide (first = second)
  conflict_comm first second := by
    by_cases same : first = second
    · rw [same]
    · rw [decide_eq_false same, decide_eq_false (Ne.symm same)]

/-- `overwrite` is the update of an edit that has found its package active and sets the
flag again. -/
inductive CatalogLabel where
  | plain
  | overwrite (id : RowId)
  deriving DecidableEq

inductive CatalogReply where
  | json (status : Nat) (id : RowId)
  | refused (status : Nat) (error message : String)
  | capReached (message : String) (cap current : Nat)
  deriving DecidableEq

abbrev CatalogProgram := ReadCommitted.Program CatalogDb CatalogLock CatalogWrite CatalogLabel Unit
  CatalogReply

abbrev CatalogState := ReadCommitted.State CatalogDb CatalogLock CatalogWrite CatalogLabel Unit
  CatalogReply

abbrev CatalogEvent := ReadCommitted.Event Nat Unit

/-- `TierWriteCaps`.  A missing bound is the `Infinity` of the source. -/
structure TierWriteCaps where
  maxPackages : Option Nat
  maxTariffs : Option Nat
  deriving DecidableEq

def emptyCaps : TierWriteCaps := ⟨some 0, some 0⟩

/-- `TIER_WRITE_CAPS` -/
def tierWriteCaps (planSlug : String) : Option TierWriteCaps :=
  if planSlug = "free" then some ⟨some 1, some 1⟩
  else if planSlug = "mid" then some ⟨none, none⟩
  else if planSlug = "pro" then some ⟨none, none⟩
  else if planSlug = "operator-managed" then some ⟨none, none⟩
  else none

/-- The columns of `teacher_subscriptions` that a cap depends on. -/
structure TeacherSubscription where
  planSlug : String
  state : String
  deriving DecidableEq

def resolveTeacherWriteCaps (row : Option TeacherSubscription) : TierWriteCaps :=
  match row with
  | none => emptyCaps
  | some row =>
    if row.state ≠ "active" then emptyCaps else (tierWriteCaps row.planSlug).getD emptyCaps

def Within : Option Nat -> Nat -> Prop
  | none, _ => True
  | some cap, number => number ≤ cap

/-- `current >= cap`, for a bound that there is. -/
def reached : Option Nat -> Nat -> Option Nat
  | none, _ => none
  | some cap, current => if cap ≤ current then some cap else none

namespace CatalogDb

def countActivePackagesByTeacher (db : CatalogDb) (teacherId : RowId) : Nat :=
  (db.packages.filter fun row =>
    row.teacherId = teacherId && row.isActive && row.deletedAt.isNone).length

/-- `countActiveTariffsForTeacher`.  A tariff counts until it is archived, active or not. -/
def countActiveTariffsForTeacher (db : CatalogDb) (teacherId : RowId) : Nat :=
  (db.tariffs.filter fun row => row.teacherId = teacherId && row.deletedAt.isNone).length

end CatalogDb

/-! ## Packages -/

/-- The range of an `integer` column. -/
def int4 (value : Int) : Bool :=
  -2147483648 ≤ value && value ≤ 2147483647

/-- What a number of the body is to an `integer` column. -/
def column : JsonNumber -> Except String Int
  | .fractional => .error "22P02"
  | .integer value => if int4 value then .ok value else .error "22003"

structure PackageBody where
  slug : Option String
  titleRu : Option String
  descriptionRu : Option String
  durationMinutes : Option JsonNumber
  count : Option JsonNumber
  amountKopecks : Option JsonNumber
  isActive : Option Bool
  displayOrder : Option JsonNumber
  namesTeacher : Bool

/-- `DEFAULT_DISPLAY_ORDER` -/
def defaultDisplayOrder : JsonNumber := .integer 100

def givenText (text : Option String) : Option String :=
  (text.map jsTrim).filter fun trimmed => trimmed ≠ ""

def givenNumber (number : Option JsonNumber) : Option JsonNumber :=
  number.filter fun value => value ≠ .integer 0

/-- What `createPackageTx` is given. -/
structure NewPackage where
  slug : String
  titleRu : String
  descriptionRu : Option String
  durationMinutes : JsonNumber
  count : JsonNumber
  amountKopecks : JsonNumber
  isActive : Bool
  displayOrder : JsonNumber
  teacherId : RowId

def NewPackage.row (input : NewPackage) (id : RowId) : Except String LessonPackage := do
  let durationMinutes ← column input.durationMinutes
  let count ← column input.count
  let amountKopecks ← column input.amountKopecks
  let displayOrder ← column input.displayOrder
  if 15 ≤ durationMinutes ∧ durationMinutes ≤ 180 ∧ 1 ≤ count ∧ count ≤ 100 ∧
      100 ≤ amountKopecks ∧ amountKopecks ≤ 100000000 then
    .ok
      { id := id
        teacherId := input.teacherId
        slug := input.slug
        titleRu := input.titleRu
        descriptionRu := input.descriptionRu
        durationMinutes := durationMinutes
        count := count
        amountKopecks := amountKopecks
        isActive := input.isActive
        displayOrder := displayOrder
        deletedAt := none }
  else .error "23514"

namespace CatalogProgram

def internalError : CatalogProgram := .done (.refused 500 "internal_error" "")

/-- `pg_advisory_xact_lock(hashtext('tier-cap:' || $1::text))` in a transaction of its own. -/
def lockTierCap (teacherId : RowId) (next : CatalogProgram) : CatalogProgram :=
  .reading .plain internalError fun _ _ =>
    .acquiring .plain [.tierCap teacherId] internalError fun _ _ => next

def inserting (locks : List CatalogLock) (onRaise : String -> CatalogProgram)
    (raises : CatalogDb -> Option String) (write : CatalogWrite) (next : CatalogProgram) :
    CatalogProgram :=
  .statement .plain locks internalError
    (fun _ own => if (raises own).isSome then [] else [write])
    fun _ own => match raises own with
      | some code => .rollback (onRaise code)
      | none => next

/-- `createPackageTx`, under the unique index on teacher and slug. -/
def createPackageTx (id : RowId) (input : NewPackage) (onRaise : String -> CatalogProgram)
    (next : CatalogProgram) : CatalogProgram :=
  match input.row id with
  | .error code => .rollback (onRaise code)
  | .ok row =>
    inserting [.package id, .packageSlug row.teacherId row.slug] onRaise
      (fun own => if (own.package? id).isSome || own.packages.any (fun other =>
          other.teacherId = row.teacherId && other.slug = row.slug) then
          some "23505"
        else none)
      (.package (.insert row)) next

def packageRaised (code : String) : CatalogProgram :=
  if code = "23505" then .done (.refused 409 "slug_already_exists" "")
  else if code = "23514" then .done (.refused 400 "invalid_input" "")
  else internalError

/-- The transaction of `POST /api/teacher/packages`. -/
def addPackage (session : Nat) (caps : TierWriteCaps) (input : NewPackage) : CatalogProgram :=
  lockTierCap input.teacherId
    (if caps.maxPackages = some 0 then
      .rollback (.done (.refused 422 "plan_upgrade_required"
        "Создание пакетов недоступно на вашем тарифе. Перейдите на тариф с пакетами или свяжитесь с оператором LevelChannel."))
    else
      .reading .plain internalError fun _ own =>
        let current := own.countActivePackagesByTeacher input.teacherId
        match reached caps.maxPackages current with
        | some cap =>
          .rollback (.done (.capReached
            "Лимит пакетов на тарифе исчерпан. Архивируйте старый пакет, чтобы создать новый."
            cap current))
        | none =>
          createPackageTx (.minted session 0) input packageRaised
            (.commit internalError (.done (.json 201 (.minted session 0)))))

/-- `POST /api/teacher/packages` -/
def postPackage (session : Nat) (caps : TierWriteCaps) (teacherId : RowId) (body : PackageBody) :
    CatalogProgram :=
  match givenText body.slug, givenText body.titleRu, givenNumber body.durationMinutes,
      givenNumber body.count, givenNumber body.amountKopecks with
  | some slug, some titleRu, some durationMinutes, some count, some amountKopecks =>
    if body.namesTeacher then
      .done (.refused 400 "teacher_id_forbidden"
        "teacher_id is implied from the session and cannot be overridden in the body.")
    else
      addPackage session caps
        { slug := slug
          titleRu := titleRu
          descriptionRu := body.descriptionRu
          durationMinutes := durationMinutes
          count := count
          amountKopecks := amountKopecks
          isActive := body.isActive.getD true
          displayOrder := body.displayOrder.getD defaultDisplayOrder
          teacherId := teacherId }
  | _, _, _, _, _ =>
    .done (.refused 400 "slug, titleRu, durationMinutes, count, amountKopecks are required" "")

end CatalogProgram

/-- The patch of `updatePackageMetadata`.  The outer options are fields left out. -/
structure PackagePatch where
  titleRu : Option String
  descriptionRu : Option (Option String)
  isActive : Option Bool
  displayOrder : Option Int
  deriving DecidableEq

namespace PackagePatch

def isEmpty (patch : PackagePatch) : Bool :=
  patch = ⟨none, none, none, none⟩

def apply (patch : PackagePatch) (row : LessonPackage) : LessonPackage :=
  { row with
    titleRu := patch.titleRu.getD row.titleRu
    descriptionRu := patch.descriptionRu.getD row.descriptionRu
    isActive := patch.isActive.getD row.isActive
    displayOrder := patch.displayOrder.getD row.displayOrder }

end PackagePatch

/-- The body of an edit, as sent.  `blocked` is the first immutable field it names. -/
structure PatchBody where
  titleRu : Option String
  descriptionRu : Option (Option String)
  isActive : Option Bool
  displayOrder : Option JsonNumber
  blocked : Option String

def PatchBody.patch (body : PatchBody) : Option PackagePatch :=
  if (body.titleRu.map jsTrim) = some "" then none
  else
    some
      { titleRu := body.titleRu.map jsTrim
        descriptionRu := body.descriptionRu.map fun text =>
          (text.map jsTrim).filter fun trimmed => trimmed ≠ ""
        isActive := body.isActive
        displayOrder := body.displayOrder.bind fun number => match number with
          | .integer value => some value
          | .fractional => none }

namespace CatalogProgram

/-- `updatePackageMetadata`: the updated row, if there is one. -/
def updatePackageMetadata (label : CatalogLabel) (id : RowId) (patch : PackagePatch)
    (next : Option LessonPackage -> CatalogProgram) : CatalogProgram :=
  if patch.isEmpty then .reading .plain internalError fun _ own => next (own.package? id)
  else if patch.displayOrder.any fun value => !int4 value then .rollback internalError
  else
    .statement label [.package id] internalError
      (fun _ own => match own.package? id with
        | none => []
        | some row => [.package (.replace (patch.apply row))])
      fun _ own => next ((own.package? id).map patch.apply)

def edited (updated : Option LessonPackage) : CatalogProgram :=
  match updated with
  | none => .done (.refused 404 "not_found" "")
  | some row => .done (.json 200 row.id)

def reactivatePackage (caps : TierWriteCaps) (teacherId id : RowId) (patch : PackagePatch) :
    CatalogProgram :=
  lockTierCap teacherId
    (if caps.maxPackages = some 0 then
      .rollback (.done (.refused 422 "plan_upgrade_required"
        "Создание и реактивация пакетов недоступны на текущем тарифе. Свяжитесь с оператором LevelChannel."))
    else
      .reading .plain internalError fun _ own =>
        let activeCount := own.countActivePackagesByTeacher teacherId
        match reached caps.maxPackages activeCount with
        | some cap =>
          .rollback (.done (.capReached
            "Лимит активных пакетов исчерпан. Архивируйте другой пакет, чтобы реактивировать этот."
            cap activeCount))
        | none =>
          updatePackageMetadata .plain id patch fun updated =>
            .commit internalError (edited updated))

def editPackage (id : RowId) (patch : PackagePatch) : CatalogProgram :=
  updatePackageMetadata (if patch.isActive = some true then .overwrite id else .plain) id patch
    fun updated => .commit internalError (edited updated)

/-- `PATCH /api/teacher/packages/[id]` -/
def patchPackage (caps : TierWriteCaps) (teacherId id : RowId) (body : PatchBody) :
    CatalogProgram :=
  .reading .plain internalError fun committed _ =>
    match committed.package? id with
    | none => .done (.refused 404 "not_found" "")
    | some existing =>
      if existing.teacherId ≠ teacherId then .done (.refused 404 "not_found" "")
      else
        match body.patch with
        | none => .done (.refused 400 "titleRu cannot be empty" "")
        | some patch =>
          match body.blocked with
          | some blocked =>
            .done (.refused 400 "immutable_field"
              s!"Поле {blocked} нельзя изменить после создания. Деактивируйте пакет и создайте новый.")
          | none =>
            if patch.isActive = some true ∧ existing.isActive = false then
              reactivatePackage caps teacherId id patch
            else editPackage id patch

end CatalogProgram

/-! ## Tariffs -/

structure TariffBody where
  titleRu : Option String
  amountKopecks : Option JsonNumber
  durationMinutes : Option JsonNumber
  descriptionRu : Option String
  isActive : Option Bool
  displayOrder : Option JsonNumber

def slugChar (char : Char) : Bool :=
  char.isLower || char.isDigit || char = '-'

def slugEnd (char : Char) : Bool :=
  char.isLower || char.isDigit

/-- `SLUG_PATTERN` -/
def slugFormat (slug : String) : Bool :=
  let chars := slug.toList
  2 ≤ chars.length && chars.length ≤ 64 && chars.all slugChar &&
    chars.head?.all slugEnd && chars.getLast?.all slugEnd

/-- What `validateTariffInput` looks at. -/
structure TariffInput where
  slug : Option String
  titleRu : String
  descriptionRu : Option String
  amountKopecks : JsonNumber
  durationMinutes : JsonNumber

/-- `validateTariffInput`, the field and the reason. -/
def validateTariffInput (input : TariffInput) : Option (String × String) :=
  if input.slug.any fun slug => !slugFormat slug then some ("slug", "invalid_format")
  else if jsLength (jsTrim input.titleRu) = 0 then some ("titleRu", "too_short")
  else if 120 < jsLength (jsTrim input.titleRu) then some ("titleRu", "too_long")
  else if input.descriptionRu.any fun text => 600 < jsLength text then
    some ("descriptionRu", "too_long")
  else
    match input.amountKopecks, input.durationMinutes with
    | .fractional, _ => some ("amountKopecks", "not_integer")
    | .integer amount, durationMinutes =>
      if amount < 100 ∨ 100000000 < amount then some ("amountKopecks", "out_of_band")
      else
        match durationMinutes with
        | .fractional => some ("durationMinutes", "not_integer")
        | .integer minutes =>
          if minutes < 15 ∨ 240 < minutes then some ("durationMinutes", "out_of_band") else none

structure NewTariff where
  teacherId : RowId
  titleRu : String
  descriptionRu : Option String
  amountKopecks : Int
  durationMinutes : Int
  isActive : Bool
  displayOrder : JsonNumber

/-- `synthesiseSlug`, for the random part it has drawn. -/
def synthesiseSlug (durationMinutes : Int) (nonce : String) : String :=
  s!"t-{durationMinutes}m-{nonce}"

def NewTariff.row (input : NewTariff) (id : RowId) (slug : String) : Except String Tariff := do
  let displayOrder ← column input.displayOrder
  if slugFormat slug then
    .ok
      { id := id
        teacherId := input.teacherId
        slug := slug
        titleRu := jsTrim input.titleRu
        descriptionRu := input.descriptionRu
        amountKopecks := input.amountKopecks
        durationMinutes := input.durationMinutes
        isActive := input.isActive
        displayOrder := displayOrder
        deletedAt := none }
  else .error "23514"

namespace CatalogProgram

/-- `createTariffForTeacherTx`, under the unique index on slugs. -/
def createTariffForTeacherTx (id : RowId) (slug : String) (input : NewTariff)
    (onRaise : String -> CatalogProgram) (next : CatalogProgram) : CatalogProgram :=
  match input.row id slug with
  | .error code => .rollback (onRaise code)
  | .ok row =>
    inserting [.tariff id, .tariffSlug slug] onRaise
      (fun own => if (own.tariff? id).isSome || own.tariffs.any (fun other => other.slug = slug)
        then some "pricing_tariffs_slug_unique"
        else none)
      (.tariff (.insert row)) next

/-- The attempts of `POST /api/teacher/tariffs`, each a transaction of its own.  A slug that
is taken leads to the next one. -/
def addTariff (session : Nat) (caps : TierWriteCaps) (input : NewTariff) :
    Nat -> List String -> CatalogProgram
  | _, [] =>
    .done (.refused 503 "slug_collision_retries_exhausted"
      "Не удалось подобрать уникальный slug. Повторите попытку.")
  | attempt, nonce :: nonces =>
    lockTierCap input.teacherId
      (if caps.maxTariffs = some 0 then
        .rollback (.done (.refused 422 "plan_upgrade_required"
          "Создание тарифов недоступно на вашем тарифе. Перейдите на тариф с тарифами или свяжитесь с оператором LevelChannel."))
      else
        .reading .plain internalError fun _ own =>
          let current := own.countActiveTariffsForTeacher input.teacherId
          match reached caps.maxTariffs current with
          | some cap =>
            .rollback (.done (.capReached
              "Лимит тарифов на тарифе исчерпан. Архивируйте старый тариф, чтобы создать новый."
              cap current))
          | none =>
            createTariffForTeacherTx (.minted session attempt)
              (synthesiseSlug input.durationMinutes nonce) input
              (fun code =>
                if code = "pricing_tariffs_slug_unique" then
                  addTariff session caps input (attempt + 1) nonces
                else internalError)
              (.commit internalError (.done (.json 201 (.minted session attempt)))))

/-- `POST /api/teacher/tariffs`, with the three random parts it may draw. -/
def postTariff (session : Nat) (caps : TierWriteCaps) (teacherId : RowId) (body : TariffBody)
    (nonces : String × String × String) : CatalogProgram :=
  match body.titleRu, body.amountKopecks, body.durationMinutes with
  | some titleRu, some amountKopecks, some durationMinutes =>
    match validateTariffInput ⟨none, titleRu, body.descriptionRu, amountKopecks,
        durationMinutes⟩, amountKopecks, durationMinutes with
    | none, .integer amountKopecks, .integer durationMinutes =>
      addTariff session caps
        { teacherId := teacherId
          titleRu := titleRu
          descriptionRu := body.descriptionRu
          amountKopecks := amountKopecks
          durationMinutes := durationMinutes
          isActive := body.isActive.getD true
          displayOrder := body.displayOrder.getD (.integer 0) }
        0 [nonces.1, nonces.2.1, nonces.2.2]
    | some (field, reason), _, _ => .done (.refused 400 s!"{field}/{reason}" "")
    | none, _, _ => internalError
  | _, _, _ =>
    .done (.refused 400 "titleRu, amountKopecks, durationMinutes are required." "")

/-- `DELETE /api/teacher/tariffs/[id]`: `softDeleteTariffForTeacher`. -/
def archiveTariff (teacherId id : RowId) : CatalogProgram :=
  .statement .plain [.tariff id] internalError
    (fun committed own =>
      match (own.tariff? id).filter fun row =>
          row.teacherId = teacherId && row.deletedAt.isNone with
      | none => []
      | some row =>
        [.tariff (.replace { row with deletedAt := some committed.clock, isActive := false })])
    fun _ own =>
      .commit internalError
        (match (own.tariff? id).filter fun row =>
            row.teacherId = teacherId && row.deletedAt.isNone with
        | none => .done (.refused 404 "not_found" "Тариф не найден.")
        | some row => .done (.json 200 row.id))

end CatalogProgram

inductive Request where
  | postPackage (body : PackageBody)
  | patchPackage (id : RowId) (body : PatchBody)
  | postTariff (body : TariffBody) (nonces : String × String × String)
  | archiveTariff (id : RowId)

def Request.program (session : Nat) (caps : TierWriteCaps) (teacherId : RowId) :
    Request -> CatalogProgram
  | .postPackage body => CatalogProgram.postPackage session caps teacherId body
  | .patchPackage id body => CatalogProgram.patchPackage caps teacherId id body
  | .postTariff body nonces => CatalogProgram.postTariff session caps teacherId body nonces
  | .archiveTariff id => CatalogProgram.archiveTariff teacherId id

def opening (db : CatalogDb) (subscriptions : RowId -> Option TeacherSubscription)
    (requests : Nat -> RowId × Request) : CatalogState :=
  State.start db fun session =>
    (requests session).2.program session
      (resolveTeacherWriteCaps (subscriptions (requests session).1)) (requests session).1

def CatalogDb.WithinCaps (db : CatalogDb) (caps : TierWriteCaps) (teacherId : RowId) : Prop :=
  Within caps.maxPackages (db.countActivePackagesByTeacher teacherId) ∧
    Within caps.maxTariffs (db.countActiveTariffsForTeacher teacherId)

end LevelChannel.WriteCaps
