import LevelChannel.Admin.OperatorSettings
import LevelChannel.Numbers.Rendering
import LevelChannel.Schema.Text

namespace LevelChannel

open ReadCommitted Tables Strings Numbers

namespace Admin

/-!
# How operator settings are resolved

A setting is the row of the table if its text is valid, else the variable of the environment, else
the default.  Six readers go through this cascade, each in its own words.
-/

/-! ## Schemas -/

inductive ProbeName where
  | authFlow
  | calendarPathology
  | webhookFlow
  | conflictUnresolved
  | teacherDailyDigest
  | learnerReminders
  deriving DecidableEq, Repr

inductive ChannelScope where
  | telegram
  deriving DecidableEq, Repr

inductive GateScope where
  | saasOfferGate
  deriving DecidableEq, Repr

inductive SettingScope where
  | probe (name : ProbeName)
  | channel (name : ChannelScope)
  | gate (name : GateScope)
  deriving DecidableEq, Repr

inductive SettingKind where
  | int
  | decimal (decimalPlaces : Nat)
  deriving DecidableEq, Repr

structure SettingSchema where
  kind : SettingKind
  default : Rat
  min : Rat
  max : Rat
  envName : String
  scope : SettingScope
  deriving DecidableEq, Repr

structure SettingTable where
  entries : List (String × SettingSchema)
  unique : Unique Prod.fst entries

def SettingTable.schema? (table : SettingTable) (key : String) : Option SettingSchema :=
  (get Prod.fst table.entries key).map Prod.snd

def integerSetting (key : String) (default min max : Rat) (scope : SettingScope) :
    String × SettingSchema :=
  (key, ⟨.int, default, min, max, key, scope⟩)

def terminatedRatio : SettingSchema :=
  ⟨.decimal 2, toDouble (3 / 10), 0, 1, "WEBHOOK_FLOW_TERMINATED_RATIO", .probe .webhookFlow⟩

/-- `SETTING_SCHEMA` -/
def settingSchema : SettingTable where
  entries := [
    integerSetting "CALENDAR_PATHOLOGY_THRESHOLD" 3 1 100 (.probe .calendarPathology),
    integerSetting "CALENDAR_PATHOLOGY_REPORT_LIMIT" 10 1 100 (.probe .calendarPathology),
    integerSetting "CALENDAR_PATHOLOGY_DEDUP_WINDOW_MS"
      86400000 60000 (7 * 86400000) (.probe .calendarPathology),
    integerSetting "AUTH_FLOW_WINDOW_MINUTES" 60 5 1440 (.probe .authFlow),
    integerSetting "AUTH_FLOW_MAX_PER_IP" 50 5 10000 (.probe .authFlow),
    integerSetting "AUTH_FLOW_MAX_PER_EMAIL_HASH" 20 3 10000 (.probe .authFlow),
    integerSetting "AUTH_FLOW_DEDUP_WINDOW_MS"
      (4 * 3600 * 1000) 60000 (7 * 86400000) (.probe .authFlow),
    integerSetting "WEBHOOK_FLOW_WINDOW_MINUTES" 60 5 1440 (.probe .webhookFlow),
    integerSetting "WEBHOOK_FLOW_MIN_VOLUME" 5 1 10000 (.probe .webhookFlow),
    ("WEBHOOK_FLOW_TERMINATED_RATIO", terminatedRatio),
    integerSetting "CONFLICT_UNRESOLVED_THRESHOLD_MINUTES"
      120 5 1440 (.probe .conflictUnresolved),
    integerSetting "CONFLICT_UNRESOLVED_REPORT_LIMIT" 50 1 500 (.probe .conflictUnresolved),
    integerSetting "CONFLICT_UNRESOLVED_PER_TEACHER_LIMIT" 5 1 50 (.probe .conflictUnresolved),
    integerSetting "CONFLICT_UNRESOLVED_DEDUP_WINDOW_MS"
      (4 * 3600 * 1000) 60000 (7 * 86400000) (.probe .conflictUnresolved),
    integerSetting "TELEGRAM_ALERTS_MASTER_SWITCH" 0 0 1 (.channel .telegram),
    integerSetting "TELEGRAM_ALERTS_RETRY_MAX" 2 0 5 (.channel .telegram),
    integerSetting "TEACHER_DIGEST_MASTER_SWITCH" 0 0 1 (.probe .teacherDailyDigest),
    integerSetting "TEACHER_DIGEST_RATE_LIMIT_PER_TICK" 200 1 5000 (.probe .teacherDailyDigest),
    integerSetting "TEACHER_DIGEST_MAX_ATTEMPTS" 3 1 10 (.probe .teacherDailyDigest),
    integerSetting "TEACHER_DIGEST_TELEGRAM_ENABLED" 0 0 1 (.probe .teacherDailyDigest),
    integerSetting "LEARNER_REMINDERS_EMAIL_ENABLED" 1 0 1 (.probe .learnerReminders),
    integerSetting "LEARNER_REMINDER_WINDOW_MINUTES" 60 5 360 (.probe .learnerReminders),
    integerSetting "LEARNER_REMINDERS_RATE_LIMIT_PER_TICK" 200 1 5000 (.probe .learnerReminders),
    integerSetting "LEARNER_REMINDERS_TELEGRAM_ENABLED" 0 0 1 (.probe .learnerReminders),
    integerSetting "LEARNER_REMINDERS_PUSH_ENABLED" 0 0 1 (.probe .learnerReminders),
    integerSetting "SAAS_OFFER_GATE_ENABLED" 0 0 1 (.gate .saasOfferGate)]
  unique := by
    unfold Tables.Unique
    decide +kernel

/-- What is thrown: an ill-formed pattern, places that `toFixed` does not take, or the error of the
database. -/
inductive SettingError where
  | syntaxError
  | rangeError
  | database
  deriving DecidableEq, Repr

def SettingSchema.admits (schema : SettingSchema) (number : Rat) : Bool :=
  !(number < schema.min || schema.max < number)

def validateInt (schema : SettingSchema) (raw : String) : Option Rat :=
  if raw.toList ≠ [] ∧ raw.toList.all Char.isDigit then
    (number? (valueOf raw.toList [])).filter fun number =>
      number.den = 1 && schema.admits number
  else none

/-- The pattern of `validateDecimal`, and its digits before and after the point. -/
def decimalParts (decimalPlaces : Nat) (text : List Char) : Option (List Char × List Char) :=
  let whole := text.takeWhile Char.isDigit
  if whole = ['0'] ∨ whole ≠ [] ∧ whole.head? ≠ some '0' then
    match text.dropWhile Char.isDigit with
    | [] => some (whole, [])
    | point :: fraction =>
      if point = '.' ∧ fraction.all Char.isDigit ∧ fraction ≠ [] ∧
          fraction.length ≤ decimalPlaces then
        some (whole, fraction)
      else none
  else none

/-- `validateDecimal`.  A pattern that asks for one digit at least and none at most is refused. -/
def validateDecimal (schema : SettingSchema) (decimalPlaces : Nat) (raw : String) :
    Except SettingError (Option Rat) :=
  if decimalPlaces = 0 then .error .syntaxError
  else
    .ok (((decimalParts decimalPlaces raw.toList).bind fun parts =>
      number? (valueOf parts.1 parts.2)).filter schema.admits)

def validate (schema : SettingSchema) (raw : String) : Except SettingError (Option Rat) :=
  match schema.kind with
  | .int => .ok (validateInt schema raw)
  | .decimal decimalPlaces => validateDecimal schema decimalPlaces raw

/-! ## Readers -/

inductive SettingSource where
  | db
  | env
  | default
  deriving DecidableEq, Repr

structure ResolvedSetting where
  value : Rat
  source : SettingSource
  rawDb : Option String
  rawEnv : Option String
  dbErrored : Bool
  deriving DecidableEq, Repr

/-- What a query of `operator_settings` comes to. -/
inductive SettingsRead where
  | rows (db : SettingsDb)
  | undefinedTable
  | failed

abbrev Environment := String -> Option String

/-- `env[schema.envName]`, trimmed. -/
def rawEnvOf (env : Environment) (schema : SettingSchema) : Option String :=
  (env schema.envName).map jsTrim

/-- The variable of the environment if it is valid, else the default. -/
def envOrDefault (schema : SettingSchema) (rawDb rawEnv : Option String) (dbErrored : Bool) :
    Except SettingError ResolvedSetting :=
  match rawEnv.filter (· ≠ "") with
  | none => .ok ⟨schema.default, .default, rawDb, rawEnv, dbErrored⟩
  | some raw => do
    match ← validate schema raw with
    | some value => .ok ⟨value, .env, rawDb, rawEnv, dbErrored⟩
    | none => .ok ⟨schema.default, .default, rawDb, rawEnv, dbErrored⟩

/-- `resolveOperatorSetting`.  What `validate` throws for the row is caught with the errors of the
query. -/
def resolveOperatorSetting (key : String) (schema : SettingSchema) (read : SettingsRead)
    (env : Environment) : Except SettingError ResolvedSetting :=
  let rawEnv := rawEnvOf env schema
  match read with
  | .undefinedTable => envOrDefault schema none rawEnv false
  | .failed => envOrDefault schema none rawEnv true
  | .rows db =>
    match db.row? key with
    | none => envOrDefault schema none rawEnv false
    | some row =>
      match validate schema row.value with
      | .ok (some value) => .ok ⟨value, .db, some row.value, none, false⟩
      | .ok none => envOrDefault schema (some row.value) rawEnv false
      | .error _ => envOrDefault schema (some row.value) rawEnv true

def snapshot (table : SettingTable) (scope : SettingScope) (read : SettingsRead)
    (env : Environment) : Except SettingError (List (String × ResolvedSetting)) :=
  let entries := table.entries.filter fun entry => entry.2.scope = scope
  let dbValues : List (String × String) :=
    match read with
    | .rows db => entries.filterMap fun entry =>
      (db.row? entry.1).map fun row => (row.key, row.value)
    | _ => []
  let dbErrored :=
    match read with
    | .failed => true
    | _ => false
  entries.mapM fun (key, schema) => do
    let rawDb := (get Prod.fst dbValues key).map Prod.snd
    let rawEnv := rawEnvOf env schema
    match ← rawDb.elim (.ok none) (validate schema) with
    | some value => .ok (key, ⟨value, .db, rawDb, rawEnv, false⟩)
    | none =>
      let resolved ← envOrDefault schema rawDb rawEnv dbErrored
      .ok (key, resolved)

def resolveOperatorSettingsForProbe (table : SettingTable) (probeName : ProbeName) :
    SettingsRead -> Environment -> Except SettingError (List (String × ResolvedSetting)) :=
  snapshot table (.probe probeName)

def resolveChannelSettings (table : SettingTable) (channel : ChannelScope) :
    SettingsRead -> Environment -> Except SettingError (List (String × ResolvedSetting)) :=
  snapshot table (.channel channel)

namespace Scripts

/-- What the snapshots of `operator-settings.mjs` hold: they do not tell a failed query. -/
structure ScriptSetting where
  value : Rat
  source : SettingSource
  rawDb : Option String
  rawEnv : Option String
  deriving DecidableEq, Repr

def scriptSetting (entry : String × ResolvedSetting) : String × ScriptSetting :=
  (entry.1, ⟨entry.2.value, entry.2.source, entry.2.rawDb, entry.2.rawEnv⟩)

def resolveOperatorSettingsForProbe (table : SettingTable) (probeName : ProbeName)
    (read : SettingsRead) (env : Environment) :
    Except SettingError (List (String × ScriptSetting)) :=
  (snapshot table (.probe probeName) read env).map fun entries => entries.map scriptSetting

def resolveChannelSettings (table : SettingTable) (channel : ChannelScope)
    (read : SettingsRead) (env : Environment) :
    Except SettingError (List (String × ScriptSetting)) :=
  (snapshot table (.channel channel) read env).map fun entries => entries.map scriptSetting

end Scripts

inductive AdminSettingView where
  | migrationPending
  | keys (settings : List (String × ResolvedSetting × Option Nat))

/-- What the page shows of one setting. -/
def adminSetting (schema : SettingSchema) (rawDb rawEnv : Option String) :
    Except SettingError ResolvedSetting := do
  let mut value := schema.default
  let mut source := SettingSource.default
  if let some raw := rawDb then
    if let some valid ← validate schema raw then
      value := valid
      source := .db
  if source = .default then
    if let some raw := rawEnv.filter (· ≠ "") then
      if let some valid ← validate schema raw then
        value := valid
        source := .env
  return ⟨value, source, rawDb, rawEnv, false⟩

/-- `listOperatorSettingsForAdmin`, each setting with the token of its row. -/
def listOperatorSettingsForAdmin (table : SettingTable) (read : SettingsRead)
    (env : Environment) : Except SettingError AdminSettingView :=
  match read with
  | .undefinedTable => .ok .migrationPending
  | .failed => .error .database
  | .rows db => do
    let settings ← table.entries.mapM fun (key, schema) => do
      let dbRow := db.row? key
      let setting ← adminSetting schema (dbRow.map SettingRow.value) (rawEnvOf env schema)
      return (key, setting, dbRow.map fun row => isoOf row.updatedAt)
    return .keys settings

/-! ## The cascade -/

def SettingSchema.valid? (schema : SettingSchema) (raw : String) : Option Rat :=
  match validate schema raw with
  | .ok number => number
  | .error _ => none

/-- The first valid one of the row and the variable, else the default. -/
def cascade (schema : SettingSchema) (rawDb rawEnv : Option String) : Rat × SettingSource :=
  match rawDb.bind schema.valid? with
  | some value => (value, .db)
  | none =>
    match (rawEnv.filter (· ≠ "")).bind schema.valid? with
    | some value => (value, .env)
    | none => (schema.default, .default)

def SettingSchema.WellFormed (schema : SettingSchema) : Prop :=
  schema.kind ≠ .decimal 0

def SettingTable.WellFormed (table : SettingTable) : Prop :=
  ∀ entry, entry ∈ table.entries -> entry.2.WellFormed

def ResolvedSetting.outcome (setting : ResolvedSetting) : Rat × SettingSource :=
  (setting.value, setting.source)

def SettingsRead.raw : SettingsRead -> String -> Option String
  | .rows db, key => (db.row? key).map SettingRow.value
  | _, _ => none

section Readers

variable {schema : SettingSchema} {table : SettingTable} {key : String} {read : SettingsRead}
  {env : Environment}

theorem validate_eq (wellFormed : schema.WellFormed) (raw : String) :
    validate schema raw = .ok (schema.valid? raw) := by
  rw [SettingSchema.valid?]
  cases checked : validate schema raw with
  | ok number => rfl
  | error error =>
    rw [validate] at checked
    cases kind : schema.kind with
    | int =>
      rw [kind] at checked
      cases checked
    | decimal decimalPlaces =>
      have some_places : decimalPlaces ≠ 0 := by
        rintro rfl
        exact wellFormed kind
      rw [kind] at checked
      simp only [validateDecimal, if_neg some_places] at checked
      cases checked

theorem admits_iff {number : Rat} :
    schema.admits number = true <-> schema.min ≤ number ∧ number ≤ schema.max := by
  simp [SettingSchema.admits]

theorem bounds_of_valid {raw : String} {value : Rat} (valid : schema.valid? raw = some value) :
    schema.min ≤ value ∧ value ≤ schema.max := by
  rw [SettingSchema.valid?, validate] at valid
  rw [← admits_iff]
  cases kind : schema.kind with
  | int =>
    simp only [kind, validateInt] at valid
    split at valid
    · rcases Option.filter_eq_some_iff.mp valid with ⟨-, checks⟩
      rw [Bool.and_eq_true] at checks
      exact checks.2
    · cases valid
  | decimal decimalPlaces =>
    simp only [kind, validateDecimal] at valid
    split at valid
    · next number accepted =>
      split at accepted
      · cases accepted
      · cases accepted
        exact (Option.filter_eq_some_iff.mp valid).2
    · cases valid

theorem cascade_bounds (schema : SettingSchema) (rawDb rawEnv : Option String) :
    schema.min ≤ (cascade schema rawDb rawEnv).1 ∧ (cascade schema rawDb rawEnv).1 ≤ schema.max ∨
      cascade schema rawDb rawEnv = (schema.default, .default) := by
  rw [cascade]
  split
  · next value found =>
    rcases Option.bind_eq_some_iff.mp found with ⟨raw, -, valid⟩
    exact Or.inl (bounds_of_valid valid)
  · split
    · next value found =>
      rcases Option.bind_eq_some_iff.mp found with ⟨raw, -, valid⟩
      exact Or.inl (bounds_of_valid valid)
    · exact Or.inr rfl

theorem envOrDefault_outcome (wellFormed : schema.WellFormed) {rawDb : Option String}
    (missed : rawDb.bind schema.valid? = none) (rawEnv : Option String) (dbErrored : Bool) :
    ∃ setting, envOrDefault schema rawDb rawEnv dbErrored = .ok setting ∧
      setting.outcome = cascade schema rawDb rawEnv := by
  rw [envOrDefault, cascade, missed]
  cases rawEnv.filter (· ≠ "") with
  | none => exact ⟨_, rfl, rfl⟩
  | some raw =>
    simp only [validate_eq wellFormed, Option.bind_some]
    cases schema.valid? raw with
    | none => exact ⟨_, rfl, rfl⟩
    | some value => exact ⟨_, rfl, rfl⟩

theorem resolveOperatorSetting_outcome (wellFormed : schema.WellFormed) (key : String)
    (read : SettingsRead) (env : Environment) :
    ∃ setting, resolveOperatorSetting key schema read env = .ok setting ∧
      setting.outcome = cascade schema (read.raw key) (rawEnvOf env schema) := by
  cases read with
  | undefinedTable => exact envOrDefault_outcome wellFormed rfl _ _
  | failed => exact envOrDefault_outcome wellFormed rfl _ _
  | rows db =>
    rw [resolveOperatorSetting, SettingsRead.raw]
    cases db.row? key with
    | none => exact envOrDefault_outcome wellFormed rfl _ _
    | some row =>
      simp only [validate_eq wellFormed, Option.map_some]
      cases valid : schema.valid? row.value with
      | none =>
        have missed : (some row.value).bind schema.valid? = none := valid
        exact envOrDefault_outcome wellFormed missed _ _
      | some value =>
        refine ⟨_, rfl, ?_⟩
        rw [cascade, Option.bind_some, valid]
        rfl

theorem mapM_of_forall {Source Target Error : Type} (f : Source -> Except Error Target)
    (holds : Source -> Target -> Prop) {sources : List Source} (each : ∀ source, source ∈ sources ->
      ∃ target, f source = .ok target ∧ holds source target) :
    ∃ targets, sources.mapM f = .ok targets ∧ List.Forall₂ holds sources targets := by
  induction sources with
  | nil => exact ⟨[], rfl, .nil⟩
  | cons source sources others =>
    rcases each source List.mem_cons_self with ⟨target, done, found⟩
    rcases others fun other listed => each other (List.mem_cons_of_mem _ listed) with
      ⟨targets, all, related⟩
    refine ⟨target :: targets, ?_, .cons found related⟩
    rw [List.mapM_cons, done, all]
    rfl

theorem get_of_forall₂ {Source Target : Type} {holds : String × Source -> String × Target -> Prop}
    {entries : List (String × Source)} {results : List (String × Target)}
    (unique : Unique Prod.fst entries)
    (keyed : ∀ entry result, holds entry result -> result.1 = entry.1)
    (related : List.Forall₂ holds entries results) {entry : String × Source}
    (listed : entry ∈ entries) :
    ∃ result, get Prod.fst results entry.1 = some result ∧ holds entry result := by
  induction related with
  | nil => cases listed
  | @cons first result entries results here there later =>
    rcases List.nodup_cons.mp unique with ⟨apart, others⟩
    have same := keyed first result here
    rcases List.mem_cons.mp listed with rfl | listed
    · refine ⟨result, ?_, here⟩
      simp only [Tables.get, List.find?_cons, same, decide_true]
    · have different : result.1 ≠ entry.1 := by
        rw [same]
        exact fun equal => apart (equal ▸ List.mem_map_of_mem listed)
      rcases later others listed with ⟨found, read, holds⟩
      refine ⟨found, ?_, holds⟩
      simp only [Tables.get, List.find?_cons, different, decide_false]
      exact read

theorem get_dbValues (db : SettingsDb) {entries : List (String × SettingSchema)}
    {entry : String × SettingSchema} (listed : entry ∈ entries) :
    (get Prod.fst (entries.filterMap fun entry =>
      (db.row? entry.1).map fun row => (row.key, row.value)) entry.1).map Prod.snd =
      (db.row? entry.1).map SettingRow.value := by
  have written : ∀ pair, pair ∈ (entries.filterMap fun entry =>
      (db.row? entry.1).map fun row => (row.key, row.value)) -> pair.1 = entry.1 ->
      (db.row? entry.1).map SettingRow.value = some pair.2 := by
    intro pair member same
    rcases List.mem_filterMap.mp member with ⟨other, -, made⟩
    rcases Option.map_eq_some_iff.mp made with ⟨row, found, rfl⟩
    have keyed : row.key = other.1 := key_of_get found
    rw [← same, keyed, found]
    rfl
  cases found : get Prod.fst (entries.filterMap fun entry =>
      (db.row? entry.1).map fun row => (row.key, row.value)) entry.1 with
  | some pair => exact (written pair (mem_of_get found) (key_of_get found)).symm
  | none =>
    cases read : db.row? entry.1 with
    | none => rfl
    | some row =>
      have keyed : row.key = entry.1 := key_of_get read
      exact absurd keyed (get_eq_none_iff.mp found (row.key, row.value)
        (List.mem_filterMap.mpr ⟨entry, listed, by rw [read]; rfl⟩))

theorem snapshotEntry_outcome (wellFormed : schema.WellFormed) (key : String)
    (rawDb rawEnv : Option String) (dbErrored : Bool) : ∃ result : String × ResolvedSetting, (do
        match ← rawDb.elim (.ok none) (validate schema) with
        | some value => .ok (key, ⟨value, .db, rawDb, rawEnv, false⟩)
        | none =>
          let resolved ← envOrDefault schema rawDb rawEnv dbErrored
          .ok (key, resolved)) = Except.ok result ∧
      result.1 = key ∧ result.2.outcome = cascade schema rawDb rawEnv := by
  have checked : rawDb.elim (.ok none) (validate schema) =
      Except.ok (rawDb.bind schema.valid?) := by
    cases rawDb with
    | none => rfl
    | some raw => exact validate_eq wellFormed raw
  rw [checked]
  cases valid : rawDb.bind schema.valid? with
  | some value =>
    refine ⟨_, rfl, rfl, ?_⟩
    rw [cascade, valid]
    rfl
  | none =>
    rcases envOrDefault_outcome wellFormed valid rawEnv dbErrored with ⟨setting, resolved, outcome⟩
    refine ⟨(key, setting), ?_, rfl, outcome⟩
    rw [resolved]
    rfl

theorem snapshot_outcome (wellFormed : table.WellFormed) (scope : SettingScope)
    (read : SettingsRead) (env : Environment) :
    ∃ entries, snapshot table scope read env = .ok entries ∧
      ∀ key schema, (key, schema) ∈ table.entries -> schema.scope = scope ->
        ∃ setting, get Prod.fst entries key = some setting ∧
          setting.2.outcome = cascade schema (read.raw key) (rawEnvOf env schema) := by
  have unique : Unique Prod.fst (table.entries.filter fun entry => entry.2.scope = scope) :=
    table.unique.sublist (List.filter_sublist.map _)
  have each : ∀ entry, entry ∈ table.entries.filter (fun entry => entry.2.scope = scope) ->
      entry.2.WellFormed := fun entry listed =>
    wellFormed entry (List.mem_of_mem_filter listed)
  have all : ∃ entries, snapshot table scope read env = .ok entries ∧
      List.Forall₂ (fun entry result => result.1 = entry.1 ∧
        result.2.outcome = cascade entry.2 (read.raw entry.1) (rawEnvOf env entry.2))
        (table.entries.filter fun entry => entry.2.scope = scope) entries := by
    cases read with
    | undefinedTable => exact mapM_of_forall _ _ fun entry listed =>
        snapshotEntry_outcome (each entry listed) entry.1 none _ false
    | failed => exact mapM_of_forall _ _ fun entry listed =>
        snapshotEntry_outcome (each entry listed) entry.1 none _ true
    | rows db =>
      refine mapM_of_forall _ _ fun entry listed => ?_
      rw [SettingsRead.raw, ← get_dbValues db listed]
      exact snapshotEntry_outcome (each entry listed) entry.1 _ _ false
  rcases all with ⟨entries, taken, related⟩
  refine ⟨entries, taken, fun key schema listed inScope => ?_⟩
  rcases get_of_forall₂ unique (fun _ _ both => both.1) related
    (List.mem_filter.mpr ⟨listed, decide_eq_true inScope⟩) with ⟨setting, found, -, outcome⟩
  exact ⟨setting, found, outcome⟩

theorem get_scriptSetting (entries : List (String × ResolvedSetting)) (key : String) :
    get Prod.fst (entries.map Scripts.scriptSetting) key =
      (get Prod.fst entries key).map Scripts.scriptSetting := by
  rw [Tables.get, Tables.get, List.find?_map]
  rfl

theorem adminSetting_outcome (wellFormed : schema.WellFormed) (rawDb rawEnv : Option String) :
    ∃ setting, adminSetting schema rawDb rawEnv = .ok setting ∧
      setting.outcome = cascade schema rawDb rawEnv := by
  -- whether the row has a valid text
  have chosen : rawDb.bind schema.valid? = none ∨
      ∃ raw value, rawDb = some raw ∧ schema.valid? raw = some value := by
    cases valid : rawDb.bind schema.valid? with
    | none => exact Or.inl rfl
    | some value =>
      rcases Option.bind_eq_some_iff.mp valid with ⟨raw, rfl, read⟩
      exact Or.inr ⟨raw, value, rfl, read⟩
  rcases chosen with missed | ⟨raw, value, rfl, valid⟩
  · rw [cascade, missed]
    unfold adminSetting
    rcases rawDb with _ | raw
    on_goal 2 =>
      have invalid : schema.valid? raw = none := missed
      simp only [validate_eq wellFormed, invalid]
    all_goals
      cases rawEnv.filter (· ≠ "") with
      | none => exact ⟨_, rfl, rfl⟩
      | some raw =>
        simp only [validate_eq wellFormed, Option.bind_some]
        cases schema.valid? raw with
        | none => exact ⟨_, rfl, rfl⟩
        | some value => exact ⟨_, rfl, rfl⟩
  · refine ⟨⟨value, .db, some raw, rawEnv, false⟩, ?_, ?_⟩
    · unfold adminSetting
      simp only [validate_eq wellFormed, valid]
      rfl
    · rw [cascade, Option.bind_some, valid]
      rfl

theorem listOperatorSettingsForAdmin_outcome (wellFormed : table.WellFormed) (db : SettingsDb)
    (env : Environment) :
    ∃ settings, listOperatorSettingsForAdmin table (.rows db) env = .ok (.keys settings) ∧
      ∀ key schema, (key, schema) ∈ table.entries ->
        ∃ setting, get Prod.fst settings key = some setting ∧
          setting.2.1.outcome = cascade schema ((db.row? key).map SettingRow.value)
            (rawEnvOf env schema) := by
  have all : ∃ settings,
      listOperatorSettingsForAdmin table (.rows db) env = .ok (.keys settings) ∧
      List.Forall₂ (fun entry result => result.1 = entry.1 ∧
        result.2.1.outcome = cascade entry.2 ((db.row? entry.1).map SettingRow.value)
          (rawEnvOf env entry.2)) table.entries settings := by
    have each := mapM_of_forall
      (fun entry : String × SettingSchema => do
        let setting ← adminSetting entry.2 ((db.row? entry.1).map SettingRow.value)
          (rawEnvOf env entry.2)
        return (entry.1, setting, (db.row? entry.1).map fun row => isoOf row.updatedAt))
      (fun entry result => result.1 = entry.1 ∧
        result.2.1.outcome = cascade entry.2 ((db.row? entry.1).map SettingRow.value)
          (rawEnvOf env entry.2)) fun entry (listed : entry ∈ table.entries) => by
        rcases adminSetting_outcome (wellFormed _ listed) ((db.row? entry.1).map SettingRow.value)
          (rawEnvOf env entry.2) with ⟨setting, shown, outcome⟩
        exact ⟨_, by rw [shown]; rfl, rfl, outcome⟩
    rcases each with ⟨settings, all, related⟩
    refine ⟨settings, ?_, related⟩
    rw [listOperatorSettingsForAdmin]
    simp only [all]
    rfl
  rcases all with ⟨settings, taken, related⟩
  refine ⟨settings, taken, fun key schema listed => ?_⟩
  rcases get_of_forall₂ table.unique (fun _ _ both => both.1) related listed with
    ⟨setting, found, -, outcome⟩
  exact ⟨setting, found, outcome⟩

end Readers

end Admin

end LevelChannel
