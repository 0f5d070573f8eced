import LevelChannel.Admin.SettingResolvers
import LevelChannel.ReadCommitted.Alone

namespace LevelChannel

open ReadCommitted Tables Strings Numbers

namespace Admin

/-!
# Operator settings are read back

The writer validates a text and stores another one: the digits of an integer, or so many places of
a decimal number.  The stored text is valid again and stands for the same number of double
precision, but for numbers from `10 ^ 21` on and for four powers of two.
-/

def persistedValue (kind : SettingKind) (number : Rat) : Except SettingError String :=
  match kind with
  | .int => .ok (String.ofList (wholeText number.num.toNat))
  | .decimal decimalPlaces =>
    if 100 < decimalPlaces then .error .rangeError
    else if number < 10 ^ 21 then
      .ok (String.ofList
        (fixedText decimalPlaces (nearestUp (number * 10 ^ decimalPlaces)).toNat))
    else .ok (String.ofList (wholeText number.num.toNat))

def persisted (schema : SettingSchema) (raw : String) : Except SettingError (Option String) := do
  match ← validate schema raw with
  | none => return none
  | some number => return some (← persistedValue schema.kind number)

/-- What the statements of `setOperatorSetting` are given. -/
def SettingTable.schemas (table : SettingTable) : SettingSchemas := fun key =>
  (table.schema? key).map fun schema raw =>
    match persisted schema raw with
    | .ok text => text
    | .error _ => none

/-- `setOperatorSetting` over a table of schemas.  A pattern is refused before the connection is
opened, and places are refused once the row is locked. -/
def SettingTable.setOperatorSetting (table : SettingTable) (session : Nat) (key value : String)
    (seen : SeenSetting) : SettingsProgram :=
  match (table.schema? key).map fun schema => persisted schema value with
  | some (.error .rangeError) =>
    .reading () thrown fun _ _ => lockPrior key fun _ => .rollback thrown
  | some (.error _) => thrown
  | _ => Admin.setOperatorSetting table.schemas session key value seen

section Writer

variable {db after : SettingsDb} {session updatedAt : Nat} {key value : String}
  {seen : SeenSetting} {answer : Unit}

theorem stored_of_accepted {schemas : SettingSchemas}
    (accepted : (setOperatorSetting schemas session key value seen).alone settingsStore answer db
      [] = (after, some (.ok updatedAt))) :
    ∃ validate text row, schemas key = some validate ∧ validate value = some text ∧
      after.row? key = some row ∧ row.value = text := by
  rw [setOperatorSetting] at accepted
  cases known : schemas key with
  | none =>
    rw [known] at accepted
    cases accepted
  | some validate =>
    simp only [known] at accepted
    cases valid : validate value with
    | none =>
      rw [valid] at accepted
      cases accepted
    | some text =>
      refine ⟨validate, text, ?_⟩
      simp only [valid, Program.reading, lockPrior, Program.alone, Store.applyAll_nil,
        List.append_nil] at accepted
      cases found : db.row? key with
      | none =>
        simp only [found] at accepted
        split at accepted
        · cases accepted
        · simp only [Program.writing, Program.alone, Store.applyAll_nil, List.nil_append, found,
            Option.isSome_none, Bool.false_eq_true, if_false] at accepted
          cases accepted
          let new : SettingRow := ⟨key, text, db.clock, session, session⟩
          have stored : get SettingRow.key ((Change.insert new).apply SettingRow.key db.rows)
            new.key = some new := get_insert_self new found
          exact ⟨new, rfl, valid, stored, rfl⟩
      | some row =>
        simp only [found, Program.acquiring, Program.alone, Store.applyAll_nil, List.append_nil,
          Option.filter_some, decide_true, if_true] at accepted
        split at accepted
        · cases accepted
        · split at accepted
          · cases accepted
          · simp only [Program.writing, Program.alone, List.nil_append] at accepted
            cases accepted
            obtain rfl : row.key = key := key_of_get found
            let new : SettingRow :=
              { row with value := text, updatedAt := db.clock, version := session }
            have stored : get SettingRow.key ((Change.replace new).apply SettingRow.key db.rows)
              new.key = some new := get_replace_self new found
            exact ⟨new, rfl, valid, stored, rfl⟩

end Writer

section ReadBack

variable {schema : SettingSchema} {raw : String} {number : Rat}

theorem valid_int (kind : schema.kind = .int) (valid : schema.valid? raw = some number) :
    number.den = 1 ∧ schema.admits number = true ∧ 0 ≤ number ∧ toDouble number = number := by
  simp only [SettingSchema.valid?, validate, kind, validateInt] at valid
  split at valid
  · rcases Option.filter_eq_some_iff.mp valid with ⟨read, checks⟩
    rw [Bool.and_eq_true, decide_eq_true_eq] at checks
    rw [number?] at read
    split at read
    · cases read
      exact ⟨checks.1, checks.2, toDouble_decimal (by decide) _⟩
    · cases read
  · cases valid

theorem decimalParts_short {places : Nat} {text whole fraction : List Char}
    (parts : decimalParts places text = some (whole, fraction)) : fraction.length ≤ places := by
  simp only [decimalParts] at parts
  split at parts
  · split at parts
    · cases parts
      exact Nat.zero_le _
    · split at parts
      · next checks =>
        cases parts
        exact checks.2.2.2
      · cases parts
  · cases parts

theorem valid_decimal {places : Nat} (kind : schema.kind = .decimal places)
    (valid : schema.valid? raw = some number) : 0 < places ∧ schema.admits number = true ∧
      ∃ numerator : Nat, number = toDouble ((numerator : Rat) / 10 ^ places) := by
  simp only [SettingSchema.valid?, validate, kind, validateDecimal] at valid
  split at valid
  · next found accepted =>
    split at accepted
    · cases accepted
    · next some_places =>
      cases accepted
      rcases Option.filter_eq_some_iff.mp valid with ⟨read, admits⟩
      rcases Option.bind_eq_some_iff.mp read with ⟨⟨whole, fraction⟩, parts, value⟩
      refine ⟨Nat.pos_of_ne_zero some_places, admits, ?_⟩
      have short : fraction.length ≤ places := decimalParts_short parts
      refine ⟨Nat.ofDigitChars 10 (whole ++ fraction) 0 * 10 ^ (places - fraction.length), ?_⟩
      rw [number?] at value
      split at value
      · cases value
        have split : (10 : Rat) ^ places =
            10 ^ (places - fraction.length) * 10 ^ fraction.length := by
          rw [← pow_add, Nat.sub_add_cancel short]
        rw [valueOf, split]
        push_cast
        rw [mul_comm, mul_div_mul_left _ _ (by positivity)]
      · cases value
  · cases valid

theorem decimalParts_fixedText {places : Nat} (some_places : 0 < places) (multiple : Nat) :
    decimalParts places (fixedText places multiple) =
      some (Nat.toDigits 10 (multiple / 10 ^ places),
        zeroPadded places (multiple % 10 ^ places)) := by
  have less : multiple % 10 ^ places < 10 ^ places := Nat.mod_lt _ (by positivity)
  have length := length_zeroPadded some_places less
  have digits : ∀ char, char ∈ Nat.toDigits 10 (multiple / 10 ^ places) ->
      char.isDigit = true := fun char => isDigit_of_mem_toDigits
  have nonempty : zeroPadded places (multiple % 10 ^ places) ≠ [] := by
    intro none
    rw [none] at length
    exact some_places.ne length
  have after : (zeroPadded places (multiple % 10 ^ places)).all Char.isDigit = true :=
    List.all_eq_true.mpr fun _ listed => isDigit_of_mem_zeroPadded listed
  have leading : Nat.toDigits 10 (multiple / 10 ^ places) = ['0'] ∨
      Nat.toDigits 10 (multiple / 10 ^ places) ≠ [] ∧
        (Nat.toDigits 10 (multiple / 10 ^ places)).head? ≠ some '0' :=
    (toDigits_head _).imp_right fun head => ⟨Nat.toDigits_ne_nil, head⟩
  have before : ('.' :: zeroPadded places (multiple % 10 ^ places)).takeWhile Char.isDigit = [] :=
    rfl
  have whole : (fixedText places multiple).takeWhile Char.isDigit =
      Nat.toDigits 10 (multiple / 10 ^ places) := by
    rw [fixedText, if_neg some_places.ne', List.takeWhile_append_of_pos digits, before,
      List.append_nil]
  have rest : (fixedText places multiple).dropWhile Char.isDigit =
      '.' :: zeroPadded places (multiple % 10 ^ places) := by
    rw [fixedText, if_neg some_places.ne', List.dropWhile_append_of_pos digits]
    rfl
  simp only [decimalParts, whole, if_pos leading, rest]
  exact if_pos ⟨trivial, after, nonempty, length.le⟩

theorem valid_of_persisted {text : String} (valid : schema.valid? raw = some number)
    (small : number < 10 ^ 21) (unskewed : ∀ places power, schema.kind = .decimal places ->
      skewedPower places = some power -> number ≠ 1 / 2 ^ power)
    (stored : persistedValue schema.kind number = .ok text) : schema.valid? text = some number := by
  cases kind : schema.kind with
  | int =>
    rcases valid_int kind valid with ⟨whole, admits, nonneg, double⟩
    have natural : ((number.num.toNat : Nat) : Rat) = number := by
      have integer : ((number.num.toNat : Nat) : Int) = number.num :=
        Int.toNat_of_nonneg (Rat.num_nonneg.mpr nonneg)
      rw [← Int.cast_natCast, integer]
      exact Rat.den_eq_one_iff number |>.mp whole
    rw [kind] at stored
    cases stored
    have less : number.num.toNat < 10 ^ 21 := by
      rw [← natural] at small
      exact_mod_cast small
    have read := number?_wholeText less (by rw [natural, double])
    rw [natural] at read
    have digits : wholeText number.num.toNat ≠ [] ∧
        (wholeText number.num.toNat).all Char.isDigit = true := by
      rw [wholeText_of_lt less]
      exact ⟨Nat.toDigits_ne_nil,
        List.all_eq_true.mpr fun _ listed => isDigit_of_mem_toDigits listed⟩
    simp only [SettingSchema.valid?, validate, kind, validateInt, String.toList_ofList,
      if_pos digits, read, Option.filter_some, whole, admits, decide_true, Bool.and_self, if_true]
  | decimal places =>
    rcases valid_decimal kind valid with ⟨some_places, admits, numerator, same⟩
    rw [kind, persistedValue] at stored
    split at stored
    · cases stored
    · next few =>
      cases stored
      have read := number?_fixed (Nat.not_lt.mp few) (same ▸ small)
        (fun power skewed => same ▸ unskewed places power kind skewed)
      rw [← same] at read
      simp only [SettingSchema.valid?, validate, kind, validateDecimal, some_places.ne', if_false,
        String.toList_ofList, decimalParts_fixedText some_places, Option.bind_some,
        valueOf_fixed some_places, read, Option.filter_some, admits, if_true]

end ReadBack

/-! ## All readers -/

/-- Whoever reads a setting gets this value and source. -/
structure ResolvesTo (table : SettingTable) (key : String) (schema : SettingSchema)
    (read : SettingsRead) (env : Environment) (outcome : Rat × SettingSource) : Prop where
  single : ∃ setting, resolveOperatorSetting key schema read env = .ok setting ∧
    setting.outcome = outcome
  probe : ∀ name, schema.scope = .probe name -> ∃ entries setting,
    resolveOperatorSettingsForProbe table name read env = .ok entries ∧
      get Prod.fst entries key = some setting ∧ setting.2.outcome = outcome
  channel : ∀ name, schema.scope = .channel name -> ∃ entries setting,
    resolveChannelSettings table name read env = .ok entries ∧
      get Prod.fst entries key = some setting ∧ setting.2.outcome = outcome
  scriptProbe : ∀ name, schema.scope = .probe name -> ∃ entries setting,
    Scripts.resolveOperatorSettingsForProbe table name read env = .ok entries ∧
      get Prod.fst entries key = some setting ∧
      (setting.2.value, setting.2.source) = outcome
  scriptChannel : ∀ name, schema.scope = .channel name -> ∃ entries setting,
    Scripts.resolveChannelSettings table name read env = .ok entries ∧
      get Prod.fst entries key = some setting ∧
      (setting.2.value, setting.2.source) = outcome
  admin : ∀ db, read = .rows db -> ∃ settings setting,
    listOperatorSettingsForAdmin table read env = .ok (.keys settings) ∧
      get Prod.fst settings key = some setting ∧ setting.2.1.outcome = outcome

section Resolves

variable {table : SettingTable} {key : String} {schema : SettingSchema}

theorem SettingTable.listed (known : table.schema? key = some schema) :
    (key, schema) ∈ table.entries := by
  rcases Option.map_eq_some_iff.mp known with ⟨entry, found, rfl⟩
  have keyed : entry.1 = key := key_of_get found
  rw [← keyed]
  exact mem_of_get found

theorem resolvesTo_cascade (wellFormed : table.WellFormed)
    (known : table.schema? key = some schema) (read : SettingsRead) (env : Environment) :
    ResolvesTo table key schema read env (cascade schema (read.raw key) (rawEnvOf env schema)) := by
  have listed := SettingTable.listed known
  have taken : ∀ scope, schema.scope = scope -> ∃ entries setting,
      snapshot table scope read env = .ok entries ∧ get Prod.fst entries key = some setting ∧
        setting.2.outcome = cascade schema (read.raw key) (rawEnvOf env schema) := by
    intro scope inScope
    rcases snapshot_outcome wellFormed scope read env with ⟨entries, done, each⟩
    rcases each key schema listed inScope with ⟨setting, found, outcome⟩
    exact ⟨entries, setting, done, found, outcome⟩
  have scripts : ∀ scope, schema.scope = scope -> ∃ entries setting,
      (snapshot table scope read env).map (fun entries => entries.map Scripts.scriptSetting) =
        .ok entries ∧ get Prod.fst entries key = some setting ∧
        (setting.2.value, setting.2.source) =
          cascade schema (read.raw key) (rawEnvOf env schema) := by
    intro scope inScope
    rcases taken scope inScope with ⟨entries, setting, done, found, outcome⟩
    refine ⟨entries.map Scripts.scriptSetting, Scripts.scriptSetting setting, ?_, ?_, outcome⟩
    · rw [done]
      rfl
    · rw [get_scriptSetting, found]
      rfl
  exact {
    single := resolveOperatorSetting_outcome (wellFormed _ listed) key read env
    probe := fun name => taken (.probe name)
    channel := fun name => taken (.channel name)
    scriptProbe := fun name => scripts (.probe name)
    scriptChannel := fun name => scripts (.channel name)
    admin := by
      rintro db rfl
      rcases listOperatorSettingsForAdmin_outcome wellFormed db env with ⟨settings, shown, each⟩
      rcases each key schema listed with ⟨setting, found, outcome⟩
      exact ⟨settings, setting, shown, found, outcome⟩ }

theorem persisted_eq (wellFormed : schema.WellFormed) (raw : String) :
    persisted schema raw = match schema.valid? raw with
      | none => .ok none
      | some number => (persistedValue schema.kind number).map some := by
  rw [persisted, validate_eq wellFormed]
  cases schema.valid? raw with
  | none => rfl
  | some number =>
    simp only [bind, Except.bind]
    cases persistedValue schema.kind number <;> rfl

theorem not_accepted_of_error (known : table.schema? key = some schema) {db after : SettingsDb}
    {session updatedAt : Nat} {value : String} {seen : SeenSetting} {answer : Unit}
    {error : SettingError} (failed : persisted schema value = .error error) :
    (table.setOperatorSetting session key value seen).alone settingsStore answer db [] ≠
      (after, some (.ok updatedAt)) := by
  intro accepted
  rw [SettingTable.setOperatorSetting, known, Option.map_some, failed] at accepted
  cases error with
  | rangeError =>
    simp only [Program.reading, lockPrior, Program.alone] at accepted
    cases found : db.row? key with
    | none =>
      rw [found] at accepted
      cases accepted
    | some row =>
      rw [found] at accepted
      cases accepted
  | syntaxError => cases accepted
  | database => cases accepted

theorem raw_of_accepted (known : table.schema? key = some schema) {db after : SettingsDb}
    {session updatedAt : Nat} {value : String} {seen : SeenSetting} {answer : Unit}
    (accepted : (table.setOperatorSetting session key value seen).alone settingsStore answer db
      [] = (after, some (.ok updatedAt))) : ∃ text, persisted schema value = .ok (some text) ∧
      (SettingsRead.rows after).raw key = some text := by
  cases made : persisted schema value with
  | error error => exact absurd accepted (not_accepted_of_error known made)
  | ok stored =>
    rw [SettingTable.setOperatorSetting, known, Option.map_some, made] at accepted
    rcases stored_of_accepted accepted with ⟨validate, text, row, given, valid, found, same⟩
    rw [SettingTable.schemas, known] at given
    cases given
    simp only [made] at valid
    refine ⟨text, congrArg Except.ok valid, ?_⟩
    rw [SettingsRead.raw, found, ← same]
    rfl

theorem persisted_of_accepted (wellFormed : table.WellFormed)
    (known : table.schema? key = some schema) {db after : SettingsDb} {session updatedAt : Nat}
    {value : String} {seen : SeenSetting} {answer : Unit}
    (accepted : (table.setOperatorSetting session key value seen).alone settingsStore answer db
      [] = (after, some (.ok updatedAt))) : ∃ number text, schema.valid? value = some number ∧
      persistedValue schema.kind number = .ok text ∧
      (SettingsRead.rows after).raw key = some text := by
  rcases raw_of_accepted known accepted with ⟨text, made, read⟩
  rw [persisted_eq (wellFormed _ (SettingTable.listed known))] at made
  cases valid : schema.valid? value with
  | none =>
    rw [valid] at made
    cases made
  | some number =>
    simp only [valid] at made
    cases stored : persistedValue schema.kind number with
    | error error =>
      rw [stored] at made
      cases made
    | ok kept =>
      rw [stored] at made
      cases made
      exact ⟨number, text, rfl, stored, read⟩

theorem resolvesTo_of_accepted (wellFormed : table.WellFormed)
    (known : table.schema? key = some schema) {db after : SettingsDb} {session updatedAt : Nat}
    {value : String} {seen : SeenSetting} {answer : Unit}
    (accepted : (table.setOperatorSetting session key value seen).alone settingsStore answer db
      [] = (after, some (.ok updatedAt))) : ∃ number, schema.valid? value = some number ∧
      (number < 10 ^ 21 -> (∀ places power, schema.kind = .decimal places ->
          skewedPower places = some power -> number ≠ 1 / 2 ^ power) ->
        ∀ env, ResolvesTo table key schema (.rows after) env (number, .db)) := by
  rcases persisted_of_accepted wellFormed known accepted with
    ⟨number, text, valid, stored, read⟩
  refine ⟨number, valid, fun small unskewed env => ?_⟩
  have resolved := resolvesTo_cascade wellFormed known (.rows after) env
  rw [cascade, read, Option.bind_some, valid_of_persisted valid small unskewed stored] at resolved
  exact resolved

end Resolves

theorem settingSchema_wellFormed : settingSchema.WellFormed := by
  unfold SettingTable.WellFormed SettingSchema.WellFormed
  decide +kernel

theorem settingSchema_defaults : ∀ entry, entry ∈ settingSchema.entries ->
    entry.2.admits entry.2.default = true := by
  decide +kernel

/-- The readers of a setting agree on a value within its bounds or the default, and on what the
writer accepted, unless that is written with an exponent or is a skewed power. -/
theorem settings_resolve_alike (table : SettingTable) (wellFormed : table.WellFormed)
    (key : String) (schema : SettingSchema) (known : table.schema? key = some schema) :
    (∀ read env, ∃ outcome, ResolvesTo table key schema read env outcome ∧
      (schema.min ≤ outcome.1 ∧ outcome.1 ≤ schema.max ∨ outcome = (schema.default, .default))) ∧
    ∀ (db after : SettingsDb) (session updatedAt : Nat) (value : String)
      (seen : SeenSetting) (answer : Unit),
      (table.setOperatorSetting session key value seen).alone settingsStore answer db [] =
        (after, some (.ok updatedAt)) -> ∃ number, schema.valid? value = some number ∧
        (number < 10 ^ 21 -> (∀ places power, schema.kind = .decimal places ->
            skewedPower places = some power -> number ≠ 1 / 2 ^ power) ->
          ∀ env, ResolvesTo table key schema (.rows after) env (number, .db)) := by
  constructor
  · exact fun read env => ⟨_, resolvesTo_cascade wellFormed known read env,
      cascade_bounds schema _ _⟩
  · exact fun db after session updatedAt value seen answer accepted =>
      resolvesTo_of_accepted wellFormed known accepted

theorem settings_resolve_alike_ratio : ∃ after,
      (settingSchema.setOperatorSetting 0 "WEBHOOK_FLOW_TERMINATED_RATIO" "0.45"
        ⟨none, none⟩).alone settingsStore () ⟨0, [], [], []⟩ [] = (after, some (.ok 0)) ∧
      ∀ env, ResolvesTo settingSchema "WEBHOOK_FLOW_TERMINATED_RATIO" terminatedRatio
        (.rows after) env (toDouble (45 / 100), .db) := by
  refine ⟨_, Prod.ext rfl (by decide +kernel), fun env => ?_⟩
  rcases (settings_resolve_alike settingSchema settingSchema_wellFormed
    "WEBHOOK_FLOW_TERMINATED_RATIO" terminatedRatio rfl).2 ⟨0, [], [], []⟩ _ 0 0 "0.45"
      ⟨none, none⟩ () (Prod.ext rfl (by decide +kernel)) with ⟨number, valid, resolves⟩
  have same : terminatedRatio.valid? "0.45" = some (toDouble (45 / 100)) := by decide +kernel
  cases valid.symm.trans same
  exact resolves (by decide +kernel) (fun places power kind skewed => by cases kind; cases skewed)
    env

def oneSetting (schema : SettingSchema) : SettingTable where
  entries := [("SETTING", schema)]
  unique := List.nodup_singleton _

def ReadsBack (schema : SettingSchema) (value : String) : Prop :=
  ∀ (db after : SettingsDb) (session updatedAt : Nat) (seen : SeenSetting) (answer : Unit),
    ((oneSetting schema).setOperatorSetting session "SETTING" value seen).alone settingsStore
      answer db [] = (after, some (.ok updatedAt)) ->
    ∃ number, schema.valid? value = some number ∧
      ∀ env, ResolvesTo (oneSetting schema) "SETTING" schema (.rows after) env (number, .db)

def setFirst (schema : SettingSchema) (value : String) : SettingsDb × Option WriteResult :=
  ((oneSetting schema).setOperatorSetting 0 "SETTING" value ⟨none, none⟩).alone settingsStore ()
    ⟨0, [], [], []⟩ []

def resolvedFirst (schema : SettingSchema) (value : String) : Option (Rat × SettingSource) :=
  match resolveOperatorSetting "SETTING" schema (.rows (setFirst schema value).1)
    fun _ => none with
  | .ok setting => some setting.outcome
  | .error _ => none

theorem not_readsBack {schema : SettingSchema} {value : String}
    (accepted : (setFirst schema value).2 = some (.ok 0)) (other : resolvedFirst schema value ≠
      (schema.valid? value).map fun number => (number, SettingSource.db)) :
    ¬ ReadsBack schema value := by
  intro reads
  rcases reads ⟨0, [], [], []⟩ (setFirst schema value).1 0 0 ⟨none, none⟩ ()
    (Prod.ext rfl accepted) with ⟨number, valid, resolves⟩
  rcases (resolves fun _ => none).single with ⟨setting, resolved, outcome⟩
  refine other ?_
  rw [resolvedFirst, resolved, valid]
  exact congrArg some outcome

def noPlaces : SettingSchema :=
  ⟨.decimal 0, 5, 1, 10, "SETTING", .probe .authFlow⟩

/-- It can be as large as a number that is written with an exponent. -/
def wide : SettingSchema :=
  ⟨.int, 0, 0, 10 ^ 22, "SETTING", .probe .authFlow⟩

def finePlaces (places : Nat) : SettingSchema :=
  ⟨.decimal places, 1, 0, 1, "SETTING", .probe .authFlow⟩

/-- Readers disagree over a pattern that is ill formed, and a number is not read back if it is
stored with an exponent or is a skewed power. -/
theorem settings_not_alike : (¬ ∀ (table : SettingTable) (key : String) (schema : SettingSchema),
      table.schema? key = some schema -> ∀ read env, ∃ outcome,
        ResolvesTo table key schema read env outcome) ∧ ¬ ReadsBack wide "1000000000000000000000" ∧
    ¬ ReadsBack (finePlaces 29) "0.00000000000005684341886080802" ∧
    ¬ ReadsBack (finePlaces 39) "0.000000000000000000000006617444900424222" ∧
    ¬ ReadsBack (finePlaces 45) "0.000000000000000000000000000006310887241768095" ∧
    ¬ ReadsBack (finePlaces 58) "0.0000000000000000000000000000000000000000007174648137343064" := by
  refine ⟨fun all => ?_, not_readsBack (by decide +kernel) (by decide +kernel),
    not_readsBack (by decide +kernel) (by decide +kernel),
    not_readsBack (by decide +kernel) (by decide +kernel),
    not_readsBack (by decide +kernel) (by decide +kernel),
    not_readsBack (by decide +kernel) (by decide +kernel)⟩
  rcases all (oneSetting noPlaces) "SETTING" noPlaces rfl
    (.rows ⟨0, [⟨"SETTING", "7", 0, 0, 0⟩], [], []⟩) (fun _ => none) with ⟨outcome, resolves⟩
  rcases resolves.probe .authFlow rfl with ⟨entries, setting, done, -⟩
  cases done

end Admin

end LevelChannel
