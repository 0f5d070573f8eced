import LevelChannel.Numbers.Rendering

namespace Numbers

/-!
# JSON values in a program

A column of JSON keeps its numbers as decimals of any length.  A program reads them as numbers of
double precision, and writes the shortest decimals that are read as these.  It also has values
that cannot be written: members that are undefined are left out, and numbers that are not finite
become null.

The members of an object stand in the order in which the column keeps them, whatever the order of
a program.  A number of a program stands for the decimal that it is written as.
-/

/-- The multiple of a power of ten that is read back as the number, the nearest one. -/
def decimalAt (double : Rat) (exponent : Int) : Option Rat :=
  let unit : Rat := 10 ^ exponent
  let less := ⌊double / unit⌋
  let rest := double / unit - less
  let nearer :=
    if rest < 1 / 2 ∨ rest = 1 / 2 ∧ less % 2 = 0 then [less, less + 1] else [less + 1, less]
  (nearer.map fun (multiple : Int) => multiple * unit).find? fun decimal =>
    toDouble decimal = double

/-- The multiple of the largest power of ten, from the given one down. -/
def decimalFrom (double : Rat) (exponent : Int) : Nat -> Rat
  | 0 => double
  | steps + 1 => (decimalAt double exponent).getD (decimalFrom double (exponent - 1) steps)

/-- What is written of a number of double precision that is not negative. -/
def shortestDecimal (double : Rat) : Rat :=
  decimalFrom double 308 633

/-- What is written of what is read of a decimal; none stands for an infinite number. -/
def rewritten (decimal : Rat) : Option Rat :=
  (number? |decimal|).map fun double =>
    if decimal < 0 then -shortestDecimal double else shortestDecimal double

inductive Json where
  | null
  | bool (value : Bool)
  | number (value : Rat)
  | text (value : String)
  | array (entries : List Json)
  | object (members : List (String × Json))

inductive JsValue where
  | undefined
  | null
  | bool (value : Bool)
  | number (value : Rat)
  | infinity (positive : Bool)
  | nan
  | text (value : String)
  | array (entries : List JsValue)
  | object (members : List (String × JsValue))

def JsValue.truthy : JsValue -> Bool
  | undefined => false
  | null => false
  | bool value => value
  | number value => value ≠ 0
  | infinity _ => true
  | nan => false
  | text value => value ≠ ""
  | array _ => true
  | object _ => true

mutual

/-- `JSON.parse` -/
def parse : Json -> JsValue
  | .null => .null
  | .bool value => .bool value
  | .number value => (rewritten value).elim (.infinity (0 < value)) .number
  | .text value => .text value
  | .array entries => .array (parseEntries entries)
  | .object members => .object (parseMembers members)

def parseEntries : List Json -> List JsValue
  | [] => []
  | entry :: entries => parse entry :: parseEntries entries

def parseMembers : List (String × Json) -> List (String × JsValue)
  | [] => []
  | (key, value) :: members => (key, parse value) :: parseMembers members

end

mutual

/-- `JSON.stringify`, of a value that is not undefined. -/
def stringify : JsValue -> Json
  | .undefined => .null
  | .null => .null
  | .bool value => .bool value
  | .number value => .number value
  | .infinity _ => .null
  | .nan => .null
  | .text value => .text value
  | .array entries => .array (stringifyEntries entries)
  | .object members => .object (stringifyMembers members)

def stringifyEntries : List JsValue -> List Json
  | [] => []
  | entry :: entries => stringify entry :: stringifyEntries entries

def stringifyMembers : List (String × JsValue) -> List (String × Json)
  | [] => []
  | (_, .undefined) :: members => stringifyMembers members
  | (key, value) :: members => (key, stringify value) :: stringifyMembers members

end

inductive Json.Exact : Json -> Prop
  | null : Exact .null
  | bool (value : Bool) : Exact (.bool value)
  | number {value : Rat} (kept : rewritten value = some value) : Exact (.number value)
  | text (value : String) : Exact (.text value)
  | array {entries : List Json} (each : ∀ entry, entry ∈ entries -> Exact entry) :
      Exact (.array entries)
  | object {members : List (String × Json)}
      (each : ∀ member, member ∈ members -> Exact member.2) : Exact (.object members)

inductive JsValue.Plain : JsValue -> Prop
  | null : Plain .null
  | bool (value : Bool) : Plain (.bool value)
  | number {value : Rat} (kept : rewritten value = some value) : Plain (.number value)
  | text (value : String) : Plain (.text value)
  | array {entries : List JsValue} (each : ∀ entry, entry ∈ entries -> Plain entry) :
      Plain (.array entries)
  | object {members : List (String × JsValue)}
      (each : ∀ member, member ∈ members -> Plain member.2) : Plain (.object members)

theorem parse_ne_undefined (json : Json) : parse json ≠ .undefined := by
  cases json with
  | number value =>
    rw [parse]
    cases rewritten value <;> simp
  | _ => simp [parse]

theorem stringifyMembers_cons {value : JsValue} (defined : value ≠ .undefined) (key : String)
    (members : List (String × JsValue)) : stringifyMembers ((key, value) :: members) =
      (key, stringify value) :: stringifyMembers members := by
  cases value with
  | undefined => exact absurd rfl defined
  | _ => rfl

mutual

theorem stringify_parse_iff : ∀ json, stringify (parse json) = json <-> json.Exact
  | .null => iff_of_true rfl .null
  | .bool value => iff_of_true rfl (.bool value)
  | .number value => by
    rw [parse]
    constructor
    · intro same
      cases read : rewritten value with
      | none =>
        rw [read] at same
        cases same
      | some number =>
        rw [read] at same
        cases same
        exact .number read
    · rintro (_ | _ | kept)
      rw [kept]
      rfl
  | .text value => iff_of_true rfl (.text value)
  | .array entries => by
    have each := stringifyEntries_parse_iff entries
    rw [parse, stringify, Json.array.injEq, each]
    exact ⟨.array, fun | .array each => each⟩
  | .object members => by
    have each := stringifyMembers_parse_iff members
    rw [parse, stringify, Json.object.injEq, each]
    exact ⟨.object, fun | .object each => each⟩

theorem stringifyEntries_parse_iff : ∀ entries : List Json,
    stringifyEntries (parseEntries entries) = entries <-> ∀ entry, entry ∈ entries -> entry.Exact
  | [] => iff_of_true rfl fun _ member => absurd member List.not_mem_nil
  | entry :: entries => by
    rw [parseEntries, stringifyEntries, List.cons.injEq, stringify_parse_iff entry,
      stringifyEntries_parse_iff entries, List.forall_mem_cons]

theorem stringifyMembers_parse_iff : ∀ members : List (String × Json),
    stringifyMembers (parseMembers members) = members <->
      ∀ member, member ∈ members -> member.2.Exact
  | [] => iff_of_true rfl fun _ member => absurd member List.not_mem_nil
  | (key, value) :: members => by
    rw [parseMembers, stringifyMembers_cons (parse_ne_undefined value), List.cons.injEq,
      Prod.mk.injEq, stringify_parse_iff value, stringifyMembers_parse_iff members,
      List.forall_mem_cons]
    exact and_congr_left' (and_iff_right rfl)

end

theorem length_parseMembers : ∀ members : List (String × Json),
    (parseMembers members).length = members.length
  | [] => rfl
  | (_, _) :: members => congrArg Nat.succ (length_parseMembers members)

theorem length_stringifyMembers_le (members : List (String × JsValue)) :
    (stringifyMembers members).length ≤ members.length := by
  induction members with
  | nil => exact Nat.le_refl _
  | cons member members less =>
    rcases member with ⟨key, value⟩
    cases value with
    | undefined => exact less.trans (Nat.le_succ _)
    | _ => exact Nat.succ_le_succ less

mutual

theorem parse_stringify_iff : ∀ value, parse (stringify value) = value <-> value.Plain
  | .undefined => iff_of_false (by simp [stringify, parse]) (by rintro ⟨⟩)
  | .null => iff_of_true rfl .null
  | .bool value => iff_of_true rfl (.bool value)
  | .number value => by
    rw [stringify, parse]
    constructor
    · intro same
      cases read : rewritten value with
      | none =>
        rw [read] at same
        cases same
      | some number =>
        rw [read] at same
        cases same
        exact .number read
    · rintro (_ | _ | kept)
      rw [kept]
      rfl
  | .infinity positive => iff_of_false (by simp [stringify, parse]) (by rintro ⟨⟩)
  | .nan => iff_of_false (by simp [stringify, parse]) (by rintro ⟨⟩)
  | .text value => iff_of_true rfl (.text value)
  | .array entries => by
    have each := parseEntries_stringify_iff entries
    rw [stringify, parse, JsValue.array.injEq, each]
    exact ⟨.array, fun | .array each => each⟩
  | .object members => by
    have each := parseMembers_stringify_iff members
    rw [stringify, parse, JsValue.object.injEq, each]
    exact ⟨.object, fun | .object each => each⟩

theorem parseEntries_stringify_iff : ∀ entries : List JsValue,
    parseEntries (stringifyEntries entries) = entries <-> ∀ entry, entry ∈ entries -> entry.Plain
  | [] => iff_of_true rfl fun _ member => absurd member List.not_mem_nil
  | entry :: entries => by
    rw [stringifyEntries, parseEntries, List.cons.injEq, parse_stringify_iff entry,
      parseEntries_stringify_iff entries, List.forall_mem_cons]

theorem parseMembers_stringify_iff : ∀ members : List (String × JsValue),
    parseMembers (stringifyMembers members) = members <->
      ∀ member, member ∈ members -> member.2.Plain
  | [] => iff_of_true rfl fun _ member => absurd member List.not_mem_nil
  | (key, value) :: members => by
    have this := parse_stringify_iff value
    have rest := parseMembers_stringify_iff members
    by_cases defined : value = .undefined
    · subst defined
      refine iff_of_false (fun same => ?_) fun each => ?_
      · have short := congrArg List.length same
        have less := length_stringifyMembers_le members
        rw [length_parseMembers, stringifyMembers, List.length_cons] at short
        omega
      · cases each _ List.mem_cons_self
    · rw [stringifyMembers_cons defined, parseMembers, List.cons.injEq, Prod.mk.injEq, this, rest,
        List.forall_mem_cons]
      exact and_congr_left' (and_iff_right rfl)

end

end Numbers
