import Mathlib.Data.Nat.Digits.Lemmas
import Mathlib.Data.String.Basic

namespace LevelChannel

/-!
# Event ids made from lesson ids

A lesson is pushed to a calendar under an id that is computed from its own, so that a second push
finds the event of the first.  The sixteen bytes of the id are written five bits at a time.  The
accumulator is a number of 32 bits that is shifted by eight with each byte: what runs out at its
upper end has long been written.
-/

namespace EventIds

/-! ## The encoder -/

def EVENT_ID_PREFIX : List Char :=
  "lc".toList

def BASE32HEX : List Char :=
  "0123456789abcdefghijklmnopqrstuv".toList

/-- `BASE32HEX[index & 0x1f]` -/
def base32Hex (index : BitVec 32) : Char :=
  BASE32HEX.get ⟨(index &&& 0x1f).toNat, Nat.lt_of_le_of_lt
    (by rw [BitVec.toNat_and]; exact Nat.and_le_right) (by decide : 0x1f < BASE32HEX.length)⟩

structure Encoder where
  bits : Nat
  value : BitVec 32
  out : List Char
  deriving DecidableEq

/-- `while (bits >= 5) ..`: the bits that are left, and the text. -/
def emit (value : BitVec 32) : Nat -> List Char -> Nat × List Char
  | bits + 5, out => emit value bits (out ++ [base32Hex (value >>> bits)])
  | bits, out => (bits, out)

/-- `(value << 8) | bytes[i]` -/
def shiftIn (value : BitVec 32) (byte : BitVec 8) : BitVec 32 :=
  value <<< 8 ||| byte.setWidth 32

def Encoder.take (state : Encoder) (byte : BitVec 8) : Encoder :=
  let value := shiftIn state.value byte
  let (bits, out) := emit value (state.bits + 8) state.out
  ⟨bits, value, out⟩

def encoder (bytes : List (BitVec 8)) : Encoder :=
  bytes.foldl Encoder.take ⟨0, 0, []⟩

def Encoder.text (state : Encoder) : List Char :=
  if 0 < state.bits then state.out ++ [base32Hex (state.value <<< (5 - state.bits))]
  else state.out

/-- `[0-9a-f]` -/
def isHexDigit (c : Char) : Bool :=
  '0' ≤ c && c ≤ '9' || 'a' ≤ c && c ≤ 'f'

def hexValue (c : Char) : Nat :=
  if c ≤ '9' then c.toNat - 48 else c.toNat - 87

/-- The text without its hyphens, in small letters.  No letter outside the Latin ones has a
hexadecimal digit as its small letter. -/
def hexOf (uuid : List Char) : List Char :=
  (uuid.filter (· ≠ '-')).map Char.toLower

/-- `parseInt(hex.slice(i * 2, i * 2 + 2), 16)` -/
def bytesOf : List Char -> List (BitVec 8)
  | high :: low :: rest => BitVec.ofNat 8 (16 * hexValue high + hexValue low) :: bytesOf rest
  | _ => []

def uuidToBase32 (uuid : String) : Option (List Char) :=
  let hex := hexOf uuid.toList
  if hex.length = 32 ∧ hex.all isHexDigit then some (encoder (bytesOf hex)).text else none

def deterministicEventId (slotId : String) : Option String :=
  (uuidToBase32 slotId).map fun text => String.ofList (EVENT_ID_PREFIX ++ text)

def number (base : Nat) (digits : List Nat) : Nat :=
  Nat.ofDigits base digits.reverse

theorem number_concat (base : Nat) (digits : List Nat) (digit : Nat) :
    number base (digits ++ [digit]) = base * number base digits + digit := by
  rw [number, List.reverse_append, List.reverse_singleton, List.singleton_append,
    Nat.ofDigits_cons, number]
  exact Nat.add_comm _ _

theorem number_injective {base : Nat} (base_gt : 1 < base) {digits others : List Nat}
    (length_eq : digits.length = others.length)
    (digits_lt : ∀ digit, digit ∈ digits -> digit < base)
    (others_lt : ∀ digit, digit ∈ others -> digit < base)
    (same : number base digits = number base others) : digits = others := by
  refine List.reverse_injective (Nat.ofDigits_inj_of_len_eq base_gt ?_ ?_ ?_ same)
  · simpa using length_eq
  · intro digit member
    exact digits_lt digit (List.mem_reverse.mp member)
  · intro digit member
    exact others_lt digit (List.mem_reverse.mp member)

/-! ## What the encoder has read and written -/

def digitChar (digit : Nat) : Char :=
  BASE32HEX.getD digit '0'

theorem base32Hex_eq (index : BitVec 32) : base32Hex index = digitChar (index.toNat % 32) := by
  have low : (index &&& 0x1f).toNat = index.toNat % 32 := by
    rw [BitVec.toNat_and]
    exact Nat.and_two_pow_sub_one_eq_mod index.toNat 5
  have inside : (index &&& 0x1f).toNat < BASE32HEX.length := by
    rw [low]
    exact Nat.mod_lt _ (by decide)
  rw [digitChar, ← low, base32Hex, List.getD_eq_getElem?_getD, List.getElem?_eq_getElem inside]
  rfl

theorem digitChar_injective {digit other : Nat} (digit_lt : digit < 32) (other_lt : other < 32)
    (same : digitChar digit = digitChar other) : digit = other := by
  have apart : ∀ first second : Fin 32,
      digitChar first = digitChar second -> first = second := by
    decide +kernel
  exact congrArg Fin.val (apart ⟨digit, digit_lt⟩ ⟨other, other_lt⟩ same)

theorem digitChar_mem {digit : Nat} (digit_lt : digit < 32) : digitChar digit ∈ BASE32HEX := by
  have listed : ∀ digit : Fin 32, digitChar digit ∈ BASE32HEX := by decide +kernel
  exact listed ⟨digit, digit_lt⟩

/-- Everything that was read is either written or among the low bits of the accumulator. -/
structure Encodes (read length : Nat) (value : BitVec 32) (bits : Nat) (out : List Char)
    (digits : List Nat) : Prop where
  out_eq : out = digits.map digitChar
  digits_lt : ∀ digit, digit ∈ digits -> digit < 32
  length_eq : 5 * digits.length + bits = 8 * length
  number_eq : number 32 digits * 2 ^ bits + value.toNat % 2 ^ bits = read

theorem Encodes.write {read length bits : Nat} {value : BitVec 32} {out : List Char}
    {digits : List Nat} (encodes : Encodes read length value (bits + 5) out digits) :
    ∃ digits, Encodes read length value bits (out ++ [base32Hex (value >>> bits)]) digits := by
  refine ⟨digits ++ [(value >>> bits).toNat % 32], ?_, ?_, ?_, ?_⟩
  · rw [List.map_append, ← encodes.out_eq, base32Hex_eq]
    rfl
  · intro digit member
    rcases List.mem_append.mp member with earlier | last
    · exact encodes.digits_lt digit earlier
    · rw [List.mem_singleton.mp last]
      exact Nat.mod_lt _ (by decide)
  · have length_eq := encodes.length_eq
    rw [List.length_append, List.length_singleton]
    omega
  · have split : value.toNat % 2 ^ (bits + 5) =
        2 ^ bits * (value.toNat / 2 ^ bits % 32) + value.toNat % 2 ^ bits := by
      rw [Nat.pow_add, Nat.mod_mul, Nat.add_comm]
    have number_eq := encodes.number_eq
    rw [split] at number_eq
    rw [number_concat, BitVec.toNat_ushiftRight, Nat.shiftRight_eq_div_pow, ← number_eq]
    ring

theorem Encodes.emit {read length : Nat} {value : BitVec 32} {bits : Nat} {out : List Char}
    {digits : List Nat} (encodes : Encodes read length value bits out digits) :
    (emit value bits out).1 < 5 ∧
      ∃ digits, Encodes read length value (emit value bits out).1 (emit value bits out).2
        digits := by
  induction bits, out using EventIds.emit.induct value generalizing digits with
  | case1 bits out ih =>
    obtain ⟨more, written⟩ := encodes.write
    exact ih written
  | case2 bits out small =>
    have short : bits < 5 := by
      rcases Nat.lt_or_ge bits 5 with short | long
      · exact short
      · exact absurd (Nat.sub_add_cancel long).symm (small (bits - 5))
    rw [EventIds.emit.eq_2 value bits out small]
    exact ⟨short, digits, encodes⟩

theorem toNat_shiftIn (value : BitVec 32) (byte : BitVec 8) :
    (shiftIn value byte).toNat = value.toNat % 2 ^ 24 * 2 ^ 8 + byte.toNat := by
  have moved : (value <<< 8).toNat = (value.toNat % 2 ^ 24) <<< 8 := by
    rw [BitVec.toNat_shiftLeft, Nat.shiftLeft_eq, Nat.shiftLeft_eq]
    omega
  have kept : (byte.setWidth 32).toNat = byte.toNat :=
    BitVec.toNat_setWidth_of_le (by decide)
  rw [shiftIn, BitVec.toNat_or, moved, kept, ← Nat.shiftLeft_add_eq_or_of_lt byte.isLt,
    Nat.shiftLeft_eq]

theorem shiftIn_mod (value : BitVec 32) (byte : BitVec 8) {bits : Nat} (short : bits < 5) :
    (shiftIn value byte).toNat % 2 ^ (bits + 8) = value.toNat % 2 ^ bits * 2 ^ 8 + byte.toNat := by
  have byte_lt := byte.isLt
  rw [toNat_shiftIn]
  interval_cases bits <;> omega

theorem Encodes.shiftIn {read length bits : Nat} {value : BitVec 32} {out : List Char}
    {digits : List Nat} (encodes : Encodes read length value bits out digits) (short : bits < 5)
    (byte : BitVec 8) :
    Encodes (256 * read + byte.toNat) (length + 1) (shiftIn value byte) (bits + 8) out digits where
  out_eq := encodes.out_eq
  digits_lt := encodes.digits_lt
  length_eq := by
    have length_eq := encodes.length_eq
    omega
  number_eq := by
    rw [shiftIn_mod value byte short, ← encodes.number_eq]
    ring

def bytesNumber (bytes : List (BitVec 8)) : Nat :=
  number 256 (bytes.map BitVec.toNat)

theorem bytesNumber_concat (bytes : List (BitVec 8)) (byte : BitVec 8) :
    bytesNumber (bytes ++ [byte]) = 256 * bytesNumber bytes + byte.toNat := by
  rw [bytesNumber, List.map_append, List.map_singleton, number_concat, bytesNumber]

theorem encodes_encoder (bytes : List (BitVec 8)) : (encoder bytes).bits < 5 ∧
      ∃ digits, Encodes (bytesNumber bytes) bytes.length (encoder bytes).value
        (encoder bytes).bits (encoder bytes).out digits := by
  induction bytes using List.reverseRecOn with
  | nil => exact ⟨by decide, [], rfl, by simp, rfl, rfl⟩
  | append_singleton bytes byte ih =>
    obtain ⟨short, digits, encodes⟩ := ih
    rw [bytesNumber_concat, List.length_append, encoder, List.foldl_append]
    exact (encodes.shiftIn short byte).emit

theorem text_encoder {bytes : List (BitVec 8)} (sixteen : bytes.length = 16) :
    ∃ digits : List Nat, (encoder bytes).text = digits.map digitChar ∧
      digits.length = 26 ∧ (∀ digit, digit ∈ digits -> digit < 32) ∧
      number 32 digits = 4 * bytesNumber bytes := by
  obtain ⟨short, digits, encodes⟩ := encodes_encoder bytes
  have length_eq := encodes.length_eq
  have three : (encoder bytes).bits = 3 := by omega
  refine ⟨digits ++ [(encoder bytes).value.toNat % 2 ^ 3 * 4], ?_, ?_, ?_, ?_⟩
  · have last : (((encoder bytes).value <<< 2).toNat) % 32 =
        (encoder bytes).value.toNat % 2 ^ 3 * 4 := by
      rw [BitVec.toNat_shiftLeft, Nat.shiftLeft_eq]
      omega
    rw [Encoder.text, three, if_pos (by decide), base32Hex_eq, last, encodes.out_eq,
      List.map_append]
    rfl
  · rw [List.length_append, List.length_singleton]
    omega
  · intro digit member
    rcases List.mem_append.mp member with earlier | last
    · exact encodes.digits_lt digit earlier
    · rw [List.mem_singleton.mp last]
      omega
  · have number_eq := encodes.number_eq
    rw [three] at number_eq
    rw [number_concat, ← number_eq]
    omega

theorem isHexDigit_iff (c : Char) : isHexDigit c = true <->
      (48 ≤ c.toNat ∧ c.toNat ≤ 57) ∨ (97 ≤ c.toNat ∧ c.toNat ≤ 102) := by
  simp only [isHexDigit, Bool.or_eq_true, Bool.and_eq_true, decide_eq_true_eq]
  rfl

theorem hexValue_eq (c : Char) : hexValue c = if c.toNat ≤ 57 then c.toNat - 48 else c.toNat - 87 :=
  rfl

theorem hexValue_lt {c : Char} (hex : isHexDigit c = true) : hexValue c < 16 := by
  have code := (isHexDigit_iff c).mp hex
  rw [hexValue_eq]
  split <;> omega

theorem hexValue_injective {c other : Char} (hex : isHexDigit c = true)
    (otherHex : isHexDigit other = true) (same : hexValue c = hexValue other) : c = other := by
  have code := (isHexDigit_iff c).mp hex
  have otherCode := (isHexDigit_iff other).mp otherHex
  rw [hexValue_eq, hexValue_eq] at same
  apply Char.toNat_inj.mp
  split at same <;> split at same <;> omega

theorem map_hexValue_lt {hex : List Char} (all : hex.all isHexDigit = true) :
    ∀ digit, digit ∈ hex.map hexValue -> digit < 16 := by
  intro digit member
  obtain ⟨c, listed, rfl⟩ := List.mem_map.mp member
  exact hexValue_lt (List.all_eq_true.mp all c listed)

theorem map_hexValue_injective {hex others : List Char} (all : hex.all isHexDigit = true)
    (othersAll : others.all isHexDigit = true)
    (same : hex.map hexValue = others.map hexValue) : hex = others := by
  induction hex generalizing others with
  | nil => exact (List.map_eq_nil_iff.mp same.symm).symm
  | cons c hex ih =>
    cases others with
    | nil => simp at same
    | cons other others =>
      simp only [List.all_cons, Bool.and_eq_true] at all othersAll
      simp only [List.map_cons, List.cons.injEq] at same
      rw [hexValue_injective all.1 othersAll.1 same.1, ih all.2 othersAll.2 same.2]

theorem number_cons (base digit : Nat) (digits : List Nat) :
    number base (digit :: digits) = digit * base ^ digits.length + number base digits := by
  rw [number, List.reverse_cons, Nat.ofDigits_append, List.length_reverse, Nat.ofDigits_singleton,
    number]
  ring

theorem bytesOf_spec {hex : List Char} {count : Nat} (length_eq : hex.length = 2 * count)
    (all : hex.all isHexDigit = true) : (bytesOf hex).length = count ∧
      bytesNumber (bytesOf hex) = number 16 (hex.map hexValue) := by
  induction count generalizing hex with
  | zero =>
    rw [List.length_eq_zero_iff.mp length_eq]
    exact ⟨rfl, rfl⟩
  | succ count ih =>
    match hex, length_eq with
    | high :: low :: rest, length_eq =>
      have restLength : rest.length = 2 * count := by
        simp only [List.length_cons] at length_eq
        omega
      simp only [List.all_cons, Bool.and_eq_true] at all
      obtain ⟨highHex, lowHex, restHex⟩ := all
      obtain ⟨bytesLength, bytesEq⟩ := ih restLength restHex
      have highLt := hexValue_lt highHex
      have lowLt := hexValue_lt lowHex
      have byte : (BitVec.ofNat 8 (16 * hexValue high + hexValue low)).toNat =
          16 * hexValue high + hexValue low := by
        rw [BitVec.toNat_ofNat]
        omega
      refine ⟨by rw [bytesOf, List.length_cons, bytesLength], ?_⟩
      have power : (256 : Nat) ^ count = 16 ^ (2 * count) := by
        rw [Nat.pow_mul]
      rw [bytesNumber] at bytesEq
      rw [bytesOf, bytesNumber, List.map_cons, number_cons, List.length_map, bytesLength, byte,
        bytesEq, List.map_cons, List.map_cons, number_cons, number_cons, List.length_cons,
        List.length_map, restLength, power]
      ring

/-! ## The ids -/

/-- The hyphens of `8-4-4-4-12`. -/
def uuidShape : List Bool :=
  let digits := fun count => List.replicate count false
  digits 8 ++ true :: digits 4 ++ true :: digits 4 ++ true :: digits 4 ++ true :: digits 12

def hasShape : List Bool -> List Char -> Bool
  | [], [] => true
  | hyphen :: shape, c :: text =>
    (if hyphen then c = '-' else isHexDigit c.toLower) && hasShape shape text
  | _, _ => false

def isUuid (uuid : String) : Bool :=
  hasShape uuidShape uuid.toList

def sameUuid (uuid other : String) : Prop :=
  uuid.toList.map Char.toLower = other.toList.map Char.toLower

theorem not_hyphen_of_hex {c : Char} (hex : isHexDigit c.toLower = true) : c ≠ '-' := by
  rintro rfl
  revert hex
  decide

theorem hexOf_of_hasShape {shape : List Bool} {text : List Char}
    (shaped : hasShape shape text = true) :
    (hexOf text).length = shape.count false ∧ (hexOf text).all isHexDigit = true := by
  induction shape generalizing text with
  | nil =>
    cases text with
    | nil => exact ⟨rfl, rfl⟩
    | cons c text => simp [hasShape] at shaped
  | cons hyphen shape ih =>
    cases text with
    | nil => simp [hasShape] at shaped
    | cons c text =>
      simp only [hasShape, Bool.and_eq_true] at shaped
      obtain ⟨here, rest⟩ := shaped
      have ⟨length_eq, all⟩ := ih rest
      cases hyphen with
      | true =>
        simp only [if_true, decide_eq_true_eq] at here
        subst here
        simpa [hexOf] using ih rest
      | false =>
        simp only [Bool.false_eq_true, if_false] at here
        have kept : hexOf (c :: text) = c.toLower :: hexOf text := by
          simp [hexOf, not_hyphen_of_hex here]
        rw [kept]
        simp [length_eq, all, here]

theorem lower_eq_of_hexOf_eq {shape : List Bool} {text other : List Char}
    (shaped : hasShape shape text = true) (otherShaped : hasShape shape other = true)
    (same : hexOf text = hexOf other) : text.map Char.toLower = other.map Char.toLower := by
  induction shape generalizing text other with
  | nil =>
    cases text with
    | cons c text => simp [hasShape] at shaped
    | nil =>
      cases other with
      | cons c other => simp [hasShape] at otherShaped
      | nil => rfl
  | cons hyphen shape ih =>
    cases text with
    | nil => simp [hasShape] at shaped
    | cons c text =>
      cases other with
      | nil => simp [hasShape] at otherShaped
      | cons d other =>
        simp only [hasShape, Bool.and_eq_true] at shaped otherShaped
        cases hyphen with
        | true =>
          simp only [if_true, decide_eq_true_eq] at shaped otherShaped
          obtain ⟨rfl, rest⟩ := shaped
          obtain ⟨rfl, otherRest⟩ := otherShaped
          rw [List.map_cons, List.map_cons, ih rest otherRest (by simpa [hexOf] using same)]
        | false =>
          simp only [Bool.false_eq_true, if_false] at shaped otherShaped
          simp only [hexOf, List.filter_cons, not_hyphen_of_hex shaped.1,
            not_hyphen_of_hex otherShaped.1, ne_eq, not_false_eq_true, decide_true, if_true,
            List.map_cons, List.cons.injEq] at same
          rw [List.map_cons, List.map_cons, same.1, ih shaped.2 otherShaped.2 same.2]

theorem toLower_eq_hyphen (c : Char) : c.toLower = '-' <-> c = '-' := by
  constructor
  · intro lower
    by_cases capital : c.val ≥ 'A'.val ∧ c.val ≤ 'Z'.val
    · -- A capital letter becomes a letter.
      have letter : c.toLower.val = c.val + 32 := congrArg Char.val (dif_pos capital)
      have code : (c.val + 32).toNat = 45 := by
        rw [← letter, lower]
        rfl
      have ge : 65 ≤ c.val.toNat := capital.1
      have le : c.val.toNat ≤ 90 := capital.2
      rw [UInt32.toNat_add] at code
      change (c.val.toNat + 32) % 2 ^ 32 = 45 at code
      omega
    · have same : c.toLower = c := dif_neg capital
      rw [← same, lower]
  · rintro rfl
    decide

theorem hexOf_eq (text : List Char) : hexOf text = (text.map Char.toLower).filter (· ≠ '-') := by
  rw [hexOf, List.filter_map]
  congr 1
  refine List.filter_congr fun c _ => ?_
  simp [toLower_eq_hyphen]

theorem hexOf_eq_iff {uuid other : String} (uuidOk : isUuid uuid = true)
    (otherOk : isUuid other = true) :
    hexOf uuid.toList = hexOf other.toList <-> sameUuid uuid other := by
  constructor
  · exact lower_eq_of_hexOf_eq uuidOk otherOk
  · intro same
    rw [hexOf_eq, hexOf_eq, same]

theorem deterministicEventId_eq {uuid : String} (uuidOk : isUuid uuid = true) : ∃ digits : List Nat,
      deterministicEventId uuid = some (String.ofList (EVENT_ID_PREFIX ++ digits.map digitChar)) ∧
      digits.length = 26 ∧ (∀ digit, digit ∈ digits -> digit < 32) ∧
      number 32 digits = 4 * number 16 ((hexOf uuid.toList).map hexValue) := by
  have ⟨count, all⟩ := hexOf_of_hasShape uuidOk
  have length_eq : (hexOf uuid.toList).length = 2 * 16 := count
  have ⟨bytesLength, bytesEq⟩ := bytesOf_spec length_eq all
  obtain ⟨digits, text, digitsLength, digits_lt, digitsEq⟩ := text_encoder bytesLength
  rw [bytesEq] at digitsEq
  refine ⟨digits, ?_, digitsLength, digits_lt, digitsEq⟩
  rw [deterministicEventId, uuidToBase32, if_pos ⟨length_eq, all⟩, text]
  rfl

theorem map_digitChar_injective {digits others : List Nat}
    (digits_lt : ∀ digit, digit ∈ digits -> digit < 32)
    (others_lt : ∀ digit, digit ∈ others -> digit < 32)
    (same : digits.map digitChar = others.map digitChar) : digits = others := by
  induction digits generalizing others with
  | nil => exact (List.map_eq_nil_iff.mp same.symm).symm
  | cons digit digits ih =>
    cases others with
    | nil => simp at same
    | cons other others =>
      simp only [List.mem_cons, forall_eq_or_imp] at digits_lt others_lt
      simp only [List.map_cons, List.cons.injEq] at same
      rw [digitChar_injective digits_lt.1 others_lt.1 same.1,
        ih digits_lt.2 others_lt.2 same.2]

/-- Every id gets a text that the calendar takes, two ids get one text only if they are one id,
and at no byte does the accumulator lack a bit that is still to be written. -/
theorem deterministicEventId_spec {uuid other : String} (uuidOk : isUuid uuid = true)
    (otherOk : isUuid other = true) : (∃ id, deterministicEventId uuid = some id ∧ id.length = 28 ∧
        (∀ c, c ∈ id.toList -> c ∈ BASE32HEX) ∧ EVENT_ID_PREFIX <+: id.toList) ∧
      (deterministicEventId uuid = deterministicEventId other <-> sameUuid uuid other) ∧
      ∀ bytes byte, (shiftIn (encoder bytes).value byte).toNat % 2 ^ ((encoder bytes).bits + 8) =
          bytesNumber (bytes ++ [byte]) % 2 ^ ((encoder bytes).bits + 8) := by
  obtain ⟨digits, idEq, digitsLength, digits_lt, digitsEq⟩ := deterministicEventId_eq uuidOk
  obtain ⟨others, otherEq, othersLength, others_lt, othersEq⟩ := deterministicEventId_eq otherOk
  refine ⟨⟨_, idEq, ?_, ?_, ?_⟩, ?_, ?_⟩
  · rw [String.length_ofList, List.length_append, List.length_map, digitsLength]
    rfl
  · intro c member
    rw [String.toList_ofList, List.mem_append] at member
    rcases member with inPrefix | inText
    · have letters : (EVENT_ID_PREFIX.all fun c => BASE32HEX.contains c) = true := by decide
      exact List.contains_iff_mem.mp (List.all_eq_true.mp letters c inPrefix)
    · obtain ⟨digit, listed, rfl⟩ := List.mem_map.mp inText
      exact digitChar_mem (digits_lt digit listed)
  · rw [String.toList_ofList]
    exact List.prefix_append _ _
  · rw [← hexOf_eq_iff uuidOk otherOk, idEq, otherEq]
    constructor
    · intro same
      have sameText := String.ofList_injective (Option.some.inj same)
      have sameDigits := map_digitChar_injective digits_lt others_lt
        (List.append_cancel_left sameText)
      rw [sameDigits, othersEq] at digitsEq
      have ⟨count, all⟩ := hexOf_of_hasShape uuidOk
      have ⟨otherCount, otherAll⟩ := hexOf_of_hasShape otherOk
      refine map_hexValue_injective all otherAll (number_injective (by decide : 1 < 16) ?_
        (map_hexValue_lt all) (map_hexValue_lt otherAll) ?_)
      · rw [List.length_map, List.length_map, count, otherCount]
      · omega
    · intro same
      have sameDigits : digits = others := by
        refine number_injective (by decide : 1 < 32) ?_ digits_lt others_lt ?_
        · rw [digitsLength, othersLength]
        · rw [digitsEq, othersEq, same]
      rw [sameDigits]
  · intro bytes byte
    obtain ⟨short, written, encodes⟩ := encodes_encoder bytes
    rw [bytesNumber_concat, ← (encodes.shiftIn short byte).number_eq, Nat.mul_add_mod_self_right,
      Nat.mod_mod]

/-- One id in two spellings, and one that differs in its last bit. -/
theorem deterministicEventId_spec_letters :
    (deterministicEventId "0123abcd-4567-89ef-0000-00000000000a" =
      deterministicEventId "0123ABCD-4567-89EF-0000-00000000000A") ∧
    (deterministicEventId "0123abcd-4567-89ef-0000-00000000000a" ≠
      deterministicEventId "0123abcd-4567-89ef-0000-00000000000b") :=
  ⟨(deterministicEventId_spec (by decide) (by decide)).2.1.mpr (by unfold sameUuid; decide),
    fun same => absurd ((deterministicEventId_spec (by decide) (by decide)).2.1.mp same)
      (by unfold sameUuid; decide)⟩

example : deterministicEventId "ffffffff-ffff-ffff-ffff-ffffffffffff" =
    some "lcvvvvvvvvvvvvvvvvvvvvvvvvvs" := by
  decide +kernel

end EventIds

end LevelChannel
