import Mathlib.Data.List.Basic

namespace Strings

/-!
# Base64

Bytes are written six bits at a time.  What is left over at the end is filled up with zeros, and
the text with a sign of padding, to a multiple of four.  The reader takes the letters in fours and
drops the bits that do not make up a byte.
-/

def sextets : List (BitVec 8) -> List Nat
  | first :: second :: third :: rest =>
    first.toNat / 4 :: (first.toNat % 4 * 16 + second.toNat / 16) ::
      (second.toNat % 16 * 4 + third.toNat / 64) :: third.toNat % 64 :: sextets rest
  | [first, second] =>
    [first.toNat / 4, first.toNat % 4 * 16 + second.toNat / 16, second.toNat % 16 * 4]
  | [first] => [first.toNat / 4, first.toNat % 4 * 16]
  | [] => []

def octets : List Nat -> List (BitVec 8)
  | first :: second :: third :: fourth :: rest =>
    BitVec.ofNat 8 (first * 4 + second / 16) :: BitVec.ofNat 8 (second % 16 * 16 + third / 4) ::
      BitVec.ofNat 8 (third % 4 * 64 + fourth) :: octets rest
  | [first, second, third] =>
    [BitVec.ofNat 8 (first * 4 + second / 16), BitVec.ofNat 8 (second % 16 * 16 + third / 4)]
  | [first, second] => [BitVec.ofNat 8 (first * 4 + second / 16)]
  | [_] => []
  | [] => []

theorem ofNat_eq (byte : BitVec 8) {number : Nat} (same : number = byte.toNat) :
    BitVec.ofNat 8 number = byte := by
  rw [same, BitVec.ofNat_toNat, BitVec.setWidth_eq]

theorem octets_sextets (bytes : List (BitVec 8)) : octets (sextets bytes) = bytes := by
  induction bytes using sextets.induct with
  | case1 first second third rest ih =>
    have bounds := And.intro second.isLt third.isLt
    rw [sextets, octets, ih, ofNat_eq first (by omega),
      ofNat_eq second (by omega), ofNat_eq third (by omega)]
  | case2 first second =>
    have bound := second.isLt
    rw [sextets, octets, ofNat_eq first (by omega),
      ofNat_eq second (by omega)]
  | case3 first => rw [sextets, octets, ofNat_eq first (by omega)]
  | case4 => rfl

theorem sextets_lt {bytes : List (BitVec 8)} {sextet : Nat} (listed : sextet ∈ sextets bytes) :
    sextet < 64 := by
  induction bytes using sextets.induct with
  | case1 first second third rest ih =>
    have bounds := And.intro first.isLt (And.intro second.isLt third.isLt)
    simp only [sextets, List.mem_cons] at listed
    rcases listed with rfl | rfl | rfl | rfl | later
    · omega
    · omega
    · omega
    · omega
    · exact ih later
  | case2 first second =>
    have bounds := And.intro first.isLt second.isLt
    simp only [sextets, List.mem_cons, List.not_mem_nil, or_false] at listed
    omega
  | case3 first =>
    have bound := first.isLt
    simp only [sextets, List.mem_cons, List.not_mem_nil, or_false] at listed
    omega
  | case4 => cases listed

theorem sextets_ne_nil {bytes : List (BitVec 8)} (nonempty : bytes ≠ []) : sextets bytes ≠ [] := by
  induction bytes using sextets.induct with
  | case1 first second third rest _ => exact List.cons_ne_nil _ _
  | case2 first second => exact List.cons_ne_nil _ _
  | case3 first => exact List.cons_ne_nil _ _
  | case4 => exact absurd rfl nonempty

def base64Letters : List Char :=
  "ABCDEFGHIJKLMNOPQRSTUVWXYZabcdefghijklmnopqrstuvwxyz0123456789+/".toList

def base64Letter (sextet : Nat) : Char :=
  base64Letters.getD sextet 'A'

def sextetOf (char : Char) : Option Nat :=
  base64Letters.findIdx? (· = char)

theorem sextetOf_base64Letter {sextet : Nat} (small : sextet < 64) :
    sextetOf (base64Letter sextet) = some sextet := by
  have all : ∀ sextet : Fin 64, sextetOf (base64Letter sextet) = some sextet.val := by
    decide +kernel
  exact all ⟨sextet, small⟩

def padding (length : Nat) : List Char :=
  List.replicate ((4 - length % 4) % 4) '='

def toBase64 (bytes : List (BitVec 8)) : List Char :=
  let letters := (sextets bytes).map base64Letter
  letters ++ padding letters.length

def ofBase64 (text : List Char) : List (BitVec 8) :=
  octets (text.filterMap sextetOf)

theorem ofBase64_letters (bytes : List (BitVec 8)) (signs : Nat) :
    ofBase64 ((sextets bytes).map base64Letter ++ List.replicate signs '=') = bytes := by
  have read : (sextets bytes).filterMap (sextetOf ∘ base64Letter) = sextets bytes := by
    calc (sextets bytes).filterMap (sextetOf ∘ base64Letter)
      _ = (sextets bytes).filterMap some :=
        List.filterMap_congr fun sextet listed => sextetOf_base64Letter (sextets_lt listed)
      _ = sextets bytes := List.filterMap_some
  have none : (List.replicate signs '=').filterMap sextetOf = [] := by
    rw [List.filterMap_replicate_of_none (by decide +kernel)]
  rw [ofBase64, List.filterMap_append, List.filterMap_map, read, none, List.append_nil,
    octets_sextets]

end Strings
