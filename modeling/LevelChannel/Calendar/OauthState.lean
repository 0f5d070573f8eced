import LevelChannel.Calendar.EventIds
import LevelChannel.Strings.Base64
import LevelChannel.Strings.Decimals

namespace LevelChannel

open Strings EventIds

/-!
# The state of a consent in progress

A teacher who connects a calendar leaves for another site and comes back with a text that names
the account and the time and carries a code over both.  The code is `HMAC-SHA256`, a parameter:
what a text of its own may be is not known to the one who brings it back.
-/

namespace OauthState

/-- `[A-Za-z0-9_-]` -/
def isUrlLetter (char : Char) : Bool :=
  char.isAlphanum || char == '_' || char == '-'

/-- `/^[A-Za-z0-9_-]+$/` -/
def isB64Url (text : List Char) : Bool :=
  !text.isEmpty && text.all isUrlLetter

def replacedLetter (old new char : Char) : Char :=
  if char = old then new else char

/-- `.replace(/old/g, new)` -/
def replaceLetter (old new : Char) (text : List Char) : List Char :=
  text.map (replacedLetter old new)

/-- `.replace(/=+$/, '')` -/
def withoutPadding (text : List Char) : List Char :=
  (text.reverse.dropWhile (· = '=')).reverse

def b64url (buf : List (BitVec 8)) : List Char :=
  withoutPadding (replaceLetter '/' '_' (replaceLetter '+' '-' (toBase64 buf)))

def fromB64url (text : List Char) : Option (List (BitVec 8)) :=
  if isB64Url text then
    some (ofBase64 (replaceLetter '_' '/' (replaceLetter '-' '+' text) ++ padding text.length))
  else none

/-! ## States -/

/-- `[0-9a-f]` in either case. -/
def isHexLetter (char : Char) : Bool :=
  isHexDigit char || ('A' ≤ char && char ≤ 'F')

/-- `/^[0-9a-f]{32}$/i` -/
def isAccountIdHex (text : List Char) : Bool :=
  text.length == 32 && text.all isHexLetter

def accountIdToHex (accountId : String) : List Char :=
  hexOf accountId.toList

def dotted (parts : List (List Char)) : List Char :=
  ['.'].intercalate parts

/-- `HMAC-SHA256` of a text under a secret. -/
abbrev Hmac := String -> List Char -> Vector (BitVec 8) 32

variable (hmac : Hmac)

def stateBody (accountId : String) (random : List (BitVec 8)) (nowMs : Nat) : List Char :=
  dotted [accountIdToHex accountId, b64url random, Nat.toDigits 10 nowMs]

/-- Nothing stands for the error that `accountId` is no UUID. -/
def generateOauthState (accountId secret : String) (random : List (BitVec 8)) (nowMs : Nat) :
    Option String :=
  if isAccountIdHex (accountIdToHex accountId) then
    let body := stateBody accountId random nowMs
    some (String.ofList (dotted [body, b64url (hmac secret body).toList]))
  else none

inductive VerifyReason where
  | malformed
  | account_mismatch
  | bad_signature
  | expired
  deriving DecidableEq

structure Verified where
  accountId : String
  issuedAtMs : Nat
  deriving DecidableEq

def DEFAULT_TTL_MS : Nat := 10 * 60 * 1000

/-- The time is read exactly.  `Number` rounds one from `2 ^ 53` on, which is as far ahead of any
clock as before. -/
def verifyOauthState (state accountId secret : String) (nowMs ttlMs : Nat) :
    Except VerifyReason Verified :=
  match state.toList.splitOn '.' with
  | [accountHex, randomEncoded, tsMsStr, providedHmac] =>
    if !isAccountIdHex accountHex then .error .malformed
    else if !isB64Url randomEncoded then .error .malformed
    else if tsMsStr.isEmpty || !tsMsStr.all Char.isDigit then .error .malformed
    else if !isB64Url providedHmac then .error .malformed
    else if accountHex.map Char.toLower ≠ accountIdToHex accountId then .error .account_mismatch
    -- Nothing that is read, another length and other bytes are refused alike.
    else if fromB64url providedHmac ≠
        some (hmac secret (dotted [accountHex, randomEncoded, tsMsStr])).toList then
      .error .bad_signature
    else
      let tsMs := Nat.ofDigitChars 10 tsMsStr 0
      if tsMs + ttlMs < nowMs then .error .expired
      else if nowMs + 60000 < tsMs then .error .malformed
      else .ok ⟨accountId, tsMs⟩
  | _ => .error .malformed

def urlLetter (sextet : Nat) : Char :=
  replacedLetter '/' '_' (replacedLetter '+' '-' (base64Letter sextet))

theorem urlLetter_spec {sextet : Nat} (small : sextet < 64) :
    isUrlLetter (urlLetter sextet) = true ∧ urlLetter sextet ≠ '=' ∧ urlLetter sextet ≠ '.' ∧
      replacedLetter '_' '/' (replacedLetter '-' '+' (urlLetter sextet)) = base64Letter sextet := by
  have all : ∀ sextet : Fin 64,
      isUrlLetter (urlLetter sextet) = true ∧ urlLetter sextet ≠ '=' ∧ urlLetter sextet ≠ '.' ∧
        replacedLetter '_' '/' (replacedLetter '-' '+' (urlLetter sextet)) =
          base64Letter sextet := by
    decide +kernel
  exact all ⟨sextet, small⟩

theorem withoutPadding_append {text : List Char} (bare : ∀ char, char ∈ text -> char ≠ '=')
    (signs : Nat) : withoutPadding (text ++ List.replicate signs '=') = text := by
  have dropped : (text.reverse).dropWhile (fun char => decide (char = '=')) = text.reverse := by
    cases reversed : text.reverse with
    | nil => rfl
    | cons last rest =>
      have member : last ∈ text := by
        rw [← List.mem_reverse, reversed]
        exact List.mem_cons_self
      rw [List.dropWhile_cons, if_neg (by simpa using bare last member)]
  rw [withoutPadding, List.reverse_append, List.reverse_replicate,
    List.dropWhile_append_of_pos (by simp +contextual [List.mem_replicate]), dropped,
    List.reverse_reverse]

theorem b64url_eq (buf : List (BitVec 8)) : b64url buf = (sextets buf).map urlLetter := by
  have letters : replaceLetter '/' '_' (replaceLetter '+' '-' (toBase64 buf)) =
      (sextets buf).map urlLetter ++
        List.replicate ((4 - ((sextets buf).map base64Letter).length % 4) % 4) '=' := by
    rw [toBase64, padding, replaceLetter, replaceLetter, List.map_append, List.map_append,
      List.map_replicate, List.map_replicate, List.map_map, List.map_map]
    rfl
  rw [b64url, letters, withoutPadding_append]
  intro char listed
  rcases List.mem_map.mp listed with ⟨sextet, written, rfl⟩
  exact (urlLetter_spec (sextets_lt written)).2.1

theorem isB64Url_b64url {buf : List (BitVec 8)} (nonempty : buf ≠ []) :
    isB64Url (b64url buf) = true := by
  have some_letters : b64url buf ≠ [] := by
    rw [b64url_eq]
    simpa using sextets_ne_nil nonempty
  rw [isB64Url, Bool.and_eq_true]
  refine ⟨by simpa using some_letters, List.all_eq_true.mpr fun char listed => ?_⟩
  rw [b64url_eq] at listed
  rcases List.mem_map.mp listed with ⟨sextet, written, rfl⟩
  exact (urlLetter_spec (sextets_lt written)).1

theorem fromB64url_b64url {buf : List (BitVec 8)} (nonempty : buf ≠ []) :
    fromB64url (b64url buf) = some buf := by
  have back : replaceLetter '_' '/' (replaceLetter '-' '+' (b64url buf)) =
      (sextets buf).map base64Letter := by
    rw [b64url_eq, replaceLetter, replaceLetter, List.map_map, List.map_map]
    refine List.map_congr_left fun sextet written => ?_
    rw [Function.comp_apply, Function.comp_apply]
    exact (urlLetter_spec (sextets_lt written)).2.2.2
  rw [fromB64url, if_pos (isB64Url_b64url nonempty), back, padding, ofBase64_letters]

theorem not_point_of_isUrlLetter {text : List Char} (letters : isB64Url text = true) :
    '.' ∉ text := by
  rw [isB64Url, Bool.and_eq_true] at letters
  intro listed
  exact absurd (List.all_eq_true.mp letters.2 '.' listed) (by decide)

theorem not_point_b64url (buf : List (BitVec 8)) : '.' ∉ b64url buf := by
  rw [b64url_eq]
  intro listed
  rcases List.mem_map.mp listed with ⟨sextet, written, point⟩
  exact (urlLetter_spec (sextets_lt written)).2.2.1 point

theorem not_point_of_isDigit {text : List Char} (digits : text.all Char.isDigit = true) :
    '.' ∉ text :=
  fun listed => absurd (List.all_eq_true.mp digits '.' listed) (by decide)

theorem not_point_of_isAccountIdHex {text : List Char} (hex : isAccountIdHex text = true) :
    '.' ∉ text := by
  rw [isAccountIdHex, Bool.and_eq_true] at hex
  exact fun listed => absurd (List.all_eq_true.mp hex.2 '.' listed) (by decide)

theorem splitOn_dotted {parts : List (List Char)} (some_parts : parts ≠ [])
    (bare : ∀ part, part ∈ parts -> '.' ∉ part) : (dotted parts).splitOn '.' = parts :=
  List.splitOn_intercalate '.' bare some_parts

theorem dotted_append (first second third last : List Char) :
    dotted [dotted [first, second, third], last] = dotted [first, second, third, last] := by
  simp [dotted, List.intercalate, List.intersperse]

variable {hmac} {accountId secret state : String} {random : List (BitVec 8)} {issuedMs : Nat}

theorem toLower_toLower (char : Char) : char.toLower.toLower = char.toLower := by
  by_cases capital : char.val ≥ 'A'.val ∧ char.val ≤ 'Z'.val
  · -- A small letter is none of the capital ones.
    have letter : char.toLower.val = char.val + 32 := congrArg Char.val (dif_pos capital)
    have ge : 65 ≤ char.val.toNat := capital.1
    refine dif_neg fun again => ?_
    have le : char.toLower.val.toNat ≤ 90 := again.2
    have small : char.val.toNat ≤ 90 := capital.2
    rw [letter, UInt32.toNat_add] at le
    change (char.val.toNat + 32) % 2 ^ 32 ≤ 90 at le
    omega
  · have same : char.toLower = char := dif_neg capital
    rw [same, same]

theorem toLower_accountIdToHex (accountId : String) :
    (accountIdToHex accountId).map Char.toLower = accountIdToHex accountId := by
  rw [accountIdToHex, hexOf, List.map_map]
  exact List.map_congr_left fun char _ => toLower_toLower char

theorem splitOn_state (hex : isAccountIdHex (accountIdToHex accountId) = true)
    (code : List (BitVec 8)) :
    (dotted [stateBody accountId random issuedMs, b64url code]).splitOn '.' =
      [accountIdToHex accountId, b64url random, Nat.toDigits 10 issuedMs, b64url code] := by
  have bare : ∀ part, part ∈ [accountIdToHex accountId, b64url random,
      Nat.toDigits 10 issuedMs, b64url code] -> '.' ∉ part := by
    intro part listed
    simp only [List.mem_cons, List.not_mem_nil, or_false] at listed
    rcases listed with rfl | rfl | rfl | rfl
    · exact not_point_of_isAccountIdHex hex
    · exact not_point_b64url random
    · exact not_point_of_isDigit
        (List.all_eq_true.mpr fun _ written => isDigit_of_mem_toDigits written)
    · exact not_point_b64url code
  rw [stateBody, dotted_append, splitOn_dotted (List.cons_ne_nil _ _) bare]

theorem generateOauthState_eq_some
    (generated : generateOauthState hmac accountId secret random issuedMs = some state) :
    isAccountIdHex (accountIdToHex accountId) = true ∧
      state.toList = dotted [stateBody accountId random issuedMs,
        b64url (hmac secret (stateBody accountId random issuedMs)).toList] := by
  unfold generateOauthState at generated
  split at generated
  case isFalse => cases generated
  case isTrue hex =>
    injection generated with generated
    rw [← generated, String.toList_ofList]
    exact ⟨hex, rfl⟩

theorem code_ne_nil (code : Vector (BitVec 8) 32) : code.toList ≠ [] := by
  intro none
  have length := code.length_toList
  rw [none] at length
  cases length

/-- A state that was given out is accepted from its own account, under the secret it was made
with, for as long as it is meant to be, and what else it is answered is told by what does not
agree. -/
theorem verifyOauthState_generateOauthState (random_ne : random ≠ [])
    (generated : generateOauthState hmac accountId secret random issuedMs = some state)
    (other otherSecret : String) (nowMs ttlMs : Nat) :
    verifyOauthState hmac state other otherSecret nowMs ttlMs =
      if accountIdToHex accountId ≠ accountIdToHex other then .error .account_mismatch
      else if hmac otherSecret (stateBody accountId random issuedMs) ≠
          hmac secret (stateBody accountId random issuedMs) then .error .bad_signature
      else if issuedMs + ttlMs < nowMs then .error .expired
      else if nowMs + 60000 < issuedMs then .error .malformed else .ok ⟨other, issuedMs⟩ := by
  have ⟨hex, text⟩ := generateOauthState_eq_some generated
  have digits : (Nat.toDigits 10 issuedMs).all Char.isDigit = true :=
    List.all_eq_true.mpr fun _ written => isDigit_of_mem_toDigits written
  have some_digits : (Nat.toDigits 10 issuedMs).isEmpty = false :=
    List.isEmpty_eq_false_iff.mpr Nat.toDigits_ne_nil
  have differ (first second : Vector (BitVec 8) 32) :
      some first.toList ≠ some second.toList <-> second ≠ first := by
    rw [not_iff_not, Option.some_inj, Vector.toList_inj]
    exact eq_comm
  rw [verifyOauthState, text, splitOn_state hex]
  simp only [hex, isB64Url_b64url random_ne, isB64Url_b64url (code_ne_nil _), digits, some_digits,
    fromB64url_b64url (code_ne_nil _), toLower_accountIdToHex, Nat.ofDigitChars_ten_toDigits,
    Bool.not_true, Bool.or_false, Bool.false_eq_true, if_false]
  exact if_congr Iff.rfl rfl (if_congr (differ _ _) rfl rfl)

/-- The code of one text, as `HMAC-SHA256` has it under the secret below. -/
def sampleHmac : Hmac := fun _ _ =>
  #v[0x60, 0xd5, 0x28, 0x28, 0x8e, 0x7a, 0xb3, 0xf7, 0xce, 0x06, 0x7a, 0xb7, 0xbb, 0x42, 0x20, 0x57,
    0x6d, 0x6a, 0xc1, 0x08, 0x91, 0x46, 0xa9, 0x51, 0xae, 0x47, 0x76, 0xca, 0x19, 0xfe, 0x29, 0x57]

def sampleAccount : String := "3f2504e0-4f89-41d3-9a0c-0305e82c3301"

def sampleSecret : String := "0123456789abcdef0123456789abcdef"

def sampleState : String :=
  "3f2504e04f8941d39a0c0305e82c3301.AQ.1750000000000.YNUoKI56s_fOBnq3u0IgV21qwQiRRqlRrkd2yhn-KVc"

theorem generateOauthState_sample :
    generateOauthState sampleHmac sampleAccount sampleSecret [1] 1750000000000 =
      some sampleState := by
  decide +kernel

theorem verifyOauthState_generateOauthState_sample :
    verifyOauthState sampleHmac sampleState sampleAccount sampleSecret 1750000600000
      DEFAULT_TTL_MS = .ok ⟨sampleAccount, 1750000000000⟩ := by
  rw [verifyOauthState_generateOauthState (List.cons_ne_nil 1 []) generateOauthState_sample]
  decide

/-- What an accepted text consists of. -/
structure Accepted (hmac : Hmac) (state accountId secret : String) (nowMs ttlMs : Nat)
    (verified : Verified) where
  accountHex : List Char
  randomEncoded : List Char
  tsMsStr : List Char
  providedHmac : List Char
  state_eq : state.toList = dotted [accountHex, randomEncoded, tsMsStr, providedHmac]
  bare : ∀ part, part ∈ [accountHex, randomEncoded, tsMsStr] -> '.' ∉ part
  account : accountHex.map Char.toLower = accountIdToHex accountId
  code : fromB64url providedHmac =
    some (hmac secret (dotted [accountHex, randomEncoded, tsMsStr])).toList
  issuedAt : verified.issuedAtMs = Nat.ofDigitChars 10 tsMsStr 0
  fresh : nowMs ≤ verified.issuedAtMs + ttlMs

theorem passed {Reason Value : Type} {condition : Prop} [Decidable condition] {reason : Reason}
    {rest : Except Reason Value} {value : Value}
    (ok : (if condition then .error reason else rest) = .ok value) :
    ¬condition ∧ rest = .ok value := by
  split at ok
  case isTrue => cases ok
  case isFalse fails => exact ⟨fails, ok⟩

theorem accepted_of_verify {nowMs ttlMs : Nat} {verified : Verified}
    (ok : verifyOauthState hmac state accountId secret nowMs ttlMs = .ok verified) :
    Nonempty (Accepted hmac state accountId secret nowMs ttlMs verified) := by
  unfold verifyOauthState at ok
  split at ok
  case h_2 => cases ok
  case h_1 accountHex randomEncoded tsMsStr providedHmac parts =>
    have joined : state.toList = dotted [accountHex, randomEncoded, tsMsStr, providedHmac] := by
      rw [dotted, ← parts, List.intercalate_splitOn]
    have ⟨hex, ok⟩ := passed ok
    have ⟨letters, ok⟩ := passed ok
    have ⟨digits, ok⟩ := passed ok
    have ⟨_, ok⟩ := passed ok
    have ⟨account, ok⟩ := passed ok
    have ⟨code, ok⟩ := passed ok
    have ⟨late, ok⟩ := passed ok
    have ⟨_, ok⟩ := passed ok
    injection ok with result
    refine ⟨⟨accountHex, randomEncoded, tsMsStr, providedHmac, joined, ?_, not_not.mp account,
      not_not.mp code, ?_, ?_⟩⟩
    · intro part listed
      simp only [List.mem_cons, List.not_mem_nil, or_false] at listed
      rcases listed with rfl | rfl | rfl
      · exact not_point_of_isAccountIdHex (by simpa using hex)
      · exact not_point_of_isUrlLetter (by simpa using letters)
      · have both : part ≠ [] ∧ part.all Char.isDigit = true := by simpa using digits
        exact not_point_of_isDigit both.2
    · rw [← result]
    · rw [← result]
      exact Nat.le_of_not_lt late

/-- A request to the two routes of a consent, from the account that is signed in. -/
inductive Request where
  | start (accountId : String) (random : List (BitVec 8)) (nowMs : Nat)
  | callback (accountId state : String) (nowMs : Nat)

def Request.account : Request -> String
  | .start account _ _ => account
  | .callback account _ _ => account

/-- The code of a text is brought back only if a state was given out with this text. -/
def Unforged (hmac : Hmac) (secret : String) (requests : List Request) : Prop :=
  ∀ before accountId state nowMs rest,
    requests = before ++ .callback accountId state nowMs :: rest ->
    ∀ body code, state.toList = dotted [body, code] ->
      fromB64url code = some (hmac secret body).toList ->
      ∃ issuer random issuedMs, Request.start issuer random issuedMs ∈ before ∧
        (generateOauthState hmac issuer secret random issuedMs).isSome ∧
        stateBody issuer random issuedMs = body

variable {requests before rest : List Request} {nowMs ttlMs : Nat} {verified : Verified}

/-- A consent is completed only by the account that began it, and not later than it may be. -/
theorem started_of_callback (unforged : Unforged hmac secret requests)
    (uuids : ∀ request, request ∈ requests -> isUuid request.account = true)
    (split : requests = before ++ .callback accountId state nowMs :: rest)
    (ok : verifyOauthState hmac state accountId secret nowMs ttlMs = .ok verified) :
    ∃ issuer random, Request.start issuer random verified.issuedAtMs ∈ before ∧
      sameUuid issuer accountId ∧ nowMs ≤ verified.issuedAtMs + ttlMs := by
  have ⟨accepted⟩ := accepted_of_verify ok
  have brought : state.toList =
      dotted [dotted [accepted.accountHex, accepted.randomEncoded, accepted.tsMsStr],
        accepted.providedHmac] := by
    rw [accepted.state_eq, dotted_append]
  rcases unforged _ _ _ _ _ split _ _ brought accepted.code with
    ⟨issuer, random, issuedMs, started, made, body⟩
  rcases Option.isSome_iff_exists.mp made with ⟨text, generated⟩
  have ⟨hex, _⟩ := generateOauthState_eq_some generated
  -- Neither text has a point within a part, so the parts agree.
  have parts : [accountIdToHex issuer, b64url random, Nat.toDigits 10 issuedMs] =
      [accepted.accountHex, accepted.randomEncoded, accepted.tsMsStr] := by
    have bare : ∀ part, part ∈ [accountIdToHex issuer, b64url random,
        Nat.toDigits 10 issuedMs] -> '.' ∉ part := by
      intro part listed
      simp only [List.mem_cons, List.not_mem_nil, or_false] at listed
      rcases listed with rfl | rfl | rfl
      · exact not_point_of_isAccountIdHex hex
      · exact not_point_b64url random
      · exact not_point_of_isDigit
          (List.all_eq_true.mpr fun _ written => isDigit_of_mem_toDigits written)
    rw [← splitOn_dotted (List.cons_ne_nil _ _) bare,
      ← splitOn_dotted (List.cons_ne_nil _ _) accepted.bare]
    exact congrArg (List.splitOn '.') body
  injection parts with accounts parts
  injection parts with _ parts
  injection parts with times _
  have issued : verified.issuedAtMs = issuedMs := by
    rw [accepted.issuedAt, ← times, Nat.ofDigitChars_ten_toDigits]
  have same : hexOf issuer.toList = hexOf accountId.toList := by
    change accountIdToHex issuer = accountIdToHex accountId
    rw [← accepted.account, ← accounts, toLower_accountIdToHex]
  have issuerUuid : isUuid issuer = true := by
    refine uuids (.start issuer random issuedMs) ?_
    rw [split]
    exact List.mem_append_left _ started
  have accountUuid : isUuid accountId = true := by
    refine uuids (.callback accountId state nowMs) ?_
    rw [split]
    exact List.mem_append_right _ List.mem_cons_self
  rw [issued]
  exact ⟨issuer, random, started, (hexOf_eq_iff issuerUuid accountUuid).mp same,
    issued ▸ accepted.fresh⟩

theorem eq_of_dotted {body other code otherCode : List Char} (bare : '.' ∉ code)
    (otherBare : '.' ∉ otherCode) (same : dotted [body, code] = dotted [other, otherCode]) :
    body = other := by
  have reversed (body code : List Char) (bare : '.' ∉ code) :
      ((dotted [body, code]).reverse.dropWhile (· ≠ '.')).drop 1 = body.reverse := by
    have pieces : dotted [body, code] = body ++ '.' :: code := by
      simp [dotted, List.intercalate, List.intersperse]
    have all : ∀ char, char ∈ code.reverse -> decide (char ≠ '.') = true := by
      intro char listed
      exact decide_eq_true fun point => bare (point ▸ List.mem_reverse.mp listed)
    rw [pieces, List.reverse_append, List.reverse_cons, List.append_assoc,
      List.dropWhile_append_of_pos all]
    rfl
  have both := reversed body code bare
  rw [same, reversed other otherCode otherBare] at both
  exact (List.reverse_injective both).symm

theorem not_point_of_fromB64url {code : List Char} {buf : List (BitVec 8)}
    (read : fromB64url code = some buf) : '.' ∉ code := by
  unfold fromB64url at read
  split at read
  case isTrue letters => exact not_point_of_isUrlLetter letters
  case isFalse => cases read

def sampleRequests : List Request :=
  [.start sampleAccount [1] 1750000000000, .callback sampleAccount sampleState 1750000600000]

theorem started_of_callback_sample : ∃ issuer random, Request.start issuer random 1750000000000 ∈
        [Request.start sampleAccount [1] 1750000000000] ∧
      sameUuid issuer sampleAccount ∧ 1750000600000 ≤ 1750000000000 + DEFAULT_TTL_MS := by
  have unforged : Unforged sampleHmac sampleSecret sampleRequests := by
    intro before accountId state nowMs rest split body code brought read
    rcases before with _ | ⟨first, _ | ⟨second, more⟩⟩ <;>
      simp only [sampleRequests, List.nil_append, List.cons_append, List.cons.injEq, reduceCtorEq,
        Request.callback.injEq, List.nil_eq_append_iff, false_and, and_false] at split
    rcases split with ⟨rfl, ⟨-, rfl, -⟩, -⟩
    have ⟨_, text⟩ := generateOauthState_eq_some generateOauthState_sample
    refine ⟨sampleAccount, [1], 1750000000000, List.mem_cons_self, ?_, ?_⟩
    · rw [generateOauthState_sample]
      rfl
    · rw [text] at brought
      exact eq_of_dotted (not_point_b64url _) (not_point_of_fromB64url read) brought
  have uuids : ∀ request, request ∈ sampleRequests -> isUuid request.account = true := by
    decide +kernel
  have split : sampleRequests = [Request.start sampleAccount [1] 1750000000000] ++
      Request.callback sampleAccount sampleState 1750000600000 :: [] := rfl
  have ok : verifyOauthState sampleHmac sampleState sampleAccount sampleSecret 1750000600000
      DEFAULT_TTL_MS = .ok ⟨sampleAccount, 1750000000000⟩ := by
    decide +kernel
  exact started_of_callback unforged uuids split ok

end OauthState

end LevelChannel
