import LevelChannel.Schema.Text
import LevelChannel.Strings.Replace

namespace LevelChannel

open Strings

namespace TelegramAlerts

/-!
# What Telegram errors may say

The token of the bot is part of the URL of every request, and an error may quote the URL.  Three
replacements take it out of a text: the token, whatever looks like the path of a bot, and the end
of the token.  Each works on what the one before left.
-/

/-- `[A-Za-z0-9_-]` -/
def isSecretSymbol (char : Char) : Bool :=
  char.isAlphanum || char == '_' || char == '-'

/-- Where `/bot\d{6,}:[A-Za-z0-9_-]{0,}/` matches at the beginning of a text. -/
def botPathAt : List Char -> Option Nat
  | 'b' :: 'o' :: 't' :: rest =>
    let digits := rest.takeWhile Char.isDigit
    match rest.dropWhile Char.isDigit with
    | ':' :: secret =>
      if 6 ≤ digits.length then
        some (3 + digits.length + 1 + (secret.takeWhile isSecretSymbol).length)
      else none
    | _ => none
  | _ => none

/-- A text of the form `bot\d{6,}:`. -/
def IsBotPath (word : List Char) : Prop :=
  ∃ digits : List Char, 6 ≤ digits.length ∧ digits.all Char.isDigit = true ∧
    word = 'b' :: 'o' :: 't' :: (digits ++ [':'])

theorem botPathAt_isSome (text : List Char) :
    (botPathAt text).isSome <-> ∃ word, IsBotPath word ∧ word <+: text := by
  constructor
  · intro found
    unfold botPathAt at found
    split at found
    case h_2 => cases found
    case h_1 rest =>
      dsimp only at found
      split at found
      case h_2 => cases found
      case h_1 secret after =>
        split at found
        case isFalse => cases found
        case isTrue long =>
          have whole : rest = rest.takeWhile Char.isDigit ++ ':' :: secret := by
            rw [← after]
            exact List.takeWhile_append_dropWhile.symm
          refine ⟨_, ⟨rest.takeWhile Char.isDigit, long, List.all_takeWhile, rfl⟩, secret, ?_⟩
          conv_rhs => rw [whole]
          simp
  · rintro ⟨word, ⟨digits, long, all, rfl⟩, after, rfl⟩
    have digitsRead : (digits ++ ':' :: after).takeWhile Char.isDigit = digits := by
      rw [List.takeWhile_append_of_pos (List.all_eq_true.mp all)]
      simp [List.takeWhile]
    have digitsLeft : (digits ++ ':' :: after).dropWhile Char.isDigit = ':' :: after := by
      rw [List.dropWhile_append_of_pos (List.all_eq_true.mp all)]
      simp [List.dropWhile]
    simp only [List.cons_append, List.append_assoc, List.nil_append, botPathAt, digitsRead,
      digitsLeft]
    rw [if_pos long]
    rfl

def botPath : Pattern Char where
  matchAt := botPathAt
  Word := IsBotPath
  word_ne_nil := by
    rintro _ ⟨digits, -, -, rfl⟩
    exact List.cons_ne_nil _ _
  found_iff := botPathAt_isSome

def redacted : List Char :=
  '[' :: ("REDACTED".toList ++ [']'])

/-- `text.split(word).join('[REDACTED]')`, for a word that is not empty. -/
def withoutWord (word text : List Char) : List Char :=
  match word with
  | [] => text
  | first :: rest =>
    (Pattern.literal (first :: rest) (List.cons_ne_nil _ _)).replaceAll redacted text

/-- `token.slice(-units)`.  A pair of surrogates at the cut is dropped whole. -/
def jsTail (units : Nat) (token : String) : List Char :=
  (takeUnits units token.toList.reverse).reverse

def redactTelegramSecret (text token : String) : String :=
  if token.isEmpty then text
  else
    let out := withoutWord token.toList text.toList
    let out := botPath.replaceAll redacted out
    if 8 ≤ jsLength token then String.ofList (withoutWord (jsTail 8 token) out)
    else String.ofList out

/-- What a request throws: an `Error` with its name, its message and its cause, or something
else. -/
inductive Thrown where
  | error (name message : String) (cause : Option String)
  | other (text : String)

def stringifyTelegramError : Thrown -> String
  | .error name message cause =>
    name ++ ": " ++ message ++ cause.elim "" fun cause => " (cause: " ++ cause ++ ")"
  | .other text => text

def Thrown.isAbort : Thrown -> Bool
  | .error name _ _ => name == "AbortError" || name == "TimeoutError"
  | .other _ => false

/-- The body of an answer, as far as it has the types that are looked for: `retryAfter` is a finite
number, rounded down. -/
structure AnswerBody where
  ok : Bool
  description : Option String
  messageId : Option String
  retryAfter : Option Int

structure Answer where
  status : Nat
  body : Except Thrown AnswerBody

/-- `response.ok` -/
def Answer.isOk (answer : Answer) : Bool :=
  200 ≤ answer.status && answer.status ≤ 299

inductive SendOnce where
  | ok (messageId : String)
  | clientError (status : Nat) (description : String)
  | rateLimited (retryAfterSeconds : Nat) (description : String)
  | serverError (status : Nat) (description : String)
  | networkError (error : String)
  | abort (error : String)

def SendOnce.report : SendOnce -> Option String
  | .ok _ => none
  | .clientError _ description | .rateLimited _ description | .serverError _ description =>
    some description
  | .networkError error | .abort error => some error

def sendOnce (token : String) : Except Thrown Answer -> SendOnce
  | .error thrown =>
    let redacted := redactTelegramSecret (stringifyTelegramError thrown) token
    if thrown.isAbort then .abort redacted else .networkError redacted
  | .ok response =>
    match response.body with
    | .error thrown =>
      let redacted := redactTelegramSecret (stringifyTelegramError thrown) token
      if 500 ≤ response.status then .serverError response.status redacted
      else if 400 ≤ response.status then .clientError response.status redacted
      else .serverError response.status redacted
    | .ok body =>
      let description := redactTelegramSecret (body.description.getD "") token
      if response.isOk && body.ok then .ok (body.messageId.getD "")
      else if response.status = 429 then
        .rateLimited (body.retryAfter.elim 1 Int.toNat) description
      else if 500 ≤ response.status then .serverError response.status description
      else .clientError response.status description

/-! ## Nothing of the token is left -/

def isTokenSymbol (char : Char) : Bool :=
  isSecretSymbol char || char == ':'

/-- The token, the end of it and every path of a bot are absent. -/
structure Clean (token : String) (text : List Char) : Prop where
  whole : ¬ token.toList <:+: text
  ending : ¬ jsTail 8 token <:+: text
  paths : botPath.Absent text

section

variable {word text : List Char}

theorem withoutWord_of_not_infix (absent : ¬ word <:+: text) : withoutWord word text = text := by
  cases word with
  | nil => rfl
  | cons first rest =>
    refine Pattern.replaceAll_of_absent ?_ redacted
    rintro _ rfl
    exact absent

theorem not_infix_withoutWord {other : List Char} (nonempty : word ≠ []) (opening : '[' ∉ word)
    (closing : ']' ∉ word) (unmarked : ¬ word <:+: "REDACTED".toList)
    (gone : other = word ∨ ¬ word <:+: text) : ¬ word <:+: withoutWord other text := by
  cases other with
  | nil =>
    rcases gone with rfl | absent
    · exact absurd rfl nonempty
    · exact absent
  | cons first rest =>
    exact Pattern.not_infix_replaceAll nonempty opening closing unmarked (gone.imp_left Eq.symm)

theorem not_infix_botPath (nonempty : word ≠ []) (opening : '[' ∉ word) (closing : ']' ∉ word)
    (unmarked : ¬ word <:+: "REDACTED".toList) (gone : IsBotPath word ∨ ¬ word <:+: text) :
    ¬ word <:+: botPath.replaceAll redacted text :=
  Pattern.not_infix_replaceAll nonempty opening closing unmarked gone

end

/-! ### Tokens -/

/-- A token of a bot, the last eight symbols of which do not happen to be the marker's. -/
structure BotToken (token : String) : Prop where
  long : 8 ≤ token.length
  symbols : ∀ char, char ∈ token.toList -> isTokenSymbol char = true
  unmarked : token.toList.drop (token.length - 8) ≠ "REDACTED".toList

theorem IsBotPath.unmarked {word : List Char} (path : IsBotPath word) :
    ¬ word <:+: "REDACTED".toList := by
  rcases path with ⟨digits, long, -, rfl⟩
  intro inside
  have short := inside.length_le
  simp only [List.length_cons, List.length_append, List.length_nil] at short
  change _ ≤ 8 at short
  omega

theorem IsBotPath.no_bracket {word : List Char} (path : IsBotPath word) :
    '[' ∉ word ∧ ']' ∉ word := by
  rcases path with ⟨digits, -, all, rfl⟩
  have digitsOnly := List.all_eq_true.mp all
  constructor <;>
  · intro listed
    rcases List.mem_cons.mp listed with same | listed
    · cases same
    rcases List.mem_cons.mp listed with same | listed
    · cases same
    rcases List.mem_cons.mp listed with same | listed
    · cases same
    rcases List.mem_append.mp listed with listed | listed
    · cases digitsOnly _ listed
    · cases List.mem_singleton.mp listed

theorem takeUnits_eq_take (units : Nat) {text : List Char}
    (narrow : ∀ char, char ∈ text -> unitWidth char = 1) :
    takeUnits units text = text.take units := by
  induction text generalizing units with
  | nil => simp [takeUnits]
  | cons char text ih =>
    rw [takeUnits, narrow char List.mem_cons_self]
    cases units with
    | zero => rfl
    | succ units =>
      rw [if_neg (by omega), Nat.add_sub_cancel,
        ih units fun other listed => narrow other (List.mem_cons_of_mem _ listed)]
      rfl

theorem isTokenSymbol_cases {char : Char} (symbol : isTokenSymbol char = true) :
    char.toNat < 128 ∧ char ≠ '[' ∧ char ≠ ']' := by
  refine ⟨?_, ?_, ?_⟩
  · rw [isTokenSymbol, isSecretSymbol] at symbol
    delta Char.isAlphanum Char.isAlpha Char.isUpper Char.isLower Char.isDigit at symbol
    simp only [Bool.or_eq_true, beq_iff_eq, decide_eq_true_eq, Bool.and_eq_true,
      UInt32.le_iff_toNat_le] at symbol
    rcases symbol with ((((upper | lower) | digit) | rfl) | rfl) | rfl
    · exact Nat.lt_of_le_of_lt upper.2 (by decide)
    · exact Nat.lt_of_le_of_lt lower.2 (by decide)
    · exact Nat.lt_of_le_of_lt digit.2 (by decide)
    all_goals decide
  · rintro rfl
    revert symbol
    decide
  · rintro rfl
    revert symbol
    decide

namespace BotToken

variable {token : String} (bot : BotToken token)

include bot

theorem unitWidth_eq_one {char : Char} (listed : char ∈ token.toList) : unitWidth char = 1 := by
  have small := (isTokenSymbol_cases (bot.symbols char listed)).1
  exact if_pos (by omega)

theorem no_bracket : '[' ∉ token.toList ∧ ']' ∉ token.toList :=
  ⟨fun listed => (isTokenSymbol_cases (bot.symbols _ listed)).2.1 rfl,
    fun listed => (isTokenSymbol_cases (bot.symbols _ listed)).2.2 rfl⟩

theorem jsLength_eq : jsLength token = token.length := by
  rw [jsLength, List.map_congr_left fun char listed => bot.unitWidth_eq_one listed,
    List.map_const', List.sum_replicate_nat, Nat.mul_one, String.length_toList]

theorem jsTail_eq : jsTail 8 token = token.toList.drop (token.length - 8) := by
  rw [jsTail, takeUnits_eq_take 8 fun char listed =>
      bot.unitWidth_eq_one (List.mem_reverse.mp listed),
    List.take_reverse, List.reverse_reverse, String.length_toList]

theorem jsTail_suffix : jsTail 8 token <:+ token.toList :=
  bot.jsTail_eq ▸ List.drop_suffix _ _

theorem length_jsTail : (jsTail 8 token).length = 8 := by
  have long := bot.long
  rw [bot.jsTail_eq, List.length_drop, String.length_toList]
  omega

theorem jsTail_unmarked : ¬ jsTail 8 token <:+: "REDACTED".toList := by
  intro inside
  have same := inside.eq_of_length bot.length_jsTail
  exact bot.unmarked (bot.jsTail_eq.symm.trans same)

theorem jsTail_ne_nil : jsTail 8 token ≠ [] := by
  intro empty
  have length := bot.length_jsTail
  rw [empty] at length
  cases length

theorem toList_ne_nil : token.toList ≠ [] := by
  intro empty
  exact bot.jsTail_ne_nil (List.suffix_nil.mp (empty ▸ bot.jsTail_suffix))

theorem redactTelegramSecret_eq (text : String) :
    redactTelegramSecret text token = String.ofList (withoutWord (jsTail 8 token)
      (botPath.replaceAll redacted (withoutWord token.toList text.toList))) := by
  have long : 8 ≤ jsLength token := bot.jsLength_eq ▸ bot.long
  have full : ¬ token.isEmpty = true := by
    intro empty
    rw [String.isEmpty_iff] at empty
    exact bot.toList_ne_nil (empty ▸ rfl)
  rw [redactTelegramSecret, if_neg full, if_pos long]

theorem clean_redact (text : String) : Clean token (redactTelegramSecret text token).toList := by
  have ⟨noOpening, noClosing⟩ := bot.no_bracket
  have tailOpening : '[' ∉ jsTail 8 token := fun listed =>
    noOpening (bot.jsTail_suffix.subset listed)
  have tailClosing : ']' ∉ jsTail 8 token := fun listed =>
    noClosing (bot.jsTail_suffix.subset listed)
  rw [bot.redactTelegramSecret_eq, String.toList_ofList]
  have ending : ∀ left, ¬ jsTail 8 token <:+: withoutWord (jsTail 8 token) left :=
    fun left => not_infix_withoutWord bot.jsTail_ne_nil tailOpening tailClosing
      bot.jsTail_unmarked (Or.inl rfl)
  refine ⟨fun inside => ending _ (bot.jsTail_suffix.isInfix.trans inside), ending _, ?_⟩
  intro word path
  have ⟨opening, closing⟩ := IsBotPath.no_bracket path
  have nonempty : word ≠ [] := botPath.word_ne_nil path
  refine not_infix_withoutWord nonempty opening closing path.unmarked (Or.inr ?_)
  exact not_infix_botPath nonempty opening closing path.unmarked (Or.inl path)

theorem redact_of_clean {text : String} (clean : Clean token text.toList) :
    redactTelegramSecret text token = text := by
  rw [bot.redactTelegramSecret_eq, withoutWord_of_not_infix clean.whole,
    Pattern.replaceAll_of_absent clean.paths, withoutWord_of_not_infix clean.ending,
    String.ofList_toList]

end BotToken

/-- A redacted text has neither the token nor its last eight symbols nor the path of a bot, and
another redaction leaves it as it is. -/
theorem redactTelegramSecret_clean (text token : String) (bot : BotToken token) :
    (¬ token.toList <:+: (redactTelegramSecret text token).toList ∧
      ¬ token.toList.drop (token.length - 8) <:+: (redactTelegramSecret text token).toList ∧
      ∀ word, IsBotPath word -> ¬ word <:+: (redactTelegramSecret text token).toList) ∧
    redactTelegramSecret (redactTelegramSecret text token) token =
      redactTelegramSecret text token := by
  have clean := bot.clean_redact text
  exact ⟨⟨clean.whole, bot.jsTail_eq ▸ clean.ending, clean.paths⟩, bot.redact_of_clean clean⟩

theorem redactTelegramSecret_clean_url : (¬ "123456:AbC_d-9zQ".toList <:+:
        (redactTelegramSecret "fetch /bot123456:AbC_d-9zQ/sendMessage" "123456:AbC_d-9zQ").toList ∧
      ¬ "AbC_d-9zQ".toList.drop 1 <:+:
        (redactTelegramSecret "fetch /bot123456:AbC_d-9zQ/sendMessage" "123456:AbC_d-9zQ").toList ∧
      ∀ word, IsBotPath word -> ¬ word <:+:
        (redactTelegramSecret "fetch /bot123456:AbC_d-9zQ/sendMessage" "123456:AbC_d-9zQ").toList) ∧
    redactTelegramSecret
        (redactTelegramSecret "fetch /bot123456:AbC_d-9zQ/sendMessage" "123456:AbC_d-9zQ")
        "123456:AbC_d-9zQ" =
      redactTelegramSecret "fetch /bot123456:AbC_d-9zQ/sendMessage" "123456:AbC_d-9zQ" :=
  redactTelegramSecret_clean "fetch /bot123456:AbC_d-9zQ/sendMessage" "123456:AbC_d-9zQ"
    ⟨by decide, List.all_eq_true.mp (by decide), by decide⟩

theorem sendOnce_clean {token text : String} (bot : BotToken token)
    (fetched : Except Thrown Answer) (reported : (sendOnce token fetched).report = some text) :
    Clean token text.toList := by
  have clean : ∀ raw, some (redactTelegramSecret raw token) = some text ->
      Clean token text.toList := by
    rintro raw ⟨⟩
    exact bot.clean_redact raw
  unfold sendOnce at reported
  split at reported
  case h_1 thrown =>
    dsimp only at reported
    split at reported <;> exact clean _ reported
  case h_2 response =>
    split at reported
    case h_1 thrown unread =>
      dsimp only at reported
      split_ifs at reported <;> exact clean _ reported
    case h_2 body read =>
      dsimp only at reported
      split_ifs at reported
      · cases reported
      all_goals exact clean _ reported

inductive Sent where
  | ok (messageId : String)
  | error (error : String) (detail : Option String) (retryAfterSeconds : Option Nat)

def Sent.detail? : Sent -> Option String
  | .ok _ => none
  | .error _ detail _ => detail

/-- `detail || fallback` -/
def jsOr (detail fallback : String) : String :=
  if detail.isEmpty then fallback else detail

def SendOnce.sent : SendOnce -> Sent
  | .ok messageId => .ok messageId
  | .clientError status description =>
    .error s!"telegram_{status}" (some (jsOr description s!"status_{status}")) none
  | .rateLimited seconds description =>
    .error "telegram_429_after_retries" (some (jsOr description "rate_limited")) (some seconds)
  | .serverError status description =>
    .error "telegram_5xx_after_retries" (some (jsOr description s!"status_{status}")) none
  | .networkError error => .error "telegram_network_after_retries" (some error) none
  | .abort error => .error "telegram_abort_after_retries" (some error) none

def SendOnce.pauseMs (backoffMs : Nat) : SendOnce -> Option Nat
  | .ok _ | .clientError _ _ => none
  | .rateLimited seconds _ => some (min seconds 5 * 1000)
  | _ => some backoffMs

/-- The loop, with what was waited: this attempt, and `left` more at most. -/
def attemptsFrom (token : String) (backoffMs : Nat) (fetched : Nat -> Except Thrown Answer)
    (attempt : Nat) : Nat -> Sent × List Nat
  | 0 => ((sendOnce token (fetched attempt)).sent, [])
  | left + 1 =>
    match (sendOnce token (fetched attempt)).pauseMs backoffMs with
    | none => ((sendOnce token (fetched attempt)).sent, [])
    | some pause =>
      let rest := attemptsFrom token backoffMs fetched (attempt + 1) left
      (rest.1, pause :: rest.2)

def sendTelegramMessage (token chatId text : String) (retryMax : Int) (backoffMs : Nat)
    (fetched : Nat -> Except Thrown Answer) : Sent × List Nat :=
  if token.isEmpty then (.error "telegram_missing_token" none none, [])
  else if chatId.isEmpty then (.error "telegram_missing_chat_id" none none, [])
  else if text.isEmpty then (.error "telegram_empty_body" none none, [])
  else if 4096 < jsLength text then (.error "telegram_body_too_long" none none, [])
  else attemptsFrom token backoffMs fetched 0 retryMax.toNat

theorem attemptsFrom_last (token : String) (backoffMs : Nat)
    (fetched : Nat -> Except Thrown Answer) (attempt left : Nat) :
    let answer attempt := sendOnce token (fetched attempt)
    let sent := attemptsFrom token backoffMs fetched attempt left
    ∃ more, more ≤ left ∧ sent.1 = (answer (attempt + more)).sent ∧
      (sent.2.map some = (List.range more).map fun earlier =>
        (answer (attempt + earlier)).pauseMs backoffMs) ∧
      (more < left -> (answer (attempt + more)).pauseMs backoffMs = none) := by
  intro answer
  induction left generalizing attempt with
  | zero => exact ⟨0, Nat.le_refl 0, rfl, rfl, nofun⟩
  | succ left ih =>
    rw [attemptsFrom]
    cases pause : (answer attempt).pauseMs backoffMs with
    | none => exact ⟨0, Nat.zero_le _, rfl, rfl, fun _ => pause⟩
    | some wait =>
      rcases ih (attempt + 1) with ⟨more, within, told, waited, final⟩
      have shift : ∀ later, attempt + 1 + later = attempt + (later + 1) := by omega
      rw [shift] at told final
      simp only [shift] at waited
      refine ⟨more + 1, Nat.succ_le_succ within, told, ?_,
        fun less => final (Nat.lt_of_succ_lt_succ less)⟩
      rw [List.map_cons, waited, List.range_succ_eq_map, List.map_cons, List.map_map]
      exact congrArg (· :: _) pause.symm

theorem SendOnce.detail_eq {result : SendOnce} {detail : String}
    (told : result.sent.detail? = some detail) :
    result.report = some detail ∨ result.report = some "" := by
  cases result with
  | ok messageId => cases told
  | networkError error | abort error => exact .inl told
  | clientError _ description | rateLimited _ description | serverError _ description =>
    by_cases empty : description.isEmpty = true
    · exact .inr (congrArg some (String.isEmpty_iff.mp empty))
    · exact .inl ((congrArg some (if_neg empty)).symm.trans told)

/-- A message takes at most as many more attempts as are allowed.  Every attempt before the last
is one that may be made again, after its own pause, and the last is final if another was allowed.
What is told is what the last came to, and has nothing of the token. -/
theorem sendTelegramMessage_attempts {token chatId text : String} (bot : BotToken token)
    (known : chatId.isEmpty = false) (given : text.isEmpty = false) (short : jsLength text ≤ 4096)
    (retryMax : Int) (backoffMs : Nat) (fetched : Nat -> Except Thrown Answer) :
    let answer attempt := sendOnce token (fetched attempt)
    let sent := sendTelegramMessage token chatId text retryMax backoffMs fetched
    ∃ last, last ≤ retryMax.toNat ∧ sent.1 = (answer last).sent ∧
      (sent.2.map some = (List.range last).map fun attempt =>
        (answer attempt).pauseMs backoffMs) ∧
      (last < retryMax.toNat -> (answer last).pauseMs backoffMs = none) ∧
      ∀ detail, sent.1.detail? = some detail ->
        Clean token detail.toList ∨ (answer last).report = some "" := by
  intro answer sent
  have full : token.isEmpty = false :=
    Bool.eq_false_iff.mpr fun empty => bot.toList_ne_nil (String.isEmpty_iff.mp empty ▸ rfl)
  have loop : sent = attemptsFrom token backoffMs fetched 0 retryMax.toNat := by
    simp [sent, sendTelegramMessage, full, known, given, Nat.not_lt.mpr short]
  rcases attemptsFrom_last token backoffMs fetched 0 retryMax.toNat with
    ⟨last, within, told, waited, final⟩
  simp only [Nat.zero_add] at told waited final
  rw [← loop] at told waited
  refine ⟨last, within, told, waited, final, fun detail found => ?_⟩
  exact (SendOnce.detail_eq (told ▸ found)).imp_left (sendOnce_clean bot (fetched last))

theorem sendTelegramMessage_attempts_offline : ∃ last, last ≤ 2 ∧
      (sendTelegramMessage "123456:AbC_d-9zQ" "7" "alert" 2 1000 fun _ =>
        .error (.other "fetch failed")).1 =
          (sendOnce "123456:AbC_d-9zQ" (.error (.other "fetch failed"))).sent := by
  rcases @sendTelegramMessage_attempts "123456:AbC_d-9zQ" "7" "alert"
    ⟨by decide, List.all_eq_true.mp (by decide), by decide⟩ rfl rfl (by decide) 2 1000
    fun _ => .error (.other "fetch failed") with ⟨last, within, told, -⟩
  exact ⟨last, within, told⟩

end TelegramAlerts

end LevelChannel
