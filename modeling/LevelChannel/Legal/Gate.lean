import LevelChannel.Schema.Text
import LevelChannel.Legal.Consents
import LevelChannel.Legal.Versions

namespace LevelChannel

namespace Legal

/-!
# The SaaS-offer gate

A teacher needs a consent to the SaaS offer in force.  Pages and reading routes ask
`evaluateSaasOfferGate`, which looks at the row the consent was anchored to.  Routes
that write ask `evaluateSaasOfferGateForMutation`, which looks at the labels of the
offer and of the processor terms in the text of the consent.  Each lets an editorial
change of the offer pass.
-/

/-- `[A-Za-z0-9._-]` -/
def isLabelChar (char : Char) : Bool :=
  char.isAlphanum || char = '.' || char = '_' || char = '-'

def afterStart (start text : List Char) : Option (List Char) :=
  if start.isPrefixOf text then some (text.drop start.length) else none

structure ParsedCombinedVersion where
  saasOfferLabel : String
  processorTermsLabel : String
  deriving DecidableEq, Repr

/-- `parseCombinedVersion`.  No label character is a plus, so the first label ends at
the only place where the expression can go on. -/
def parseCombinedVersion (input : String) : Option ParsedCombinedVersion := do
  let rest <- afterStart "saas_offer:".toList input.toList
  let offer := rest.takeWhile isLabelChar
  let terms <- afterStart "+processor_terms:".toList (rest.dropWhile isLabelChar)
  if offer.isEmpty || terms.isEmpty || !terms.all isLabelChar then none
  else some ⟨String.ofList offer, String.ofList terms⟩

/-- What `resolveOperatorSetting` finds, and the variable it may fall back to. -/
structure GateSetting where
  dbErrored : Bool
  value : Nat
  rawEnv : String
  deriving DecidableEq

def isSaasOfferGateEnabled (setting : GateSetting) : Bool :=
  if setting.dbErrored then !(jsTrim setting.rawEnv = "0") else setting.value = 1

inductive SaasOfferGateVerdict where
  | ok
  | awaitingPublication
  | consentRequired
  deriving DecidableEq, Repr

structure GateSnapshot where
  setting : GateSetting
  versions : List LegalDocumentVersion
  consents : List AccountConsent
  now : Nat

/-- `label.startsWith('v0-placeholder-')` -/
def isPlaceholder (versionLabel : String) : Bool :=
  "v0-placeholder-".toList.isPrefixOf versionLabel.toList

namespace GateSnapshot

variable (snapshot : GateSnapshot)

def live (docKind : LegalDocKind) : Option LegalDocumentVersion :=
  (getCurrentLegalVersion snapshot.versions snapshot.now docKind).filter fun row =>
    !isPlaceholder row.versionLabel

def consent (accountId : RowId) : Option AccountConsent :=
  getActiveConsent snapshot.consents accountId .saasOffer

end GateSnapshot

def evaluateSaasOfferGate (snapshot : GateSnapshot) (accountId : RowId) : SaasOfferGateVerdict :=
  if isSaasOfferGateEnabled snapshot.setting = false then .ok
  else
    match getCurrentLegalVersion snapshot.versions snapshot.now .saasOffer with
    | none => .awaitingPublication
    | some live =>
      if isPlaceholder live.versionLabel then .awaitingPublication
      else
        match getActiveConsent snapshot.consents accountId .saasOffer with
        | none => .consentRequired
        | some consent =>
          if consent.legalDocumentVersionId = some live.id then .ok
          else
            match consent.legalDocumentVersionId with
            | none => .consentRequired
            | some anchor =>
              if isEditorialOnlyChain snapshot.versions live.id anchor then .ok
              else .consentRequired

def evaluateSaasOfferGateForMutation (snapshot : GateSnapshot) (accountId : RowId) :
    SaasOfferGateVerdict :=
  if isSaasOfferGateEnabled snapshot.setting = false then .ok
  else
    match getCurrentLegalVersion snapshot.versions snapshot.now .saasOffer,
        getCurrentLegalVersion snapshot.versions snapshot.now .saasProcessorTerms with
    | some offer, some terms =>
      if isPlaceholder offer.versionLabel || isPlaceholder terms.versionLabel then
        .awaitingPublication
      else
        match getActiveConsent snapshot.consents accountId .saasOffer with
        | none => .consentRequired
        | some consent =>
          match parseCombinedVersion consent.documentVersion with
          | none => .consentRequired
          | some parsed =>
            if parsed.saasOfferLabel = offer.versionLabel ∧
                parsed.processorTermsLabel = terms.versionLabel then .ok
            else
              match consent.legalDocumentVersionId with
              | none => .consentRequired
              | some anchor =>
                if parsed.processorTermsLabel = terms.versionLabel ∧
                    isEditorialOnlyChain snapshot.versions offer.id anchor then .ok
                else .consentRequired
    | _, _ => .awaitingPublication

/-! ## Where the gates agree -/

/-- The consent is anchored to the live offer or to one that only editorial changes
separate from it. -/
def Anchored (versions : List LegalDocumentVersion) (offer : LegalDocumentVersion)
    (consent : AccountConsent) : Prop :=
  consent.legalDocumentVersionId.any fun anchor => isEditorialOnlyChain versions offer.id anchor

def NamesTerms (terms : LegalDocumentVersion) (consent : AccountConsent) : Prop :=
  (parseCombinedVersion consent.documentVersion).any fun parsed =>
    parsed.processorTermsLabel = terms.versionLabel

def NamesBoth (offer terms : LegalDocumentVersion) (consent : AccountConsent) : Prop :=
  (parseCombinedVersion consent.documentVersion).any fun parsed =>
    parsed.saasOfferLabel = offer.versionLabel && parsed.processorTermsLabel = terms.versionLabel

/-- An anchored consent names the live terms, and one that is not anchored does not name
both live documents. -/
def Consistent (versions : List LegalDocumentVersion) (offer terms : LegalDocumentVersion)
    (consent : AccountConsent) : Prop :=
  (Anchored versions offer consent -> NamesTerms terms consent) ∧
    (NamesBoth offer terms consent -> Anchored versions offer consent)

/-- The state in which the two gates have the same answer: the gate is off, or no offer
is live, or the processor terms are live as well and the consent, if there is one, is
consistent. -/
def GatesAgree (snapshot : GateSnapshot) (accountId : RowId) : Prop :=
  isSaasOfferGateEnabled snapshot.setting = true ->
    ∀ offer, snapshot.live .saasOffer = some offer ->
      ∃ terms, snapshot.live .saasProcessorTerms = some terms ∧
        ∀ consent, snapshot.consent accountId = some consent ->
          Consistent snapshot.versions offer terms consent

section Verdicts

variable {snapshot : GateSnapshot} {offer terms : LegalDocumentVersion}
  {consent : AccountConsent}

theorem GateSnapshot.live_eq_some {docKind : LegalDocKind} {row : LegalDocumentVersion} :
    snapshot.live docKind = some row <->
      getCurrentLegalVersion snapshot.versions snapshot.now docKind = some row ∧
        isPlaceholder row.versionLabel = false := by
  simp only [GateSnapshot.live, Option.filter_eq_some_iff, Bool.not_eq_true']

theorem awaiting_offer (accountId : RowId)
    (enabled : isSaasOfferGateEnabled snapshot.setting = true)
    (missing : snapshot.live .saasOffer = none) :
    evaluateSaasOfferGate snapshot accountId = .awaitingPublication ∧
      evaluateSaasOfferGateForMutation snapshot accountId = .awaitingPublication := by
  simp only [evaluateSaasOfferGate, evaluateSaasOfferGateForMutation, enabled]
  simp only [GateSnapshot.live, Option.filter_eq_none_iff] at missing
  cases current : getCurrentLegalVersion snapshot.versions snapshot.now .saasOffer with
  | none => simp
  | some row =>
    have placeholder := missing row current
    simp only [Bool.not_eq_true', Bool.not_eq_false] at placeholder
    cases getCurrentLegalVersion snapshot.versions snapshot.now .saasProcessorTerms <;>
      simp [placeholder]

theorem awaiting_terms (accountId : RowId)
    (enabled : isSaasOfferGateEnabled snapshot.setting = true)
    (missing : snapshot.live .saasProcessorTerms = none) :
    evaluateSaasOfferGateForMutation snapshot accountId = .awaitingPublication := by
  simp only [evaluateSaasOfferGateForMutation, enabled]
  simp only [GateSnapshot.live, Option.filter_eq_none_iff] at missing
  cases current : getCurrentLegalVersion snapshot.versions snapshot.now .saasProcessorTerms with
  | none => cases getCurrentLegalVersion snapshot.versions snapshot.now .saasOffer <;> simp
  | some row =>
    have placeholder := missing row current
    simp only [Bool.not_eq_true', Bool.not_eq_false] at placeholder
    cases getCurrentLegalVersion snapshot.versions snapshot.now .saasOffer <;>
      simp [placeholder]

theorem page_verdict (accountId : RowId) (enabled : isSaasOfferGateEnabled snapshot.setting = true)
    (live : snapshot.live .saasOffer = some offer) :
    evaluateSaasOfferGate snapshot accountId ≠ .awaitingPublication ∧
      (evaluateSaasOfferGate snapshot accountId = .ok <->
        ∃ consent, snapshot.consent accountId = some consent ∧
          Anchored snapshot.versions offer consent) := by
  rcases GateSnapshot.live_eq_some.mp live with ⟨current, published⟩
  simp only [evaluateSaasOfferGate, enabled, current, published, GateSnapshot.consent]
  cases getActiveConsent snapshot.consents accountId .saasOffer with
  | none => simp
  | some consent =>
    cases anchor : consent.legalDocumentVersionId with
    | none => simp [Anchored, anchor]
    | some id =>
      by_cases same : id = offer.id
      · simp [Anchored, anchor, same, isEditorialOnlyChain_self]
      · by_cases editorial : isEditorialOnlyChain snapshot.versions offer.id id = true <;>
          simp [Anchored, anchor, same, editorial]

theorem mutation_verdict (accountId : RowId)
    (enabled : isSaasOfferGateEnabled snapshot.setting = true)
    (liveOffer : snapshot.live .saasOffer = some offer)
    (liveTerms : snapshot.live .saasProcessorTerms = some terms) :
    evaluateSaasOfferGateForMutation snapshot accountId ≠ .awaitingPublication ∧
      (evaluateSaasOfferGateForMutation snapshot accountId = .ok <->
        ∃ consent, snapshot.consent accountId = some consent ∧ (NamesBoth offer terms consent ∨
            NamesTerms terms consent ∧ Anchored snapshot.versions offer consent)) := by
  rcases GateSnapshot.live_eq_some.mp liveOffer with ⟨currentOffer, publishedOffer⟩
  rcases GateSnapshot.live_eq_some.mp liveTerms with ⟨currentTerms, publishedTerms⟩
  simp only [evaluateSaasOfferGateForMutation, enabled, currentOffer, currentTerms,
    publishedOffer, publishedTerms, GateSnapshot.consent]
  cases getActiveConsent snapshot.consents accountId .saasOffer with
  | none => simp
  | some consent =>
    cases text : parseCombinedVersion consent.documentVersion with
    | none => simp [NamesBoth, NamesTerms, text]
    | some parsed =>
      by_cases sameTerms : parsed.processorTermsLabel = terms.versionLabel
      · by_cases sameOffer : parsed.saasOfferLabel = offer.versionLabel
        · simp [NamesBoth, NamesTerms, text, sameTerms, sameOffer]
        · cases anchor : consent.legalDocumentVersionId with
          | none => simp [NamesBoth, NamesTerms, Anchored, text, sameTerms, sameOffer, anchor]
          | some id =>
            by_cases editorial : isEditorialOnlyChain snapshot.versions offer.id id = true <;>
              simp [NamesBoth, NamesTerms, Anchored, text, sameTerms, sameOffer, anchor,
                editorial]
      · cases anchor : consent.legalDocumentVersionId <;>
          simp [NamesBoth, NamesTerms, text, sameTerms, anchor]

private theorem namesTerms_of_namesBoth (both : NamesBoth offer terms consent) :
    NamesTerms terms consent := by
  simp only [NamesBoth, NamesTerms] at both ⊢
  cases text : parseCombinedVersion consent.documentVersion with
  | none => simp [text] at both
  | some parsed =>
    simp only [text, Option.any_some, Bool.and_eq_true, decide_eq_true_eq] at both ⊢
    exact both.2

private theorem verdict_eq_iff {first second : SaasOfferGateVerdict}
    (one : first ≠ .awaitingPublication) (two : second ≠ .awaitingPublication) :
    first = second <-> (first = .ok <-> second = .ok) := by
  cases first <;> cases second <;> simp_all

private theorem consistent_iff : Consistent snapshot.versions offer terms consent <->
      (Anchored snapshot.versions offer consent <-> NamesBoth offer terms consent ∨
          NamesTerms terms consent ∧ Anchored snapshot.versions offer consent) := by
  have names := @namesTerms_of_namesBoth offer terms consent
  constructor
  · rintro ⟨named, anchored⟩
    constructor
    · intro holds
      exact Or.inr ⟨named holds, holds⟩
    · rintro (both | ⟨_, holds⟩)
      · exact anchored both
      · exact holds
  · intro same
    refine ⟨?_, fun both => same.mpr (Or.inl both)⟩
    intro holds
    rcases same.mp holds with both | ⟨named, _⟩
    · exact names both
    · exact named

end Verdicts

/-- The two gates have the same verdict exactly in the states `GatesAgree` describes. -/
theorem gates_same_verdict (snapshot : GateSnapshot) (accountId : RowId) :
    evaluateSaasOfferGate snapshot accountId =
        evaluateSaasOfferGateForMutation snapshot accountId <-> GatesAgree snapshot accountId := by
  by_cases enabled : isSaasOfferGateEnabled snapshot.setting = true
  · cases liveOffer : snapshot.live .saasOffer with
    | none =>
      have waiting := awaiting_offer accountId enabled liveOffer
      simp [waiting.1, waiting.2, GatesAgree, liveOffer]
    | some offer =>
      have page := page_verdict accountId enabled liveOffer
      cases liveTerms : snapshot.live .saasProcessorTerms with
      | none =>
        have waiting := awaiting_terms accountId enabled liveTerms
        simp [waiting, page.1, GatesAgree, enabled, liveOffer, liveTerms]
      | some terms =>
        have mutation := mutation_verdict accountId enabled liveOffer liveTerms
        rw [verdict_eq_iff page.1 mutation.1, page.2, mutation.2]
        simp only [GatesAgree, enabled, liveOffer, liveTerms, Option.some.injEq,
          forall_const, forall_eq', exists_eq_left']
        cases snapshot.consent accountId with
        | none => simp
        | some consent =>
          simp only [Option.some.injEq, exists_eq_left', forall_eq']
          exact consistent_iff.symm
  · simp [GatesAgree, evaluateSaasOfferGate, evaluateSaasOfferGateForMutation, enabled]

def publishedAt (docKind : LegalDocKind) (versionLabel : String) (at_ : Nat) :
    LegalDocumentVersion where
  id := .seeded at_
  docKind := docKind
  versionLabel := versionLabel
  effectiveFrom := at_
  bodyMd := ""
  previousVersionId := none
  changeKind := .material
  createdAt := at_
  createdByAccountId := none

/-- The teacher has accepted the first offer and the first terms; the terms have a
second version. -/
def newTerms : GateSnapshot where
  setting := ⟨false, 1, ""⟩
  versions := [publishedAt .saasOffer "v1" 1, publishedAt .saasProcessorTerms "v1" 2,
    publishedAt .saasProcessorTerms "v2" 4]
  consents := [
    { id := .seeded 0
      accountId := .seeded 7
      documentKind := .saasOffer
      documentVersion := "saas_offer:v1+processor_terms:v1"
      documentPath := none
      acceptedAt := 3
      ip := none
      userAgent := none
      createdAt := 3
      revokedAt := none
      legalDocumentVersionId := some (.seeded 1) }]
  now := 5

/-- With new terms the page gate lets the teacher in and every write is refused. -/
theorem gates_differ : ¬ ∀ (snapshot : GateSnapshot) (accountId : RowId),
      evaluateSaasOfferGate snapshot accountId =
        evaluateSaasOfferGateForMutation snapshot accountId := by
  intro same
  have claimed := same newTerms (.seeded 7)
  revert claimed
  decide +kernel

end Legal

end LevelChannel
