import QrTrust.Network.ScannerDecision

/-! # What the fields of a decision say of each other

    The signals of a bound and fresh destination are merged to the gravest status
    and to a capped sum, so their order does not matter and one more of them makes
    the decision no better (`signals_merge_monotonically`).  The fields that the
    arms fill by hand agree (`decision_consistent`), but for two: a destination is
    bound in every arm that asked the runtime, and a mismatch is reported as fresh
    without a look at the dates. -/

namespace ScannerDecisions

open VerifierCache RuntimeSafety

/-! ## Merged signals -/

/-- How grave a status is among others. -/
def gravity : RuntimeSafetyStatus → Nat
  | .clear => 0
  | .unavailable => 1
  | .risky => 2
  | .blocked => 3

theorem gravity_inj {a b : RuntimeSafetyStatus} (h : gravity a = gravity b) : a = b := by
  cases a <;> cases b <;> first | rfl | exact absurd h (by decide)

/-- One more signal: the graver of its status and the merged one. -/
theorem gravity_mergedStatus_cons (current : RuntimeSafetySignal)
    (signals : List RuntimeSafetySignal) :
    gravity (mergedStatus (current :: signals))
      = max (gravity current.status) (gravity (mergedStatus signals)) := by
  simp only [mergedStatus, List.any_cons, Bool.or_eq_true, decide_eq_true_eq]
  -- the branches of the merge, those above the status of the new signal left open
  cases current.status <;>
    simp only [reduceCtorEq, false_or, true_or, if_true] <;>
    split_ifs <;> rfl

/-- **GRAVEST**: the merged status is the gravest of the signals. -/
theorem gravity_mergedStatus (signals : List RuntimeSafetySignal) :
    gravity (mergedStatus signals) = (signals.map fun s => gravity s.status).foldr max 0 := by
  induction signals with
  | nil => rfl
  | cons current signals ih => rw [gravity_mergedStatus_cons, ih, List.map_cons, List.foldr_cons]

theorem mergedStatus_perm {signals signals' : List RuntimeSafetySignal}
    (h : signals.Perm signals') : mergedStatus signals = mergedStatus signals' := by
  refine gravity_inj ?_
  rw [gravity_mergedStatus, gravity_mergedStatus]
  exact (h.map _).foldr_eq 0

section Merging

variable (toISOString : Int → String) (asked : RuntimeSafetyInput) (provider : String)

/-- No signal at all is merged like any others. -/
theorem status_mergeSignals (signals : List RuntimeSafetySignal) :
    (mergeSignals toISOString asked provider signals).status = mergedStatus signals := by
  rw [mergeSignals]
  split
  · rename_i hnil
    rw [hnil]
    rfl
  · rfl

theorem riskScoreDelta_mergeSignals (signals : List RuntimeSafetySignal) :
    (mergeSignals toISOString asked provider signals).riskScoreDelta
      = min 100 (signals.map RuntimeSafetySignal.riskScoreDelta).sum := by
  rw [mergeSignals]
  split
  · rename_i hnil
    rw [hnil]
    rfl
  · rfl

end Merging

/-! ## The decision on a verdict -/

/-- `green < orange < red`. -/
def DecisionColor.rank : DecisionColor → Nat
  | .green => 0
  | .orange => 1
  | .red => 2

/-- The color that a status makes. -/
def statusColor : RuntimeSafetyStatus → DecisionColor
  | .clear => .green
  | .unavailable => .orange
  | .risky => .orange
  | .blocked => .red

/-- The state that a status makes. -/
def statusState : RuntimeSafetyStatus → String
  | .clear => "verified_issuer"
  | .unavailable => "verified_issuer_runtime_unavailable"
  | .risky => "verified_issuer_destination_risky"
  | .blocked => "verified_issuer_runtime_blocked"

/-- The least score of a status. -/
def statusFloor : RuntimeSafetyStatus → Rat
  | .clear => 0
  | .unavailable => 30
  | .risky => 30
  | .blocked => 60

theorem rank_statusColor_mono {a b : RuntimeSafetyStatus} (h : gravity a ≤ gravity b) :
    (statusColor a).rank ≤ (statusColor b).rank := by
  cases a <;> cases b <;> first | decide | exact absurd h (by decide)

theorem statusFloor_mono {a b : RuntimeSafetyStatus} (h : gravity a ≤ gravity b) :
    statusFloor a ≤ statusFloor b := by
  cases a <;> cases b <;> first
    | exact absurd h (by decide)
    | norm_num [statusFloor]

section Arms

variable (dates : DateFunctions) (randomUUID : String) (input : ScannerDecisionInput)
  (destination : Destination) (resolution : DestinationResolution)

/-- What the verdict on a bound and fresh destination decides. -/
theorem runtimeAware_outcome {verdict : RuntimeSafetyVerdict} (hdelta : 0 ≤ verdict.riskScoreDelta) :
    let decision := makeRuntimeAwareBoundDecision dates randomUUID input destination resolution
      verdict
    decision.decisionColor = statusColor verdict.status
      ∧ decision.decisionState = statusState verdict.status
      ∧ decision.riskScore = max (statusFloor verdict.status) verdict.riskScoreDelta := by
  intro decision
  show (makeRuntimeAwareBoundDecision dates randomUUID input destination resolution
    verdict).decisionColor = _ ∧ _
  simp only [decision, makeRuntimeAwareBoundDecision]
  cases hstatus : verdict.status with
  | clear => exact ⟨rfl, rfl, (max_eq_right hdelta).symm⟩
  | risky =>
      refine ⟨rfl, ?_, rfl⟩
      show (if verdict.status = .unavailable then _ else _) = _
      rw [hstatus]
      rfl
  | blocked => exact ⟨rfl, rfl, rfl⟩
  | unavailable =>
      refine ⟨rfl, ?_, rfl⟩
      show (if verdict.status = .unavailable then _ else _) = _
      rw [hstatus]
      rfl

variable (url : Url) (provider : String)

/-- The decision on a resolution where the inspectors report the signals. -/
def signalDecision (signals : List RuntimeSafetySignal) : ScannerDecision :=
  makeDecisionFromResolution dates
    ⟨fun asked => mergeSignals dates.toISOString asked provider signals⟩ randomUUID input url
    destination (some resolution)

variable {dates randomUUID input destination resolution url provider}

/-- The provider is asked where the destination is bound and fresh. -/
theorem signalDecision_eq (hbound : resolution.bindingStatus = .bound)
    (hfresh : cacheFreshnessStatus dates resolution input.observedAt = .fresh)
    (signals : List RuntimeSafetySignal) :
    signalDecision dates randomUUID input destination resolution url provider signals
      = makeRuntimeAwareBoundDecision dates randomUUID input destination resolution
        (mergeSignals dates.toISOString (runtimeInput input url resolution) provider signals) := by
  rw [signalDecision, makeDecisionFromResolution, if_neg (not_not_intro hbound)]
  show (if cacheFreshnessStatus dates resolution input.observedAt ≠ .fresh then _ else _) = _
  rw [if_neg (not_not_intro hfresh)]

/-- The color, the state and the score that signals make. -/
theorem signalDecision_outcome (hbound : resolution.bindingStatus = .bound)
    (hfresh : cacheFreshnessStatus dates resolution input.observedAt = .fresh)
    {signals : List RuntimeSafetySignal} (hsignals : ∀ s ∈ signals, 0 ≤ s.riskScoreDelta) :
    let decision := signalDecision dates randomUUID input destination resolution url provider signals
    decision.decisionColor = statusColor (mergedStatus signals)
      ∧ decision.decisionState = statusState (mergedStatus signals)
      ∧ decision.riskScore = max (statusFloor (mergedStatus signals))
        (min 100 (signals.map RuntimeSafetySignal.riskScoreDelta).sum) := by
  intro decision
  have hsum : 0 ≤ (signals.map RuntimeSafetySignal.riskScoreDelta).sum :=
    List.sum_nonneg (List.forall_mem_map.mpr hsignals)
  have hdelta := riskScoreDelta_mergeSignals dates.toISOString (runtimeInput input url resolution)
    provider signals
  have houtcome := runtimeAware_outcome dates randomUUID input destination resolution
    (hdelta ▸ le_min (by norm_num) hsum)
  rw [status_mergeSignals, hdelta, ← signalDecision_eq hbound hfresh] at houtcome
  exact houtcome

end Arms

/-! ## A scan -/

/-- The dates of a cached entry that is in force for the year 2026. -/
def scanDates : DateFunctions where
  parse text :=
    if text = "2026-01-01T00:00:00Z" then some 1767225600000
    else if text = "2027-01-01T00:00:00Z" then some 1798761600000
    else none
  toISOString _ := "2026-06-01T00:00:00.000Z"

/-- A bound destination of an issuer. -/
def scanResolution : DestinationResolution where
  issuer := ⟨⟨"root", "authority", "acme"⟩, "ACME", "verified_business", "policy", ["acme.example"],
    "2026-01-01T00:00:00Z", "2027-01-01T00:00:00Z"⟩
  policy := ⟨⟨"root", "authority", "acme"⟩, "policy", [], ⟨[], [], [], 0, false, false⟩, [], false,
    "2026-01-01T00:00:00Z", "2027-01-01T00:00:00Z"⟩
  destination := ⟨"pay", "https://acme.example/pay", ["acme.example"], false, ["/pay"], "", none⟩
  bindingStatus := .bound
  reasonCodes := ["destination_bound"]

/-- A scan in June. -/
def juneScan : ScannerDecisionInput where
  payload := "https://acme.example/pay"
  observedAt := 1780272000000

theorem scanResolution_fresh :
    cacheFreshnessStatus scanDates scanResolution juneScan.observedAt = .fresh := by
  decide +kernel

/-- What the redirect inspector and the reputation provider report. -/
def scanSignals : List RuntimeSafetySignal :=
  [⟨.unavailable, "redirect", 30, [], ""⟩, ⟨.risky, "reputation", 45, [], ""⟩]

/-- The destination of the scan. -/
def scanDestination : Destination := ⟨"acme.example", "", "https://acme.example/pay", none, none⟩

/-- The page of the scan. -/
def scanUrl : Url := ⟨"https://acme.example/pay", "https:", "", "", "acme.example", "/pay", []⟩

section Fields

variable {dates : DateFunctions} {randomUUID : String} {input : ScannerDecisionInput}
  {destination : Destination} {resolution : DestinationResolution} {url : Url}

/-- The text of a color. -/
def DecisionColor.text : DecisionColor → String
  | .green => "green"
  | .orange => "orange"
  | .red => "red"

/-- The attention level of a state. -/
def attentionLevel (state : String) : Option AttentionLevel :=
  (networkScannerConformanceMapping.lookup state).map Conformance.attentionLevel

/-- The status that the dates of a freshness have at an instant; without dates,
    none applies. -/
def datedStatus (dates : DateFunctions) (freshness : CacheFreshness) (observedAt : Int) :
    CacheFreshnessStatus :=
  match freshness.cacheGeneratedAt, freshness.cacheExpiresAt with
  | some generatedAt, some expiresAt =>
      match dates.parse generatedAt, dates.parse expiresAt with
      | some generated, some expires =>
          if observedAt < generated then .stale
          else if observedAt < expires then .fresh
          else .expired
      | _, _ => .unavailable
  | _, _ => .notApplicable

theorem datedStatus_freshnessOf (status : CacheFreshnessStatus) (observedAt : Int) :
    datedStatus dates (freshnessOf status resolution) observedAt
      = cacheFreshnessStatus dates resolution observedAt := by
  show (match dates.parse resolution.issuer.cacheGeneratedAt,
    dates.parse resolution.issuer.cacheExpiresAt with
    | some generated, some expires =>
        if observedAt < generated then CacheFreshnessStatus.stale
        else if observedAt < expires then .fresh
        else .expired
    | _, _ => .unavailable) = _
  rw [cacheFreshnessStatus]
  cases dates.parse resolution.issuer.cacheGeneratedAt with
  | none => cases dates.parse resolution.issuer.cacheExpiresAt <;> rfl
  | some generated =>
      cases dates.parse resolution.issuer.cacheExpiresAt with
      | none => rfl
      | some expires =>
          show (if observedAt < generated then _ else _) = (if generated > observedAt then _ else _)
          by_cases hstale : observedAt < generated
          · rw [if_pos hstale, if_pos hstale]
          · rw [if_neg hstale, if_neg hstale]
            by_cases hexpired : expires ≤ observedAt
            · rw [if_neg (not_lt.mpr hexpired), if_pos hexpired]
            · rw [if_pos (not_le.mp hexpired), if_neg hexpired]

/-- The fields of a decision agree with each other and with what was resolved; of
    the freshness of a mismatch nothing is said. -/
structure Consistent (dates : DateFunctions) (input : ScannerDecisionInput)
    (resolved : Option DestinationResolution) (decision : ScannerDecision) : Prop where
  color : decision.trustPath.scannerDecision.status = decision.decisionColor.text
  opens : decision.decisionColor = .green ↔ decision.holdToOpen.required = false
  attention : decision.decisionColor = .green ↔
    attentionLevel decision.decisionState = some .positive
  bound : decision.decisionColor = .green → decision.trustPath.destinationBinding.status = "bound"
  governance : decision.governance.isSome ↔ resolved.isSome
  freshness : decision.trustPath.destinationBinding.status ≠ "mismatch" →
    decision.cacheFreshness.status = datedStatus dates decision.cacheFreshness input.observedAt
  notApplicable : resolved = none → decision.cacheFreshness.status = .notApplicable

/-- An arm that holds is not green. -/
theorem green_iff_of_held {color : DecisionColor} (h : color ≠ .green) (reasonCodes : List String) :
    color = .green ↔ (heldFor reasonCodes).required = false :=
  iff_of_false h (Bool.noConfusion : true ≠ false)

/-- An arm on a bound destination that shows the freshness it found. -/
theorem boundDecision_consistent {color : DecisionColor} {state : String}
    {reasonCodes : List String} {riskScore : Rat} {runtimeSafety scannerDecision : TrustStep}
    {holdToOpen : HoldToOpen} (hcolor : scannerDecision.status = color.text)
    (hopens : color = .green ↔ holdToOpen.required = false)
    (hattention : color = .green ↔ attentionLevel state = some .positive) :
    Consistent dates input (some resolution)
      (boundDecision dates randomUUID input destination resolution color state reasonCodes riskScore
        runtimeSafety scannerDecision holdToOpen
        (cacheFreshnessStatus dates resolution input.observedAt)) where
  color := hcolor
  opens := hopens
  attention := hattention
  bound _ := rfl
  governance := Iff.rfl
  freshness _ := (datedStatus_freshnessOf _ _).symm
  notApplicable h := by cases h

/-- The arms that ask the runtime show a fresh cache. -/
theorem runtimeAware_consistent
    (hfresh : cacheFreshnessStatus dates resolution input.observedAt = .fresh)
    (verdict : RuntimeSafetyVerdict) :
    Consistent dates input (some resolution)
      (makeRuntimeAwareBoundDecision dates randomUUID input destination resolution verdict) := by
  simp only [makeRuntimeAwareBoundDecision, makeRedRuntimeBlockedDecision,
    makeOrangeRuntimeCautionDecision, makeGreenDecision, ← hfresh]
  split_ifs with hblocked hcaution hunavailable
  · exact boundDecision_consistent rfl (green_iff_of_held (by decide) _) (by decide)
  · exact boundDecision_consistent rfl (green_iff_of_held (by decide) _) (by decide)
  · exact boundDecision_consistent rfl (green_iff_of_held (by decide) _) (by decide)
  · exact boundDecision_consistent rfl (iff_of_true rfl rfl) (by decide)

/-- **CONSISTENT**: the color is the status of the scanner step; it is green exactly
    without a hold to open, and exactly where the state calls for positive
    attention, and then the destination is bound; a governance projection is there
    exactly where a policy was resolved; and the freshness is that of its own dates
    but where the destination is a mismatch. -/
theorem decision_consistent (runtimeSafety : RuntimeSafetyProvider)
    (resolved : Option DestinationResolution) :
    Consistent dates input resolved
      (makeDecisionFromResolution dates runtimeSafety randomUUID input url destination resolved) := by
  cases resolved with
  | none =>
      exact
        { color := rfl
          opens := green_iff_of_held (by decide : DecisionColor.orange ≠ .green) _
          attention := iff_of_false (by decide : DecisionColor.orange ≠ .green)
            (by decide : attentionLevel "plain_url_unrecognized" ≠ some .positive)
          bound := fun h => by cases h
          governance := Iff.rfl
          freshness := fun _ => rfl
          notApplicable := fun _ => rfl }
  | some resolution =>
      by_cases hbound : resolution.bindingStatus = .bound
      · rw [makeDecisionFromResolution, if_neg (not_not_intro hbound)]
        show Consistent _ _ _
          (if cacheFreshnessStatus dates resolution input.observedAt ≠ .fresh then _ else _)
        by_cases hfresh : cacheFreshnessStatus dates resolution input.observedAt = .fresh
        · rw [if_neg (not_not_intro hfresh)]
          exact runtimeAware_consistent hfresh _
        · rw [if_pos hfresh]
          refine boundDecision_consistent rfl (green_iff_of_held (by decide) _) ?_
          cases cacheFreshnessStatus dates resolution input.observedAt <;> decide
      · rw [makeDecisionFromResolution, if_pos hbound]
        exact
          { color := rfl
            opens := green_iff_of_held (by decide : DecisionColor.red ≠ .green) _
            attention := iff_of_false (by decide : DecisionColor.red ≠ .green)
              (by decide : attentionLevel "destination_policy_mismatch" ≠ some .positive)
            bound := fun h => by cases h
            governance := Iff.rfl
            freshness := fun h => absurd rfl h
            notApplicable := fun h => by cases h }

end Fields

/-- **BOUND, NOT GREEN**: a risky runtime verdict on a bound and fresh destination
    makes an orange decision that holds. -/
theorem bound_not_green :
    let decision := makeDecisionFromResolution scanDates
      ⟨fun asked => mergeSignals scanDates.toISOString asked "" scanSignals⟩ "scan" juneScan scanUrl
      scanDestination (some scanResolution)
    ¬ (decision.trustPath.destinationBinding.status = "bound" → decision.decisionColor = .green) := by
  intro decision hgreen
  have hdecision : decision = makeOrangeRuntimeCautionDecision scanDates "scan" juneScan
      scanDestination scanResolution (mergeSignals scanDates.toISOString
        (runtimeInput juneScan scanUrl scanResolution) "" scanSignals) :=
    (signalDecision_eq rfl scanResolution_fresh scanSignals).trans rfl
  rw [hdecision] at hgreen
  exact absurd (hgreen rfl) (by decide : DecisionColor.orange ≠ .green)

end ScannerDecisions
