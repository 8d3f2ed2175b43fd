import QrTrust.Lib.Fallible
import Mathlib.Data.List.Dedup
import QrTrust.Backend.ScannerUx

/-! # Hints only raise the risk

    Each hint of the client is a condition under which points are added
    (`hostRisk_mono`), so a decision is shown with at least the risk that it has
    without the hint, and its permission to open is not a matter of presentation
    (`hints_never_lower`). -/

namespace ScannerUx

open Fallible

variable {host : UxHost} {response : ScannerDecisionResponse}

/-! ## Risks -/

/-- One risk is at most another one: its score, and its reasons. -/
structure Risk.Le (a b : Risk) : Prop where
  score : a.score ≤ b.score
  reasonCodes : a.reasonCodes ⊆ b.reasonCodes

theorem Risk.Le.refl (a : Risk) : a.Le a := ⟨Nat.le_refl _, List.Subset.refl _⟩

/-- Points added under a condition, to more risk and under a weaker condition, are
    more risk. -/
theorem Risk.Le.addIf {a b : Risk} (h : a.Le b) {c d : Bool} (hcd : c = true → d = true)
    (points : Nat) (reason : String) : (a.addIf c points reason).Le (b.addIf d points reason) := by
  cases c with
  | false =>
      cases d with
      | false => exact h
      | true =>
          exact ⟨Nat.le_trans h.score (Nat.le_add_right _ _),
            fun _ hcode => List.mem_append_left _ (h.reasonCodes hcode)⟩
  | true =>
      rw [hcd rfl]
      refine ⟨Nat.add_le_add_right h.score points, fun code hcode => ?_⟩
      rcases List.mem_append.mp hcode with hcode | hcode
      · exact List.mem_append_left _ (h.reasonCodes hcode)
      · exact List.mem_append_right _ hcode

/-! ## Sets of hosts -/

theorem mem_identitiesOf {values identities : List String}
    (h : identitiesOf host values = .ok identities) {identity : String} :
    identity ∈ identities
      ↔ ∃ value ∈ values, ∃ set, hostIdentitySet host (some value) = .ok set ∧ identity ∈ set := by
  obtain ⟨sets, hsets, h⟩ := bind_eq_ok_iff.mp h
  obtain rfl := Except.ok.inj h
  rw [List.mem_flatten]
  constructor
  · rintro ⟨set, hset, hidentity⟩
    obtain ⟨value, hvalue, hof⟩ := exists_source_of_mapM_eq_ok hsets hset
    exact ⟨value, hvalue, set, hof, hidentity⟩
  · rintro ⟨value, hvalue, set, hof, hidentity⟩
    obtain ⟨set', hset', hof'⟩ := exists_of_mapM_eq_ok hsets hvalue
    obtain rfl := Except.ok.inj (hof.symm.trans hof')
    exact ⟨set, hset', hidentity⟩

/-- More hosts have more identities. -/
theorem identitiesOf_subset {fewer more identities₀ identities : List String} (hsubset : fewer ⊆ more)
    (h₀ : identitiesOf host fewer = .ok identities₀) (h : identitiesOf host more = .ok identities) :
    identities₀ ⊆ identities := by
  intro identity hidentity
  obtain ⟨value, hvalue, hof⟩ := (mem_identitiesOf h₀).mp hidentity
  exact (mem_identitiesOf h).mpr ⟨value, hsubset hvalue, hof⟩

theorem intersects_mono {a b b' : List String} (hsubset : b ⊆ b') (h : intersects a b = true) :
    intersects a b' = true := by
  obtain ⟨item, hitem, hmem⟩ := List.any_eq_true.mp h
  exact List.any_eq_true.mpr ⟨item, hitem, decide_eq_true (hsubset (of_decide_eq_true hmem))⟩

theorem anyM_eq_false {α ε : Type} {p : α → Except ε Bool} {l : List α} {b : Bool}
    (hp : ∀ a c, p a = .ok c → c = false) (h : l.anyM p = .ok b) : b = false := by
  induction l with
  | nil => exact (Except.ok.inj h).symm
  | cons a l ih =>
      rw [List.anyM] at h
      obtain ⟨c, hc, h⟩ := bind_eq_ok_iff.mp h
      obtain rfl := hp a c hc
      exact ih h

/-! ## Leaving hints out -/

/-- The first request gives no more hints than the second one: fewer hosts, and
    each of the other hints not at all or as the second one does. -/
structure LeavesOut (fewer more : Option ScannerDecisionRequest) : Prop where
  displayText : fewer.bind ScannerDecisionRequest.displayText = none
    ∨ fewer.bind ScannerDecisionRequest.displayText = more.bind ScannerDecisionRequest.displayText
  priorOpenedHosts : fewer.bind ScannerDecisionRequest.priorOpenedHosts = none
    ∨ fewer.bind ScannerDecisionRequest.priorOpenedHosts
      = more.bind ScannerDecisionRequest.priorOpenedHosts
  knownBadHosts : (fewer.map ScannerDecisionRequest.knownBadHosts).getD []
    ⊆ (more.map ScannerDecisionRequest.knownBadHosts).getD []
  newlyRegisteredHosts : (fewer.map ScannerDecisionRequest.newlyRegisteredHosts).getD []
    ⊆ (more.map ScannerDecisionRequest.newlyRegisteredHosts).getD []
  domainAgeDays : (fewer.map ScannerDecisionRequest.domainAgeDays).getD [] = []
    ∨ (fewer.map ScannerDecisionRequest.domainAgeDays).getD []
      = (more.map ScannerDecisionRequest.domainAgeDays).getD []

/-- No hints at all. -/
theorem leavesOut_none (more : Option ScannerDecisionRequest) : LeavesOut none more where
  displayText := .inl rfl
  priorOpenedHosts := .inl rfl
  knownBadHosts := List.nil_subset _
  newlyRegisteredHosts := List.nil_subset _
  domainAgeDays := .inl rfl

variable {fewer more : Option ScannerDecisionRequest} {identities : List String}

/-! ## One hint at a time -/

theorem caption_mono (hleaves : LeavesOut fewer more) {captions₀ captions : List String}
    (h₀ : captionDomains host (fewer.bind ScannerDecisionRequest.displayText) = .ok captions₀)
    (h : captionDomains host (more.bind ScannerDecisionRequest.displayText) = .ok captions)
    (hadds : (captions₀ ≠ [] && identities ≠ [] && !intersects captions₀ identities) = true) :
    (captions ≠ [] && identities ≠ [] && !intersects captions identities) = true := by
  rcases hleaves.displayText with hnone | hsame
  · rw [hnone] at h₀
    obtain rfl := Except.ok.inj h₀
    exact absurd hadds (by simp)
  · rw [hsame] at h₀
    obtain rfl := Except.ok.inj (h₀.symm.trans h)
    exact hadds

theorem gated_subset {allowHints : Bool} {hosts hosts' : List String} (hsubset : hosts ⊆ hosts') :
    (if allowHints then hosts else []) ⊆ if allowHints then hosts' else [] := by
  cases allowHints with
  | false => exact List.Subset.refl _
  | true => exact hsubset

/-- Without ages, no domain has one. -/
theorem domainAgeForHost_of_nil {value : String} {age : Option Int}
    (hnone : (fewer.map ScannerDecisionRequest.domainAgeDays).getD [] = [])
    (h : domainAgeForHost host fewer value = .ok age) : age = none := by
  cases fewer with
  | none => exact (Except.ok.inj h).symm
  | some request =>
      obtain ⟨identities, -, h⟩ := bind_eq_ok_iff.mp h
      obtain rfl := Except.ok.inj h
      have hages : request.domainAgeDays = [] := hnone
      rw [hages]
      exact List.findSome?_eq_none_iff.mpr fun _ _ => rfl

/-- Ages that are known are read in one way. -/
theorem domainAgeForHost_congr
    (hsome : (fewer.map ScannerDecisionRequest.domainAgeDays).getD [] ≠ [])
    (hsame : (fewer.map ScannerDecisionRequest.domainAgeDays).getD []
      = (more.map ScannerDecisionRequest.domainAgeDays).getD []) :
    domainAgeForHost host fewer = domainAgeForHost host more := by
  cases fewer with
  | none => exact absurd rfl hsome
  | some request =>
      cases more with
      | none => exact absurd hsame hsome
      | some request' =>
          have hages : request.domainAgeDays = request'.domainAgeDays := hsame
          funext value
          rw [domainAgeForHost, domainAgeForHost]
          simp only [hages]

theorem newDomain_mono {allowHints : Bool} (hleaves : LeavesOut fewer more)
    {newly₀ newly : List String} (hsubset : newly₀ ⊆ newly) {b₀ b : Bool}
    (h₀ : hasNewDomain host allowHints fewer identities newly₀ = .ok b₀)
    (h : hasNewDomain host allowHints more identities newly = .ok b) (hnew : b₀ = true) :
    b = true := by
  subst hnew
  rw [hasNewDomain] at h
  split at h
  · exact (Except.ok.inj h).symm
  rename_i hnone
  rw [hasNewDomain, if_neg fun hsome => hnone (intersects_mono hsubset hsome)] at h₀
  split at h₀
  · cases Except.ok.inj h₀
  rename_i hallow
  rw [if_neg hallow] at h
  by_cases hempty : (fewer.map ScannerDecisionRequest.domainAgeDays).getD [] = []
  · -- the age of a domain is not known without the hints
    have hfalse := anyM_eq_false (fun identity c hc => by
      obtain ⟨age, hage, hc⟩ := bind_eq_ok_iff.mp hc
      rw [domainAgeForHost_of_nil hempty hage] at hc
      exact (Except.ok.inj hc).symm) h₀
    cases hfalse
  · have hsame := hleaves.domainAgeDays.resolve_left hempty
    rw [domainAgeForHost_congr hempty hsame] at h₀
    exact Except.ok.inj (h.symm.trans h₀)

theorem netNew_mono {allowHints : Bool} (hleaves : LeavesOut fewer more) {b₀ b : Bool}
    (h₀ : isNetNew host allowHints fewer identities = .ok b₀)
    (h : isNetNew host allowHints more identities = .ok b) (hnew : b₀ = true) : b = true := by
  subst hnew
  rw [isNetNew] at h₀ h
  rcases hleaves.priorOpenedHosts with hnone | hsame
  · rw [hnone] at h₀
    cases Except.ok.inj h₀
  · rw [hsame] at h₀
    exact Except.ok.inj (h.symm.trans h₀)

/-- **HINTS**: what the hosts of the destination add is at least what they add with
    fewer hints. -/
theorem hostRisk_mono (hleaves : LeavesOut fewer more) {risk risk₀ risk₁ : Risk}
    (h₀ : hostRisk host response fewer identities risk = .ok risk₀)
    (h₁ : hostRisk host response more identities risk = .ok risk₁) : risk₀.Le risk₁ := by
  obtain ⟨captions₀, hcaptions₀, h₀⟩ := bind_eq_ok_iff.mp h₀
  obtain ⟨knownBad₀, hknownBad₀, h₀⟩ := bind_eq_ok_iff.mp h₀
  obtain ⟨newly₀, hnewly₀, h₀⟩ := bind_eq_ok_iff.mp h₀
  obtain ⟨new₀, hnew₀, h₀⟩ := bind_eq_ok_iff.mp h₀
  obtain ⟨net₀, hnet₀, h₀⟩ := bind_eq_ok_iff.mp h₀
  obtain rfl := Except.ok.inj h₀
  obtain ⟨captions, hcaptions, h₁⟩ := bind_eq_ok_iff.mp h₁
  obtain ⟨knownBad, hknownBad, h₁⟩ := bind_eq_ok_iff.mp h₁
  obtain ⟨newly, hnewly, h₁⟩ := bind_eq_ok_iff.mp h₁
  obtain ⟨new, hnew, h₁⟩ := bind_eq_ok_iff.mp h₁
  obtain ⟨net, hnet, h₁⟩ := bind_eq_ok_iff.mp h₁
  obtain rfl := Except.ok.inj h₁
  have hbad : knownBad₀ ++ localKnownBadScannerDomains ⊆ knownBad ++ localKnownBadScannerDomains := by
    have hsubset := identitiesOf_subset (gated_subset hleaves.knownBadHosts) hknownBad₀ hknownBad
    intro domain hdomain
    rcases List.mem_append.mp hdomain with hdomain | hdomain
    · exact List.mem_append_left _ (hsubset hdomain)
    · exact List.mem_append_right _ hdomain
  have hregistered : newly₀ ⊆ newly :=
    identitiesOf_subset (gated_subset hleaves.newlyRegisteredHosts) hnewly₀ hnewly
  refine Risk.Le.addIf ?_ (netNew_mono hleaves hnet₀ hnet) 10 _
  refine Risk.Le.addIf ?_ (newDomain_mono hleaves hregistered hnew₀ hnew) 35 _
  refine Risk.Le.addIf ?_ (intersects_mono hbad) 35 _
  exact Risk.Le.addIf (Risk.Le.refl _) (caption_mono hleaves hcaptions₀ hcaptions) 25 _

/-- Without hints nothing about the client's hosts can fail. -/
theorem exists_hostRisk_none (identities : List String) (risk : Risk) :
    ∃ risk₀, hostRisk host response none identities risk = .ok risk₀ := by
  have hnoHosts : identitiesOf host
      (if allowClientDomainHints response then ([] : List String) else []) = .ok [] := by
    rw [ite_self]
    rfl
  have hages : ∀ l : List String, l.anyM (fun identity => do
      let ageDays ← domainAgeForHost host none identity
      return ageDays.any fun ageDays => decide (ageDays ≤ 14)) = .ok false := by
    intro l
    induction l with
    | nil => rfl
    | cons identity l ih => exact ih
  have hnew : hasNewDomain host (allowClientDomainHints response) none identities []
      = .ok false := by
    rw [hasNewDomain, if_neg (by simp [intersects])]
    split
    · rfl
    · exact hages _
  exact ⟨_, bind_eq_ok_iff.mpr ⟨[], rfl, bind_eq_ok_iff.mpr ⟨[], hnoHosts,
    bind_eq_ok_iff.mpr ⟨[], hnoHosts, bind_eq_ok_iff.mpr ⟨false, hnew,
      bind_eq_ok_iff.mpr ⟨false, rfl, rfl⟩⟩⟩⟩⟩⟩

/-! ## Presentation -/

/-- More to show: a higher score, a higher level, more reasons, and a hold where
    there was one. -/
structure ScannerDecisionUX.Le (a b : ScannerDecisionUX) : Prop where
  riskScore : a.riskScore ≤ b.riskScore
  riskLevel : scannerUxAttentionRank a.riskLevel ≤ scannerUxAttentionRank b.riskLevel
  reasonCodes : a.reasonCodes ⊆ b.reasonCodes
  holdRequired : a.holdRequired = true → b.holdRequired = true

theorem riskLevel_mono {a b : Nat} (h : a ≤ b) :
    scannerUxAttentionRank (riskLevel a) ≤ scannerUxAttentionRank (riskLevel b) := by
  rw [riskLevel, riskLevel]
  by_cases hred : 60 ≤ a
  · rw [if_pos hred, if_pos (Nat.le_trans hred h)]
  · rw [if_neg hred]
    by_cases hamber : 30 ≤ a
    · rw [if_pos hamber]
      split
      · decide
      · rw [if_pos (Nat.le_trans hamber h)]
    · rw [if_neg hamber]
      exact Nat.zero_le _

theorem presentation_mono {risk₀ risk : Risk} (h : risk₀.Le risk) :
    (presentation host response risk₀).Le (presentation host response risk) := by
  have hscore : min risk₀.score 100 ≤ min risk.score 100 := by
    have := h.score
    omega
  refine ⟨hscore, riskLevel_mono hscore, fun code hcode => ?_, fun hhold => ?_⟩
  · rw [presentation, List.mem_mergeSort, List.mem_dedup] at hcode ⊢
    exact h.reasonCodes hcode
  · rw [presentation, Bool.and_eq_true, decide_eq_true_iff] at hhold ⊢
    exact ⟨hhold.1, Nat.le_trans hhold.2 hscore⟩

/-- **MONOTONE**: fewer hints show no more than more hints. -/
theorem scannerUx_mono (hleaves : LeavesOut fewer more) {ux₀ ux : ScannerDecisionUX}
    (h₀ : scannerUxForResponse host response fewer = .ok ux₀)
    (h : scannerUxForResponse host response more = .ok ux) : ux₀.Le ux := by
  obtain ⟨risk, hrisk, h⟩ := bind_eq_ok_iff.mp h
  obtain ⟨hosts, hhosts, h⟩ := bind_eq_ok_iff.mp h
  obtain ⟨identities, hidentities, h⟩ := bind_eq_ok_iff.mp h
  obtain ⟨risk₁, hrisk₁, h⟩ := bind_eq_ok_iff.mp h
  obtain rfl := Except.ok.inj h
  obtain ⟨risk', hrisk', h₀⟩ := bind_eq_ok_iff.mp h₀
  obtain rfl := Except.ok.inj (hrisk.symm.trans hrisk')
  obtain ⟨hosts', hhosts', h₀⟩ := bind_eq_ok_iff.mp h₀
  obtain rfl := Except.ok.inj (hhosts.symm.trans hhosts')
  obtain ⟨identities', hidentities', h₀⟩ := bind_eq_ok_iff.mp h₀
  obtain rfl := Except.ok.inj (hidentities.symm.trans hidentities')
  obtain ⟨risk₀, hrisk₀, h₀⟩ := bind_eq_ok_iff.mp h₀
  obtain rfl := Except.ok.inj h₀
  exact presentation_mono (hostRisk_mono hleaves hrisk₀ hrisk₁)

/-- What is shown with hints can be shown without them. -/
theorem exists_scannerUx_none {ux : ScannerDecisionUX}
    (h : scannerUxForResponse host response more = .ok ux) :
    ∃ ux₀, scannerUxForResponse host response none = .ok ux₀ := by
  obtain ⟨risk, hrisk, h⟩ := bind_eq_ok_iff.mp h
  obtain ⟨hosts, hhosts, h⟩ := bind_eq_ok_iff.mp h
  obtain ⟨identities, hidentities, -⟩ := bind_eq_ok_iff.mp h
  obtain ⟨risk₀, hrisk₀⟩ := @exists_hostRisk_none host response identities risk
  exact ⟨_, bind_eq_ok_iff.mpr ⟨risk, hrisk, bind_eq_ok_iff.mpr ⟨hosts, hhosts,
    bind_eq_ok_iff.mpr ⟨identities, hidentities, bind_eq_ok_iff.mpr ⟨risk₀, hrisk₀, rfl⟩⟩⟩⟩⟩

theorem openAllowed_withScannerUx {request : Option ScannerDecisionRequest}
    {decorated : ScannerDecisionResponse} (h : withScannerUx host response request = .ok decorated) :
    decorated.openAllowed = response.openAllowed := by
  obtain ⟨_, -, h⟩ := bind_eq_ok_iff.mp h
  obtain ⟨_, -, h⟩ := bind_eq_ok_iff.mp h
  obtain rfl := Except.ok.inj h
  rfl

/-- **HINTS NEVER LOWER THE RISK**: with hints, a decision is shown with at least
    the score and the attention it has without any of them, and with at least
    those it has with some of them; no hint changes whether it may be opened. -/
theorem hints_never_lower (host : UxHost) (response : ScannerDecisionResponse)
    (request : Option ScannerDecisionRequest) :
    (∀ ux, scannerUxForResponse host response request = .ok ux →
      ∃ ux₀, scannerUxForResponse host response none = .ok ux₀ ∧ ux₀.riskScore ≤ ux.riskScore
        ∧ scannerUxAttentionRank ux₀.riskLevel ≤ scannerUxAttentionRank ux.riskLevel)
    ∧ (∀ fewer ux₀ ux, LeavesOut fewer request →
      scannerUxForResponse host response fewer = .ok ux₀ →
        scannerUxForResponse host response request = .ok ux → ux₀.riskScore ≤ ux.riskScore
          ∧ scannerUxAttentionRank ux₀.riskLevel ≤ scannerUxAttentionRank ux.riskLevel)
    ∧ ∀ decorated, withScannerUx host response request = .ok decorated →
      decorated.openAllowed = response.openAllowed := by
  refine ⟨?_, ?_, fun _ => openAllowed_withScannerUx⟩
  · intro ux h
    obtain ⟨ux₀, h₀⟩ := exists_scannerUx_none h
    have hle := scannerUx_mono (leavesOut_none request) h₀ h
    exact ⟨ux₀, h₀, hle.riskScore, hle.riskLevel⟩
  · intro fewer ux₀ ux hleaves h₀ h
    have hle := scannerUx_mono hleaves h₀ h
    exact ⟨hle.riskScore, hle.riskLevel⟩

/-! ## A plain link -/

/-- A host that knows one URL. -/
def payUxHost : UxHost where
  py :=
    { lower := id
      repr := id
      reprList := fun _ => ""
      encodeIdna := .ok
      urlsplit := fun _ => .error ""
      urlparse := fun url =>
        if url = "https://pay.example/" then
          .ok ⟨"https", none, none, some "pay.example", .ok none, "/", ""⟩
        else .ok ⟨"", none, none, none, .ok none, url, ""⟩
      isDigit := Char.isDigit
      parseQsl := fun _ => []
      fromisoformat := fun _ => none
      loadsPemPublicKey := fun _ => false
      verifiesRsaPss := fun _ _ _ => false
      sha256 := id }
  isdigit := Char.isDigit
  domainTexts text := [text]
  iterate := id

/-- The decision about a payload that is a plain link. -/
def payResponse : ScannerDecisionResponse where
  decisionState := .unverified
  openAllowed := true
  modelAttention := .warning
  destination := ⟨"https://pay.example/", some "pay.example", "unsigned", none, none, none⟩
  signals := []
  verifierStage := "signed_schema"
  scannerUx := none

/-- A client that takes the host for a new and a bad one. -/
def payHints : ScannerDecisionRequest where
  displayText := some "shop.example"
  knownBadHosts := ["pay.example"]
  domainAgeDays := [("pay.example", 3)]

theorem hints_never_lower_pay :
    ∃ ux, scannerUxForResponse payUxHost payResponse (some payHints) = .ok ux
      ∧ ∃ ux₀, scannerUxForResponse payUxHost payResponse none = .ok ux₀
        ∧ ux₀.riskScore ≤ ux.riskScore
        ∧ scannerUxAttentionRank ux₀.riskLevel ≤ scannerUxAttentionRank ux.riskLevel := by
  have hshown : (scannerUxForResponse payUxHost payResponse (some payHints)).isOk = true := by
    decide +kernel
  obtain ⟨ux, hux⟩ := exists_ok_of_isOk hshown
  exact ⟨ux, hux, (hints_never_lower payUxHost payResponse (some payHints)).1 ux hux⟩

end ScannerUx
