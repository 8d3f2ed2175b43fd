import QrTrust.Network.SignatureVerification

/-! # The one key that decides

    The lookup filters the keys of a registry four times and commits to the
    first key that passes.  The verifier asks Ed25519 about that key and about
    no other, so an artifact is accepted exactly when the first usable key
    verifies it (`accepts_iff`). -/

namespace SignatureAcceptance

open TrustKeys SignatureVerification

variable {host : SignatureHost} {keyMaterial : KeyMaterialProvider}
  {keys : List TrustKeyRecord} {artifact : JsonValue}

/-! ## The lookup is a search -/

/-- **USABLE**: the key belongs to the signer under the root, is in scope, is of
    an accepted algorithm, and is active. -/
def usableKey (input : TrustKeyLookupInput) (key : TrustKeyRecord) : Bool :=
  (key.signerId = input.signedBy && key.rootProgramId = input.rootProgramId)
    && (keyMatchesScope key input
      && (input.acceptedAlgorithmIds.contains key.algorithmId && key.status = .active))

theorem usableKey_iff {input : TrustKeyLookupInput} {key : TrustKeyRecord} :
    usableKey input key = true ↔
      key.signerId = input.signedBy ∧ key.rootProgramId = input.rootProgramId
        ∧ keyMatchesScope key input = true ∧ key.algorithmId ∈ input.acceptedAlgorithmIds
        ∧ key.status = .active := by
  simp only [usableKey, Bool.and_eq_true, decide_eq_true_eq, List.contains_iff_mem, and_assoc]

/-- Searching the last of the four filtered lists is searching the keys. -/
theorem find?_usableKey (input : TrustKeyLookupInput) :
    keys.find? (usableKey input)
      = (((keys.filter fun key =>
            key.signerId = input.signedBy && key.rootProgramId = input.rootProgramId).filter
          fun key => keyMatchesScope key input).filter
        fun key => input.acceptedAlgorithmIds.contains key.algorithmId).find?
          fun key => key.status = .active := by
  rw [List.find?_filter, List.find?_filter, List.find?_filter]
  refine congrArg (fun p => keys.find? p) (funext fun key => ?_)
  rw [usableKey, Bool.eq_iff_iff]
  simp only [Bool.and_eq_true, decide_eq_true_eq]

/-- **THE LOOKUP**: it answers without a reason exactly when some key is usable,
    and then with the first one. -/
theorem selectTrustKeyForLookup_some {input : TrustKeyLookupInput} {key : TrustKeyRecord}
    (h : keys.find? (usableKey input) = some key) :
    selectTrustKeyForLookup keys input = { key := some key } := by
  rw [find?_usableKey] at h
  rw [selectTrustKeyForLookup]
  -- something was found in the last list, so none of the three before it is empty
  split
  · rename_i hcandidates
    rw [hcandidates] at h
    cases h
  · dsimp only
    split
    · rename_i hscoped
      rw [hscoped] at h
      cases h
    · split
      · rename_i halgorithm
        rw [halgorithm] at h
        cases h
      · rw [h]

theorem selectTrustKeyForLookup_none {input : TrustKeyLookupInput}
    (h : keys.find? (usableKey input) = none) :
    (selectTrustKeyForLookup keys input).reason ≠ none := by
  rw [find?_usableKey] at h
  rw [selectTrustKeyForLookup]
  split
  · simp
  · dsimp only
    split
    · simp
    · split
      · simp
      · rw [h]
        simp

/-! ## Acceptance -/

/-- **SUPPORTED**: the algorithm and the signature input the artifact declares
    are the supported ones. -/
structure Supported (artifact : JsonValue) : Prop where
  algorithm : artifact.stringField "signature_algorithm_id" = some "ed25519"
  input : artifact.stringField "signature_input" = some trustSignatureInput

/-- **VERIFIES**: the artifact carries a signature, and Ed25519 accepts it under
    the material of the key. -/
def Verifies (host : SignatureHost) (keyMaterial : KeyMaterialProvider) (artifact : JsonValue)
    (key : TrustKeyRecord) : Prop :=
  ∃ signature publicKeyPem, (artifact.prop "signature").filter truthyValue = some signature
    ∧ keyMaterial key = .ok (some publicKeyPem)
    ∧ host.verifyEd25519 publicKeyPem (trustSignaturePayload host artifact) signature = true

/-- **USABLE FOR AN ARTIFACT**: usable for the lookup the artifact leads to. -/
def usableFor (artifact : JsonValue) (key : TrustKeyRecord) : Bool :=
  ((acceptedAlgorithmIds artifact).bind (lookupInput artifact)).any fun input =>
    usableKey input key

theorem usableFor_eq {input : TrustKeyLookupInput}
    (h : (acceptedAlgorithmIds artifact).bind (lookupInput artifact) = some input) :
    usableFor artifact = usableKey input := by
  funext key
  rw [usableFor, h]
  rfl

/-- **ACCEPTS**: the verifier over these keys accepts the artifact. -/
def Accepts (host : SignatureHost) (keys : List TrustKeyRecord)
    (keyMaterial : KeyMaterialProvider) (artifact : JsonValue) : Prop :=
  ∃ reason, verifyTrustArtifact host (selectTrustKeyForLookup keys) keyMaterial artifact
    = .ok ⟨true, reason⟩

/-- The lookup of an artifact, where it names a signer and a root and accepts a
    list of algorithms. -/
theorem lookupSigner_ok {lookup : TrustKeyLookupInput → TrustKeyLookupResult}
    {input : TrustKeyLookupInput}
    (h : (acceptedAlgorithmIds artifact).bind (lookupInput artifact) = some input) :
    lookupSigner lookup artifact = .ok (lookup input) := by
  obtain ⟨accepted, haccepted, hinput⟩ := Option.bind_eq_some_iff.mp h
  rw [lookupSigner, haccepted]
  dsimp only
  rw [hinput]
  rfl

/-- A lookup that accepts no algorithm finds no usable key. -/
theorem find?_usableKey_nil {input : TrustKeyLookupInput}
    (h : input.acceptedAlgorithmIds = []) : keys.find? (usableKey input) = none := by
  refine List.find?_eq_none.mpr fun key _ husable => ?_
  obtain ⟨-, -, -, halgorithm, -⟩ := usableKey_iff.mp husable
  rw [h] at halgorithm
  exact absurd halgorithm List.not_mem_nil

/-- Without that, the lookup finds no key. -/
theorem lookupSigner_reason {found : TrustKeyLookupResult}
    (hinput : (acceptedAlgorithmIds artifact).bind (lookupInput artifact) = none)
    (h : lookupSigner (selectTrustKeyForLookup keys) artifact = .ok found) :
    found.reason ≠ none := by
  rw [lookupSigner] at h
  cases haccepted : acceptedAlgorithmIds artifact with
  | some accepted =>
      rw [haccepted] at hinput h
      dsimp only at h
      have hnone : lookupInput artifact accepted = none := hinput
      rw [hnone] at h
      obtain rfl := Except.ok.inj h
      exact Option.some_ne_none _
  | none =>
      rw [haccepted] at h
      dsimp only at h
      -- the throwing branch answers nothing; the other answers what the lookup found
      split at h
      · cases h
      · obtain rfl := Except.ok.inj h
        cases hlookup : lookupInput artifact [] with
        | none => exact Option.some_ne_none _
        | some input =>
            have hnil : input.acceptedAlgorithmIds = [] := by
              obtain ⟨_, -, hroot⟩ := Option.bind_eq_some_iff.mp hlookup
              obtain ⟨_, -, heq⟩ := Option.bind_eq_some_iff.mp hroot
              rw [← Option.some.inj heq]
            exact selectTrustKeyForLookup_none (find?_usableKey_nil hnil)

/-- Where some key is usable, the verifier gets the first one. -/
theorem lookupSigner_usable {key : TrustKeyRecord}
    (h : keys.find? (usableFor artifact) = some key) :
    lookupSigner (selectTrustKeyForLookup keys) artifact = .ok { key := some key } := by
  cases hinput : (acceptedAlgorithmIds artifact).bind (lookupInput artifact) with
  | none =>
      have husable := List.find?_some h
      rw [usableFor, hinput] at husable
      cases husable
  | some input =>
      rw [usableFor_eq hinput] at h
      rw [lookupSigner_ok hinput, selectTrustKeyForLookup_some h]

/-- Where no key is usable, the lookup gives a reason or throws. -/
theorem lookupSigner_unusable {found : TrustKeyLookupResult}
    (h : keys.find? (usableFor artifact) = none)
    (hfound : lookupSigner (selectTrustKeyForLookup keys) artifact = .ok found) :
    found.reason ≠ none := by
  cases hinput : (acceptedAlgorithmIds artifact).bind (lookupInput artifact) with
  | none => exact lookupSigner_reason hinput hfound
  | some input =>
      rw [usableFor_eq hinput] at h
      rw [lookupSigner_ok hinput] at hfound
      obtain rfl := Except.ok.inj hfound
      exact selectTrustKeyForLookup_none h

/-- A rejection is no acceptance. -/
theorem not_accepted {reason : String} :
    ¬ ∃ reason', (Except.ok ⟨false, reason⟩ : Except String VerifierSync.SignatureVerificationResult)
      = .ok ⟨true, reason'⟩ := by
  rintro ⟨reason', h⟩
  cases h

/-- After a lookup without a reason, the verifier checks what the artifact
    declares and asks about the key it was given. -/
theorem verifyTrustArtifact_usable {lookup : TrustKeyLookupInput → TrustKeyLookupResult}
    {key : TrustKeyRecord} (h : lookupSigner lookup artifact = .ok { key := some key }) :
    (∃ reason, verifyTrustArtifact host lookup keyMaterial artifact = .ok ⟨true, reason⟩) ↔
      Supported artifact ∧ Verifies host keyMaterial artifact key := by
  rw [verifyTrustArtifact, h]
  dsimp only
  by_cases halgorithm : artifact.stringField "signature_algorithm_id" = some "ed25519"
  case neg =>
    rw [if_pos halgorithm]
    exact iff_of_false not_accepted fun hright => halgorithm hright.1.algorithm
  rw [if_neg (not_not.mpr halgorithm)]
  by_cases hinput : artifact.stringField "signature_input" = some trustSignatureInput
  case neg =>
    rw [if_pos hinput]
    exact iff_of_false not_accepted fun hright => hinput hright.1.input
  rw [if_neg (not_not.mpr hinput)]
  -- what is declared is supported: the signature, the material and the check remain
  rw [and_iff_right ⟨halgorithm, hinput⟩, Verifies]
  cases (artifact.prop "signature").filter truthyValue with
  | none => exact iff_of_false not_accepted (by simp)
  | some signature =>
      cases keyMaterial key with
      | error cause => exact iff_of_false (by simp) (by simp)
      | ok material =>
          cases material with
          | none => exact iff_of_false not_accepted (by simp)
          | some publicKeyPem =>
              dsimp only
              cases hverify :
                  host.verifyEd25519 publicKeyPem (trustSignaturePayload host artifact) signature with
              | false =>
                  rw [if_neg Bool.false_ne_true]
                  refine iff_of_false not_accepted ?_
                  rintro ⟨signature', pem, hsignature, hpem, hverified⟩
                  obtain rfl := Option.some.inj hsignature
                  obtain rfl := Option.some.inj (Except.ok.inj hpem)
                  exact Bool.false_ne_true (hverify.symm.trans hverified)
              | true =>
                  rw [if_pos rfl]
                  exact iff_of_true ⟨_, rfl⟩ ⟨signature, publicKeyPem, rfl, rfl, hverify⟩

/-- **ACCEPTANCE**: an artifact is accepted exactly when it declares what is
    supported and the first usable key verifies it. -/
theorem accepts_iff :
    Accepts host keys keyMaterial artifact ↔
      Supported artifact ∧ ∃ key, keys.find? (usableFor artifact) = some key
        ∧ Verifies host keyMaterial artifact key := by
  cases hfind : keys.find? (usableFor artifact) with
  | some key =>
      rw [Accepts, verifyTrustArtifact_usable (lookupSigner_usable hfind)]
      simp only [Option.some.injEq, exists_eq_left']
  | none =>
      refine iff_of_false ?_ (by simp)
      rintro ⟨reason, hresult⟩
      rw [verifyTrustArtifact] at hresult
      cases hfound : lookupSigner (selectTrustKeyForLookup keys) artifact with
      | error cause =>
          rw [hfound] at hresult
          cases hresult
      | ok found =>
          obtain ⟨lookupReason, hreason⟩ :=
            Option.ne_none_iff_exists'.mp (lookupSigner_unusable hfind hfound)
          rw [hfound] at hresult
          dsimp only at hresult
          rw [hreason] at hresult
          cases hresult

end SignatureAcceptance
