import QrTrust.Network.BundleArtifactProofs
import QrTrust.Network.PublishedPolicyProofs

/-! # Which bundles keep resolving

    A manifest replaces what stood before: publishing a bundle withdraws every
    other authority of the root and every other issuer of the authority.  A
    bundle keeps resolving as long as later publications share its authority and
    issuer (`bundles_keep_resolving`). -/

namespace BundlePublication

open VerifierCache VerifierSync SyncAcceptance SigningCustody GovernancePublication
  GovernancePublicationSource PublishedPolicy TrustFact

variable {planning : PlanningHost} {signing : SigningHost} {root : String}
  {verify : Option TrustKeys.TrustKeyRegistry → JsonValue → SignatureVerificationResult}
  {sync : SyncState} {run : List (Publication planning signing root)}
  {p q : Publication planning signing root} {bundle : DestinationPolicyKey} {cache : Cache}

/-! ## Bundles in the cache -/

/-- The key of a bundle's record and policy. -/
def cacheKey (bundle : DestinationPolicyKey) : String :=
  verifierCachePolicyKey bundle.ns bundle.destinationPolicyId

/-- A policy of the bundle stands under its key. -/
def BundlePolicyStands (bundle : DestinationPolicyKey) (cache : Cache) : Prop :=
  ∃ policy, PolicyStands policy cache ∧ policy.ns = bundle.ns
    ∧ policy.destinationPolicyId = bundle.destinationPolicyId

/-- **ARRIVED**: the verifier has taken over all four artifacts of the bundle. -/
structure Arrived (bundle : DestinationPolicyKey) (cache : Cache) : Prop where
  authority : AuthorityActive bundle.ns.rootProgramId bundle.ns.delegatedAuthorityId cache
  issuer : IssuerActive bundle.ns cache
  record : RecordStands bundle.ns (cacheKey bundle) cache
  policy : BundlePolicyStands bundle cache

/-- **RESOLVES**: the resolver's search, once it comes to the bundle's policy for
    a host that the policy allows, answers with the policy and the bundle's
    issuer. -/
def Resolves (bundle : DestinationPolicyKey) (cache : Cache) : Prop :=
  ∃ policy issuer, cache.policiesByKey.get? (cacheKey bundle) = some policy
    ∧ policy.ns = bundle.ns ∧ issuer.ns = bundle.ns
    ∧ ∀ (reader : Reader) (allowsHost : DestinationPolicyProjection → String → Bool)
        (host : String), reader.acceptsRoot bundle.ns.rootProgramId = true →
        allowsHost policy host = true →
        findPolicyMatch reader cache allowsHost host [policy] = some (issuer, policy)

theorem Arrived.resolves (h : Arrived bundle cache) : Resolves bundle cache := by
  obtain ⟨policy, hstands, hns, hid⟩ := h.policy
  obtain ⟨issuer, hissuer, hissuerNs⟩ := h.record
  have hkey : policy.policyKey = cacheKey bundle := by
    rw [DestinationPolicyProjection.policyKey, hns, hid, cacheKey]
  refine ⟨policy, issuer, hkey ▸ hstands, hns, hissuerNs, ?_⟩
  intro reader allowsHost host haccepted hallows
  have hcontext := hasAuthorityContext_iff.mpr ⟨h.authority, h.issuer⟩
  rw [findPolicyMatch, hns, haccepted, hcontext, hallows, hkey, hissuer]
  rfl

/-- A bundle that resolves has its authority and its issuer. -/
theorem Resolves.context (h : Resolves bundle cache) :
    AuthorityActive bundle.ns.rootProgramId bundle.ns.delegatedAuthorityId cache
      ∧ IssuerActive bundle.ns cache := by
  obtain ⟨policy, issuer, -, hns, -, hanswers⟩ := h
  have hanswer := hanswers ⟨⟨fun _ => none, id, fun _ => none, fun _ => ""⟩, fun _ => true⟩
    (fun _ _ => true) "" rfl rfl
  refine hasAuthorityContext_iff.mp ?_
  by_contra hcontext
  rw [findPolicyMatch, hns, Bool.eq_false_iff.mpr hcontext] at hanswer
  cases hanswer

/-! ## What the store holds -/

/-- What one publication stores. -/
def Publication.entries (p : Publication planning signing root) :
    List (String × SignedArtifact) :=
  p.signed.toList.map fun input => (input.artifactId, storedArtifact planning.js input)

theorem foldl_publishArtifact (network : Network) (inputs : List ArtifactPublicationInput) :
    inputs.foldl (Network.publishArtifact planning) network
      = { network with
          store := network.store.setAll
            (inputs.map fun input => (input.artifactId, storedArtifact planning.js input))
          log := network.log ++ inputs.map (publicationEvent planning) } := by
  induction inputs generalizing network with
  | nil => simp [OrderedMap.setAll]
  | cons input rest ih =>
      rw [List.foldl_cons, ih]
      simp [Network.publishArtifact, OrderedMap.setAll]

theorem publishAll_concat (network : Network) :
    network.publishAll verify (run ++ [q]) = (network.publishAll verify run).publish verify q := by
  rw [Network.publishAll, List.foldl_append]
  rfl

theorem publish_store (network : Network) :
    (network.publish verify p).store = network.store.setAll p.entries := by
  rw [Network.publish, foldl_publishArtifact]
  rfl

/-- **LATEST**: what stands under an id was stored by a publication, and no later
    one stored anything there. -/
theorem store_publishAll {id : String} {artifact : SignedArtifact}
    (h : ((Network.initial sync).publishAll verify run).store.get? id = some artifact) :
    ∃ earlier p later, run = earlier ++ p :: later ∧ (id, artifact) ∈ p.entries
      ∧ ∀ q ∈ later, ∀ other, (id, other) ∉ q.entries := by
  induction run using List.reverseRecOn with
  | nil => cases h
  | append_singleton front q ih =>
      rw [publishAll_concat, publish_store] at h
      rcases OrderedMap.mem_of_get?_setAll h with hmem | ⟨hbefore, hnone⟩
      · exact ⟨front, q, [], rfl, hmem, fun r hr => absurd hr List.not_mem_nil⟩
      · obtain ⟨earlier, p, later, rfl, hmem, hlater⟩ := ih hbefore
        refine ⟨earlier, p, later ++ [q], by simp, hmem, fun r hr => ?_⟩
        rcases List.mem_append.mp hr with hr | hr
        · exact hlater r hr
        · rw [List.mem_singleton.mp hr]
          exact hnone

/-! ## What a sync does -/

/-- The ids of the four artifacts, and that none of their events is a scanner's. -/
theorem signed_ids (p : Publication planning signing root) :
    p.signed.rootManifest.artifactId = "art_root_" ++ artifactSlug planning root "root" ++ "_v1"
      ∧ p.signed.delegatedAuthority.artifactId
        = "art_authority_" ++ artifactSlug planning p.row.delegatedAuthorityId "authority" ++ "_v1"
      ∧ p.signed.issuerRecord.artifactId
        = "art_issuer_" ++ artifactSlug planning p.row.issuerId "issuer" ++ "_v1"
      ∧ p.signed.destinationPolicy.artifactId
        = "art_policy_" ++ artifactSlug planning p.row.destinationPolicyId "policy" ++ "_v"
          ++ planning.numberText p.row.destinationPolicyVersion
      ∧ ∀ input ∈ p.signed.toList, input.eventType ≠ "scanner.decision.recorded" := by
  obtain ⟨hroot, hauthority, hrecord, hpolicy⟩ := signed_inputs p.signs
  obtain ⟨_, heqRoot⟩ := signPublicationInput_eq hroot
  obtain ⟨_, heqAuthority⟩ := signPublicationInput_eq hauthority
  obtain ⟨_, heqRecord⟩ := signPublicationInput_eq hrecord
  obtain ⟨_, heqPolicy⟩ := signPublicationInput_eq hpolicy
  obtain ⟨_, hprojection, h⟩ := Fallible.bind_eq_ok_iff.mp p.planned
  obtain ⟨_, -, h⟩ := Fallible.bind_eq_ok_iff.mp h
  obtain ⟨_, -, h⟩ := Fallible.bind_eq_ok_iff.mp h
  obtain ⟨_, -, h⟩ := Fallible.bind_eq_ok_iff.mp h
  obtain ⟨_, -, h⟩ := Fallible.bind_eq_ok_iff.mp h
  have hplan := Except.ok.inj h
  rw [← hplan] at heqRoot heqAuthority heqRecord heqPolicy
  refine ⟨?_, ?_, ?_, ?_, ?_⟩
  · rw [heqRoot]
    show "art_root_" ++ artifactSlug planning p.row.rootProgramId "root" ++ "_v1" = _
    rw [p.inProgram]
  · rw [heqAuthority]
    rfl
  · rw [heqRecord]
    rfl
  · rw [heqPolicy]
    rfl
  · intro input hinput
    simp only [GovernancePublicationPlanArtifacts.toList, List.mem_cons, List.not_mem_nil,
      or_false] at hinput
    rcases hinput with rfl | rfl | rfl | rfl
    · rw [heqRoot]
      show "root.manifest.published" ≠ _
      decide
    · rw [heqAuthority]
      show "delegated_authority.manifest.published" ≠ _
      decide
    · rw [heqRecord]
      show "issuer.record.published" ≠ _
      decide
    · rw [heqPolicy]
      show "destination.policy.published" ≠ _
      decide

theorem entry_of_mem {input : ArtifactPublicationInput} (h : input ∈ p.signed.toList) :
    (input.artifactId, storedArtifact planning.js input) ∈ p.entries :=
  List.mem_map.mpr ⟨input, h, rfl⟩

/-- The last of a list is an element, or comes after it. -/
theorem eq_or_mem_of_split {α : Type} {earlier later front : List α} {a last : α}
    (h : earlier ++ a :: later = front ++ [last]) : a = last ∨ last ∈ later := by
  rcases List.eq_nil_or_concat later with rfl | ⟨later, b, rfl⟩
  · exact .inl (List.cons.inj (List.append_inj' h rfl).2).1
  · rw [List.concat_eq_append, ← List.cons_append, ← List.append_assoc] at h
    obtain rfl := (List.cons.inj (List.append_inj' h rfl).2).1
    exact .inr (by simp)

/-- **THE CALLS OF A SYNC** after publications that end with `q`: the root's
    manifest is that of `q`, and so is the manifest of its authority. -/
inductive BundleCall (front : List (Publication planning signing root))
    (q : Publication planning signing root) : CacheCall → Prop
  | manifest : BundleCall front q (.upsertRootAuthorityContext ⟨root, [q.row.delegatedAuthorityId]⟩)
  | authorityManifest (p : Publication planning signing root) (hmem : p ∈ front ++ [q])
      (hlatest : p.row.delegatedAuthorityId = q.row.delegatedAuthorityId →
        p.row.issuerId = q.row.issuerId) :
      BundleCall front q (.upsertDelegatedAuthorityIssuerContext
        ⟨root, p.row.delegatedAuthorityId, [p.row.issuerId]⟩)
  | record (p : Publication planning signing root) (hmem : p ∈ front ++ [q])
      (projection : IssuerProjection) (hns : projection.ns = p.bundle.ns)
      (hid : projection.destinationPolicyId = p.bundle.destinationPolicyId) :
      BundleCall front q (.upsertIssuer projection)
  | policy (p : Publication planning signing root) (hmem : p ∈ front ++ [q])
      (projection : DestinationPolicyProjection) (hns : projection.ns = p.bundle.ns)
      (hid : projection.destinationPolicyId = p.bundle.destinationPolicyId) :
      BundleCall front q (.upsertDestinationPolicy projection)

theorem bundleCall_of_stored {front : List (Publication planning signing root)} {id : String}
    {artifact : SignedArtifact} {service : SyncService} {event : NetworkEvent} {call : CacheCall}
    (h : ((Network.initial sync).publishAll verify (front ++ [q])).store.get? id = some artifact)
    (hcall : call ∈ projectionCalls service artifact.body event) : BundleCall front q call := by
  obtain ⟨earlier, p, later, hsplit, hentry, hlater⟩ := store_publishAll h
  have hmem : p ∈ front ++ [q] := by
    rw [hsplit]
    simp
  obtain ⟨input, hinput, heq⟩ := List.mem_map.mp hentry
  obtain ⟨rfl, rfl⟩ := Prod.mk.inj heq
  -- where the last publication stores something under the id, it is the one that stands
  have hlast : ∀ other ∈ q.signed.toList, other.artifactId = input.artifactId → p = q := by
    intro other hother hid
    rcases eq_or_mem_of_split hsplit.symm with heq | hq
    · exact heq
    · exact absurd (hid ▸ entry_of_mem hother) (hlater q hq _)
  simp only [GovernancePublicationPlanArtifacts.toList, List.mem_cons, List.not_mem_nil,
    or_false] at hinput
  rcases hinput with rfl | rfl | rfl | rfl
  · obtain rfl := hlast q.signed.rootManifest (List.mem_cons_self ..)
      ((signed_ids q).1.trans (signed_ids p).1.symm)
    rw [calls_rootManifest p hcall]
    exact .manifest
  · rw [calls_delegatedAuthority p hcall]
    refine .authorityManifest p hmem fun hsame => ?_
    rw [hlast q.signed.delegatedAuthority (by simp [GovernancePublicationPlanArtifacts.toList])
      (by rw [(signed_ids q).2.1, (signed_ids p).2.1, hsame])]
  · obtain ⟨projection, rfl, hns, hid⟩ := calls_issuerRecord p hcall
    exact .record p hmem projection hns hid
  · obtain ⟨projection, rfl, hns, hid⟩ := calls_destinationPolicy p hcall
    exact .policy p hmem projection hns hid

/-! ## What a sync leaves -/

/-- **APART**: the cache keys of one bundle are not another's, and the prefix of
    its authority covers no issuer of another authority.  (The ids are joined by
    a control character, so this holds of ids without one.) -/
structure Apart (bundle other : DestinationPolicyKey) : Prop where
  key : cacheKey bundle = cacheKey other → bundle.ns = other.ns
  authority : JsString.startsWith (authorityIssuerKey other.ns)
      (authorityPrefix bundle.ns.rootProgramId bundle.ns.delegatedAuthorityId) = true →
    bundle.ns.delegatedAuthorityId = other.ns.delegatedAuthorityId

/-- A publication of the same authority and issuer. -/
def SharesManifests (p q : Publication planning signing root) : Prop :=
  q.row.delegatedAuthorityId = p.row.delegatedAuthorityId ∧ q.row.issuerId = p.row.issuerId

section Frames

variable {front : List (Publication planning signing root)} {call : CacheCall}

/-- With the last publication of the same authority, no call withdraws it. -/
theorem authority_frame (hcall : BundleCall front q call)
    (hshares : q.row.delegatedAuthorityId = p.row.delegatedAuthorityId)
    (h : AuthorityActive p.row.rootProgramId p.row.delegatedAuthorityId cache) :
    AuthorityActive p.row.rootProgramId p.row.delegatedAuthorityId (applyCall cache call) := by
  refine (authorityActive_applyCall ..).mpr (.inr ⟨h, ?_⟩)
  cases hcall with
  | manifest =>
      rintro ⟨-, hnotListed⟩
      exact hnotListed (List.mem_singleton.mpr hshares.symm)
  | _ => exact id

/-- A manifest whose prefix covers the issuer of a bundle is its authority's. -/
theorem same_authority {r : Publication planning signing root} (hapart : Apart r.bundle p.bundle)
    (hcovers : JsString.startsWith (authorityIssuerKey p.bundle.ns)
      (authorityPrefix root r.row.delegatedAuthorityId) = true) :
    r.row.delegatedAuthorityId = p.row.delegatedAuthorityId := by
  refine hapart.authority ?_
  show JsString.startsWith _ (authorityPrefix r.row.rootProgramId _) = true
  rw [r.inProgram]
  exact hcovers

/-- With the last publication of the same authority and issuer, no call withdraws
    the issuer. -/
theorem issuer_frame (hcall : BundleCall front q call) (hshares : SharesManifests p q)
    (hapart : ∀ r ∈ front ++ [q], Apart r.bundle p.bundle) (h : IssuerActive p.bundle.ns cache) :
    IssuerActive p.bundle.ns (applyCall cache call) := by
  obtain ⟨hauthority, hissuer⟩ := hshares
  refine (issuerActive_applyCall ..).mpr (.inr ⟨h, ?_⟩)
  cases hcall with
  | authorityManifest r hmem hlatest =>
      rintro ⟨hcovers, hnotListed⟩
      have hsame := same_authority (hapart r hmem) hcovers
      refine hnotListed ⟨r.row.issuerId, List.mem_singleton_self _, ?_⟩
      show authorityIssuerKey ⟨root, r.row.delegatedAuthorityId, r.row.issuerId⟩
        = authorityIssuerKey ⟨p.row.rootProgramId, p.row.delegatedAuthorityId, p.row.issuerId⟩
      rw [hsame, hlatest (hsame.trans hauthority.symm), hissuer, p.inProgram]
  | _ => exact id

theorem record_frame (hcall : BundleCall front q call)
    (hapart : ∀ r ∈ front ++ [q], Apart r.bundle bundle)
    (h : RecordStands bundle.ns (cacheKey bundle) cache) :
    RecordStands bundle.ns (cacheKey bundle) (applyCall cache call) := by
  refine (recordStands_applyCall ..).mpr (.inr ⟨h, ?_⟩)
  cases hcall with
  | record r hmem projection hns hid =>
      rintro ⟨hsame, hother⟩
      rw [IssuerProjection.policyKey, hns, hid] at hsame
      exact hother (hns.trans ((hapart r hmem).key hsame))
  | _ => exact id

theorem policy_frame (hcall : BundleCall front q call)
    (hapart : ∀ r ∈ front ++ [q], Apart r.bundle bundle) (h : BundlePolicyStands bundle cache) :
    BundlePolicyStands bundle (applyCall cache call) := by
  obtain ⟨policy, hstands, hns, hid⟩ := h
  cases hcall with
  | policy r hmem projection hpolicyNs hpolicyId =>
      by_cases hsame : projection.policyKey = policy.policyKey
      · -- the policy is replaced by one of the same bundle
        rw [DestinationPolicyProjection.policyKey, DestinationPolicyProjection.policyKey, hpolicyNs,
          hpolicyId, hns, hid] at hsame
        have hbundle := (hapart r hmem).key hsame
        rw [← hbundle] at hsame
        exact ⟨projection, (policyStands_applyCall ..).mpr (.inl rfl), hpolicyNs.trans hbundle,
          hpolicyId.trans (verifierCachePolicyKey_inj hsame)⟩
      · refine ⟨policy, (policyStands_applyCall ..).mpr (.inr ⟨hstands, ?_⟩), hns, hid⟩
        rintro ⟨hwritten, -⟩
        exact hsame hwritten
  | _ => exact ⟨policy, (policyStands_applyCall ..).mpr (.inr ⟨hstands, id⟩), hns, hid⟩

/-- With the last publication of another authority, no call brings the authority
    back. -/
theorem not_authority_frame (hcall : BundleCall front q call)
    (hother : q.row.delegatedAuthorityId ≠ p.row.delegatedAuthorityId)
    (h : ¬ AuthorityActive p.row.rootProgramId p.row.delegatedAuthorityId cache) :
    ¬ AuthorityActive p.row.rootProgramId p.row.delegatedAuthorityId (applyCall cache call) := by
  rw [authorityActive_applyCall]
  rintro (hlists | ⟨hactive, -⟩)
  · cases hcall with
    | manifest => exact hother (List.mem_singleton.mp hlists.2).symm
    | _ => exact hlists
  · exact h hactive

/-- With the last publication of another issuer of the authority, no call brings
    the issuer back. -/
theorem not_issuer_frame (hcall : BundleCall front q call)
    (hsame : q.row.delegatedAuthorityId = p.row.delegatedAuthorityId)
    (hother : q.row.issuerId ≠ p.row.issuerId)
    (hapart : ∀ r ∈ front ++ [q], Apart r.bundle p.bundle)
    (h : ¬ IssuerActive p.bundle.ns cache) :
    ¬ IssuerActive p.bundle.ns (applyCall cache call) := by
  rw [issuerActive_applyCall]
  rintro (hlists | ⟨hactive, -⟩)
  · cases hcall with
    | authorityManifest r hmem hlatest =>
        obtain ⟨issuerId, hissuer, hkey⟩ := hlists
        obtain rfl := List.mem_singleton.mp hissuer
        have hauthority : r.row.delegatedAuthorityId = p.row.delegatedAuthorityId := by
          refine same_authority (hapart r hmem) ?_
          rw [← hkey]
          exact startsWith_authorityPrefix _
        refine hother (((hlatest (hauthority.trans hsame.symm)).symm).trans
          (authorityIssuerKey_inj (hkey.trans ?_)))
        show authorityIssuerKey ⟨p.row.rootProgramId, p.row.delegatedAuthorityId, p.row.issuerId⟩ = _
        rw [p.inProgram, ← hauthority]
    | _ => exact hlists
  · exact h hactive

end Frames

section Sync

variable {front : List (Publication planning signing root)} {I : Cache → Prop}

/-- **SYNC FRAME**: what no call of the sync undoes outlives every action. -/
theorem action_frame
    (hframe : ∀ cache call, BundleCall front q call → I cache → I (applyCall cache call))
    {service : SyncService}
    (hstore : service.store = ((Network.initial sync).publishAll verify (front ++ [q])).store)
    {s s' : SyncState} {event : NetworkEvent} {action : SyncAction}
    (haction : action ∈ (machine service).plan s event) (h : I s'.cache) :
    I (applyAction s' action).cache := by
  cases action with
  | verifyTrustArtifact body result => exact h
  | updateTrustKeyStatus input => exact h
  | cacheCall call =>
      refine hframe s'.cache call ?_ h
      rcases planned_call haction with ⟨artifact, haccepted, hcall⟩
        | ⟨artifact, policy, hfetched, -, hpolicy, rfl⟩
      · exact bundleCall_of_stored (hstore ▸ haccepted.fetched.stored) hcall
      · exact bundleCall_of_stored (hstore ▸ hfetched.stored)
          (mem_projectionCalls.mpr (.inr (.inr (.inr (.inl ⟨policy, hpolicy, rfl⟩)))))

/-- The sync at the end of a run: over the events so far, then over those of the
    last publication. -/
theorem sync_publishAll :
    ((Network.initial sync).publishAll verify (front ++ [q])).sync
      = (machine (((Network.initial sync).publishAll verify (front ++ [q])).service verify
          planning)).runState ((Network.initial sync).publishAll verify front).sync
        (((Network.initial sync).publishAll verify front).log
          ++ q.signed.toList.map (publicationEvent planning)) := by
  rw [publishAll_concat, Network.publish, foldl_publishArtifact]
  exact syncRecent_state ..

/-- **KEPT**: what no call of the sync undoes is still there after it. -/
theorem publish_frame
    (hframe : ∀ cache call, BundleCall front q call → I cache → I (applyCall cache call))
    (h : I ((Network.initial sync).publishAll verify front).sync.cache) :
    I ((Network.initial sync).publishAll verify (front ++ [q])).sync.cache := by
  rw [sync_publishAll]
  refine Runs.Machine.runState_invariant (I := fun s : SyncState => I s.cache) _
    (fun s event _ hs => ?_) h
  exact Runs.Machine.applyAll_invariant (I := fun s : SyncState => I s.cache) _
    (fun s' action haction hs' => action_frame hframe rfl haction hs') hs

/-- **TAKEN UP**: the verifier recognises and accepts the artifact, and projects
    it. -/
structure TakenUp (planning : PlanningHost)
    (verify : Option TrustKeys.TrustKeyRegistry → JsonValue → SignatureVerificationResult)
    (input : ArtifactPublicationInput) : Prop where
  recognized : isRecognizedTrustArtifact input.body = true
  scope : trustArtifactScopeMatchesBody input.body = true
  verified : ∀ registry, (verify registry input.body).accepted = true
  projects : projectionCalls ⟨planning.js, .empty, verify⟩ input.body
    (publicationEvent planning input) ≠ []

/-- The four artifacts of a publication have four ids. -/
theorem entry_unique {input : ArtifactPublicationInput} (hinput : input ∈ q.signed.toList)
    {artifact : SignedArtifact} (h : (input.artifactId, artifact) ∈ q.entries) :
    artifact = storedArtifact planning.js input := by
  obtain ⟨other, hother, heq⟩ := List.mem_map.mp h
  obtain ⟨hid, rfl⟩ := Prod.mk.inj heq
  obtain ⟨hroot, hauthority, hrecord, hpolicy, -⟩ := signed_ids q
  have hmark := congrArg (fun id => (id.toList.drop 4).head?) hid
  simp only [GovernancePublicationPlanArtifacts.toList, List.mem_cons, List.not_mem_nil,
    or_false] at hinput hother
  rcases hinput with rfl | rfl | rfl | rfl <;> rcases hother with rfl | rfl | rfl | rfl
  all_goals first
    | rfl
    | simp [hroot, hauthority, hrecord, hpolicy] at hmark

/-- The event of a taken-up artifact is accepted. -/
theorem accepted_of_takenUp {input : ArtifactPublicationInput} (hinput : input ∈ q.signed.toList)
    (h : TakenUp planning verify input) (s : SyncState) :
    Accepted (((Network.initial sync).publishAll verify (front ++ [q])).service verify planning) s
      (publicationEvent planning input) (storedArtifact planning.js input) where
  fetched :=
    { processed := (signed_ids q).2.2.2.2 input hinput
      stored := by
        show ((Network.initial sync).publishAll verify (front ++ [q])).store.get? _ = _
        rw [publishAll_concat, publish_store]
        obtain ⟨artifact, hget, hentry⟩ := OrderedMap.exists_get?_setAll (entry_of_mem hinput)
        rw [← entry_unique hinput hentry]
        exact hget
      hashed := by
        rw [hashesMatch, Bool.and_eq_true]
        exact ⟨decide_eq_true rfl, decide_eq_true rfl⟩ }
  recognized := h.recognized
  verified := h.verified _
  scope := h.scope

/-- **ESTABLISHED**: what a taken-up artifact brings, and no call of the sync
    undoes, is there after it. -/
theorem publish_establishes
    (hframe : ∀ cache call, BundleCall front q call → I cache → I (applyCall cache call))
    {input : ArtifactPublicationInput} (hinput : input ∈ q.signed.toList)
    (h : TakenUp planning verify input)
    (hsets : ∀ cache, ∀ call ∈ projectionCalls ⟨planning.js, .empty, verify⟩ input.body
      (publicationEvent planning input), I (applyCall cache call)) :
    I ((Network.initial sync).publishAll verify (front ++ [q])).sync.cache := by
  obtain ⟨call, hcall⟩ := List.exists_mem_of_ne_nil _ h.projects
  rw [sync_publishAll]
  obtain ⟨before, after, hsplit⟩ :=
    List.append_of_mem (List.mem_map.mpr ⟨input, hinput, rfl⟩ : publicationEvent planning input
      ∈ q.signed.toList.map (publicationEvent planning))
  rw [hsplit, Runs.Machine.runState_append, Runs.Machine.runState_append,
    Runs.Machine.runState_cons]
  refine Runs.Machine.runState_invariant (I := fun s : SyncState => I s.cache) _
    (fun s event _ hs => ?_) ?_
  · exact Runs.Machine.applyAll_invariant (I := fun s : SyncState => I s.cache) _
      (fun s' action haction hs' => action_frame hframe rfl haction hs') hs
  · have hplanned := fun s =>
      (@accepted_of_takenUp planning signing root verify sync q front input hinput h s).planned hcall
    exact Runs.Machine.applyAll_established (I := fun s : SyncState => I s.cache) _ (hplanned _)
      (fun s => hsets s.cache call hcall)
      (fun s' action haction hs' => action_frame hframe rfl haction hs') _

/-- **STILL THERE**: a publication of the same authority and issuer takes nothing
    back. -/
theorem arrived_publish (hshares : SharesManifests p q)
    (hapart : ∀ r ∈ front ++ [q], Apart r.bundle p.bundle)
    (h : Arrived p.bundle ((Network.initial sync).publishAll verify front).sync.cache) :
    Arrived p.bundle ((Network.initial sync).publishAll verify (front ++ [q])).sync.cache where
  authority := publish_frame (fun _ _ hcall => authority_frame hcall hshares.1) h.authority
  issuer := publish_frame (fun _ _ hcall => issuer_frame hcall hshares hapart) h.issuer
  record := publish_frame (fun _ _ hcall => record_frame hcall hapart) h.record
  policy := publish_frame (fun _ _ hcall => policy_frame hcall hapart) h.policy

/-- **IT ARRIVES**: a publication whose four artifacts are taken up. -/
theorem arrived_of_takenUp (h : ∀ input ∈ q.signed.toList, TakenUp planning verify input)
    (hapart : ∀ r ∈ front ++ [q], Apart r.bundle q.bundle) :
    Arrived q.bundle ((Network.initial sync).publishAll verify (front ++ [q])).sync.cache := by
  have hroot : q.signed.rootManifest ∈ q.signed.toList := List.mem_cons_self ..
  have hauthority : q.signed.delegatedAuthority ∈ q.signed.toList := by
    simp [GovernancePublicationPlanArtifacts.toList]
  have hrecord : q.signed.issuerRecord ∈ q.signed.toList := by
    simp [GovernancePublicationPlanArtifacts.toList]
  have hpolicy : q.signed.destinationPolicy ∈ q.signed.toList := by
    simp [GovernancePublicationPlanArtifacts.toList]
  constructor
  · refine publish_establishes (fun _ _ hcall => authority_frame hcall rfl) hroot (h _ hroot) ?_
    intro cache call hcall
    rw [calls_rootManifest q hcall]
    exact (authorityActive_applyCall ..).mpr (.inl ⟨q.inProgram.symm, List.mem_singleton_self _⟩)
  · refine publish_establishes (fun _ _ hcall => issuer_frame hcall ⟨rfl, rfl⟩ hapart) hauthority
      (h _ hauthority) ?_
    intro cache call hcall
    rw [calls_delegatedAuthority q hcall]
    refine (issuerActive_applyCall ..).mpr (.inl ⟨q.row.issuerId, List.mem_singleton_self _, ?_⟩)
    show authorityIssuerKey ⟨root, q.row.delegatedAuthorityId, q.row.issuerId⟩
      = authorityIssuerKey ⟨q.row.rootProgramId, q.row.delegatedAuthorityId, q.row.issuerId⟩
    rw [q.inProgram]
  · refine publish_establishes (fun _ _ hcall => record_frame hcall hapart) hrecord
      (h _ hrecord) ?_
    intro cache call hcall
    obtain ⟨projection, rfl, hns, hid⟩ := calls_issuerRecord q hcall
    refine (recordStands_applyCall ..).mpr (.inl ⟨?_, hns⟩)
    rw [IssuerProjection.policyKey, hns, hid, cacheKey]
  · refine publish_establishes (fun _ _ hcall => policy_frame hcall hapart) hpolicy
      (h _ hpolicy) ?_
    intro cache call hcall
    obtain ⟨policy, rfl, hns, hid⟩ := calls_destinationPolicy q hcall
    exact ⟨policy, (policyStands_applyCall ..).mpr (.inl rfl), hns, hid⟩

/-- The first publication arrives. -/
theorem arrived_alone (h : ∀ input ∈ p.signed.toList, TakenUp planning verify input) :
    Arrived p.bundle ((Network.initial sync).publishAll verify [p]).sync.cache := by
  refine @arrived_of_takenUp planning signing root verify sync p [] h fun r hr => ?_
  rw [List.mem_singleton.mp hr]
  exact ⟨fun _ => rfl, fun _ => rfl⟩

/-- **TAKEN BACK**: once the manifests of another authority's or another issuer's
    bundle are taken up, the earlier bundle resolves no more. -/
theorem not_resolves_publish (hroot : TakenUp planning verify q.signed.rootManifest)
    (hauthority : TakenUp planning verify q.signed.delegatedAuthority)
    (hother : ¬ SharesManifests p q) (hapart : ∀ r ∈ front ++ [q], Apart r.bundle p.bundle) :
    ¬ Resolves p.bundle ((Network.initial sync).publishAll verify (front ++ [q])).sync.cache := by
  intro hresolves
  obtain ⟨hauthorityActive, hissuerActive⟩ := hresolves.context
  by_cases hsame : q.row.delegatedAuthorityId = p.row.delegatedAuthorityId
  · have hissuer : q.row.issuerId ≠ p.row.issuerId := fun heq => hother ⟨hsame, heq⟩
    refine absurd hissuerActive (publish_establishes
      (I := fun cache => ¬ IssuerActive p.bundle.ns cache)
      (fun _ _ hcall => not_issuer_frame hcall hsame hissuer hapart)
      (by simp [GovernancePublicationPlanArtifacts.toList]) hauthority ?_)
    intro cache call hcall
    rw [calls_delegatedAuthority q hcall, issuerActive_applyCall]
    have hlists : ¬ ContextLists ⟨root, q.row.delegatedAuthorityId, [q.row.issuerId]⟩
        p.bundle.ns := by
      rintro ⟨issuerId, hlisted, hkey⟩
      obtain rfl := List.mem_singleton.mp hlisted
      refine hissuer (authorityIssuerKey_inj (hkey.trans ?_))
      show authorityIssuerKey ⟨p.row.rootProgramId, p.row.delegatedAuthorityId, p.row.issuerId⟩ = _
      rw [p.inProgram, ← hsame]
    have hcovers : JsString.startsWith (authorityIssuerKey p.bundle.ns)
        (authorityPrefix root q.row.delegatedAuthorityId) = true := by
      have hown := startsWith_authorityPrefix p.bundle.ns
      rw [hsame]
      refine Eq.trans ?_ hown
      show _ = JsString.startsWith _ (authorityPrefix p.row.rootProgramId _)
      rw [p.inProgram]
      rfl
    rintro (hlisted | ⟨-, hkept⟩)
    · exact hlists hlisted
    · exact hkept ⟨hcovers, hlists⟩
  · refine absurd hauthorityActive (publish_establishes
      (I := fun cache => ¬ AuthorityActive p.row.rootProgramId p.row.delegatedAuthorityId cache)
      (fun _ _ hcall => not_authority_frame hcall hsame) (List.mem_cons_self ..) hroot ?_)
    intro cache call hcall
    rw [calls_rootManifest q hcall, authorityActive_applyCall]
    rintro (hlisted | ⟨-, hkept⟩)
    · exact hsame (List.mem_singleton.mp hlisted.2).symm
    · exact hkept ⟨p.inProgram.symm, fun hlisted => hsame (List.mem_singleton.mp hlisted).symm⟩

end Sync

/-! ## Runs -/

/-- **CONDITION**: while a bundle is active in the database, only bundles of its
    authority and issuer are published. -/
def OthersShareManifests (run : List (Publication planning signing root)) : Prop :=
  ∀ earlier p between q later, run = earlier ++ p :: between ++ q :: later →
    (∀ r ∈ between ++ [q], r.active p.bundle = true) → SharesManifests p q

/-- **BUNDLES KEEP RESOLVING**: in a run in which only bundles of the same
    authority and issuer follow while a bundle is active, every bundle that has
    arrived and stays active resolves. -/
theorem bundles_keep_resolving
    (verify : Option TrustKeys.TrustKeyRegistry → JsonValue → SignatureVerificationResult)
    (sync : SyncState) (run : List (Publication planning signing root))
    (hshares : OthersShareManifests run)
    (hapart : ∀ p ∈ run, ∀ q ∈ run, Apart p.bundle q.bundle) :
    ∀ earlier p later, run = earlier ++ p :: later →
      Arrived p.bundle ((Network.initial sync).publishAll verify (earlier ++ [p])).sync.cache →
      (∀ q ∈ later, q.active p.bundle = true) →
      Resolves p.bundle ((Network.initial sync).publishAll verify run).sync.cache := by
  rintro earlier p later rfl harrived hactive
  refine Arrived.resolves ?_
  have hfollowers : ∀ q ∈ later, SharesManifests p q := by
    intro q hq
    obtain ⟨between, rest, rfl⟩ := List.append_of_mem hq
    refine hshares earlier p between q rest (by simp) fun r hr => hactive r ?_
    rcases List.mem_append.mp hr with hr | hr
    · exact List.mem_append_left _ hr
    · rw [List.mem_singleton.mp hr]
      exact hq
  have hp : p ∈ earlier ++ p :: later := by simp
  have hkeys : ∀ r ∈ earlier ++ p :: later, Apart r.bundle p.bundle := fun r hr =>
    hapart r hr p hp
  clear hshares hapart hactive hp
  induction later using List.reverseRecOn with
  | nil => exact harrived
  | append_singleton front q ih =>
      have hfront := ih (fun r hr => hfollowers r (List.mem_append_left _ hr))
        fun r hr => hkeys r (by
          rw [← List.cons_append, ← List.append_assoc]
          exact List.mem_append_left _ hr)
      rw [← List.cons_append, ← List.append_assoc] at hkeys ⊢
      exact arrived_publish (hfollowers q (by simp)) hkeys hfront

/-! ## Two issuers of one authority -/

section Example

open GovernanceRoundTrip SignatureVerification SignedPublication JsonValue

/-- The destinations of the two issuers, parsed. -/
def issuerUrls : List Url :=
  [⟨"https://shop.example/pay", "https:", "", "", "shop.example", "/pay", []⟩,
   ⟨"https://cafe.example/pay", "https:", "", "", "cafe.example", "/pay", []⟩]

/-- The first text that tells the signed artifacts apart: an issuer or a policy. -/
def subjectOf (body : JsonValue) : Option String :=
  (body.stringField "destination_policy_id")
    <|> (((body.arrayField "destination_policies").bind List.head?).bind
      (·.stringField "destination_policy_id"))
    <|> (((body.arrayField "enrolled_issuers").bind List.head?).bind (·.stringField "issuer_id"))

/-- The digests of the signed artifacts. -/
def bundleHash (body : JsonValue) : String :=
  match body.stringField "artifact_type", subjectOf body with
  | some "delegated_authority_manifest", some "issuer:acme-demo" =>
      "7c053aa6e1530480ae2ce9c82d81f2336cb6bbea4b476a75cbae0ac2153315ad"
  | some "delegated_authority_manifest", _ =>
      "2008fe2f612c6c9c6cc31d0eaeadcd4f173d3385680f980581ce3e635b9a4a62"
  | some "issuer_record", some "policy:acme-demo:checkout:v1" =>
      "3929917c24140b978c40b16dfb730c90b5c418f543344a5453c0940c1eb0f7d7"
  | some "issuer_record", some "policy:acme-demo:returns:v1" =>
      "5395c4342c13ff0ff904055e72b619227847d60bf1307b44350f801e12858a4b"
  | some "issuer_record", _ =>
      "0cfff3ae8bbd37c35d511cf4fa78ad69178d85519b86a69da1dd11cd4255bfd5"
  | some "destination_policy", some "policy:acme-demo:checkout:v1" =>
      "2ea825b66eb9653cb86dd73e0f917ca352c9867c0f48c6d40066926f3bf9fc51"
  | some "destination_policy", some "policy:acme-demo:returns:v1" =>
      "fdd579d6436381b2d0690a3cac6a6b42624bd8f946be2a8bfa3f3b9c6fb0f3bf"
  | some "destination_policy", _ =>
      "280a2e6e4e41a068e2d74ac48afffe37b9213a7af082fd321492e354425e2d9c"
  | _, _ => "208d950ce3967786d165afedd62a3f3a96b85bbde520917ddbf1cbb374df3570"

/-- The planning host, on the first day of 2026. -/
def bundlePlanning : PlanningHost where
  js :=
    { parseUrl := fun value => issuerUrls.find? (·.href = value)
      toLowerCase := id
      toISOString := fun _ => none
      hashJson := bundleHash }
  numberText _ := "1"
  numberOf _ := none
  dateText time :=
    if time = 1767225600000 then some "2026-01-01T00:00:00.000Z"
    else if time = 1767312000000 then some "2026-01-02T00:00:00.000Z" else none

/-- The row of the first issuer. -/
def shopRow : PostgresGovernancePublicationBundleRow := demoRow ["ed25519"]

/-- The row of the second issuer. -/
def cafeRow : PostgresGovernancePublicationBundleRow :=
  { shopRow with
    issuerId := "issuer:cafe-demo"
    issuerDisplayName := "Cafe"
    issuerCertificateRefs := ["cert:cafe-demo:1"]
    issuerStatusEventRef := "status:cafe-demo:active:v1"
    destinationPolicyId := "policy:cafe-demo:checkout:v1"
    destinationPolicyApprovedDestinations :=
      [.obj
        [("destination_id", .str "dest:checkout"),
         ("expected_final_url", .str "https://cafe.example/pay"),
         ("allowed_hosts", .arr [.str "cafe.example"]), ("allow_subdomains", .bool false),
         ("path_prefixes", .arr [.str "/pay"]), ("query_policy", .str "none")]] }

/-- The row of another policy of the first issuer. -/
def secondPolicyRow : PostgresGovernancePublicationBundleRow :=
  { shopRow with destinationPolicyId := "policy:acme-demo:returns:v1" }

/-- The verifier with the two trust keys. -/
def bundleVerify : Option TrustKeys.TrustKeyRegistry → JsonValue → SignatureVerificationResult :=
  asCollaborator demoSigningHost.toSignatureHost
    (fun _ => TrustKeys.selectTrustKeyForLookup demoRegistry.values) ownMaterial

/-- The custody of the two signing keys. -/
def bundleCustody : SigningCustodyProvider :=
  makeStaticSigningCustodyProvider demoSigningHost demoSigningKeys demoMaterial .static

/-- Is every artifact of the signed plan recognised and projected? -/
def projectsAll (row : PostgresGovernancePublicationBundleRow) : Bool :=
  match planGovernancePublicationFromPostgresRow bundlePlanning row 1767225600000 with
  | .error _ => false
  | .ok plan =>
      match signGovernancePublicationPlan plan
          (makeTrustArtifactSigner demoSigningHost bundleCustody) with
      | .error _ => false
      | .ok signed =>
          signed.toList.all fun input =>
            isRecognizedTrustArtifact input.body
              && (projectionCalls ⟨bundlePlanning.js, .empty, bundleVerify⟩ input.body
                (publicationEvent bundlePlanning input)).length ≠ 0

/-- A row of the demo network is signed, and what is signed is taken up. -/
theorem exists_publication {row : PostgresGovernancePublicationBundleRow}
    (hroot : row.rootProgramId = "root:qrtrust-demo:2026")
    (hauthority : row.delegatedAuthorityId = "authority:qrtrust-demo:merchant-web")
    (hmanifest : ManifestKeyPaired DemoPair demoRegistry.values ownMaterial row "root-private")
    (h : projectsAll row = true) :
    ∃ p : Publication bundlePlanning demoSigningHost "root:qrtrust-demo:2026",
      p.row = row ∧ (∀ bundle, p.active bundle = true)
        ∧ ∀ input ∈ p.signed.toList, TakenUp bundlePlanning bundleVerify input := by
  have hrootKeys := @demo_rootKeys demoRegistry (by decide +kernel)
  have hauthorityKeys := @demo_authorityKeys demoRegistry (by decide +kernel)
  rw [projectsAll] at h
  cases hplan : planGovernancePublicationFromPostgresRow bundlePlanning row 1767225600000 with
  | error cause =>
      rw [hplan] at h
      cases h
  | ok plan =>
      rw [hplan] at h
      obtain ⟨signed, hsigned, hfirst, hsecond, hthird, hfourth⟩ :=
        @signGovernancePublicationPlan_ok demoSigningHost DemoPair demoSigningKeys demoMaterial
          ownMaterial bundlePlanning row 1767225600000 demo_ed25519 demo_localeLess .static
          demoRegistry "root-private" "authority-private" plan hplan (by rw [hroot]; exact hrootKeys)
          (by rw [hroot, hauthority]; exact hauthorityKeys)
      have hall : ∀ input ∈ signed.toList, RoundTrips demoSigningHost demoRegistry.values
          ownMaterial input.body := by
        intro input hinput
        simp only [GovernancePublicationPlanArtifacts.toList, List.mem_cons, List.not_mem_nil,
          or_false] at hinput
        rcases hinput with rfl | rfl | rfl | rfl
        · exact hfirst.mpr hmanifest
        · exact hsecond
        · exact hthird
        · exact hfourth
      simp only [bundleCustody, hsigned, List.all_eq_true, Bool.and_eq_true,
        decide_eq_true_eq] at h
      refine ⟨⟨row, 1767225600000, plan, bundleCustody, signed, fun _ => true, hroot, hplan,
        hsigned⟩, rfl, fun _ => rfl, fun input hinput => ?_⟩
      obtain ⟨⟨reason, hverified⟩, hscope⟩ := hall input hinput input.body (StoredAs.refl _)
      exact
        { recognized := (h input hinput).1
          scope := hscope
          verified := fun registry => by
            rw [bundleVerify, asCollaborator, hverified]
          projects := fun hnone => (h input hinput).2 (by rw [hnone]; rfl) }

/-- The root's key is the one its manifest is checked with. -/
theorem demo_manifestKey {row : PostgresGovernancePublicationBundleRow}
    (h : manifestLookup row = manifestLookup shopRow) :
    ManifestKeyPaired DemoPair demoRegistry.values ownMaterial row "root-private" := by
  refine ⟨rootKey, "root-public", ?_, rfl, .inl ⟨rfl, rfl⟩⟩
  rw [h]
  decide +kernel

/-- The rows of the example, whose bundles all project. -/
def projectingRows : {rows : List PostgresGovernancePublicationBundleRow //
    rows = [shopRow, cafeRow, secondPolicyRow] ∧ ∀ row ∈ rows, projectsAll row = true} :=
  ⟨_, rfl, by decide +kernel⟩

theorem row_projects {row : PostgresGovernancePublicationBundleRow}
    (h : row ∈ [shopRow, cafeRow, secondPolicyRow]) :
    projectsAll row = true := by
  obtain ⟨rows, hrows, hall⟩ := projectingRows
  rw [hrows] at hall
  exact hall row h

/-- **THE SECOND ISSUER**: both bundles are active and taken up, and the second
    takes the first one back. -/
theorem second_issuer_withdraws_first :
    ∃ shop cafe : Publication bundlePlanning demoSigningHost "root:qrtrust-demo:2026",
      shop.row = shopRow ∧ cafe.row = cafeRow ∧ cafe.active shop.bundle = true
        ∧ Arrived shop.bundle
          ((Network.initial ⟨.empty, none⟩).publishAll bundleVerify [shop]).sync.cache
        ∧ ¬ Resolves shop.bundle
          ((Network.initial ⟨.empty, none⟩).publishAll bundleVerify [shop, cafe]).sync.cache := by
  obtain ⟨shop, hshop, -, hshopTaken⟩ := @exists_publication shopRow rfl rfl
    (demo_manifestKey rfl) (row_projects (List.mem_cons_self ..))
  obtain ⟨cafe, hcafe, hactive, hcafeTaken⟩ := @exists_publication cafeRow rfl rfl
    (demo_manifestKey rfl) (row_projects (by simp))
  have hapart : Apart cafe.bundle shop.bundle := by
    rw [Publication.bundle, Publication.bundle, hshop, hcafe]
    exact ⟨fun h => absurd h (by decide +kernel), fun _ => rfl⟩
  refine ⟨shop, cafe, hshop, hcafe, hactive _, ?_, ?_⟩
  · exact arrived_alone hshopTaken
  · rw [← List.singleton_append]
    refine not_resolves_publish (hcafeTaken _ (List.mem_cons_self ..))
      (hcafeTaken _ (by simp [GovernancePublicationPlanArtifacts.toList])) ?_ fun r hr => ?_
    · rw [SharesManifests, hshop, hcafe]
      decide +kernel
    · rcases List.mem_cons.mp hr with rfl | hr
      · exact ⟨fun _ => rfl, fun _ => rfl⟩
      · rw [List.mem_singleton.mp hr]
        exact hapart

theorem bundles_keep_resolving_two_policies :
    ∃ shop other : Publication bundlePlanning demoSigningHost "root:qrtrust-demo:2026",
      shop.row = shopRow ∧ other.row = secondPolicyRow
        ∧ Arrived shop.bundle
          ((Network.initial ⟨.empty, none⟩).publishAll bundleVerify [shop]).sync.cache
        ∧ Resolves shop.bundle
          ((Network.initial ⟨.empty, none⟩).publishAll bundleVerify [shop, other]).sync.cache := by
  obtain ⟨shop, hshop, -, hshopTaken⟩ := @exists_publication shopRow rfl rfl
    (demo_manifestKey rfl) (row_projects (List.mem_cons_self ..))
  obtain ⟨other, hother, hactive, -⟩ := @exists_publication secondPolicyRow rfl rfl
    (demo_manifestKey rfl) (row_projects (by simp))
  have harrived := @arrived_alone _ _ _ bundleVerify ⟨.empty, none⟩ shop hshopTaken
  have hrows : ∀ p ∈ [shop, other], p.bundle.ns = namespaceFromRow shopRow := by
    intro p hp
    rw [Publication.bundle]
    rcases List.mem_cons.mp hp with rfl | hp
    · rw [hshop]
    · rw [List.mem_singleton.mp hp, hother]
      rfl
  refine ⟨shop, other, hshop, hother, harrived, ?_⟩
  refine bundles_keep_resolving bundleVerify ⟨.empty, none⟩ [shop, other] ?_ ?_ [] shop [other] rfl
    harrived fun q hq => ?_
  · intro earlier p between q later hsplit _
    have hp := hrows p (by rw [hsplit]; simp)
    have hq := hrows q (by rw [hsplit]; simp)
    exact ⟨congrArg IssuerNamespace.delegatedAuthorityId (hq.trans hp.symm),
      congrArg IssuerNamespace.issuerId (hq.trans hp.symm)⟩
  · intro p hp q hq
    have hsame := (hrows p hp).trans (hrows q hq).symm
    exact ⟨fun _ => hsame, fun _ => congrArg IssuerNamespace.delegatedAuthorityId hsame⟩
  · rw [List.mem_singleton.mp hq]
    exact hactive _

end Example

end BundlePublication
