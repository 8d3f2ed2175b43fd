import QrTrust.Lib.InsertionOrder
import QrTrust.Lib.Replay
import QrTrust.Network.PolicyMatchProofs
import QrTrust.Network.SyncReplayProofs
import QrTrust.Network.TrustFactProofs

/-! # Reading a log twice

    A second run over an unchanged log should leave every answer.  It leaves
    what the cache holds (`replay_sameContents`), since each call settles.  It
    does not leave the order of the policies: a policy that the log removes and
    publishes again goes behind every policy that stays, and the first eligible
    policy answers.  `sync_idempotent_iff` says when that changes no answer. -/

namespace SyncIdempotence

open VerifierCache PolicyDecoding VerifierSync SyncGate SyncAcceptance TrustFact OrderedMap Replay
  Runs
open SyncReplay (demoService demoReader)

/-! ## What a call does to one key -/

/-- What a call does to the policy under a key. -/
def policyEntry (key : String) : CacheCall → EntryAction DestinationPolicyProjection
  | .upsertDestinationPolicy projection =>
      if projection.policyKey = key then .write projection else .keep fun _ => true
  | .removeDestinationPolicy target =>
      .keep fun _ => key ≠ verifierCachePolicyKey target.ns target.destinationPolicyId
  | .removeDestinationPoliciesForIssuer ns => .keep fun policy => policy.ns ≠ ns
  | .removeDelegatedAuthority target =>
      .keep fun policy => !delegatedAuthorityEquals policy.ns target
  | _ => .keep fun _ => true

/-- An update of the assurance tier, as it acts on one record. -/
def tierChange (update : IssuerAssuranceTierUpdate) (issuer : IssuerProjection) :
    IssuerProjection :=
  if issuer.ns = update.ns then { issuer with assuranceTier := update.assuranceTier } else issuer

/-- What a call does to the record under a key. -/
def issuerEntry (key : String) : CacheCall → EntryAction IssuerProjection
  | .upsertIssuer projection =>
      if projection.policyKey = key then .write projection else .keep fun _ => true
  | .updateIssuerAssuranceTier update => .change (tierChange update)
  | .removeIssuer ns => .keep fun issuer => issuer.ns ≠ ns
  | .removeDelegatedAuthority target =>
      .keep fun issuer => !delegatedAuthorityEquals issuer.ns target
  | _ => .keep fun _ => true

theorem keep_all {V : Type} (entry : Option V) :
    (EntryAction.keep fun _ => true).apply entry = entry := by
  cases entry <;> rfl

theorem policyEntry_applyCall (key : String) (cache : Cache) (call : CacheCall) :
    (applyCall cache call).policiesByKey.get? key
      = (policyEntry key call).apply (cache.policiesByKey.get? key) := by
  cases call with
  | upsertDestinationPolicy projection =>
      show (cache.policiesByKey.set projection.policyKey projection).get? key = _
      rw [get?_set, policyEntry]
      by_cases hkey : projection.policyKey = key
      · rw [if_pos hkey, if_pos hkey.symm]
        rfl
      · rw [if_neg hkey, if_neg (Ne.symm hkey), keep_all]
  | removeDestinationPolicy target => exact get?_filter ..
  | removeDestinationPoliciesForIssuer ns => exact get?_filter ..
  | removeDelegatedAuthority target => exact get?_filter ..
  | _ => exact (keep_all _).symm

theorem issuerEntry_applyCall (key : String) (cache : Cache) (call : CacheCall) :
    (applyCall cache call).issuersByPolicyKey.get? key
      = (issuerEntry key call).apply (cache.issuersByPolicyKey.get? key) := by
  cases call with
  | upsertIssuer projection =>
      show (cache.issuersByPolicyKey.set projection.policyKey projection).get? key = _
      rw [get?_set, issuerEntry]
      by_cases hkey : projection.policyKey = key
      · rw [if_pos hkey, if_pos hkey.symm]
        rfl
      · rw [if_neg hkey, if_neg (Ne.symm hkey), keep_all]
  | updateIssuerAssuranceTier update => exact get?_mapValues ..
  | removeIssuer ns => exact get?_filter ..
  | removeDelegatedAuthority target => exact get?_filter ..
  | _ => exact (keep_all _).symm

/-! ## The contents settle -/

/-- No call changes a policy in place. -/
theorem policyEntry_ne_change {key : String} {call : CacheCall}
    {update : DestinationPolicyProjection → DestinationPolicyProjection} :
    policyEntry key call ≠ .change update := by
  intro h
  cases call with
  | upsertDestinationPolicy projection =>
      rw [policyEntry] at h
      split at h <;> cases h
  | _ => cases h

theorem policyEntry_compatible (key : String) : Compatible (policyEntry key) :=
  ⟨fun _ _ _ _ _ h => absurd h policyEntry_ne_change, fun _ _ h => absurd h policyEntry_ne_change,
    fun _ _ _ _ h => absurd h policyEntry_ne_change⟩

section TierChange

variable {update update' : IssuerAssuranceTierUpdate} {issuer issuer' : IssuerProjection}

theorem tierChange_pos (h : issuer.ns = update.ns) :
    tierChange update issuer = { issuer with assuranceTier := update.assuranceTier } := if_pos h

theorem tierChange_neg (h : issuer.ns ≠ update.ns) : tierChange update issuer = issuer := if_neg h

theorem tierChange_ns (update : IssuerAssuranceTierUpdate) (issuer : IssuerProjection) :
    (tierChange update issuer).ns = issuer.ns := by
  by_cases h : issuer.ns = update.ns
  · rw [tierChange_pos h]
  · rw [tierChange_neg h]

/-- A tier update repeats without effect. -/
theorem tierChange_idem : tierChange update (tierChange update issuer) = tierChange update issuer := by
  by_cases h : issuer.ns = update.ns
  · rw [tierChange_pos ((tierChange_ns update issuer).trans h), tierChange_pos h]
  · rw [tierChange_neg h, tierChange_neg h]

/-- Tier updates settle among themselves: the last one of a namespace stands. -/
theorem tierChange_absorbs (h : tierChange update issuer = tierChange update issuer') :
    tierChange update (tierChange update' issuer)
      = tierChange update (tierChange update' issuer') := by
  have hns : issuer.ns = issuer'.ns := by
    rw [← tierChange_ns update issuer, h, tierChange_ns]
  by_cases hupdate : issuer.ns = update.ns
  · -- the two records differ in the tier at most, and it is overwritten
    rw [tierChange_pos hupdate, tierChange_pos (hns ▸ hupdate)] at h
    rw [tierChange_pos ((tierChange_ns update' issuer).trans hupdate),
      tierChange_pos ((tierChange_ns update' issuer').trans (hns ▸ hupdate))]
    by_cases hupdate' : issuer.ns = update'.ns
    · rw [tierChange_pos hupdate', tierChange_pos (hns ▸ hupdate')]
      exact h
    · rw [tierChange_neg hupdate', tierChange_neg (hns ▸ hupdate')]
      exact h
  · rw [tierChange_neg hupdate, tierChange_neg (hns ▸ hupdate)] at h
    rw [h]

end TierChange

/-- Only a tier update changes a record in place. -/
theorem issuerEntry_change {key : String} {call : CacheCall}
    {change : IssuerProjection → IssuerProjection} (h : issuerEntry key call = .change change) :
    ∃ update, change = tierChange update := by
  cases call with
  | updateIssuerAssuranceTier update => exact ⟨update, (EntryAction.change.inj h).symm⟩
  | upsertIssuer projection =>
      rw [issuerEntry] at h
      split at h <;> cases h
  | _ => cases h

/-- A removal looks at the namespace of a record alone. -/
theorem issuerEntry_keep {key : String} {call : CacheCall} {condition : IssuerProjection → Bool}
    (h : issuerEntry key call = .keep condition) :
    ∃ onNamespace : IssuerNamespace → Bool, condition = fun issuer => onNamespace issuer.ns := by
  cases call with
  | updateIssuerAssuranceTier update => cases h
  | upsertIssuer projection =>
      rw [issuerEntry] at h
      split at h
      · cases h
      · exact ⟨fun _ => true, (EntryAction.keep.inj h).symm⟩
  | removeIssuer ns => exact ⟨fun ns' => ns' ≠ ns, (EntryAction.keep.inj h).symm⟩
  | removeDelegatedAuthority target =>
      exact ⟨fun ns' => !delegatedAuthorityEquals ns' target, (EntryAction.keep.inj h).symm⟩
  | _ => exact ⟨fun _ => true, (EntryAction.keep.inj h).symm⟩

theorem issuerEntry_compatible (key : String) : Compatible (issuerEntry key) := by
  refine ⟨fun _ _ condition update hkeep hchange issuer => ?_, fun _ update hchange issuer => ?_,
    fun _ _ update update' hchange hchange' issuer issuer' heq => ?_⟩
  · obtain ⟨onNamespace, rfl⟩ := issuerEntry_keep hkeep
    obtain ⟨update, rfl⟩ := issuerEntry_change hchange
    show onNamespace _ = onNamespace _
    rw [tierChange_ns]
  · obtain ⟨update, rfl⟩ := issuerEntry_change hchange
    exact tierChange_idem
  · obtain ⟨update, rfl⟩ := issuerEntry_change hchange
    obtain ⟨update', rfl⟩ := issuerEntry_change hchange'
    exact tierChange_absorbs heq

/-- The cache after a list of calls. -/
def applyCalls (cache : Cache) (calls : List CacheCall) : Cache := calls.foldl applyCall cache

/-- **SAME CONTENTS**: the same policy and the same record under every key, and
    the same active contexts. -/
structure SameContents (cache cache' : Cache) : Prop where
  policies : ∀ key, cache'.policiesByKey.get? key = cache.policiesByKey.get? key
  issuers : ∀ key, cache'.issuersByPolicyKey.get? key = cache.issuersByPolicyKey.get? key
  contexts : ∀ ns, hasAuthorityContext cache' ns = hasAuthorityContext cache ns

/-- **CONTENTS**: applying a list of calls twice leaves what applying it once
    leaves, up to the order of the policies. -/
theorem replay_sameContents (cache : Cache) (calls : List CacheCall) :
    SameContents (applyCalls cache calls) (applyCalls (applyCalls cache calls) calls) := by
  refine ⟨fun key => ?_, fun key => ?_, fun ns => ?_⟩
  · exact @Settles.replay_view _ _ _ _ _ (fun cache : Cache => cache.policiesByKey.get? key)
      (settles_entry (policyEntry_compatible key)) (policyEntry_applyCall key) calls cache
  · exact @Settles.replay_view _ _ _ _ _ (fun cache : Cache => cache.issuersByPolicyKey.get? key)
      (settles_entry (issuerEntry_compatible key)) (issuerEntry_applyCall key) calls cache
  · have hauthority := @Settles.replay_view _ _ _ applyCall _
      (AuthorityActive ns.rootProgramId ns.delegatedAuthorityId) (settles_latch _ _)
      (fun cache call => propext (authorityActive_applyCall ns.rootProgramId
        ns.delegatedAuthorityId cache call)) calls cache
    have hissuer := @Settles.replay_view _ _ _ applyCall _ (IssuerActive ns) (settles_latch _ _)
      (fun cache call => propext (issuerActive_applyCall ns cache call)) calls cache
    rw [Bool.eq_iff_iff, hasAuthorityContext_iff, hasAuthorityContext_iff]
    exact and_congr (iff_of_eq hauthority) (iff_of_eq hissuer)

/-! ## Which policy leads -/

section Leaders

variable {reader : Reader} {cache cache' : Cache} {calls : List CacheCall} {host key : String}
  {allowsHost : DestinationPolicyProjection → String → Bool}

/-- An eligible policy stands under the key. -/
def EligibleKey (reader : Reader) (cache : Cache)
    (allowsHost : DestinationPolicyProjection → String → Bool) (host key : String) : Prop :=
  ∃ policy, cache.policiesByKey.get? key = some policy
    ∧ eligible reader cache allowsHost host policy = true

/-- An issuer record stands under the key. -/
def HasRecord (cache : Cache) (key : String) : Prop :=
  (cache.issuersByPolicyKey.get? key).isSome = true

/-- **FIRST**: the first eligible policy comes before every other eligible one. -/
theorem firstEligible_iff_before (hkeyed : WellKeyed cache) :
    FirstEligible reader cache allowsHost host key ↔
      EligibleKey reader cache allowsHost host key
        ∧ ∀ other, EligibleKey reader cache allowsHost host other → other ≠ key →
            Before cache.policiesByKey key other := by
  rw [firstEligible_iff]
  constructor
  · rintro ⟨policy, hfound, rfl⟩
    obtain ⟨key, hget, heligible, hfirst⟩ := find?_values_iff.mp hfound
    obtain rfl := hkeyed.policies key policy ((get?_eq_some_iff ..).mp hget)
    refine ⟨⟨policy, hget, heligible⟩, ?_⟩
    rintro other ⟨policy', hget', heligible'⟩ hne
    exact hfirst other policy' hget' heligible' hne
  · rintro ⟨⟨policy, hget, heligible⟩, hfirst⟩
    refine ⟨policy, find?_values_iff.mpr ⟨key, hget, heligible, ?_⟩,
      (hkeyed.policies key policy ((get?_eq_some_iff ..).mp hget)).symm⟩
    exact fun other policy' hget' heligible' hne => hfirst other ⟨policy', hget', heligible'⟩ hne

/-- Where some policy is eligible, one is first. -/
theorem exists_firstEligible
    (h : EligibleKey reader cache allowsHost host key) :
    ∃ first, FirstEligible reader cache allowsHost host first := by
  obtain ⟨policy, hget, heligible⟩ := h
  have hmem : policy ∈ cache.policiesByKey.values :=
    mem_values.mpr ⟨key, (get?_eq_some_iff ..).mp hget⟩
  obtain ⟨first, hfound⟩ :=
    Option.isSome_iff_exists.mp (List.find?_isSome.mpr ⟨policy, hmem, heligible⟩)
  exact ⟨first.policyKey, firstEligible_iff.mpr ⟨first, hfound, rfl⟩⟩

theorem SameContents.eligible (h : SameContents cache cache') :
    VerifierCache.eligible reader cache' allowsHost host
      = VerifierCache.eligible reader cache allowsHost host := by
  funext policy
  rw [VerifierCache.eligible, VerifierCache.eligible, h.contexts]

theorem SameContents.eligibleKey_iff (h : SameContents cache cache') :
    EligibleKey reader cache' allowsHost host key ↔
      EligibleKey reader cache allowsHost host key := by
  rw [EligibleKey, EligibleKey, h.policies, h.eligible]

theorem SameContents.hasRecord_iff (h : SameContents cache cache') :
    HasRecord cache' key ↔ HasRecord cache key := by
  rw [HasRecord, HasRecord, h.issuers]

/-- The calls take the second policy out of the cache at some point, and from
    there on the first one is in it. -/
def Overtaking (cache : Cache) (calls : List CacheCall) (key other : String) : Prop :=
  Overtakes Cache.policiesByKey applyCall cache calls key other

/-- **LEADS**: an eligible policy that overtakes every other eligible one, or
    stands before it and is not overtaken. -/
def LeadsAfter (reader : Reader) (cache : Cache) (calls : List CacheCall)
    (allowsHost : DestinationPolicyProjection → String → Bool) (host key : String) : Prop :=
  EligibleKey reader cache allowsHost host key
    ∧ ∀ other, EligibleKey reader cache allowsHost host other → other ≠ key →
        Overtaking cache calls key other
          ∨ (Before cache.policiesByKey key other ∧ ¬ Overtaking cache calls other key)

/-- Every call keeps the order of the policies it keeps, and puts a new one last. -/
theorem insertsLast_applyCall (cache : Cache) (call : CacheCall) :
    InsertsLast cache.policiesByKey (applyCall cache call).policiesByKey := by
  cases call with
  | upsertDestinationPolicy projection => exact insertsLast_set ..
  | removeDestinationPolicy target => exact insertsLast_filter ..
  | removeDestinationPoliciesForIssuer ns => exact insertsLast_filter ..
  | removeDelegatedAuthority target => exact insertsLast_filter ..
  | _ => exact insertsLast_refl _

/-- **WHO IS FIRST AFTERWARDS**: after calls that leave the contents, the policy
    that leads is the first eligible one. -/
theorem firstEligible_applyCalls (hkeyed' : WellKeyed (applyCalls cache calls))
    (hsame : SameContents cache (applyCalls cache calls)) :
    FirstEligible reader (applyCalls cache calls) allowsHost host key ↔
      LeadsAfter reader cache calls allowsHost host key := by
  have hpresent : ∀ key, EligibleKey reader cache allowsHost host key →
      key ∈ cache.policiesByKey.keys ∧ key ∈ (applyCalls cache calls).policiesByKey.keys := by
    rintro key ⟨policy, hget, -⟩
    exact ⟨mem_keys_iff_get?.mpr ⟨policy, hget⟩,
      mem_keys_iff_get?.mpr ⟨policy, (hsame.policies key).trans hget⟩⟩
  rw [firstEligible_iff_before hkeyed', LeadsAfter, hsame.eligibleKey_iff]
  refine and_congr_right fun hkey => forall_congr' fun other => ?_
  rw [hsame.eligibleKey_iff]
  refine forall₂_congr fun hother hne => ?_
  exact before_foldl_iff insertsLast_applyCall calls (Ne.symm hne) (hpresent key hkey).1
    (hpresent other hother).1 (hpresent key hkey).2 (hpresent other hother).2

/-! ## Which answers stay -/

/-- The key that answers is the first eligible one, where a record stands under
    it. -/
theorem answeringKey_iff :
    answeringKey reader cache allowsHost host = some key ↔
      FirstEligible reader cache allowsHost host key ∧ HasRecord cache key := by
  constructor
  · exact answeringKey_eq_some
  · rintro ⟨hfirst, hrecord⟩
    obtain ⟨policy, hfound, rfl⟩ := firstEligible_iff.mp hfirst
    obtain ⟨issuer, hissuer⟩ := Option.isSome_iff_exists.mp hrecord
    rw [answeringKey, findPolicyMatch_eq, hfound, Option.bind_some, recordUnder, hissuer]
    rfl

/-- **LEADER KEPT**: the policy that leads after the calls is the one that was
    first, or neither has a record. -/
def LeaderKept (reader : Reader) (cache : Cache) (calls : List CacheCall)
    (allowsHost : DestinationPolicyProjection → String → Bool) (host : String) : Prop :=
  ∀ first leader, FirstEligible reader cache allowsHost host first →
    LeadsAfter reader cache calls allowsHost host leader → leader ≠ first →
      ¬ HasRecord cache first ∧ ¬ HasRecord cache leader

theorem answeringKey_replay_iff (hkeyed : WellKeyed cache)
    (hkeyed' : WellKeyed (applyCalls cache calls))
    (hsame : SameContents cache (applyCalls cache calls)) :
    answeringKey reader (applyCalls cache calls) allowsHost host
        = answeringKey reader cache allowsHost host ↔
      LeaderKept reader cache calls allowsHost host := by
  constructor
  · intro heq first leader hfirst hleader hne
    rw [← firstEligible_applyCalls hkeyed' hsame] at hleader
    refine ⟨fun hrecord => ?_, fun hrecord => ?_⟩
    · have hanswer := answeringKey_iff.mpr ⟨hfirst, hrecord⟩
      rw [← heq] at hanswer
      exact hne (hleader.unique (answeringKey_iff.mp hanswer).1)
    · have hanswer := answeringKey_iff.mpr ⟨hleader, hsame.hasRecord_iff.mpr hrecord⟩
      rw [heq] at hanswer
      exact hne ((answeringKey_iff.mp hanswer).1.unique hfirst)
  · intro hkept
    refine Option.ext fun key => ?_
    rw [answeringKey_iff, answeringKey_iff, hsame.hasRecord_iff]
    refine and_congr_left fun hrecord => ⟨fun hleads => ?_, fun hfirst => ?_⟩
    · have hleader := (firstEligible_applyCalls hkeyed' hsame).mp hleads
      obtain ⟨first, hfirst⟩ := exists_firstEligible hleader.1
      by_cases hne : key = first
      · exact hne ▸ hfirst
      · exact absurd hrecord (hkept first key hfirst hleader hne).2
    · have heligible := ((firstEligible_iff_before hkeyed).mp hfirst).1
      obtain ⟨leader, hleads⟩ := exists_firstEligible (hsame.eligibleKey_iff.mpr heligible)
      have hleader := (firstEligible_applyCalls hkeyed' hsame).mp hleads
      by_cases hne : leader = key
      · exact hne ▸ hleads
      · exact absurd hrecord (hkept key leader hfirst hleader hne).1

/-- Where the same key answers from the same contents, the search finds the same
    pair. -/
theorem findPolicyMatch_of_sameKey (hkeyed : WellKeyed cache) (hkeyed' : WellKeyed cache')
    (hsame : SameContents cache cache')
    (hkey : answeringKey reader cache' allowsHost host = answeringKey reader cache allowsHost host) :
    findPolicyMatch reader cache' allowsHost host cache'.policiesByKey.values
      = findPolicyMatch reader cache allowsHost host cache.policiesByKey.values := by
  have hmatch : ∀ {c : Cache} {found : IssuerProjection × DestinationPolicyProjection},
      WellKeyed c → findPolicyMatch reader c allowsHost host c.policiesByKey.values = some found →
      c.policiesByKey.get? found.2.policyKey = some found.2
        ∧ c.issuersByPolicyKey.get? found.2.policyKey = some found.1 := by
    intro c found hc hfound
    obtain ⟨hpolicy, hissuer, -⟩ := findPolicyMatch_mem hfound
    obtain ⟨k, hentry⟩ := mem_values.mp hpolicy
    obtain rfl := hc.policies k found.2 hentry
    exact ⟨(get?_eq_some_iff ..).mpr hentry, hissuer⟩
  rw [answeringKey, answeringKey] at hkey
  cases hfound : findPolicyMatch reader cache allowsHost host cache.policiesByKey.values with
  | none =>
      rw [hfound] at hkey
      exact Option.map_eq_none_iff.mp hkey
  | some found =>
      rw [hfound] at hkey
      obtain ⟨found', hfound', hkeys⟩ := Option.map_eq_some_iff.mp hkey
      obtain ⟨hpolicy, hissuer⟩ := hmatch hkeyed hfound
      obtain ⟨hpolicy', hissuer'⟩ := hmatch hkeyed' hfound'
      rw [hkeys, hsame.policies, hpolicy] at hpolicy'
      rw [hkeys, hsame.issuers, hissuer] at hissuer'
      rw [hfound', Prod.ext (Option.some.inj hissuer') (Option.some.inj hpolicy')]

/-- **SAME ANSWERS**: every host and every URL is answered alike. -/
structure SameAnswers (reader : Reader) (cache cache' : Cache) : Prop where
  byHost : ∀ host, resolveByHost reader cache' host = resolveByHost reader cache host
  byDestination : ∀ url hint,
    resolveByDestination reader cache' url hint = resolveByDestination reader cache url hint

/-- The leaders that decide for hosts, and those that decide for destinations,
    are kept. -/
structure LeadersKept (reader : Reader) (cache : Cache) (calls : List CacheCall) : Prop where
  byHost : ∀ host, LeaderKept reader cache calls (policyAllowsHost reader)
    (reader.js.toLowerCase host)
  byDestination : ∀ host, LeaderKept reader cache calls (policyAllowsLookupHost reader)
    (reader.js.toLowerCase host)

/-- A URL to ask about a host with. -/
def urlOf (host : String) : Url := ⟨"", "", "", "", host, "", []⟩

/-- **ANSWERS**: calls that leave the contents leave every answer exactly when
    they keep the leaders. -/
theorem sameAnswers_iff (hkeyed : WellKeyed cache) (hkeyed' : WellKeyed (applyCalls cache calls))
    (hsame : SameContents cache (applyCalls cache calls)) :
    SameAnswers reader cache (applyCalls cache calls) ↔ LeadersKept reader cache calls := by
  constructor
  · intro h
    refine ⟨fun host => ?_, fun host => ?_⟩
    · rw [← answeringKey_replay_iff hkeyed hkeyed' hsame, ← resolveByHost_key hkeyed',
        ← resolveByHost_key hkeyed, h.byHost]
    · have hkeys := congrArg (Option.map fun answer => answer.policy.policyKey)
        (h.byDestination (urlOf host) none)
      rw [resolveByDestination_key, resolveByDestination_key] at hkeys
      exact (answeringKey_replay_iff hkeyed hkeyed' hsame).mp hkeys
  · intro h
    refine ⟨fun host => ?_, fun url hint => ?_⟩
    · have hkey := (answeringKey_replay_iff hkeyed hkeyed' hsame).mpr (h.byHost host)
      rw [resolveByHost, resolveByHost]
      rw [findPolicyMatch_of_sameKey hkeyed hkeyed' hsame hkey]
    · have hkey := (answeringKey_replay_iff hkeyed hkeyed' hsame).mpr
        (h.byDestination (hint.getD url.hostname))
      rw [resolveByDestination, resolveByDestination]
      rw [findPolicyMatch_of_sameKey hkeyed hkeyed' hsame hkey]

end Leaders

/-! ## Two runs over one log -/

variable {service : SyncService} {s s' : SyncState} {event : NetworkEvent}
  {events : List NetworkEvent}

/-- The cache call of an action. -/
def callOf : SyncAction → Option CacheCall
  | .cacheCall call => some call
  | .verifyTrustArtifact _ _ => none
  | .updateTrustKeyStatus _ => none

/-- The cache calls of a list of actions. -/
def callsOf (actions : List SyncAction) : List CacheCall := actions.filterMap callOf

theorem callsOf_append (first second : List SyncAction) :
    callsOf (first ++ second) = callsOf first ++ callsOf second :=
  List.filterMap_append

/-- The cache after some actions is the cache after their calls. -/
theorem applyAll_cache (actions : List SyncAction) :
    ((machine service).applyAll s actions).cache = applyCalls s.cache (callsOf actions) := by
  induction actions generalizing s with
  | nil => rfl
  | cons action rest ih =>
      rw [Machine.applyAll_cons, ih]
      cases action <;> rfl

/-- The verifier gives the artifact of an event the same verdict in two states. -/
def SameVerdict (service : SyncService) (s s' : SyncState) (event : NetworkEvent) : Prop :=
  ∀ artifact, Fetched service event artifact →
    (service.verifyTrustArtifact s'.trustKeyRegistry artifact.body).accepted
      = (service.verifyTrustArtifact s.trustKeyRegistry artifact.body).accepted

/-- **SAME VERDICTS**: a run over the log from the second state meets the verdicts
    of the run from the first. -/
def SameVerdicts (service : SyncService) : SyncState → SyncState → List NetworkEvent → Prop
  | _, _, [] => True
  | s, s', event :: rest =>
      SameVerdict service s s' event
        ∧ SameVerdicts service ((machine service).step s event) ((machine service).step s' event) rest

/-- No event creates a trust-key registry. -/
theorem noRegistry_step (h : s.trustKeyRegistry = none) :
    ((machine service).step s event).trustKeyRegistry = none := by
  refine @Machine.applyAll_invariant _ _ _ (machine service) (fun s => s.trustKeyRegistry = none)
    _ ?_ _ h
  intro s action _ hs
  cases action with
  | updateTrustKeyStatus input =>
      show s.trustKeyRegistry.map _ = none
      rw [hs]
      rfl
  | _ => exact hs

/-- Nor does a run. -/
theorem noRegistry_syncRecent (h : s.trustKeyRegistry = none) :
    (syncRecent service s events).1.trustKeyRegistry = none := by
  rw [syncRecent_state]
  exact @Machine.runState_invariant _ _ _ (machine service) (fun s => s.trustKeyRegistry = none) _
    (fun s event _ hs => noRegistry_step hs) _ h

/-- Without a trust-key registry the verdicts are the same. -/
theorem sameVerdicts_of_noRegistry (h : s.trustKeyRegistry = none)
    (h' : s'.trustKeyRegistry = none) : SameVerdicts service s s' events := by
  induction events generalizing s s' with
  | nil => trivial
  | cons event rest ih =>
      refine ⟨fun artifact _ => ?_, ih (noRegistry_step h) (noRegistry_step h')⟩
      rw [h, h']

/-- The calls of a projected body do not depend on the state. -/
theorem callsOf_projectionActions (body : JsonValue) :
    callsOf (projectionActions service s body event) = projectionCalls service body event := by
  have hcalls : ∀ calls : List CacheCall, callsOf (calls.map .cacheCall) = calls := by
    intro calls
    rw [callsOf, List.filterMap_map]
    exact List.filterMap_some ..
  have hupdates : ∀ updates : List TrustKeys.TrustKeyStatusUpdateInput,
      callsOf (updates.map .updateTrustKeyStatus) = [] := by
    intro updates
    rw [callsOf, List.filterMap_map]
    exact List.filterMap_eq_nil_iff.mpr fun _ _ => rfl
  rw [projectionActions, callsOf_append, hcalls, hupdates, List.append_nil]

/-- Under the same verdict an event leads to the same calls. -/
theorem callsOf_plan_congr (h : SameVerdict service s s' event) :
    callsOf ((machine service).plan s' event) = callsOf ((machine service).plan s event) := by
  show callsOf (planEvent service s' event).actions = callsOf (planEvent service s event).actions
  by_cases hfetched : ∃ artifact, Fetched service event artifact
  case neg =>
    have hnone : ∀ s, (planEvent service s event).actions = [] := by
      intro s
      have hcase := planEvent_case service s event
      generalize (planEvent service s event).actions = actions at hcase ⊢
      cases hcase with
      | notFetched _ => rfl
      | unrecognized artifact hin _ => exact absurd ⟨artifact, hin⟩ hfetched
      | rejected artifact hin _ => exact absurd ⟨artifact, hin⟩ hfetched
      | accepted artifact hin _ _ _ => exact absurd ⟨artifact, hin⟩ hfetched
    rw [hnone, hnone]
  obtain ⟨artifact, hin⟩ := hfetched
  have hverdict := h artifact hin
  have hcalls : ∀ s, callsOf (planEvent service s event).actions
      = if isRecognizedTrustArtifact artifact.body = false
          ∨ ((service.verifyTrustArtifact s.trustKeyRegistry artifact.body).accepted = true
            ∧ trustArtifactScopeMatchesBody artifact.body = true)
        then projectionCalls service artifact.body event else [] := by
    intro s
    rw [planEvent, if_neg hin.processed, hin.stored]
    simp only [hin.hashed, Bool.not_true, Bool.false_eq_true, if_false]
    cases isRecognizedTrustArtifact artifact.body with
    | false => exact callsOf_projectionActions _
    | true =>
        cases (service.verifyTrustArtifact s.trustKeyRegistry artifact.body).accepted with
        | false => rfl
        | true =>
            cases trustArtifactScopeMatchesBody artifact.body with
            | false => rfl
            | true => exact callsOf_projectionActions _
  rw [hcalls, hcalls, hverdict]

/-- **THE SAME CALLS**: under the same verdicts two runs over one log make the
    same cache calls. -/
theorem callsOf_actions_congr (h : SameVerdicts service s s' events) :
    callsOf ((machine service).actions s' events) = callsOf ((machine service).actions s events) := by
  induction events generalizing s s' with
  | nil => rfl
  | cons event rest ih =>
      obtain ⟨hevent, hrest⟩ := h
      rw [Machine.actions_cons, Machine.actions_cons, callsOf_append, callsOf_append,
        callsOf_plan_congr hevent, ih hrest]

/-- Calls keep a cache reachable. -/
theorem reachable_applyCalls {cache : Cache} (h : Reachable cache) (calls : List CacheCall) :
    Reachable (applyCalls cache calls) := by
  obtain ⟨initial, policies, earlier, rfl⟩ := h
  exact ⟨initial, policies, earlier ++ calls, List.foldl_append.symm⟩

/-- **IDEMPOTENCE**: for every service, log and reachable cache, where the second
    run meets the verdicts of the first, it leaves every answer exactly when it
    keeps the leaders. -/
theorem sync_idempotent_iff (service : SyncService) (reader : Reader) (s : SyncState)
    (hreachable : Reachable s.cache) (events : List NetworkEvent) (synced : SyncState)
    (hsynced : synced = (syncRecent service s events).1)
    (hverdicts : SameVerdicts service s synced events) :
    SameAnswers reader synced.cache (syncRecent service synced events).1.cache ↔
      LeadersKept reader synced.cache (callsOf ((machine service).actions s events)) := by
  have hfirst : synced.cache
      = applyCalls s.cache (callsOf ((machine service).actions s events)) := by
    rw [hsynced, syncRecent_state, Machine.runState_eq_applyAll, applyAll_cache]
  have hsecond : (syncRecent service synced events).1.cache
      = applyCalls synced.cache (callsOf ((machine service).actions s events)) := by
    rw [syncRecent_state, Machine.runState_eq_applyAll, applyAll_cache,
      callsOf_actions_congr hverdicts]
  have hreached : Reachable synced.cache := hfirst ▸ reachable_applyCalls hreachable _
  rw [hsecond]
  refine sameAnswers_iff hreached.wellKeyed (reachable_applyCalls hreached _).wellKeyed ?_
  rw [hfirst]
  exact replay_sameContents ..

/-! ## Two policies for one host -/

/-- A policy of the issuer for the host of the shop. -/
def offeredPolicy (issuerId : String) : JsonValue :=
  .obj
    [ ("artifact_type", .str "destination_policy"), ("root_program_id", .str "root:demo"),
      ("delegated_authority_id", .str "authority:demo"), ("issuer_id", .str issuerId),
      ("destination_policy_id", .str "policy:web"),
      ("approved_destinations", .arr
          [ .obj
              [ ("destination_id", .str "dest:pay"),
                ("expected_final_url", .str "https://shop.example/"),
                ("allowed_hosts", .arr [.str "shop.example"]),
                ("allow_subdomains", .bool false), ("path_prefixes", .arr []),
                ("query_policy", .str "none") ] ]),
      ("redirect_policy", .obj
          [ ("resolver_urls", .arr []), ("expected_final_destinations", .arr []),
            ("allowed_redirect_hosts", .arr []), ("max_redirect_hops", .num 0),
            ("nested_shorteners_allowed", .bool false),
            ("scanner_must_display_resolver_and_final_destination", .bool true) ]),
      ("publication", .obj
          [ ("published_at", .str "2026-01-01T00:00:00Z"),
            ("valid_until", .str "2027-01-01T00:00:00Z") ]) ]

/-- The revocation of an earlier policy of the northern issuer. -/
def policyRevocation : JsonValue :=
  .obj
    [ ("artifact_type", .str "revocation_status_event"),
      ("root_program_id", .str "root:demo"), ("delegated_authority_id", .str "authority:demo"),
      ("target", .obj
          [ ("target_type", .str "destination_policy"), ("issuer_id", .str "issuer:north"),
            ("destination_policy_id", .str "policy:web") ]),
      ("status", .str "revoked"), ("signed_by", .str "authority:demo"),
      ("signature_status", .str "ed25519-signed"), ("signature_algorithm_id", .str "ed25519"),
      ("signature_input", .str "canonical-json-excluding-signature"),
      ("signature", .str "c2ln") ]

/-- The digests of the three documents. -/
def overlapHash (body : JsonValue) : String :=
  match body.stringField "issuer_id" with
  | some "issuer:north" => "2a44afdb8bf391b05c53805987da8386a4d84ff5c1dbe4a645e313b2df1c5790"
  | some "issuer:south" => "0d6200ca2ed4752151b0bf403a0829c4fdf90c5be8bc8c0938e0f508dd7fa013"
  | _ => "fab72a13266f68dee185aa15dbf4c479f170ee5a4b74cc92f41edbaa2ae26b22"

/-- A service over the three documents whose signatures all verify. -/
def overlapService : SyncService where
  js := { demoService.js with hashJson := overlapHash }
  store := .ofList
    ([ ("artifact:revocation", policyRevocation), ("artifact:north", offeredPolicy "issuer:north"),
       ("artifact:south", offeredPolicy "issuer:south") ].map fun entry =>
      (entry.1, ⟨"sha256:" ++ overlapHash entry.2, entry.2⟩))
  verifyTrustArtifact := fun _ _ => ⟨true, "signature_verified"⟩

/-- An event of the log. -/
def overlapEvent (type artifactId : String) (body : JsonValue) : NetworkEvent where
  type := type
  occurredAt := "2026-01-01T00:00:00Z"
  rootProgramId := "root:demo"
  delegatedAuthorityId := some "authority:demo"
  issuerId := none
  destinationPolicyId := none
  artifactId := artifactId
  artifactHash := "sha256:" ++ overlapHash body

/-- The revocation of an earlier policy comes first, then both policies. -/
def overlapLog : List NetworkEvent :=
  [ overlapEvent "destination.policy.revoked" "artifact:revocation" policyRevocation,
    overlapEvent "destination.policy.published" "artifact:north" (offeredPolicy "issuer:north"),
    overlapEvent "destination.policy.published" "artifact:south" (offeredPolicy "issuer:south") ]

/-- The record of an issuer. -/
def overlapIssuer (issuerId : String) : IssuerProjection where
  ns := ⟨"root:demo", "authority:demo", issuerId⟩
  issuerDisplayName := issuerId
  assuranceTier := "verified_business"
  destinationPolicyId := "policy:web"
  allowedHosts := []
  cacheGeneratedAt := "2026-01-01T00:00:00Z"
  cacheExpiresAt := "2027-01-01T00:00:00Z"

/-- A cache that knows the two issuers. -/
def overlapStart : SyncState where
  cache := makeInMemoryVerifierCache [overlapIssuer "issuer:north", overlapIssuer "issuer:south"] []
  trustKeyRegistry := none

/-- The state after the first run. -/
def overlapSynced : SyncState := (syncRecent overlapService overlapStart overlapLog).1

/-- For this log the answers stay if and only if the leaders do. -/
theorem sync_idempotent_iff_overlap :
    SameAnswers demoReader overlapSynced.cache
        (syncRecent overlapService overlapSynced overlapLog).1.cache ↔
      LeadersKept demoReader overlapSynced.cache
        (callsOf ((machine overlapService).actions overlapStart overlapLog)) :=
  sync_idempotent_iff overlapService demoReader overlapStart (reachable_initial _ _) overlapLog
    overlapSynced rfl (sameVerdicts_of_noRegistry rfl (noRegistry_syncRecent rfl))

/-- The issuer that answers for the host after each of the two runs. -/
def overlapAnswers : {answers : List (Option IssuerProjection) //
    answers = [resolveByHost demoReader overlapSynced.cache "shop.example",
        resolveByHost demoReader (syncRecent overlapService overlapSynced overlapLog).1.cache
          "shop.example"]
      ∧ answers.map (Option.map fun issuer => issuer.ns.issuerId)
        = [some "issuer:north", some "issuer:south"]} :=
  ⟨_, rfl, by decide +kernel⟩

/-- **THE ANSWER MOVES**: the first run answers for the host with the northern
    issuer, and the second with the southern one. -/
theorem second_run_moves_answer :
    (resolveByHost demoReader overlapSynced.cache "shop.example").map (fun issuer =>
        issuer.ns.issuerId) = some "issuer:north"
      ∧ (resolveByHost demoReader (syncRecent overlapService overlapSynced overlapLog).1.cache
          "shop.example").map (fun issuer => issuer.ns.issuerId) = some "issuer:south"
      ∧ ¬ SameAnswers demoReader overlapSynced.cache
          (syncRecent overlapService overlapSynced overlapLog).1.cache := by
  obtain ⟨answers, hanswers, hissuers⟩ := overlapAnswers
  rw [hanswers] at hissuers
  obtain ⟨hnorth, hsouth⟩ := List.cons.inj hissuers
  replace hsouth := (List.cons.inj hsouth).1
  refine ⟨hnorth, hsouth, fun hsame => ?_⟩
  rw [hsame.byHost, hnorth] at hsouth
  exact absurd hsouth (by decide)

end SyncIdempotence
