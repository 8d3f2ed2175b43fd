import QrTrust.Lib.RepeatedWrites
import QrTrust.Network.SyncIdempotenceProofs

/-! # The calls of one body, made again

    Each call of the cache writer, made again, changes nothing, and a body leads
    to one call at most, or to the two that remove an issuer and its policies.
    So the calls of one body are settled once they are made, and a removal then
    finds nothing more. -/

namespace RepeatedCalls

open VerifierCache PolicyDecoding VerifierSync SyncGate SyncAcceptance TrustFact SyncIdempotence

variable {cache : Cache} {service : SyncService} {body : JsonValue} {event : NetworkEvent}

/-! ## One call -/

/-- Members that a filter drops do not show in what it keeps. -/
theorem filter_addAll {p : String → Bool} {set members : List String}
    (h : ∀ m ∈ members, p m = false) : (addAll set members).filter p = set.filter p := by
  rw [addAll]
  induction members generalizing set with
  | nil => rfl
  | cons m rest ih =>
      rw [List.foldl_cons, ih fun m' hm' => h m' (List.mem_cons_of_mem _ hm')]
      by_cases hmem : m ∈ set
      · rw [List.insert_of_mem hmem]
      · rw [List.insert_of_not_mem hmem, List.filter_cons_of_neg]
        rw [h m List.mem_cons_self]
        exact Bool.false_ne_true

/-- **AGAIN**: a call that is made a second time changes nothing. -/
theorem applyCall_again (cache : Cache) (call : CacheCall) :
    applyCall (applyCall cache call) call = applyCall cache call := by
  cases call with
  | upsertIssuer projection =>
      simp only [applyCall, putProjection, OrderedMap.set_set]
  | upsertDestinationPolicy policy =>
      simp only [applyCall, OrderedMap.set_set]
  | upsertRootAuthorityContext context =>
      simp only [applyCall, replaceRootAuthorityContext, OrderedMap.set_set]
  | upsertDelegatedAuthorityIssuerContext context =>
      simp only [applyCall, replaceDelegatedAuthorityIssuerContext,
        mergeDelegatedAuthorityIssuerContext]
      rw [filter_addAll, List.filter_filter]
      · simp only [Bool.and_self]
      · intro key hkey
        obtain ⟨issuerId, -, rfl⟩ := List.mem_map.mp hkey
        rw [startsWith_authorityPrefix]
        rfl
  | updateIssuerAssuranceTier update =>
      simp only [applyCall]
      rw [OrderedMap.mapValues_mapValues]
      intro issuer
      exact @tierChange_idem update issuer
  | removeIssuer ns =>
      simp only [applyCall, OrderedMap.filter_filter]
  | removeDestinationPolicy key =>
      simp only [applyCall, OrderedMap.erase, OrderedMap.filter_filter]
  | removeDestinationPoliciesForIssuer ns =>
      simp only [applyCall, OrderedMap.filter_filter]
  | removeDelegatedAuthority key =>
      simp only [applyCall, removeDelegatedAuthority, OrderedMap.filter_filter, List.filter_filter,
        Bool.and_self]
      cases hroot : cache.activeDelegatedAuthoritiesByRoot.get? key.rootProgramId with
      | none => simp only [hroot]
      | some authorities =>
          simp only [OrderedMap.get?_set_self, OrderedMap.set_set, List.filter_filter,
            Bool.and_self]

/-- Does the call remove something? -/
def isRemoval : CacheCall → Bool
  | .removeIssuer _ => true
  | .removeDestinationPolicy _ => true
  | .removeDestinationPoliciesForIssuer _ => true
  | .removeDelegatedAuthority _ => true
  | _ => false

/-- No value that a filter keeps has what the filter drops. -/
theorem any_values_filter {ν : Type} {m : OrderedMap String ν} {p : String × ν → Bool} {q : ν → Bool}
    (h : ∀ entry, p entry = true → q entry.2 = false) : (m.filter p).values.any q = false := by
  refine List.any_eq_false.mpr fun v hv => ?_
  obtain ⟨k, hmem⟩ := OrderedMap.mem_values.mp hv
  obtain ⟨-, hkept⟩ := (OrderedMap.mem_filter ..).mp hmem
  rw [h _ hkept]
  exact Bool.false_ne_true

/-- **REMOVED**: after a removal there is nothing left to remove. -/
theorem callFound_removal {call : CacheCall} (hremoval : isRemoval call = true) :
    callFound (applyCall cache call) call = false := by
  cases call with
  | removeIssuer ns =>
      refine any_values_filter fun entry hkept => ?_
      simpa using hkept
  | removeDestinationPolicy key =>
      refine Bool.eq_false_iff.mpr fun hcontains => ?_
      obtain ⟨policy, hmem⟩ := OrderedMap.mem_keys.mp (OrderedMap.contains_iff.mp hcontains)
      exact ((OrderedMap.mem_erase ..).mp hmem).2 rfl
  | removeDestinationPoliciesForIssuer ns =>
      refine any_values_filter fun entry hkept => ?_
      simpa using hkept
  | removeDelegatedAuthority key =>
      have hissuers : ((applyCall cache (.removeDelegatedAuthority key)).issuersByPolicyKey.values.any
          fun issuer => delegatedAuthorityEquals issuer.ns key) = false :=
        any_values_filter fun entry hkept => by simpa using hkept
      have hpolicies : ((applyCall cache (.removeDelegatedAuthority key)).policiesByKey.values.any
          fun policy => delegatedAuthorityEquals policy.ns key) = false :=
        any_values_filter fun entry hkept => by simpa using hkept
      have hroot : (((applyCall cache
          (.removeDelegatedAuthority key)).activeDelegatedAuthoritiesByRoot.get?
            key.rootProgramId).getD []).contains key.delegatedAuthorityId = false := by
        simp only [applyCall, removeDelegatedAuthority]
        cases hget : cache.activeDelegatedAuthoritiesByRoot.get? key.rootProgramId with
        | none => simp [hget]
        | some authorities => simp [OrderedMap.get?_set_self]
      have hactive : ((applyCall cache
          (.removeDelegatedAuthority key)).activeIssuersByAuthority.any fun issuer =>
            JsString.startsWith issuer
              (authorityPrefix key.rootProgramId key.delegatedAuthorityId)) = false := by
        refine List.any_eq_false.mpr fun issuer hissuer => ?_
        simpa using (List.mem_filter.mp hissuer).2
      rw [callFound, hissuers, hpolicies, hroot, hactive]
      rfl
  | _ => cases hremoval

/-- A tier update finds what it found. -/
theorem callFound_tierUpdate (update : IssuerAssuranceTierUpdate) :
    callFound (applyCall cache (.updateIssuerAssuranceTier update))
        (.updateIssuerAssuranceTier update)
      = callFound cache (.updateIssuerAssuranceTier update) := by
  show ((cache.issuersByPolicyKey.mapValues (tierChange update)).values.any fun issuer =>
    decide (issuer.ns = update.ns)) = _
  have hvalues : (cache.issuersByPolicyKey.mapValues (tierChange update)).values
      = cache.issuersByPolicyKey.values.map (tierChange update) := by
    show (cache.issuersByPolicyKey.entries.map _).map Prod.snd = (cache.issuersByPolicyKey.entries.map _).map _
    rw [List.map_map, List.map_map]
    rfl
  rw [hvalues, List.any_map, callFound]
  refine congrArg (fun p => cache.issuersByPolicyKey.values.any p) (funext fun issuer => ?_)
  rw [Function.comp_apply, tierChange_ns]

/-! ## The calls of a body -/

/-- **SHAPE**: a body leads to one call at most, or to the two that remove an issuer. -/
inductive Shape : List CacheCall → Prop
  | none : Shape []
  | one (call : CacheCall) : Shape [call]
  | issuer (ns : IssuerNamespace) :
      Shape [.removeIssuer ns, .removeDestinationPoliciesForIssuer ns]

theorem shape_map {α : Type} (x : Option α) (f : α → CacheCall) : Shape (x.toList.map f) := by
  cases x with
  | none => exact .none
  | some a => exact .one (f a)

theorem shape_revocationCalls (revocation : RevocationStatusArtifactBody) :
    Shape (revocationCalls revocation) := by
  rw [revocationCalls]
  split
  · exact .issuer _
  · exact .issuer _
  · exact .issuer _
  · exact .one _
  · exact .one _
  · exact .none

theorem shape_projectionCalls (service : SyncService) (body : JsonValue) (event : NetworkEvent) :
    Shape (projectionCalls service body event) := by
  cases hrecognized : isRecognizedTrustArtifact body with
  | false =>
      have hcalls := congrArg callsOf (@projectionActions_unrecognized service ⟨.empty, none⟩ body
        event hrecognized)
      rw [callsOf_projectionActions] at hcalls
      rw [hcalls]
      cases projectedPolicy service.js body event with
      | none => exact .none
      | some policy => exact .one _
  | true =>
      simp only [isRecognizedTrustArtifact, Bool.or_eq_true, Option.isSome_iff_exists] at hrecognized
      rcases hrecognized with
        ((((⟨_, h⟩ | ⟨_, h⟩) | ⟨_, h⟩) | h) | ⟨revocation, h⟩) | ⟨assurance, h⟩
      · rw [projectionCalls_rootManifest h]
        exact shape_map ..
      · rw [projectionCalls_authorityManifest h]
        exact shape_map ..
      · rw [projectionCalls_issuerRecord h]
        exact shape_map ..
      · have htype : hasArtifactType body "destination_policy" = true := by
          simp only [isDestinationPolicyArtifactBody, Bool.and_eq_true] at h
          exact h.1.1.1.1.1.1.1
        rw [projectionCalls_policy htype]
        exact shape_map ..
      · rw [projectionCalls_revocation h, applyStatusEventCalls]
        split
        · exact .none
        · exact shape_revocationCalls revocation
      · rw [projectionCalls_assurance h]
        exact .one _

/-- **SETTLED**: once made, the calls of a body change nothing more, one by one. -/
theorem settled_of_shape {calls : List CacheCall} (h : Shape calls) (cache : Cache) :
    ∀ call ∈ calls, applyCall (applyCalls cache calls) call = applyCalls cache calls := by
  cases h with
  | none => exact fun _ hmem => absurd hmem List.not_mem_nil
  | one call =>
      intro call' hmem
      obtain rfl := List.mem_singleton.mp hmem
      exact applyCall_again cache call'
  | issuer ns =>
      -- the two calls touch different maps
      have hissuer : applyCall (applyCalls cache [.removeIssuer ns,
          .removeDestinationPoliciesForIssuer ns]) (.removeIssuer ns)
          = applyCall (applyCall (applyCall cache (.removeIssuer ns)) (.removeIssuer ns))
            (.removeDestinationPoliciesForIssuer ns) := rfl
      intro call hmem
      rcases List.mem_cons.mp hmem with rfl | hmem
      · rw [hissuer, applyCall_again]
        rfl
      · obtain rfl := List.mem_singleton.mp hmem
        exact applyCall_again (applyCall cache (.removeIssuer ns))
          (.removeDestinationPoliciesForIssuer ns)

end RepeatedCalls
