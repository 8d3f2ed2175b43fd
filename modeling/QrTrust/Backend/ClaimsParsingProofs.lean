import QrTrust.Backend.HostCanonicalizationProofs
import QrTrust.Backend.SignedSchema

/-! # Parsed claims

    What `parse_claims_mapping` returns is normal: the texts it strips have nothing
    left to strip, and the timestamps, which it keeps as they are written, can be
    read.  Normal claims are parsed back from their own mapping
    (`parseClaimsMapping_normal`), so these are exactly the claims it returns. -/

namespace SignedSchema

open DestinationCanonicalization Fallible

variable {py : PyRuntime}

/-- A text that is required not to be empty, as it is kept. -/
structure IsKept (text : String) : Prop where
  stripped : PyString.strip text = text
  nonempty : text ≠ ""

/-- The times of the claims: both can be read, and the first is before the second. -/
structure HasTimes (py : PyRuntime) (claims : SignedQRCodeClaims) (issuedAt : Datetime)
    (expiresAt : Option Datetime) : Prop where
  issued : parseClaimTimestamp py "issued_at" claims.issuedAt = .ok issuedAt
  openEnded : claims.expiresAt = none → expiresAt = none
  expires : ∀ text, claims.expiresAt = some text → ∃ expiry, expiresAt = some expiry ∧
    parseClaimTimestamp py "expires_at" text = .ok expiry ∧ expiry.le issuedAt = .ok false

/-- The claims are as `parse_claims_mapping` returns them. -/
structure IsNormal (py : PyRuntime) (claims : SignedQRCodeClaims) : Prop where
  version : claims.version = supportedClaimsVersion
  certificateRef : IsKept claims.certificateRef
  times : ∃ issuedAt expiresAt, HasTimes py claims issuedAt expiresAt
  payload : IsKept claims.payload

/-- The mapping has the five fields of the claims, with these values. -/
structure IsMappingOf (data : OrderedMap String PyJson) (claims : SignedQRCodeClaims) : Prop where
  fields : ∀ field, field ∈ data.keys ↔ field ∈ canonicalClaimOrder
  version : item data "version" = .str claims.version
  certificateRef : item data "certificate_ref" = .str claims.certificateRef
  issuedAt : item data "issued_at" = .str claims.issuedAt
  expiresAt : item data "expires_at" = (claims.expiresAt.map PyJson.str).getD .none
  payload : item data "payload" = .str claims.payload

theorem requireNonEmptyString_ok {label text : String} {value : PyJson}
    (h : requireNonEmptyString label value = .ok text) : IsKept text := by
  cases value with
  | str raw =>
      rw [requireNonEmptyString] at h
      split at h
      · cases h
      · rename_i hne
        obtain rfl := Except.ok.inj h
        exact ⟨strip_strip raw, hne⟩
  | _ => cases h

theorem IsKept.requireNonEmptyString_eq {text : String} (h : IsKept text) (label : String) :
    requireNonEmptyString label (.str text) = .ok text := by
  rw [requireNonEmptyString, h.stripped]
  exact if_neg h.nonempty

theorem parseClaimTimestampValue_ok {label : String} {value : PyJson} {time : Datetime}
    (h : parseClaimTimestampValue py label value = .ok time) :
    value = .str (strOf value) ∧ parseClaimTimestamp py label (strOf value) = .ok time := by
  cases value with
  | str text => exact ⟨rfl, h⟩
  | _ => cases h

theorem parseExpiresAt_ok {issuedAt : Datetime} {value : PyJson} {expiresAt : Option String}
    (h : parseExpiresAt py issuedAt value = .ok expiresAt) :
    expiresAt = none ∨ ∃ text expiry, expiresAt = some text ∧
      parseClaimTimestamp py "expires_at" text = .ok expiry ∧ expiry.le issuedAt = .ok false := by
  by_cases hnull : value = .none
  · subst hnull
    obtain rfl := Except.ok.inj h
    exact .inl rfl
  · rw [parseExpiresAt] at h
    · obtain ⟨expiry, hexpiry, h⟩ := bind_eq_ok_iff.mp h
      obtain ⟨late, hlate, h⟩ := bind_eq_ok_iff.mp h
      cases late with
      | true => exact absurd h throw_bind_ne
      | false =>
          obtain rfl := Except.ok.inj h
          exact .inr ⟨_, expiry, rfl, (parseClaimTimestampValue_ok hexpiry).2, hlate⟩
    · exact hnull

/-- **NORMAL**: what is returned is normal. -/
theorem isNormal_of_parsed {data : OrderedMap String PyJson} {claims : SignedQRCodeClaims}
    (h : parseClaimsMapping py data = .ok claims) : IsNormal py claims := by
  rw [parseClaimsMapping] at h
  dsimp only at h
  split at h
  · exact absurd h throw_bind_ne
  obtain ⟨version, hversion, h⟩ := bind_eq_ok_iff.mp h
  split at h
  · exact absurd h throw_bind_ne
  rename_i hsupported
  split at h
  · exact absurd h throw_bind_ne
  obtain ⟨certificateRef, hcertificate, h⟩ := bind_eq_ok_iff.mp h
  obtain ⟨issuedAt, hissued, h⟩ := bind_eq_ok_iff.mp h
  obtain ⟨expiresAt, hexpires, h⟩ := bind_eq_ok_iff.mp h
  obtain ⟨payload, hpayload, h⟩ := bind_eq_ok_iff.mp h
  obtain rfl := Except.ok.inj h
  refine ⟨not_not.mp hsupported, requireNonEmptyString_ok hcertificate, ?_,
    requireNonEmptyString_ok hpayload⟩
  have hissuedAt := (parseClaimTimestampValue_ok hissued).2
  rcases parseExpiresAt_ok hexpires with rfl | ⟨text, expiry, rfl, hexpiry, hlate⟩
  · exact ⟨issuedAt, none, hissuedAt, fun _ => rfl, fun text h => (nomatch h)⟩
  · refine ⟨issuedAt, some expiry, hissuedAt, fun h => (nomatch h), fun text' h => ?_⟩
    obtain rfl := Option.some.inj h
    exact ⟨expiry, rfl, hexpiry, hlate⟩

/-- **PARSED BACK**: normal claims are parsed from their mapping. -/
theorem parseClaimsMapping_normal {data : OrderedMap String PyJson} {claims : SignedQRCodeClaims}
    (hdata : IsMappingOf data claims) (h : IsNormal py claims) :
    parseClaimsMapping py data = .ok claims := by
  obtain ⟨issuedAt, expiresAt, htimes⟩ := h.times
  have hmissing : canonicalClaimOrder.filter (fun field => !data.contains field) = [] := by
    rw [List.filter_eq_nil_iff]
    intro field hfield
    simpa using OrderedMap.contains_iff.mpr ((hdata.fields field).mpr hfield)
  have hextras : data.keys.filter (fun field => field ∉ canonicalClaimOrder) = [] := by
    rw [List.filter_eq_nil_iff]
    intro field hfield
    simpa using (hdata.fields field).mp hfield
  have hversion : IsKept claims.version := by
    rw [h.version]
    exact ⟨by decide +kernel, by decide⟩
  have hexpires : parseExpiresAt py issuedAt (item data "expires_at") = .ok claims.expiresAt := by
    rw [hdata.expiresAt]
    cases hexpiresAt : claims.expiresAt with
    | none => rfl
    | some text =>
        obtain ⟨expiry, -, hexpiry, hlate⟩ := htimes.expires text hexpiresAt
        exact bind_eq_ok_iff.mpr ⟨expiry, hexpiry, bind_eq_ok_iff.mpr ⟨false, hlate, rfl⟩⟩
  rw [parseClaimsMapping, hmissing, hextras]
  dsimp only
  rw [if_neg (by simp), hdata.version, hdata.certificateRef, hdata.issuedAt, hdata.payload]
  refine bind_eq_ok_iff.mpr ⟨claims.version, hversion.requireNonEmptyString_eq _, ?_⟩
  rw [if_neg (not_not.mpr h.version), if_neg (by simp)]
  refine bind_eq_ok_iff.mpr ⟨_, h.certificateRef.requireNonEmptyString_eq _, ?_⟩
  refine bind_eq_ok_iff.mpr ⟨issuedAt, htimes.issued, ?_⟩
  refine bind_eq_ok_iff.mpr ⟨_, hexpires, ?_⟩
  exact bind_eq_ok_iff.mpr ⟨_, h.payload.requireNonEmptyString_eq _, rfl⟩

end SignedSchema
