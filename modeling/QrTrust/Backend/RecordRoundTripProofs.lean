import QrTrust.Backend.DomainMapProofs
import QrTrust.Backend.ScannerRecord
import QrTrust.Lib.Fallible

/-! # From the store to the trust context of a scan

    What is written as text is read back as it was (`scannedTrust_eq_ok_iff`), so
    a record that gets through judges as the stored pair does.  What does not get
    through is a record outside the bounds of the request models, a naive time,
    and a window that ends no later than it starts (`judgedAlike_iff`). -/

namespace ScannerRecord

open SignedSchema TrustStore TrustProjection DestinationCanonicalization NarrowedVerifier
  VerdictCache Fallible

variable {py : PyRuntime} {isoformat : Datetime → String} {config : BackendConfig}
  {Governance Defect : Type}

/-! ## The bounds of the request models -/

theorem boundedField_eq_ok_iff {field : String} {least most : Nat} {value : String} {u : Unit} :
    boundedField field least most value = .ok u
      ↔ least ≤ PyString.len value ∧ PyString.len value ≤ most := by
  rw [boundedField]
  by_cases hfits : least ≤ PyString.len value ∧ PyString.len value ≤ most
  · rw [if_pos hfits]
    exact ⟨fun _ => hfits, fun _ => rfl⟩
  · rw [if_neg hfits]
    exact ⟨(fun h => nomatch h), fun h => absurd h hfits⟩

theorem boundedOptionalField_eq_ok_iff {field : String} {least most : Nat}
    {value : Option String} {u : Unit} :
    boundedOptionalField field least most value = .ok u
      ↔ ∀ text, value = some text → least ≤ PyString.len text ∧ PyString.len text ≤ most := by
  cases value with
  | none => exact ⟨fun _ text h => (by cases h), fun _ => rfl⟩
  | some text =>
      rw [boundedOptionalField, boundedField_eq_ok_iff]
      constructor
      · intro hfits text' h
        obtain rfl := Option.some.inj h
        exact hfits
      · intro h
        exact h text rfl

/-- The certificate fits its request model. -/
structure CertificateFits (certificate : CertificateRecordInput) : Prop where
  certificateRef : 1 ≤ PyString.len certificate.certificateRef
    ∧ PyString.len certificate.certificateRef ≤ 256
  issuerName : 1 ≤ PyString.len certificate.issuerName
    ∧ PyString.len certificate.issuerName ≤ 256
  algorithmId : 1 ≤ PyString.len certificate.algorithmId
    ∧ PyString.len certificate.algorithmId ≤ 64
  publicKeyPem : ∀ pem, certificate.publicKeyPem = some pem →
    1 ≤ PyString.len pem ∧ PyString.len pem ≤ 8192

theorem certificateRecordInput_eq_ok_iff {input certificate : CertificateRecordInput} :
    certificateRecordInput input = .ok certificate
      ↔ CertificateFits input ∧ certificate = input := by
  constructor
  · intro h
    obtain ⟨_, href, h⟩ := bind_eq_ok_iff.mp h
    obtain ⟨_, hname, h⟩ := bind_eq_ok_iff.mp h
    obtain ⟨_, halgorithm, h⟩ := bind_eq_ok_iff.mp h
    obtain ⟨_, hpem, h⟩ := bind_eq_ok_iff.mp h
    obtain rfl := Except.ok.inj h
    exact ⟨⟨boundedField_eq_ok_iff.mp href, boundedField_eq_ok_iff.mp hname,
      boundedField_eq_ok_iff.mp halgorithm, boundedOptionalField_eq_ok_iff.mp hpem⟩, rfl⟩
  · rintro ⟨hfits, rfl⟩
    refine bind_eq_ok_iff.mpr ⟨(), boundedField_eq_ok_iff.mpr hfits.certificateRef, ?_⟩
    refine bind_eq_ok_iff.mpr ⟨(), boundedField_eq_ok_iff.mpr hfits.issuerName, ?_⟩
    refine bind_eq_ok_iff.mpr ⟨(), boundedField_eq_ok_iff.mpr hfits.algorithmId, ?_⟩
    exact bind_eq_ok_iff.mpr ⟨(), boundedOptionalField_eq_ok_iff.mpr hfits.publicKeyPem, rfl⟩

/-- The text is written no longer than the request models take a time, and read
    back as the time it was written of; a `Z` and blanks are not in it. -/
structure ReadsBack (py : PyRuntime) (isoformat : Datetime → String) (time : Datetime) : Prop where
  short : PyString.len (isoformat time) ≤ 64
  plain : normalizeTimestamp (isoformat time) = isoformat time
  reads : py.fromisoformat (isoformat time) = some time

/-- The times of a stored pair. -/
def timesOf (key : KeyEntry) (issuer : IssuerRecord) : List Datetime :=
  issuer.issuedAt :: key.notBefore :: (issuer.expiresAt.toList ++ key.notAfter.toList)

/-- The texts and the domains of a stored pair fit the request models. -/
structure Fits (py : PyRuntime) (key : KeyEntry) (issuer : IssuerRecord) : Prop where
  certificate : CertificateFits (certificateOf key issuer)
  revocationReason : ∀ reason, key.revocationReason = some reason → PyString.len reason ≤ 512
  verifiedDomains : CanonicalizesApart py issuer.verifiedDomains.keys

/-- **STATE**: the request model takes the state where the reason is short and the
    domains canonicalize apart; it keeps the rest as it was. -/
theorem issuerVerificationStateInput_eq_ok_iff {key : KeyEntry} {issuer : IssuerRecord}
    {state : IssuerVerificationStateInput}
    (hiso : ∀ time ∈ timesOf key issuer, ReadsBack py isoformat time) :
    issuerVerificationStateInput py (issuerStateOf isoformat key issuer) = .ok state
      ↔ (∀ reason, key.revocationReason = some reason → PyString.len reason ≤ 512)
        ∧ ∃ domains, canonicalizeVerifiedDomainMap py issuer.verifiedDomains false = .ok domains
          ∧ state = { issuerStateOf isoformat key issuer with verifiedDomains := domains } := by
  have hreason : ∀ field, boundedOptionalField field 0 trustReasonMaxLength key.revocationReason
        = .ok ()
      ↔ ∀ reason, key.revocationReason = some reason → PyString.len reason ≤ 512 := by
    intro field
    rw [boundedOptionalField_eq_ok_iff]
    exact forall_congr' fun reason => imp_congr_right fun _ =>
      ⟨And.right, fun h => ⟨Nat.zero_le _, h⟩⟩
  have htime : ∀ field, ∀ time ∈ timesOf key issuer,
      boundedOptionalField field 0 64 (some (isoformat time)) = .ok () := by
    intro field time hmem
    refine boundedOptionalField_eq_ok_iff.mpr fun text h => ?_
    obtain rfl := Option.some.inj h
    exact ⟨Nat.zero_le _, (hiso time hmem).short⟩
  have htimes : ∀ field (time : Option Datetime), (∀ t, time = some t → t ∈ timesOf key issuer) →
      boundedOptionalField field 0 64 (time.map isoformat) = .ok () := by
    intro field time hmem
    cases time with
    | none => rfl
    | some t => exact htime field t (hmem t rfl)
  have hexpires : ∀ t, issuer.expiresAt = some t → t ∈ timesOf key issuer := by
    intro t h
    simp [timesOf, h]
  have hnotAfter : ∀ t, key.notAfter = some t → t ∈ timesOf key issuer := by
    intro t h
    simp [timesOf, h]
  have hissued := htime "issuer_record_issued_at" issuer.issuedAt (by simp [timesOf])
  have hbefore := htime "key_not_before" key.notBefore (by simp [timesOf])
  constructor
  · intro h
    obtain ⟨domains, hdomains, h⟩ := bind_eq_ok_iff.mp h
    obtain ⟨_, hfits, h⟩ := bind_eq_ok_iff.mp h
    refine ⟨(hreason _).mp hfits, domains, ?_, ?_⟩
    · cases hcanonical : canonicalizeVerifiedDomainMap py issuer.verifiedDomains false with
      | error exc =>
          rw [show (issuerStateOf isoformat key issuer).verifiedDomains = issuer.verifiedDomains
            from rfl, hcanonical] at hdomains
          cases hdomains
      | ok found =>
          rw [show (issuerStateOf isoformat key issuer).verifiedDomains = issuer.verifiedDomains
            from rfl, hcanonical] at hdomains
          exact hdomains
    · obtain ⟨-, -, h⟩ := bind_eq_ok_iff.mp h
      obtain ⟨-, -, h⟩ := bind_eq_ok_iff.mp h
      obtain ⟨-, -, h⟩ := bind_eq_ok_iff.mp h
      obtain ⟨-, -, h⟩ := bind_eq_ok_iff.mp h
      obtain ⟨-, -, h⟩ := bind_eq_ok_iff.mp h
      exact (Except.ok.inj h).symm
  · rintro ⟨hfits, domains, hdomains, rfl⟩
    refine bind_eq_ok_iff.mpr ⟨domains, congrArg (Except.mapError _) hdomains, ?_⟩
    refine bind_eq_ok_iff.mpr ⟨(), (hreason _).mpr hfits, ?_⟩
    refine bind_eq_ok_iff.mpr ⟨(), hissued, ?_⟩
    refine bind_eq_ok_iff.mpr ⟨(), htimes _ _ hexpires, ?_⟩
    refine bind_eq_ok_iff.mpr ⟨(), hbefore, ?_⟩
    refine bind_eq_ok_iff.mpr ⟨(), htimes _ _ hnotAfter, ?_⟩
    exact bind_eq_ok_iff.mpr ⟨(), (hreason _).mpr hfits, rfl⟩

/-! ## The trust context -/

/-- A time that was written is read back where it is aware. -/
theorem parseClaimTimestamp_isoformat {label : String} {time value : Datetime}
    (hiso : ReadsBack py isoformat time) :
    parseClaimTimestamp py label (isoformat time) = .ok value
      ↔ time.utcoffset ≠ none ∧ value = time := by
  rw [parseClaimTimestamp, hiso.plain, hiso.reads]
  dsimp only
  by_cases hnaive : time.utcoffset = none
  · rw [if_pos hnaive]
    exact ⟨(fun h => nomatch h), fun h => absurd hnaive h.1⟩
  · rw [if_neg hnaive]
    constructor
    · intro h
      exact ⟨hnaive, (Except.ok.inj h).symm⟩
    · rintro ⟨-, rfl⟩
      rfl

theorem optionalTrustTimestamp_isoformat {label : String} {time value : Option Datetime}
    (hiso : ∀ t, time = some t → ReadsBack py isoformat t) :
    optionalTrustTimestamp py label (time.map isoformat) = .ok value
      ↔ (∀ t, time = some t → t.utcoffset ≠ none) ∧ value = time := by
  cases time with
  | none =>
      constructor
      · intro h
        exact ⟨fun t ht => (by cases ht), (Except.ok.inj h).symm⟩
      · rintro ⟨-, rfl⟩
        rfl
  | some t =>
      have hparse := fun v => @parseClaimTimestamp_isoformat py isoformat label t v (hiso t rfl)
      rw [Option.map_some, optionalTrustTimestamp]
      cases hread : parseClaimTimestamp py label (isoformat t) with
      | error exc =>
          constructor
          · intro h; cases h
          · rintro ⟨haware, -⟩
            have hok := (hparse t).mpr ⟨haware t rfl, rfl⟩
            rw [hread] at hok
            cases hok
      | ok v =>
          obtain ⟨haware, rfl⟩ := (hparse v).mp hread
          constructor
          · intro h
            refine ⟨fun t' ht' => ?_, (Except.ok.inj h).symm⟩
            obtain rfl := Option.some.inj ht'
            exact haware
          · rintro ⟨-, rfl⟩
            rfl

theorem boundedTrustTimestamp_isoformat {label : String} {time default value : Datetime}
    (hiso : ReadsBack py isoformat time) :
    boundedTrustTimestamp py label (some (isoformat time)) default = .ok value
      ↔ time.utcoffset ≠ none ∧ value = time := by
  have hread := fun v => @optionalTrustTimestamp_isoformat py isoformat label (some time) v
    (fun t ht => Option.some.inj ht ▸ hiso)
  rw [Option.map_some] at hread
  rw [boundedTrustTimestamp]
  cases hfound : optionalTrustTimestamp py label (some (isoformat time)) with
  | error exc =>
      constructor
      · intro h; cases h
      · rintro ⟨haware, -⟩
        have hok := (hread (some time)).mpr
          ⟨fun t ht => Option.some.inj ht ▸ haware, rfl⟩
        rw [hfound] at hok
        cases hok
  | ok found =>
      obtain ⟨haware, rfl⟩ := (hread found).mp hfound
      constructor
      · intro h
        exact ⟨haware time rfl, (Except.ok.inj h).symm⟩
      · rintro ⟨-, rfl⟩
        rfl

/-- The window ends after it starts, if it ends. -/
def WindowOpens (start : Datetime) (stop : Option Datetime) : Prop :=
  ∀ t, stop = some t → start.instant < t.instant

/-- Between aware times, a window is refused where it does not open. -/
theorem checkedWindow_eq_ok_iff {start : Datetime} {stop : Option Datetime} {detail : String}
    {u : Unit} (hstart : start.utcoffset ≠ none)
    (hstop : ∀ t, stop = some t → t.utcoffset ≠ none) :
    checkedWindow start stop detail = .ok u ↔ WindowOpens start stop := by
  cases stop with
  | none => exact ⟨fun _ t ht => (by cases ht), fun _ => rfl⟩
  | some t =>
      have hle : t.le start = .ok (decide (t.instant ≤ start.instant)) := by
        obtain ⟨offset, hoffset⟩ := Option.ne_none_iff_exists'.mp hstart
        obtain ⟨offset', hoffset'⟩ := Option.ne_none_iff_exists'.mp (hstop t rfl)
        simp [Datetime.le, Datetime.compareKeys, Datetime.instant, hoffset, hoffset', Except.map]
      have hopens : WindowOpens start (some t) ↔ ¬ t.instant ≤ start.instant := by
        constructor
        · intro h
          exact Int.not_le.mpr (h t rfl)
        · intro h t' ht'
          obtain rfl := Option.some.inj ht'
          exact Int.not_le.mp h
      rw [hopens, checkedWindow, hle]
      by_cases hlate : t.instant ≤ start.instant
      · simp [hlate, bind, Except.bind, throw, throwThe, MonadExceptOf.throw]
      · simp [hlate, bind, Except.bind, pure, Except.pure]

theorem textOr_self (value : Option String) : textOr value value = value := by
  cases value with
  | none => rfl
  | some text =>
      rw [textOr]
      by_cases hempty : text = ""
      · subst hempty
        rfl
      · rw [Option.filter_some_pos (by simpa using hempty)]

/-- The context that a stored pair is judged in: the pair, but for the issuer's
    identifier, its root and where it comes from. -/
def contextOf (config : BackendConfig) (key : KeyEntry) (issuer : IssuerRecord)
    (domains : OrderedMap String (Option Datetime)) : TrustContext where
  key :=
    { key with
      issuerId := issuer.issuerName
      revokedAt := none
      source := .ephemeral }
  issuer :=
    { issuer with
      issuerId := issuer.issuerName
      rootId := "root:request-supplied"
      verifiedDomains := domains
      source := .ephemeral }
  skewSeconds := config.verifierClockSkewSeconds

/-- **CONTEXT**: the times of a state are read back where they are aware, and both
    windows have to open. -/
theorem trustContextFromState_eq_ok_iff {key : KeyEntry} {issuer : IssuerRecord}
    {domains : OrderedMap String (Option Datetime)} {trust : TrustContext}
    (hiso : ∀ time ∈ timesOf key issuer, ReadsBack py isoformat time) :
    trustContextFromState py config (authorityRecord (certificateOf key issuer))
        { issuerStateOf isoformat key issuer with verifiedDomains := domains } = .ok trust
      ↔ (∀ time ∈ timesOf key issuer, time.utcoffset ≠ none)
        ∧ WindowOpens issuer.issuedAt issuer.expiresAt
        ∧ WindowOpens key.notBefore key.notAfter
        ∧ trust = contextOf config key issuer domains := by
  have hissued : issuer.issuedAt ∈ timesOf key issuer := by simp [timesOf]
  have hbefore : key.notBefore ∈ timesOf key issuer := by simp [timesOf]
  have hexpires : ∀ t, issuer.expiresAt = some t → t ∈ timesOf key issuer := by
    intro t h
    simp [timesOf, h]
  have hafter : ∀ t, key.notAfter = some t → t ∈ timesOf key issuer := by
    intro t h
    simp [timesOf, h]
  have hlater : ∀ t, issuer.expiresAt = some t → ReadsBack py isoformat t := fun t h =>
    hiso t (hexpires t h)
  have hlast : ∀ t, key.notAfter = some t → ReadsBack py isoformat t := fun t h =>
    hiso t (hafter t h)
  have hreason : ({ contextOf config key issuer domains with
        key := { (contextOf config key issuer domains).key with
          revocationReason := textOr key.revocationReason key.revocationReason } } : TrustContext)
      = contextOf config key issuer domains := by
    rw [textOr_self]
    rfl
  rw [trustContextFromState]
  constructor
  · intro h
    obtain ⟨issuedAt, hreadIssued, h⟩ := bind_eq_ok_iff.mp h
    obtain ⟨hawareIssued, rfl⟩ :=
      (boundedTrustTimestamp_isoformat (hiso _ hissued)).mp hreadIssued
    obtain ⟨expiresAt, hreadExpires, h⟩ := bind_eq_ok_iff.mp h
    obtain ⟨hawareExpires, rfl⟩ := (optionalTrustTimestamp_isoformat hlater).mp hreadExpires
    obtain ⟨_, hwindow, h⟩ := bind_eq_ok_iff.mp h
    obtain ⟨notBefore, hreadBefore, h⟩ := bind_eq_ok_iff.mp h
    obtain ⟨hawareBefore, rfl⟩ :=
      (boundedTrustTimestamp_isoformat (hiso _ hbefore)).mp hreadBefore
    obtain ⟨notAfter, hreadAfter, h⟩ := bind_eq_ok_iff.mp h
    obtain ⟨hawareAfter, rfl⟩ := (optionalTrustTimestamp_isoformat hlast).mp hreadAfter
    obtain ⟨_, hkeyWindow, h⟩ := bind_eq_ok_iff.mp h
    refine ⟨?_, (checkedWindow_eq_ok_iff hawareIssued hawareExpires).mp hwindow,
      (checkedWindow_eq_ok_iff hawareBefore hawareAfter).mp hkeyWindow, ?_⟩
    · intro time hmem
      rcases List.mem_cons.mp hmem with rfl | hmem
      · exact hawareIssued
      · rcases List.mem_cons.mp hmem with rfl | hmem
        · exact hawareBefore
        · rcases List.mem_append.mp hmem with hmem | hmem
          · exact hawareExpires time (Option.mem_toList.mp hmem)
          · exact hawareAfter time (Option.mem_toList.mp hmem)
    · exact (Except.ok.inj h).symm.trans hreason
  · rintro ⟨haware, hwindow, hkeyWindow, rfl⟩
    have hawareExpires : ∀ t, issuer.expiresAt = some t → t.utcoffset ≠ none := fun t h =>
      haware t (hexpires t h)
    have hawareAfter : ∀ t, key.notAfter = some t → t.utcoffset ≠ none := fun t h =>
      haware t (hafter t h)
    refine bind_eq_ok_iff.mpr ⟨issuer.issuedAt,
      (boundedTrustTimestamp_isoformat (hiso _ hissued)).mpr ⟨haware _ hissued, rfl⟩, ?_⟩
    refine bind_eq_ok_iff.mpr ⟨issuer.expiresAt,
      (optionalTrustTimestamp_isoformat hlater).mpr ⟨hawareExpires, rfl⟩, ?_⟩
    refine bind_eq_ok_iff.mpr ⟨(),
      (checkedWindow_eq_ok_iff (haware _ hissued) hawareExpires).mpr hwindow, ?_⟩
    refine bind_eq_ok_iff.mpr ⟨key.notBefore,
      (boundedTrustTimestamp_isoformat (hiso _ hbefore)).mpr ⟨haware _ hbefore, rfl⟩, ?_⟩
    refine bind_eq_ok_iff.mpr ⟨key.notAfter,
      (optionalTrustTimestamp_isoformat hlast).mpr ⟨hawareAfter, rfl⟩, ?_⟩
    refine bind_eq_ok_iff.mpr ⟨(),
      (checkedWindow_eq_ok_iff (haware _ hbefore) hawareAfter).mpr hkeyWindow, ?_⟩
    exact congrArg Except.ok hreason

/-- The context judges as the stored pair. -/
theorem evaluateTrustWindow_contextOf (now : Datetime) (claims : SignedQRCodeClaims)
    (key : KeyEntry) (issuer : IssuerRecord) (domains : OrderedMap String (Option Datetime)) :
    evaluateTrustWindow py now claims (contextOf config key issuer domains).key
        (contextOf config key issuer domains).issuer (contextOf config key issuer domains).skewSeconds
      = evaluateTrustWindow py now claims key issuer config.verifierClockSkewSeconds := rfl

/-! ## The round trip -/

/-- The trust context of a scan is there and judges every code as the stored pair
    does. -/
def JudgedAlike (py : PyRuntime) (isoformat : Datetime → String) (config : BackendConfig)
    (store : ScannerTrustStore Governance Defect) (keyRef : String) (key : KeyEntry)
    (issuer : IssuerRecord) : Prop :=
  ∃ trust, scannedTrust py isoformat config store keyRef = .ok (some trust)
    ∧ ∀ now claims, evaluateTrustWindow py now claims trust.key trust.issuer trust.skewSeconds
      = evaluateTrustWindow py now claims key issuer config.verifierClockSkewSeconds

/-- The stored pair passes the checks between the store and the verifier. -/
structure Passes (py : PyRuntime) (key : KeyEntry) (issuer : IssuerRecord) : Prop where
  fits : Fits py key issuer
  aware : ∀ time ∈ timesOf key issuer, time.utcoffset ≠ none
  issuerWindow : WindowOpens issuer.issuedAt issuer.expiresAt
  keyWindow : WindowOpens key.notBefore key.notAfter

/-- **SCANNED**: the context of a resolved pair is the one of the pair, or an
    exception where it does not pass. -/
theorem scannedTrust_eq_ok_iff {store : ScannerTrustStore Governance Defect} {keyRef : String}
    {key : KeyEntry} {issuer : IssuerRecord} {found : Option TrustContext}
    (hiso : ∀ time ∈ timesOf key issuer, ReadsBack py isoformat time)
    (hresolve : store.resolve keyRef = some (key, issuer)) :
    scannedTrust py isoformat config store keyRef = .ok found
      ↔ Passes py key issuer
        ∧ ∃ domains, canonicalizeVerifiedDomainMap py issuer.verifiedDomains false = .ok domains
          ∧ found = some (contextOf config key issuer domains) := by
  have hrecord : ∀ record, scannerRecordFor py isoformat store keyRef = .ok record ↔
      CertificateFits (certificateOf key issuer)
        ∧ (∀ reason, key.revocationReason = some reason → PyString.len reason ≤ 512)
        ∧ ∃ domains, canonicalizeVerifiedDomainMap py issuer.verifiedDomains false = .ok domains
          ∧ record = some ⟨certificateOf key issuer,
            { issuerStateOf isoformat key issuer with verifiedDomains := domains },
            store.governanceFor issuer.issuerId⟩ := by
    intro record
    rw [scannerRecordFor, hresolve]
    constructor
    · intro h
      obtain ⟨certificate, hcertificate, h⟩ := bind_eq_ok_iff.mp h
      obtain ⟨state, hstate, h⟩ := bind_eq_ok_iff.mp h
      obtain ⟨hfits, rfl⟩ := certificateRecordInput_eq_ok_iff.mp hcertificate
      obtain ⟨hreason, domains, hdomains, rfl⟩ :=
        (issuerVerificationStateInput_eq_ok_iff hiso).mp hstate
      exact ⟨hfits, hreason, domains, hdomains, (Except.ok.inj h).symm⟩
    · rintro ⟨hfits, hreason, domains, hdomains, rfl⟩
      exact bind_eq_ok_iff.mpr ⟨_, certificateRecordInput_eq_ok_iff.mpr ⟨hfits, rfl⟩,
        bind_eq_ok_iff.mpr ⟨_, (issuerVerificationStateInput_eq_ok_iff hiso).mpr
          ⟨hreason, domains, hdomains, rfl⟩, rfl⟩⟩
  rw [scannedTrust, bind_eq_ok_iff]
  constructor
  · rintro ⟨record, hfound, h⟩
    obtain ⟨hfits, hreason, domains, hdomains, rfl⟩ := (hrecord record).mp hfound
    obtain ⟨trust, htrust, h⟩ := bind_eq_ok_iff.mp h
    obtain ⟨haware, hissuer, hkey, rfl⟩ := (trustContextFromState_eq_ok_iff hiso).mp htrust
    have hapart := exists_canonicalizeVerifiedDomainMap_iff.mp ⟨domains, hdomains⟩
    exact ⟨⟨⟨hfits, hreason, hapart⟩, haware, hissuer, hkey⟩, domains, hdomains,
      (Except.ok.inj h).symm⟩
  · rintro ⟨hpasses, domains, hdomains, rfl⟩
    refine ⟨_, (hrecord _).mpr ⟨hpasses.fits.certificate, hpasses.fits.revocationReason, domains,
      hdomains, rfl⟩, ?_⟩
    exact bind_eq_ok_iff.mpr ⟨_, (trustContextFromState_eq_ok_iff hiso).mpr
      ⟨hpasses.aware, hpasses.issuerWindow, hpasses.keyWindow, rfl⟩, rfl⟩

/-- **ROUND TRIP**: a stored pair comes back to be judged as it stands exactly where
    its texts and domains fit the request models, its times are aware and its
    windows end after they start. -/
theorem judgedAlike_iff {store : ScannerTrustStore Governance Defect} {keyRef : String}
    {key : KeyEntry} {issuer : IssuerRecord}
    (hiso : ∀ time ∈ timesOf key issuer, ReadsBack py isoformat time)
    (hresolve : store.resolve keyRef = some (key, issuer)) :
    JudgedAlike py isoformat config store keyRef key issuer ↔ Passes py key issuer := by
  constructor
  · rintro ⟨trust, htrust, -⟩
    exact ((scannedTrust_eq_ok_iff hiso hresolve).mp htrust).1
  · intro hpasses
    obtain ⟨domains, hdomains⟩ :=
      exists_canonicalizeVerifiedDomainMap_iff.mpr hpasses.fits.verifiedDomains
    exact ⟨_, (scannedTrust_eq_ok_iff hiso hresolve).mpr ⟨hpasses, domains, hdomains, rfl⟩,
      fun now claims => evaluateTrustWindow_contextOf now claims key issuer domains⟩

/-! ## An issuer of one key -/

/-- The first of January 2026. -/
def firstDay : Datetime := .utc 63902822400000000

/-- The second of January 2026. -/
def secondDay : Datetime := .utc 63902908800000000

/-- How the two days are written. -/
def writtenDay (time : Datetime) : String :=
  if time = firstDay then "2026-01-01T00:00:00+00:00" else "2026-01-02T00:00:00+00:00"

/-- A runtime that reads the two days. -/
def dayRuntime : PyRuntime where
  lower := fun text => text
  repr := fun text => text
  reprList := fun _ => ""
  encodeIdna := .ok
  urlsplit := fun _ => .error ""
  urlparse := fun _ => .error ""
  isDigit := fun _ => false
  parseQsl := fun _ => []
  fromisoformat := fun text =>
    if text = "2026-01-01T00:00:00+00:00" then some firstDay
    else if text = "2026-01-02T00:00:00+00:00" then some secondDay
    else none
  loadsPemPublicKey := fun _ => true
  verifiesRsaPss := fun _ _ _ => true
  sha256 := fun text => text

/-- The rows of an issuer, in force between two times, and of its key. -/
def acmeRows (createdAt : Datetime) (expiresAt : Option Datetime) : FetchedRows where
  proofRows := []
  issuerRows := [⟨⟨"root", "authority", "acme"⟩, "Acme", "active", false, expiresAt, createdAt⟩]
  certificateRows :=
    [⟨"cert:acme", ⟨"root", "authority", "acme"⟩, "rsa-pss-sha256-v1", some "pem", "active", firstDay,
      none, none, none⟩]

/-- The store that is loaded from them. -/
def acmeStore (createdAt : Datetime) (expiresAt : Option Datetime) :
    ScannerTrustStore Unit ProjectionDefect :=
  match loadTrustSnapshot dayRuntime (some ⟨"epoch", 1⟩) (acmeRows createdAt expiresAt) with
  | .error _ => .empty
  | .ok snapshot => loadedStore .empty snapshot

/-- Its key. -/
def acmeKey : KeyEntry :=
  ⟨"cert:acme", "acme", "rsa-pss-sha256-v1", some "pem", .active, firstDay, none, none, none,
    .projection⟩

/-- Its issuer. -/
def acmeIssuer (createdAt : Datetime) (expiresAt : Option Datetime) : IssuerRecord :=
  ⟨"acme", "Acme", "root", .active, createdAt, expiresAt, .empty, false, .projection⟩

/-- The settings of the verifier. -/
def dayConfig : BackendConfig := ⟨"", 0, 30⟩

/-- An issuer in force for a day is judged as it is stored. -/
theorem judgedAlike_day :
    JudgedAlike dayRuntime writtenDay dayConfig (acmeStore firstDay (some secondDay)) "cert:acme"
      acmeKey (acmeIssuer firstDay (some secondDay)) := by
  have hfirst : ReadsBack dayRuntime writtenDay firstDay :=
    ⟨by decide +kernel, by decide +kernel, by decide +kernel⟩
  have hsecond : ReadsBack dayRuntime writtenDay secondDay :=
    ⟨by decide +kernel, by decide +kernel, by decide +kernel⟩
  have htimes : ∀ time ∈ timesOf acmeKey (acmeIssuer firstDay (some secondDay)),
      time = firstDay ∨ time = secondDay := by decide
  refine (judgedAlike_iff (fun time hmem => ?_) rfl).mpr
    ⟨⟨⟨by decide, by decide, by decide, ?_⟩, ?_, ?_⟩, ?_, ?_, ?_⟩
  · rcases htimes time hmem with rfl | rfl
    · exact hfirst
    · exact hsecond
  · intro pem hpem
    obtain rfl := Option.some.inj hpem
    decide
  · intro reason hreason
    cases hreason
  · exact ⟨fun raw hraw => absurd hraw List.not_mem_nil,
      fun raw hraw => absurd hraw List.not_mem_nil⟩
  · decide
  · intro stop hstop
    obtain rfl := Option.some.inj hstop
    decide
  · intro stop hstop
    cases hstop

/-- **INVERTED WINDOW**: the row of an issuer expires before it was created, which
    the schema of the database admits.  Where the stored pair is blocked as an
    expired record, the scan raises. -/
theorem inverted_window_unjudged :
    (acmeStore secondDay (some firstDay)).resolve "cert:acme"
        = some (acmeKey, acmeIssuer secondDay (some firstDay))
      ∧ (evaluateTrustWindow dayRuntime secondDay
          ⟨"2", "cert:acme", "2026-01-01T00:00:00+00:00", none, "https://acme.example"⟩ acmeKey
          (acmeIssuer secondDay (some firstDay)) 0).toOption
        = some (refusal "issuer_status" "record-expired" "Issuer record has expired")
      ∧ scannedTrust dayRuntime writtenDay dayConfig (acmeStore secondDay (some firstDay)) "cert:acme"
        = .error (.httpException 422
          "Field 'issuer_record_expires_at' must be after 'issuer_record_issued_at'")
      ∧ ¬ JudgedAlike dayRuntime writtenDay dayConfig (acmeStore secondDay (some firstDay))
          "cert:acme" acmeKey (acmeIssuer secondDay (some firstDay)) := by
  have hraises : scannedTrust dayRuntime writtenDay dayConfig (acmeStore secondDay (some firstDay))
      "cert:acme" = .error (.httpException 422
        "Field 'issuer_record_expires_at' must be after 'issuer_record_issued_at'") := by
    rfl
  refine ⟨rfl, by decide +kernel, hraises, ?_⟩
  rintro ⟨trust, htrust, -⟩
  rw [hraises] at htrust
  cases htrust

end ScannerRecord
