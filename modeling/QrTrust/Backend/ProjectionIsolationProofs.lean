import QrTrust.Backend.TrustProjectionProofs

/-! # Whose record a certificate resolves to

    The store is keyed by `issuer_id` alone, and so are the groups of proofs,
    where the schema keys issuers by their root program, authority and
    `issuer_id`.  A projected certificate is sure to resolve to the record of
    its own issuer exactly when nothing of another issuer with that `issuer_id`
    can show (`resolvesOwn_iff`). -/

namespace TrustProjection

open TrustStore DestinationCanonicalization

variable {py : PyRuntime} {Governance : Type}

/-! ## The statement -/

/-- The record is that of the row: its fields, and the verified proofs of that
    same issuer.  A record does not name the authority of its issuer. -/
structure IsOwnRecord (py : PyRuntime) (db : Database) (row : IssuerRow)
    (record : IssuerRecord) : Prop where
  issuerId : record.issuerId = row.key.issuerId
  rootId : record.rootId = row.key.rootProgramId
  issuerName : record.issuerName = row.displayName
  status : some record.status = issuerProjection row.enrollmentStatus
  issuedAt : record.issuedAt = row.createdAt
  expiresAt : record.expiresAt = row.expiresAt
  allowSubdomains : record.allowSubdomains = row.allowSubdomains
  verifiedDomains : ∀ domain expiry, record.verifiedDomains.get? domain = some expiry ↔
    ∃ proof ∈ db.domainProofs, proof.issuer = row.key ∧ proof.verified = true
      ∧ projectedDomain py proof.domain = .ok domain ∧ proof.expiresAt = expiry

/-- What a certificate of the row's issuer should resolve to: the record of the
    row, or nothing where the row is not on the trust surface. -/
def ResolvesOwn (py : PyRuntime) (db : Database) (row : IssuerRow)
    (answer : Option (KeyEntry × IssuerRecord)) : Prop :=
  (¬ row.projectable → answer = none)
    ∧ (row.projectable → ∃ entry record, answer = some (entry, record)
        ∧ IsOwnRecord py db row record)

/-- Two issuer rows give the same record over the same domains. -/
structure SameFields (other row : IssuerRow) : Prop where
  rootId : other.key.rootProgramId = row.key.rootProgramId
  issuerName : other.displayName = row.displayName
  status : issuerProjection other.enrollmentStatus = issuerProjection row.enrollmentStatus
  issuedAt : other.createdAt = row.createdAt
  expiresAt : other.expiresAt = row.expiresAt
  allowSubdomains : other.allowSubdomains = row.allowSubdomains

/-- Nothing of another issuer with the row's `issuer_id` can show: every projected
    row of that `issuer_id` has the same fields; if the row itself is not
    projected, no ephemeral record has the `issuer_id`; and every verified proof
    under it repeats one of the row's own issuer. -/
structure Isolated (db : Database) (store : ScannerTrustStore Governance ProjectionDefect)
    (row : IssuerRow) : Prop where
  rows : ∀ other ∈ db.issuers, other.key.issuerId = row.key.issuerId → other.projectable →
    SameFields other row
  ephemeral : ¬ row.projectable → ∀ record,
    store.issuers.get? row.key.issuerId = some record → record.source = .projection
  proofs : row.projectable → ∀ proof ∈ db.domainProofs, proof.verified = true →
    proof.issuer.issuerId = row.key.issuerId →
    ∃ own ∈ db.domainProofs, own.issuer = row.key ∧ own.verified = true
      ∧ own.domain = proof.domain ∧ own.expiresAt = proof.expiresAt

/-! ## What the store holds after a load -/

theorem projectCertificateRow_some {row : CertificateRow} {entry : KeyEntry}
    (h : (projectCertificateRow py row).1 = some entry) :
    entry.keyRef = row.certificateId ∧ entry.issuerId = row.issuer.issuerId := by
  rw [projectCertificateRow] at h
  cases hstate : keyProjection row.keyStatus with
  | none => rw [hstate] at h; cases h
  | some state =>
      simp only [hstate] at h
      split at h
      · cases h
      · obtain rfl := Option.some.inj h
        exact ⟨rfl, rfl⟩

/-- The records a load writes under an `issuer_id` are those of its rows. -/
theorem mem_loadedRecords {db : Database} {rows : FetchedRows} (hrows : rows.Of db)
    {issuerId : String} {record : IssuerRecord} :
    (issuerId, record) ∈ (rows.issuerRows.filterMap (loadedRecord py rows.proofRows)).map
        (fun record => (record.issuerId, record)) ↔
      ∃ other ∈ db.issuers, other.key.issuerId = issuerId
        ∧ loadedRecord py rows.proofRows other = some record := by
  have hid : ∀ other r, loadedRecord py rows.proofRows other = some r →
      r.issuerId = other.key.issuerId := by
    intro other r h
    obtain ⟨status, -, rfl⟩ := Option.map_eq_some_iff.mp h
    rfl
  constructor
  · intro h
    obtain ⟨r, hr, heq⟩ := List.mem_map.mp h
    obtain ⟨rfl, rfl⟩ := Prod.mk.inj heq
    obtain ⟨other, hother, hrecord⟩ := List.mem_filterMap.mp hr
    exact ⟨other, hrows.issuerRows.mem_iff.mp hother, (hid other r hrecord).symm, hrecord⟩
  · rintro ⟨other, hother, rfl, hrecord⟩
    refine List.mem_map.mpr ⟨record, ?_, by rw [hid other record hrecord]⟩
    exact List.mem_filterMap.mpr ⟨other, hrows.issuerRows.mem_iff.mpr hother, hrecord⟩

/-- **KEY**: a projected certificate resolves to its own key, and to the record
    the store holds under its `issuer_id`. -/
theorem resolve_loadedStore {db : Database} {rows : FetchedRows} (hrows : rows.Of db)
    {token : TrustStateToken} {snapshot : TrustSnapshot}
    (hload : loadTrustSnapshot py (some token) rows = .ok snapshot)
    (store : ScannerTrustStore Governance ProjectionDefect) {cert : CertificateRow}
    (hcert : cert ∈ db.certificates) {entry : KeyEntry}
    (hentry : (projectCertificateRow py cert).1 = some entry) :
    (loadedStore store snapshot).resolve cert.certificateId
      = ((loadedStore store snapshot).issuers.get? cert.issuer.issuerId).map fun record =>
          (entry, record) := by
  obtain ⟨rfl, -⟩ := loadTrustSnapshot_eq_ok_iff.mp hload
  have hkeys : ∀ key r, (key, r) ∈ ((rows.certificateRows.map
      (projectCertificateRow py)).filterMap Prod.fst).map (fun r => (r.keyRef, r)) ↔
      ∃ row ∈ db.certificates, row.certificateId = key
        ∧ (projectCertificateRow py row).1 = some r := by
    intro key r
    simp only [List.mem_map, List.mem_filterMap, Prod.mk.injEq]
    constructor
    · rintro ⟨r', ⟨_, ⟨row, hrow, rfl⟩, hr⟩, rfl, rfl⟩
      exact ⟨row, hrows.certificateRows.mem_iff.mp hrow,
        (projectCertificateRow_some hr).1.symm, hr⟩
    · rintro ⟨row, hrow, rfl, hr⟩
      exact ⟨r, ⟨_, ⟨row, hrows.certificateRows.mem_iff.mpr hrow, rfl⟩, hr⟩,
        (projectCertificateRow_some hr).1, rfl⟩
  obtain ⟨found, hfound, hmem⟩ := OrderedMap.exists_get?_setAll
    (m := store.keys.filter fun entry => entry.2.source ≠ .projection)
    ((hkeys cert.certificateId entry).mpr ⟨cert, hcert, rfl, hentry⟩)
  obtain ⟨row, hrow, hsame, hfoundRow⟩ := (hkeys ..).mp hmem
  obtain rfl : row = cert :=
    List.inj_on_of_nodup_map db.certificates_key hrow hcert hsame
  obtain rfl : found = entry := Option.some.inj (hfoundRow.symm.trans hentry)
  rw [ScannerTrustStore.resolve_of_key hfound, (projectCertificateRow_some hentry).2]

/-! ## Sufficient -/

/-- What the group of an isolated issuer says of a domain is what its own
    verified proof says. -/
theorem get?_groupOf_isolated {db : Database} {rows : FetchedRows} (hrows : rows.Of db)
    {store : ScannerTrustStore Governance ProjectionDefect} {row : IssuerRow}
    (hprojectable : row.projectable) (hisolated : Isolated db store row) (raw : String)
    (expiry : Option Datetime) :
    (groupOf rows.proofRows row.key.issuerId).get? raw = some expiry ↔
      ∃ own ∈ db.domainProofs, own.issuer = row.key ∧ own.verified = true
        ∧ own.domain = raw ∧ own.expiresAt = expiry := by
  have hmem : ∀ proof, proof ∈ rows.proofRows ↔ proof ∈ db.domainProofs ∧ proof.verified = true :=
    fun proof => hrows.proofRows.mem_iff.trans List.mem_filter
  have hown : ∀ e, (groupOf rows.proofRows row.key.issuerId).get? raw = some e →
      ∃ own ∈ db.domainProofs, own.issuer = row.key ∧ own.verified = true
        ∧ own.domain = raw ∧ own.expiresAt = e := by
    intro e h
    obtain ⟨proof, hproof, hissuer, hdomain, hexpiry⟩ := exists_of_get?_groupOf h
    obtain ⟨hlisted, hverified⟩ := (hmem proof).mp hproof
    obtain ⟨own, hlistedOwn, hkey, hverifiedOwn, hdomainOwn, hexpiryOwn⟩ :=
      hisolated.proofs hprojectable proof hlisted hverified hissuer
    exact ⟨own, hlistedOwn, hkey, hverifiedOwn, hdomainOwn.trans hdomain,
      hexpiryOwn.trans hexpiry⟩
  constructor
  · exact hown expiry
  · rintro ⟨own, hlisted, hkey, hverified, hdomain, hexpiry⟩
    have hkeys : raw ∈ (groupOf rows.proofRows row.key.issuerId).keys :=
      mem_keys_groupOf.mpr ⟨own, (hmem own).mpr ⟨hlisted, hverified⟩, by rw [hkey], hdomain⟩
    obtain ⟨e, he⟩ := OrderedMap.mem_keys.mp hkeys
    have hget := (OrderedMap.get?_eq_some_iff ..).mpr he
    obtain ⟨own', hlisted', hkey', hverified', hdomain', hexpiry'⟩ := hown e hget
    -- the schema allows one current proof an issuer and domain
    have hcurrent : ∀ proof ∈ db.domainProofs, proof.verified = true →
        proof ∈ db.domainProofs.filter DomainProofRow.current := by
      intro proof hproof h
      refine List.mem_filter.mpr ⟨hproof, ?_⟩
      rw [DomainProofRow.current, Bool.or_eq_true]
      exact .inr h
    have hsame : own' = own :=
      List.inj_on_of_nodup_map db.domainProofs_current (hcurrent own' hlisted' hverified')
        (hcurrent own hlisted hverified)
        (by rw [hkey', hkey, hdomain', hdomain])
    rw [hget, ← hexpiry', hsame, hexpiry]

/-- **SUFFICIENT**: the certificate of an isolated row resolves to its own record,
    whatever the order of the rows. -/
theorem resolvesOwn_of_isolated {db : Database} {rows : FetchedRows} (hrows : rows.Of db)
    {token : TrustStateToken} {snapshot : TrustSnapshot}
    (hload : loadTrustSnapshot py (some token) rows = .ok snapshot)
    {store : ScannerTrustStore Governance ProjectionDefect} {row : IssuerRow}
    (hrow : row ∈ db.issuers) (hisolated : Isolated db store row) {cert : CertificateRow}
    (hcert : cert ∈ db.certificates) (hkey : row.key = cert.issuer) {entry : KeyEntry}
    (hentry : (projectCertificateRow py cert).1 = some entry) :
    ResolvesOwn py db row ((loadedStore store snapshot).resolve cert.certificateId) := by
  rw [resolve_loadedStore hrows hload store hcert hentry, ← hkey]
  obtain ⟨rfl, -, hdomains⟩ := loadTrustSnapshot_eq_ok_iff.mp hload
  -- every record the load writes under the `issuer_id` has the fields of the row
  have hwritten : ∀ record, (row.key.issuerId, record) ∈
      (rows.issuerRows.filterMap (loadedRecord py rows.proofRows)).map
        (fun record => (record.issuerId, record)) →
      loadedRecord py rows.proofRows row = some record := by
    intro record hmem
    obtain ⟨other, hother, hid, hrecord⟩ := (mem_loadedRecords hrows).mp hmem
    obtain ⟨status, hstatus, rfl⟩ := Option.map_eq_some_iff.mp hrecord
    have hfields := hisolated.rows other hother hid (IssuerRow.projectable_of_some hstatus)
    rw [loadedRecord, ← hfields.status, hstatus, ← hid]
    show some (issuerRecord row status _) = some (issuerRecord other status _)
    rw [issuerRecord, issuerRecord, hid, hfields.rootId, hfields.issuerName, hfields.issuedAt,
      hfields.expiresAt, hfields.allowSubdomains]
  refine ⟨fun hnot => ?_, fun hprojectable => ?_⟩
  · cases hget : (loadedStore store _).issuers.get? row.key.issuerId with
    | none => rfl
    | some record =>
        exfalso
        rcases OrderedMap.mem_of_get?_setAll hget with hmem | ⟨hold, -⟩
        · obtain ⟨status, hstatus, -⟩ := Option.map_eq_some_iff.mp (hwritten record hmem)
          exact hnot (IssuerRow.projectable_of_some hstatus)
        · rw [OrderedMap.get?_eq_some_iff, OrderedMap.mem_filter, decide_eq_true_eq] at hold
          exact hold.2 (hisolated.ephemeral hnot record
            ((OrderedMap.get?_eq_some_iff ..).mpr hold.1))
  · obtain ⟨status, hstatus⟩ := Option.ne_none_iff_exists'.mp hprojectable
    have hown : loadedRecord py rows.proofRows row
        = some (issuerRecord row status (loadedDomains py rows.proofRows row.key.issuerId)) := by
      rw [loadedRecord, hstatus]
      rfl
    obtain ⟨found, hfound, hmem⟩ := OrderedMap.exists_get?_setAll
      (m := store.issuers.filter fun entry => entry.2.source ≠ .projection)
      ((mem_loadedRecords hrows).mpr ⟨row, hrow, rfl, hown⟩)
    obtain rfl := Option.some.inj (hown.symm.trans (hwritten found hmem))
    refine ⟨entry, _, congrArg (Option.map _) hfound, ?_⟩
    obtain ⟨domains, htwice⟩ := hdomains row (hrows.issuerRows.mem_iff.mpr hrow) hprojectable
    have hloaded : loadedDomains py rows.proofRows row.key.issuerId = domains := by
      rw [loadedDomains, htwice]
    refine ⟨rfl, rfl, rfl, hstatus.symm, rfl, rfl, rfl, fun domain expiry => ?_⟩
    show (loadedDomains py rows.proofRows row.key.issuerId).get? domain = some expiry ↔ _
    rw [hloaded, get?_canonicalizeTwice htwice]
    simp only [get?_groupOf_isolated hrows hprojectable hisolated]
    constructor
    · rintro ⟨raw, ⟨own, hlisted, hkeyOwn, hverified, rfl, hexpiry⟩, hdomain⟩
      exact ⟨own, hlisted, hkeyOwn, hverified, hdomain, hexpiry⟩
    · rintro ⟨own, hlisted, hkeyOwn, hverified, hdomain, hexpiry⟩
      exact ⟨own.domain, ⟨own, hlisted, hkeyOwn, hverified, rfl, hexpiry⟩, hdomain⟩

/-! ## Necessary -/

/-- A list with one of its members moved to its end. -/
theorem perm_moveToEnd {α : Type} [DecidableEq α] {l : List α} {a : α} (h : a ∈ l) :
    (l.erase a ++ [a]).Perm l :=
  (List.perm_append_comm.trans (List.perm_cons_erase h).symm)

/-- **LAST ROW**: the store holds the record of the issuer row fetched last. -/
theorem get?_loadedStore_last {rows : FetchedRows} {token : TrustStateToken}
    {snapshot : TrustSnapshot} (hload : loadTrustSnapshot py (some token) rows = .ok snapshot)
    (store : ScannerTrustStore Governance ProjectionDefect) {front : List IssuerRow}
    {row : IssuerRow} (hlast : rows.issuerRows = front ++ [row]) {status : IssuerStatus}
    (hstatus : issuerProjection row.enrollmentStatus = some status) :
    (loadedStore store snapshot).issuers.get? row.key.issuerId
      = some (issuerRecord row status (loadedDomains py rows.proofRows row.key.issuerId)) := by
  obtain ⟨rfl, -⟩ := loadTrustSnapshot_eq_ok_iff.mp hload
  have hrecord : loadedRecord py rows.proofRows row
      = some (issuerRecord row status (loadedDomains py rows.proofRows row.key.issuerId)) := by
    rw [loadedRecord, hstatus]
    rfl
  show OrderedMap.get? (OrderedMap.setAll _ (((rows.issuerRows.filterMap _)).map _)) _ = _
  rw [hlast, List.filterMap_append, List.filterMap_cons, hrecord, List.map_append]
  exact OrderedMap.get?_setAll_concat ..

/-- **NECESSARY**: if the certificate resolves to its own record under every order
    of the rows, its row is isolated. -/
theorem isolated_of_resolvesOwn {db : Database} {token : TrustStateToken}
    {store : ScannerTrustStore Governance ProjectionDefect} {row : IssuerRow}
    (hrow : row ∈ db.issuers) {cert : CertificateRow} (hcert : cert ∈ db.certificates)
    (hkey : row.key = cert.issuer) {entry : KeyEntry}
    (hentry : (projectCertificateRow py cert).1 = some entry)
    (hloads : ∀ rows : FetchedRows, rows.Of db →
      ∃ snapshot, loadTrustSnapshot py (some token) rows = .ok snapshot)
    (hown : ∀ rows : FetchedRows, rows.Of db → ∀ snapshot,
      loadTrustSnapshot py (some token) rows = .ok snapshot →
      ResolvesOwn py db row ((loadedStore store snapshot).resolve cert.certificateId)) :
    Isolated db store row := by
  have hanswer : ∀ rows : FetchedRows, rows.Of db → ∀ snapshot,
      loadTrustSnapshot py (some token) rows = .ok snapshot →
      ResolvesOwn py db row
        (((loadedStore store snapshot).issuers.get? row.key.issuerId).map fun record =>
          (entry, record)) := by
    intro rows hrows snapshot hload
    rw [hkey, ← resolve_loadedStore hrows hload store hcert hentry]
    exact hown rows hrows snapshot hload
  refine ⟨fun other hother hid hprojectable => ?_, fun hnot record hrecord => ?_,
    fun hprojectable proof hproof hverified hissuer => ?_⟩
  · -- the other row is fetched last, so the store holds its record
    obtain ⟨status, hstatus⟩ := Option.ne_none_iff_exists'.mp hprojectable
    let rows : FetchedRows :=
      ⟨db.domainProofs.filter DomainProofRow.verified, db.issuers.erase other ++ [other],
        db.certificates⟩
    have hrows : rows.Of db := ⟨.refl _, perm_moveToEnd hother, .refl _⟩
    obtain ⟨snapshot, hload⟩ := hloads rows hrows
    obtain ⟨hnone, hsome⟩ := hanswer rows hrows snapshot hload
    rw [← hid, get?_loadedStore_last hload store rfl hstatus] at hnone hsome
    have hrowProjectable : row.projectable := by
      by_contra hnot
      exact Option.some_ne_none _ (hnone hnot)
    obtain ⟨_, _, heq, hrecord⟩ := hsome hrowProjectable
    obtain ⟨-, rfl⟩ := Prod.mk.inj (Option.some.inj heq)
    exact ⟨hrecord.rootId, hrecord.issuerName, hstatus.trans hrecord.status, hrecord.issuedAt,
      hrecord.expiresAt, hrecord.allowSubdomains⟩
  · -- nothing projected has the `issuer_id`, so an ephemeral record would stay
    by_contra hsource
    let rows : FetchedRows :=
      ⟨db.domainProofs.filter DomainProofRow.verified, db.issuers, db.certificates⟩
    have hrows : rows.Of db := ⟨.refl _, .refl _, .refl _⟩
    obtain ⟨snapshot, hload⟩ := hloads rows hrows
    have hnone := Option.map_eq_none_iff.mp ((hanswer rows hrows snapshot hload).1 hnot)
    have hkept : (store.issuers.filter fun entry => entry.2.source ≠ .projection).get?
        row.key.issuerId = some record := by
      rw [OrderedMap.get?_eq_some_iff, OrderedMap.mem_filter, decide_eq_true_eq]
      exact ⟨(OrderedMap.get?_eq_some_iff ..).mp hrecord, hsource⟩
    have hgone := hnone
    rw [loadedStore, ScannerTrustStore.replaceProjection, OrderedMap.get?_setAll,
      Option.or_eq_none_iff, hkept] at hgone
    exact Option.some_ne_none _ hgone.2
  · -- the proof and the row are fetched last, so the record shows the proof
    obtain ⟨status, hstatus⟩ := Option.ne_none_iff_exists'.mp hprojectable
    have hlisted : proof ∈ db.domainProofs.filter DomainProofRow.verified :=
      List.mem_filter.mpr ⟨hproof, hverified⟩
    let rows : FetchedRows :=
      ⟨(db.domainProofs.filter DomainProofRow.verified).erase proof ++ [proof],
        db.issuers.erase row ++ [row], db.certificates⟩
    have hrows : rows.Of db := ⟨perm_moveToEnd hlisted, perm_moveToEnd hrow, .refl _⟩
    obtain ⟨snapshot, hload⟩ := hloads rows hrows
    obtain ⟨-, hsome⟩ := hanswer rows hrows snapshot hload
    rw [get?_loadedStore_last hload store rfl hstatus] at hsome
    obtain ⟨_, _, heq, hrecord⟩ := hsome hprojectable
    obtain ⟨-, rfl⟩ := Prod.mk.inj (Option.some.inj heq)
    obtain ⟨domains, htwice⟩ := (loadTrustSnapshot_eq_ok_iff.mp hload).2.2 row
      (hrows.issuerRows.mem_iff.mpr hrow) hprojectable
    have hget : (groupOf rows.proofRows row.key.issuerId).get? proof.domain
        = some proof.expiresAt := by
      rw [← hissuer]
      exact get?_groupOf_concat ..
    have hdomainKey : proof.domain ∈ (groupOf rows.proofRows row.key.issuerId).keys :=
      OrderedMap.mem_keys.mpr ⟨_, (OrderedMap.get?_eq_some_iff ..).mp hget⟩
    obtain ⟨domain, hdomain⟩ := exists_projectedDomain htwice hdomainKey
    have hshown : (loadedDomains py rows.proofRows row.key.issuerId).get? domain
        = some proof.expiresAt := by
      rw [loadedDomains, htwice]
      exact (get?_canonicalizeTwice htwice ..).mpr ⟨proof.domain, hget, hdomain⟩
    obtain ⟨own, hownListed, hownKey, hownVerified, hownDomain, hownExpiry⟩ :=
      (hrecord.verifiedDomains domain proof.expiresAt).mp hshown
    have hownMem : own ∈ rows.proofRows :=
      hrows.proofRows.mem_iff.mpr (List.mem_filter.mpr ⟨hownListed, hownVerified⟩)
    have hownDomainKey : own.domain ∈ (groupOf rows.proofRows row.key.issuerId).keys :=
      mem_keys_groupOf.mpr ⟨own, hownMem, by rw [hownKey], rfl⟩
    exact ⟨own, hownListed, hownKey, hownVerified,
      projectedDomain_inj htwice hownDomainKey hdomainKey hownDomain hdomain, hownExpiry⟩

/-- **ISOLATION**: where the database loads at all, a projected certificate
    resolves to the record of its own issuer after every load, whatever the
    order of the rows, exactly when its row is isolated. -/
theorem resolvesOwn_iff (py : PyRuntime) (db : Database)
    (store : ScannerTrustStore Governance ProjectionDefect) (cert : CertificateRow)
    (hcert : cert ∈ db.certificates) (entry : KeyEntry)
    (hentry : (projectCertificateRow py cert).1 = some entry) (row : IssuerRow)
    (hrow : row ∈ db.issuers) (hkey : row.key = cert.issuer)
    (hloads : ∃ rows : FetchedRows, rows.Of db
      ∧ ∃ snapshot, loadTrustSnapshot py db.trustState rows = .ok snapshot) :
    (∀ rows : FetchedRows, rows.Of db → ∀ snapshot,
        loadTrustSnapshot py db.trustState rows = .ok snapshot →
        ResolvesOwn py db row ((loadedStore store snapshot).resolve cert.certificateId))
      ↔ Isolated db store row := by
  obtain ⟨rows, hrows, snapshot, hload⟩ := hloads
  cases htoken : db.trustState with
  | none => rw [htoken] at hload; cases hload
  | some token =>
      rw [htoken] at hload
      constructor
      · intro hown
        exact isolated_of_resolvesOwn hrow hcert hkey hentry
          (fun rows' hrows' => exists_loadTrustSnapshot_of hrows hrows' ⟨snapshot, hload⟩) hown
      · intro hisolated rows' hrows' snapshot' hload'
        exact resolvesOwn_of_isolated hrows' hload' hrow hisolated hcert hkey hentry

/-! ## Two authorities with one issuer id -/

/-- A runtime that takes every text as it is. -/
def sampleRuntime : PyRuntime where
  lower := fun text => text
  repr := fun text => text
  reprList := fun _ => ""
  encodeIdna := .ok
  urlsplit := fun _ => .error ""
  urlparse := fun _ => .error ""
  isDigit := fun _ => false
  parseQsl := fun _ => []
  fromisoformat := fun _ => none
  loadsPemPublicKey := fun _ => true
  verifiesRsaPss := fun _ _ _ => true
  sha256 := fun _ => ""

/-- The issuer `issuer:acme` of an authority. -/
def sampleIssuer (authority enrollmentStatus : String) : IssuerRow where
  key := ⟨"root:demo", authority, "issuer:acme"⟩
  displayName := "Acme"
  enrollmentStatus := enrollmentStatus
  allowSubdomains := false
  expiresAt := none
  createdAt := .utc 0

/-- The certificate of the issuer of an authority. -/
def sampleCertificate (authority : String) : CertificateRow where
  certificateId := "cert:" ++ authority
  issuer := ⟨"root:demo", authority, "issuer:acme"⟩
  algorithmId := "rsa-pss-sha256-v1"
  publicKeyMaterialPem := some "pem"
  keyStatus := "active"
  notBefore := .utc 0
  notAfter := none
  revokedAt := none
  revocationReason := none

/-- Authority `a` has `issuer:acme` active; authority `b` has revoked its own. -/
def collidingDatabase : Database where
  issuers := [sampleIssuer "b" "revoked", sampleIssuer "a" "active"]
  certificates := [sampleCertificate "b"]
  domainProofs := [⟨⟨"root:demo", "a", "issuer:acme"⟩, "acme.example", "verified", none⟩]
  trustState := some ⟨"epoch", 1⟩
  issuers_key := by decide
  certificates_key := by decide
  certificates_issuer := by decide
  domainProofs_issuer := by decide
  domainProofs_current := by decide

/-- The rows in the order the lists of a database have. -/
def fetchInOrder (db : Database) : FetchedRows :=
  ⟨db.domainProofs.filter DomainProofRow.verified, db.issuers, db.certificates⟩

theorem fetchInOrder_of (db : Database) : (fetchInOrder db).Of db :=
  ⟨.refl _, .refl _, .refl _⟩

/-- What a certificate resolves to after a load into an empty store. -/
def loadedAnswer (db : Database) (certificateId : String) : Option (KeyEntry × IssuerRecord) :=
  (loadTrustSnapshot sampleRuntime db.trustState (fetchInOrder db)).toOption.bind fun snapshot =>
    (loadedStore (.empty : ScannerTrustStore Unit _) snapshot).resolve certificateId

theorem exists_of_loadedAnswer {db : Database} {certificateId : String}
    (h : (loadedAnswer db certificateId).isSome = true) :
    ∃ snapshot, loadTrustSnapshot sampleRuntime db.trustState (fetchInOrder db) = .ok snapshot
      ∧ (loadedStore (.empty : ScannerTrustStore Unit _) snapshot).resolve certificateId
        = loadedAnswer db certificateId := by
  cases hload : loadTrustSnapshot sampleRuntime db.trustState (fetchInOrder db) with
  | error exc =>
      rw [loadedAnswer, hload] at h
      cases h
  | ok snapshot =>
      refine ⟨snapshot, rfl, ?_⟩
      rw [loadedAnswer, hload]
      rfl

/-- The certificate of the revoked issuer resolves to the active record of the
    other authority, with its domain. -/
theorem colliding_resolves_other :
    ∃ snapshot,
      loadTrustSnapshot sampleRuntime collidingDatabase.trustState
          (fetchInOrder collidingDatabase) = .ok snapshot
        ∧ (∃ entry record, (loadedStore (.empty : ScannerTrustStore Unit _) snapshot).resolve
              "cert:b" = some (entry, record)
            ∧ record.status = .active
            ∧ record.verifiedDomains.get? "acme.example" = some none)
        ∧ ¬ ResolvesOwn sampleRuntime collidingDatabase (sampleIssuer "b" "revoked")
            ((loadedStore (.empty : ScannerTrustStore Unit _) snapshot).resolve "cert:b") := by
  have hshown : (loadedAnswer collidingDatabase "cert:b").map (fun answer =>
      (answer.2.status, answer.2.verifiedDomains.get? "acme.example"))
      = some (.active, some none) := by decide +kernel
  obtain ⟨⟨entry, record⟩, hanswer, hfields⟩ := Option.map_eq_some_iff.mp hshown
  obtain ⟨hstatus, hdomain⟩ := Prod.mk.inj hfields
  obtain ⟨snapshot, hload, hresolve⟩ :=
    exists_of_loadedAnswer (by rw [hanswer]; rfl : (loadedAnswer _ _).isSome = true)
  rw [hanswer] at hresolve
  refine ⟨snapshot, hload, ⟨entry, record, hresolve, hstatus, hdomain⟩, fun hown => ?_⟩
  obtain ⟨_, _, heq, hrecord⟩ := hown.2 (IssuerRow.projectable_of_some rfl)
  obtain ⟨-, rfl⟩ := Prod.mk.inj (Option.some.inj (hresolve.symm.trans heq))
  have hrevoked := hrecord.status
  rw [hstatus] at hrevoked
  exact absurd hrevoked (by decide)

/-- One authority with its issuer. -/
def soleDatabase : Database where
  issuers := [sampleIssuer "a" "active"]
  certificates := [sampleCertificate "a"]
  domainProofs := [⟨⟨"root:demo", "a", "issuer:acme"⟩, "acme.example", "verified", none⟩]
  trustState := some ⟨"epoch", 1⟩
  issuers_key := by decide
  certificates_key := by decide
  certificates_issuer := by decide
  domainProofs_issuer := by decide
  domainProofs_current := by decide

/-- Alone under its `issuer_id`, the issuer's certificate resolves to its own
    record. -/
theorem resolvesOwn_iff_sole :
    ∃ snapshot,
      loadTrustSnapshot sampleRuntime soleDatabase.trustState (fetchInOrder soleDatabase)
          = .ok snapshot
        ∧ ResolvesOwn sampleRuntime soleDatabase (sampleIssuer "a" "active")
            ((loadedStore (.empty : ScannerTrustStore Unit _) snapshot).resolve "cert:a") := by
  obtain ⟨snapshot, hload, -⟩ := exists_of_loadedAnswer
    (by decide +kernel : (loadedAnswer soleDatabase "cert:a").isSome = true)
  have hiff := resolvesOwn_iff sampleRuntime soleDatabase
    (.empty : ScannerTrustStore Unit _) (sampleCertificate "a") (List.mem_singleton_self _) _ rfl
    (sampleIssuer "a" "active") (List.mem_singleton_self _) rfl
    ⟨fetchInOrder soleDatabase, fetchInOrder_of _, snapshot, hload⟩
  refine ⟨snapshot, hload, hiff.mpr ⟨?_, ?_, ?_⟩ _ (fetchInOrder_of _) snapshot hload⟩
  · intro other hother _ _
    obtain rfl := List.mem_singleton.mp hother
    exact ⟨rfl, rfl, rfl, rfl, rfl, rfl⟩
  · intro _ record hrecord
    cases hrecord
  · intro _ proof hproof hverified _
    obtain rfl := List.mem_singleton.mp hproof
    exact ⟨_, hproof, rfl, hverified, rfl, rfl⟩

end TrustProjection
