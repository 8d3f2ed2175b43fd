import QrTrust.Backend.DomainMapProofs
import QrTrust.Backend.TrustProjection
import QrTrust.Lib.Fallible

/-! # What a load of the projection returns

    One record for each projected issuer row, over the domains of its
    `issuer_id`, and one key for each projected certificate row.  Whether a load
    succeeds does not depend on the order of the rows; what a domain maps to
    does, where two rows disagree. -/

namespace TrustProjection

open TrustStore DestinationCanonicalization Fallible

variable {py : PyRuntime}

/-! ## Grouping the proofs -/

/-- The group of an `issuer_id`. -/
def groupOf (rows : List DomainProofRow) (issuerId : String) :
    OrderedMap String (Option Datetime) :=
  ((groupProofs rows).get? issuerId).getD .empty

theorem groupProofs_concat (rows : List DomainProofRow) (row : DomainProofRow) :
    groupProofs (rows ++ [row]) = addProof (groupProofs rows) row :=
  List.foldl_append ..

/-- **LAST PROOF**: a domain of the group has the expiry of the last proof row of
    that `issuer_id` and domain, whoever's it is. -/
theorem get?_groupOf (rows : List DomainProofRow) (issuerId domain : String) :
    (groupOf rows issuerId).get? domain
      = (rows.reverse.find? fun row =>
          row.issuer.issuerId = issuerId ∧ row.domain = domain).map DomainProofRow.expiresAt := by
  induction rows using List.reverseRecOn with
  | nil => rfl
  | append_singleton front last ih =>
      rw [groupOf, groupProofs_concat, addProof, OrderedMap.get?_set, List.reverse_append,
        List.reverse_singleton, List.singleton_append, List.find?_cons]
      by_cases hissuer : issuerId = last.issuer.issuerId
      · subst hissuer
        rw [if_pos rfl]
        show ((groupOf front last.issuer.issuerId).set last.domain last.expiresAt).get? domain = _
        rw [OrderedMap.get?_set]
        by_cases hdomain : domain = last.domain
        · rw [if_pos hdomain, decide_eq_true ⟨rfl, hdomain.symm⟩]
          rfl
        · rw [if_neg hdomain, decide_eq_false (fun h => hdomain h.2.symm), ih]
      · rw [if_neg hissuer, decide_eq_false (fun h => hissuer h.1.symm)]
        exact ih

/-- What the group says of a domain, some proof row of that `issuer_id` says. -/
theorem exists_of_get?_groupOf {rows : List DomainProofRow} {issuerId domain : String}
    {expiry : Option Datetime} (h : (groupOf rows issuerId).get? domain = some expiry) :
    ∃ row ∈ rows, row.issuer.issuerId = issuerId ∧ row.domain = domain
      ∧ row.expiresAt = expiry := by
  rw [get?_groupOf, Option.map_eq_some_iff] at h
  obtain ⟨row, hfound, hexpiry⟩ := h
  have hboth := List.find?_some hfound
  rw [decide_eq_true_eq] at hboth
  exact ⟨row, List.mem_reverse.mp (List.mem_of_find?_eq_some hfound), hboth.1, hboth.2, hexpiry⟩

/-- The domains of the group are those of its proof rows. -/
theorem mem_keys_groupOf {rows : List DomainProofRow} {issuerId domain : String} :
    domain ∈ (groupOf rows issuerId).keys ↔
      ∃ row ∈ rows, row.issuer.issuerId = issuerId ∧ row.domain = domain := by
  rw [OrderedMap.mem_keys]
  simp only [← OrderedMap.get?_eq_some_iff]
  constructor
  · rintro ⟨expiry, h⟩
    obtain ⟨row, hmem, hissuer, hdomain, -⟩ := exists_of_get?_groupOf h
    exact ⟨row, hmem, hissuer, hdomain⟩
  · rintro ⟨row, hmem, hissuer, hdomain⟩
    cases hget : (groupOf rows issuerId).get? domain with
    | some expiry => exact ⟨expiry, rfl⟩
    | none =>
        rw [get?_groupOf, Option.map_eq_none_iff, List.find?_eq_none] at hget
        exact absurd (decide_eq_true ⟨hissuer, hdomain⟩) (hget row (List.mem_reverse.mpr hmem))

/-- The last proof row of all has its say. -/
theorem get?_groupOf_concat (rows : List DomainProofRow) (row : DomainProofRow) :
    (groupOf (rows ++ [row]) row.issuer.issuerId).get? row.domain = some row.expiresAt := by
  rw [get?_groupOf, List.reverse_append, List.reverse_singleton, List.singleton_append,
    List.find?_cons, decide_eq_true ⟨rfl, rfl⟩]
  rfl

/-! ## Canonicalizing the groups -/

/-- The loop leaves the canonical form of every group, and other entries as they
    are. -/
theorem get?_canonicalizeGroups {entries : List (String × OrderedMap String (Option Datetime))}
    {proofsByIssuer result : ProofsByIssuer} (hnodup : (entries.map Prod.fst).Nodup)
    (h : canonicalizeGroups py entries proofsByIssuer = .ok result) :
    (∀ issuerId domains, (issuerId, domains) ∈ entries → ∃ canonical,
        canonicalizeVerifiedDomainMap py domains false = .ok canonical
          ∧ result.get? issuerId = some canonical)
      ∧ ∀ issuerId, issuerId ∉ entries.map Prod.fst →
          result.get? issuerId = proofsByIssuer.get? issuerId := by
  induction entries generalizing proofsByIssuer with
  | nil =>
      obtain rfl := Except.ok.inj h
      exact ⟨fun _ _ hmem => absurd hmem List.not_mem_nil, fun _ _ => rfl⟩
  | cons hd rest ih =>
      obtain ⟨id, group⟩ := hd
      rw [List.map_cons, List.nodup_cons] at hnodup
      obtain ⟨hnotMem, hrest⟩ := hnodup
      rw [canonicalizeGroups] at h
      cases hcanonical : canonicalizeVerifiedDomainMap py group false with
      | error exc =>
          rw [hcanonical] at h
          cases exc <;> cases h
      | ok canonical =>
          rw [hcanonical] at h
          obtain ⟨hgroups, hothers⟩ := ih hrest h
          refine ⟨fun issuerId domains hmem => ?_, fun issuerId hnot => ?_⟩
          · rcases List.mem_cons.mp hmem with hfirst | hlater
            · obtain ⟨rfl, rfl⟩ := Prod.mk.inj hfirst
              exact ⟨canonical, hcanonical, by rw [hothers _ hnotMem, OrderedMap.get?_set_self]⟩
            · exact hgroups issuerId domains hlater
          · rw [List.map_cons, List.mem_cons, not_or] at hnot
            rw [hothers issuerId hnot.2, OrderedMap.get?_set_ne _ _ hnot.1]

/-- The loop succeeds when every group canonicalizes. -/
theorem exists_canonicalizeGroups_iff
    {entries : List (String × OrderedMap String (Option Datetime))}
    {proofsByIssuer : ProofsByIssuer} :
    (∃ result, canonicalizeGroups py entries proofsByIssuer = .ok result) ↔
      ∀ entry ∈ entries, CanonicalizesApart py entry.2.keys := by
  induction entries generalizing proofsByIssuer with
  | nil =>
      constructor
      · intro _ entry hentry
        exact absurd hentry List.not_mem_nil
      · intro _
        exact ⟨proofsByIssuer, rfl⟩
  | cons hd rest ih =>
      obtain ⟨id, group⟩ := hd
      rw [List.forall_mem_cons, ← exists_canonicalizeVerifiedDomainMap_iff]
      simp only [canonicalizeGroups]
      cases canonicalizeVerifiedDomainMap py group false with
      | error exc =>
          constructor
          · rintro ⟨result, h⟩
            cases exc <;> cases h
          · rintro ⟨⟨result, h⟩, -⟩
            cases h
      | ok canonical =>
          rw [ih]
          constructor
          · intro hrest
            exact ⟨⟨canonical, rfl⟩, hrest⟩
          · intro hboth
            exact hboth.2

/-- **GROUPS**: after the loop the map holds the canonical form of the group of
    every `issuer_id`. -/
theorem canonicalizeGroups_groupOf {rows : List DomainProofRow} {result : ProofsByIssuer}
    (h : canonicalizeGroups py (groupProofs rows).entries (groupProofs rows) = .ok result)
    (issuerId : String) :
    canonicalizeVerifiedDomainMap py (groupOf rows issuerId) false
      = .ok ((result.get? issuerId).getD .empty) := by
  obtain ⟨hgroups, hothers⟩ := get?_canonicalizeGroups (groupProofs rows).nodup h
  cases hget : (groupProofs rows).get? issuerId with
  | some group =>
      obtain ⟨canonical, hcanonical, hresult⟩ :=
        hgroups issuerId group ((OrderedMap.get?_eq_some_iff ..).mp hget)
      rw [groupOf, hget, hresult]
      exact hcanonical
  | none =>
      have hnotMem : issuerId ∉ (groupProofs rows).entries.map Prod.fst := fun hmem => by
        obtain ⟨group, hgroup⟩ := OrderedMap.mem_keys.mp hmem
        exact (OrderedMap.get?_eq_none_iff ..).mp hget group hgroup
      rw [groupOf, hget, hothers issuerId hnotMem, hget]
      rfl

/-! ## Twice canonical -/

/-- A domain as the projection writes it: canonicalized with its group, and again
    with the record. -/
def projectedDomain (py : PyRuntime) (raw : String) : Except PyError String :=
  canonicalizeVerifiedDomain py raw >>= canonicalizeVerifiedDomain py

/-- A map of domains, canonicalized twice. -/
def canonicalizeTwice (py : PyRuntime) (domains : OrderedMap String (Option Datetime)) :
    Except PyError (OrderedMap String (Option Datetime)) :=
  canonicalizeVerifiedDomainMap py domains false >>= fun canonical =>
    canonicalizeVerifiedDomainMap py canonical false

/-- **TWICE LOOKUP**: a projected domain has the value of the raw domain it comes
    from. -/
theorem get?_canonicalizeTwice {domains result : OrderedMap String (Option Datetime)}
    (h : canonicalizeTwice py domains = .ok result) (domain : String)
    (expiry : Option Datetime) :
    result.get? domain = some expiry ↔ ∃ raw, domains.get? raw = some expiry
      ∧ projectedDomain py raw = .ok domain := by
  obtain ⟨canonical, hfirst, hsecond⟩ := bind_eq_ok_iff.mp h
  rw [get?_canonicalizeVerifiedDomainMap hsecond]
  simp only [get?_canonicalizeVerifiedDomainMap hfirst, projectedDomain, bind_eq_ok_iff]
  constructor
  · rintro ⟨middle, ⟨raw, hraw, hmiddle⟩, hdomain⟩
    exact ⟨raw, hraw, middle, hmiddle, hdomain⟩
  · rintro ⟨raw, hraw, middle, hmiddle, hdomain⟩
    exact ⟨middle, ⟨raw, hraw, hmiddle⟩, hdomain⟩

/-- The keys of a canonicalized map are the canonical forms of its raw domains. -/
theorem mem_keys_canonicalized {domains canonical : OrderedMap String (Option Datetime)}
    (h : canonicalizeVerifiedDomainMap py domains false = .ok canonical) (domain : String) :
    domain ∈ canonical.keys ↔
      ∃ raw ∈ domains.keys, canonicalizeVerifiedDomain py raw = .ok domain := by
  simp only [OrderedMap.mem_keys, ← OrderedMap.get?_eq_some_iff,
    get?_canonicalizeVerifiedDomainMap h]
  constructor
  · rintro ⟨expiry, raw, hraw, hdomain⟩
    exact ⟨raw, ⟨expiry, hraw⟩, hdomain⟩
  · rintro ⟨raw, ⟨expiry, hraw⟩, hdomain⟩
    exact ⟨expiry, raw, hraw, hdomain⟩

/-- Raw domains of a map that canonicalizes twice keep apart. -/
theorem projectedDomain_inj {domains result : OrderedMap String (Option Datetime)}
    (h : canonicalizeTwice py domains = .ok result) {raw raw' domain : String}
    (hraw : raw ∈ domains.keys) (hraw' : raw' ∈ domains.keys)
    (hdomain : projectedDomain py raw = .ok domain)
    (hdomain' : projectedDomain py raw' = .ok domain) : raw = raw' := by
  obtain ⟨canonical, hfirst, hsecond⟩ := bind_eq_ok_iff.mp h
  obtain ⟨middle, hmiddle, hlast⟩ := bind_eq_ok_iff.mp hdomain
  obtain ⟨middle', hmiddle', hlast'⟩ := bind_eq_ok_iff.mp hdomain'
  have hkeys := mem_keys_canonicalized hfirst
  have hsame : middle = middle' :=
    (exists_canonicalizeVerifiedDomainMap_iff.mp ⟨result, hsecond⟩).2
      middle ((hkeys middle).mpr ⟨raw, hraw, hmiddle⟩)
      middle' ((hkeys middle').mpr ⟨raw', hraw', hmiddle'⟩) (hlast.trans hlast'.symm)
  subst hsame
  exact (exists_canonicalizeVerifiedDomainMap_iff.mp ⟨canonical, hfirst⟩).2
    raw hraw raw' hraw' (hmiddle.trans hmiddle'.symm)

/-- A raw domain of a map that canonicalizes twice projects. -/
theorem exists_projectedDomain {domains result : OrderedMap String (Option Datetime)}
    (h : canonicalizeTwice py domains = .ok result) {raw : String} (hraw : raw ∈ domains.keys) :
    ∃ domain, projectedDomain py raw = .ok domain := by
  obtain ⟨canonical, hfirst, hsecond⟩ := bind_eq_ok_iff.mp h
  obtain ⟨middle, hmiddle⟩ :=
    (exists_canonicalizeVerifiedDomainMap_iff.mp ⟨canonical, hfirst⟩).1 raw hraw
  obtain ⟨domain, hdomain⟩ := (exists_canonicalizeVerifiedDomainMap_iff.mp ⟨result, hsecond⟩).1
    middle ((mem_keys_canonicalized hfirst middle).mpr ⟨raw, hraw, hmiddle⟩)
  exact ⟨domain, bind_eq_ok_iff.mpr ⟨middle, hmiddle, hdomain⟩⟩

/-- Whether a map canonicalizes twice depends on its raw domains only. -/
theorem exists_canonicalizeTwice_of_keys {domains domains' : OrderedMap String (Option Datetime)}
    (hkeys : ∀ raw, raw ∈ domains'.keys ↔ raw ∈ domains.keys)
    (h : ∃ result, canonicalizeTwice py domains = .ok result) :
    ∃ result, canonicalizeTwice py domains' = .ok result := by
  obtain ⟨result, h⟩ := h
  obtain ⟨canonical, hfirst, hsecond⟩ := bind_eq_ok_iff.mp h
  obtain ⟨canonical', hfirst'⟩ := exists_canonicalizeVerifiedDomainMap_iff.mpr
    ((exists_canonicalizeVerifiedDomainMap_iff.mp ⟨canonical, hfirst⟩).of_mem_iff hkeys)
  have hsame : ∀ domain, domain ∈ canonical'.keys ↔ domain ∈ canonical.keys := by
    intro domain
    rw [mem_keys_canonicalized hfirst', mem_keys_canonicalized hfirst]
    simp only [hkeys]
  obtain ⟨result', hsecond'⟩ := exists_canonicalizeVerifiedDomainMap_iff.mpr
    ((exists_canonicalizeVerifiedDomainMap_iff.mp ⟨result, hsecond⟩).of_mem_iff hsame)
  exact ⟨result', bind_eq_ok_iff.mpr ⟨canonical', hfirst', hsecond'⟩⟩

/-! ## The issuer records -/

/-- The domains the records of an `issuer_id` get. -/
def loadedDomains (py : PyRuntime) (rows : List DomainProofRow) (issuerId : String) :
    OrderedMap String (Option Datetime) :=
  match canonicalizeTwice py (groupOf rows issuerId) with
  | .ok domains => domains
  | .error _ => .empty

/-- The record of an issuer row, over the loaded domains of its `issuer_id`. -/
def loadedRecord (py : PyRuntime) (proofRows : List DomainProofRow) (row : IssuerRow) :
    Option IssuerRecord :=
  (issuerProjection row.enrollmentStatus).map fun status =>
    issuerRecord row status (loadedDomains py proofRows row.key.issuerId)

/-- A row the projection takes has a status of the trust surface. -/
def IssuerRow.projectable (row : IssuerRow) : Prop :=
  issuerProjection row.enrollmentStatus ≠ none

theorem IssuerRow.projectable_of_some {row : IssuerRow} {status : IssuerStatus}
    (h : issuerProjection row.enrollmentStatus = some status) : row.projectable := by
  rw [IssuerRow.projectable, h]
  exact Option.some_ne_none status

/-- Projecting an issuer row: a row outside the trust surface gives no record, and
    any other its loaded one, if its domains canonicalize. -/
theorem projectIssuerRow_eq_ok_iff {proofRows : List DomainProofRow} {result : ProofsByIssuer}
    (h : canonicalizeGroups py (groupProofs proofRows).entries (groupProofs proofRows)
      = .ok result) (row : IssuerRow) (record : Option IssuerRecord) :
    projectIssuerRow py row ((result.get? row.key.issuerId).getD .empty) = .ok record ↔
      record = loadedRecord py proofRows row
        ∧ (row.projectable →
            ∃ domains, canonicalizeTwice py (groupOf proofRows row.key.issuerId) = .ok domains) := by
  have hfirst := canonicalizeGroups_groupOf h row.key.issuerId
  have htwice : canonicalizeTwice py (groupOf proofRows row.key.issuerId)
      = canonicalizeVerifiedDomainMap py ((result.get? row.key.issuerId).getD .empty) false := by
    rw [canonicalizeTwice, hfirst]
    rfl
  rw [loadedRecord, loadedDomains, htwice, projectIssuerRow, IssuerRow.projectable]
  cases issuerProjection row.enrollmentStatus with
  | none =>
      constructor
      · intro hnone
        obtain rfl := Except.ok.inj hnone
        exact ⟨rfl, fun hne => absurd rfl hne⟩
      · rintro ⟨rfl, -⟩
        rfl
  | some status =>
      cases canonicalizeVerifiedDomainMap py ((result.get? row.key.issuerId).getD .empty)
          false with
      | error exc =>
          constructor
          · intro herror
            cases herror
          · rintro ⟨-, hdomains⟩
            obtain ⟨domains, hdomains⟩ := hdomains (Option.some_ne_none _)
            cases hdomains
      | ok domains =>
          constructor
          · intro hok
            obtain rfl := Except.ok.inj hok
            exact ⟨rfl, fun _ => ⟨domains, rfl⟩⟩
          · rintro ⟨rfl, -⟩
            rfl

/-- Every issuer row gives its loaded record, and each projectable one needs its
    domains to canonicalize. -/
theorem projectIssuerRows_eq_ok_iff {proofRows : List DomainProofRow} {result : ProofsByIssuer}
    (h : canonicalizeGroups py (groupProofs proofRows).entries (groupProofs proofRows)
      = .ok result) {rows : List IssuerRow} {records : List IssuerRecord} :
    projectIssuerRows py result rows = .ok records ↔
      records = rows.filterMap (loadedRecord py proofRows)
        ∧ ∀ row ∈ rows, row.projectable →
            ∃ domains, canonicalizeTwice py (groupOf proofRows row.key.issuerId)
              = .ok domains := by
  rw [projectIssuerRows, bind_eq_ok_iff]
  simp only [mapM_eq_ok_iff, projectIssuerRow_eq_ok_iff h]
  induction rows generalizing records with
  | nil =>
      constructor
      · rintro ⟨_, ⟨⟩, hrecords⟩
        exact ⟨(Except.ok.inj hrecords).symm, fun row hrow => absurd hrow List.not_mem_nil⟩
      · rintro ⟨rfl, -⟩
        exact ⟨[], .nil, rfl⟩
  | cons row rest ih =>
      constructor
      · rintro ⟨options, hoptions, hrecords⟩
        cases hoptions with
        | cons hfirst hrest =>
            obtain ⟨rfl, hrow⟩ := hfirst
            obtain rfl := Except.ok.inj hrecords
            obtain ⟨heq, hall⟩ := ih.mp ⟨_, hrest, rfl⟩
            refine ⟨?_, List.forall_mem_cons.mpr ⟨hrow, hall⟩⟩
            rw [List.filterMap_cons, List.filterMap_cons, heq]
            rfl
      · rintro ⟨rfl, hall⟩
        obtain ⟨hrow, hrest⟩ := List.forall_mem_cons.mp hall
        obtain ⟨options, hoptions, heq⟩ := ih.mpr ⟨rfl, hrest⟩
        refine ⟨loadedRecord py proofRows row :: options, .cons ⟨rfl, hrow⟩ hoptions, ?_⟩
        have hsame := Except.ok.inj heq
        show Except.ok _ = Except.ok _
        rw [List.filterMap_cons, List.filterMap_cons, hsame]
        rfl

/-! ## The snapshot -/

/-- **LOADED**: what a successful load returns, and what it needs. -/
theorem loadTrustSnapshot_eq_ok_iff {token : TrustStateToken} {rows : FetchedRows}
    {snapshot : TrustSnapshot} :
    loadTrustSnapshot py (some token) rows = .ok snapshot ↔
      snapshot = { token := token
                   issuers := rows.issuerRows.filterMap (loadedRecord py rows.proofRows)
                   keys := (rows.certificateRows.map (projectCertificateRow py)).filterMap
                     Prod.fst
                   defects := (rows.certificateRows.map (projectCertificateRow py)).filterMap
                     Prod.snd }
        ∧ (∀ issuerId, CanonicalizesApart py (groupOf rows.proofRows issuerId).keys)
        ∧ ∀ row ∈ rows.issuerRows, row.projectable →
            ∃ domains, canonicalizeTwice py (groupOf rows.proofRows row.key.issuerId)
              = .ok domains := by
  rw [loadTrustSnapshot, bind_eq_ok_iff]
  constructor
  · rintro ⟨proofsByIssuer, hgroups, h⟩
    obtain ⟨issuers, hissuers, h⟩ := bind_eq_ok_iff.mp h
    obtain ⟨rfl, hdomains⟩ := (projectIssuerRows_eq_ok_iff hgroups).mp hissuers
    refine ⟨(Except.ok.inj h).symm, fun issuerId => ?_, hdomains⟩
    exact exists_canonicalizeVerifiedDomainMap_iff.mp
      ⟨_, canonicalizeGroups_groupOf hgroups issuerId⟩
  · rintro ⟨rfl, hapart, hdomains⟩
    have hgroups : ∀ entry ∈ (groupProofs rows.proofRows).entries,
        CanonicalizesApart py entry.2.keys := by
      rintro ⟨issuerId, group⟩ hmem
      have hgroup : groupOf rows.proofRows issuerId = group := by
        rw [groupOf, (OrderedMap.get?_eq_some_iff ..).mpr hmem]
        rfl
      exact hgroup ▸ hapart issuerId
    obtain ⟨proofsByIssuer, hcanonical⟩ := exists_canonicalizeGroups_iff.mpr hgroups
    exact ⟨proofsByIssuer, hcanonical, bind_eq_ok_iff.mpr
      ⟨_, (projectIssuerRows_eq_ok_iff hcanonical).mpr ⟨rfl, hdomains⟩, rfl⟩⟩

/-- Two fetches of one database group the same raw domains. -/
theorem mem_keys_groupOf_of {db : Database} {rows rows' : FetchedRows} (hrows : rows.Of db)
    (hrows' : rows'.Of db) (issuerId raw : String) :
    raw ∈ (groupOf rows'.proofRows issuerId).keys
      ↔ raw ∈ (groupOf rows.proofRows issuerId).keys := by
  rw [mem_keys_groupOf, mem_keys_groupOf]
  simp only [hrows'.proofRows.mem_iff, hrows.proofRows.mem_iff]

/-- **ANY ORDER LOADS**: where one order of the rows loads, every order does. -/
theorem exists_loadTrustSnapshot_of {db : Database} {rows rows' : FetchedRows}
    {token : TrustStateToken} (hrows : rows.Of db) (hrows' : rows'.Of db)
    (h : ∃ snapshot, loadTrustSnapshot py (some token) rows = .ok snapshot) :
    ∃ snapshot, loadTrustSnapshot py (some token) rows' = .ok snapshot := by
  obtain ⟨snapshot, h⟩ := h
  obtain ⟨-, hapart, hdomains⟩ := loadTrustSnapshot_eq_ok_iff.mp h
  refine ⟨_, loadTrustSnapshot_eq_ok_iff.mpr ⟨rfl, fun issuerId => ?_, fun row hrow hstatus => ?_⟩⟩
  · exact (hapart issuerId).of_mem_iff (mem_keys_groupOf_of hrows hrows' issuerId)
  · have hmem : row ∈ rows.issuerRows :=
      hrows.issuerRows.mem_iff.mpr (hrows'.issuerRows.mem_iff.mp hrow)
    exact exists_canonicalizeTwice_of_keys (mem_keys_groupOf_of hrows hrows' _)
      (hdomains row hmem hstatus)

end TrustProjection
