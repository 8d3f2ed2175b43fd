import QrTrust.Backend.DemoMaterials
import QrTrust.Backend.ProjectionFreshnessProofs

/-! # Demo entries and governed entries

    A demo request writes under fixed names without a look at where the entry
    there comes from, and the remembered token holds back the reload that would
    repair it (`demo_shadows`).  Requests that meet no projected entry are steps
    of the others as far as the projection goes (`sameProjected_demo`), so a
    projection without two issuers of one id resolves as it was projected
    (`projected_unshadowed`). -/

namespace DemoMaterials

open TrustStore TrustProjection ManagementPlane ProjectionFreshness

variable {py : PyRuntime} {Governance : Type}

/-! ## What the store operations leave -/

/-- A write of a value that is not told apart leaves the ones that are, where it
    meets none. -/
theorem filter_get?_set {ν : Type} {m : OrderedMap String ν} {p : ν → Bool} {k : String} {v : ν}
    (hv : p v = false) (hk : (m.get? k).filter p = none) (k' : String) :
    ((m.set k v).get? k').filter p = (m.get? k').filter p := by
  rw [OrderedMap.get?_set]
  by_cases h : k' = k
  · rw [if_pos h, h, hk]
    exact Option.filter_some_neg hv
  · rw [if_neg h]

theorem sameProjected_putIssuer {store store' : Store Governance} {record : IssuerRecord}
    (h : store.putIssuer py record = .ok store') (hsource : record.source = .ephemeral)
    (hnone : projectedIssuer store record.issuerId = none) : SameProjected store store' := by
  obtain ⟨domains, -, hput⟩ := Fallible.bind_eq_ok_iff.mp h
  obtain rfl := Except.ok.inj hput
  refine ⟨fun issuerId => ?_, fun _ => rfl, rfl⟩
  have hother : decide (({ record with verifiedDomains := domains } : IssuerRecord).source
      = .projection) = false := by
    rw [show ({ record with verifiedDomains := domains } : IssuerRecord).source = .ephemeral
      from hsource]
    rfl
  exact (@filter_get?_set _ store.issuers (fun record => record.source = .projection)
    record.issuerId _ hother hnone issuerId).symm

theorem sameProjected_putKey {store store' : Store Governance} {entry : KeyEntry}
    (h : store.putKey py entry = .ok store') (hsource : entry.source = .ephemeral)
    (hnone : projectedKey store entry.keyRef = none) : SameProjected store store' := by
  rw [ScannerTrustStore.putKey] at h
  split at h
  · cases h
  · split at h
    · cases h
    · obtain rfl := Except.ok.inj h
      refine ⟨fun _ => rfl, fun keyRef => ?_, rfl⟩
      have hother : decide (entry.source = .projection) = false := by
        rw [hsource]
        rfl
      exact (@filter_get?_set _ store.keys (fun entry => entry.source = .projection)
        entry.keyRef entry hother hnone keyRef).symm

theorem sameProjected_setGovernance (store : Store Governance) (issuerId : String)
    (governance : Governance) : SameProjected store (store.setGovernance issuerId governance) :=
  ⟨fun _ => rfl, fun _ => rfl, rfl⟩

theorem sameProjected_removeKey {store : Store Governance} {keyRef : String}
    (hnone : projectedKey store keyRef = none) :
    SameProjected store (store.removeKey keyRef) := by
  refine ⟨fun _ => rfl, fun keyRef' => ?_, rfl⟩
  show (store.keys.get? keyRef').filter _ = ((store.keys.erase keyRef).get? keyRef').filter _
  rw [OrderedMap.erase, OrderedMap.get?_filter]
  by_cases h : keyRef' = keyRef
  · subst h
    simpa [projectedKey] using hnone
  · simp [h]

/-- Retiring keys leaves the projection where no projected key is retired. -/
theorem sameProjected_retireKeysFor {store : Store Governance} {issuerId exceptKeyRef : String}
    {now : Datetime} (hnone : ∀ keyRef entry, projectedKey store keyRef = some entry →
      entry.issuerId = issuerId → entry.state ≠ .active) :
    SameProjected store (store.retireKeysFor issuerId now exceptKeyRef) := by
  refine ⟨fun _ => rfl, fun keyRef => ?_, rfl⟩
  show (store.keys.get? keyRef).filter _ = ((store.keys.update _).get? keyRef).filter _
  rw [OrderedMap.get?_update]
  cases hget : store.keys.get? keyRef with
  | none => rfl
  | some key =>
      rw [Option.map_some]
      split
      · rfl
      · rename_i hissuer
        split
        · rfl
        · rename_i hactive
          -- the key would be retired, so it is none of the projected ones
          have hsource : key.source ≠ .projection := by
            intro hprojected
            have hkey : projectedKey store keyRef = some key := by
              rw [projectedKey, hget]
              exact Option.filter_some_pos (decide_eq_true hprojected)
            exact hnone keyRef key hkey (not_not.mp (not_or.mp hissuer).1) (not_not.mp hactive)
          rw [Option.filter_some_neg (by simpa using hsource),
            Option.filter_some_neg (by simpa using hsource)]

/-! ## A demo request -/

/-- **SPARES**: the request meets no projected entry: none under the reference of
    its key, and, where it enrols, none under the name of the demo issuer, and no
    active key of that issuer to retire. -/
structure Spares (store : Store Governance) (request : DemoMaterialsRequest) (keyRef : String) :
    Prop where
  key : projectedKey store keyRef = none
  issuer : request.registerScannerTrust = true → projectedIssuer store demoIssuerName = none
  retired : request.registerScannerTrust = true → request.rotateKey = true →
    ∀ ref entry, projectedKey store ref = some entry → entry.issuerId = demoIssuerName →
      entry.state ≠ .active

theorem Spares.of_sameProjected {store store' : Store Governance}
    {request : DemoMaterialsRequest} {keyRef : String} (h : Spares store request keyRef)
    (hsame : SameProjected store store') : Spares store' request keyRef where
  key := hsame.keys keyRef ▸ h.key
  issuer := fun hregister => hsame.issuers demoIssuerName ▸ h.issuer hregister
  retired := fun hregister hrotate ref entry hentry =>
    h.retired hregister hrotate ref entry (hsame.keys ref ▸ hentry)

theorem sameProjected_registerScannerTrust {store : Store Governance} {record : IssuerRecord}
    {entry : KeyEntry} {governance : Option Governance} (hrecord : record.source = .ephemeral)
    (hentry : entry.source = .ephemeral)
    (hissuer : projectedIssuer store record.issuerId = none)
    (hkey : projectedKey store entry.keyRef = none) :
    SameProjected store (registerScannerTrust py store record entry governance).1 := by
  rw [registerScannerTrust]
  cases hput : store.putIssuer py record with
  | error exc => exact .refl _
  | ok withIssuer =>
      have hsame := sameProjected_putIssuer hput hrecord hissuer
      dsimp only
      cases hputKey : withIssuer.putKey py entry with
      | error exc => exact hsame
      | ok withKey =>
          have hsame' := hsame.trans
            (sameProjected_putKey hputKey hentry (hsame.keys entry.keyRef ▸ hkey))
          cases governance with
          | none => exact hsame'
          | some governance => exact hsame'.trans (sameProjected_setGovernance ..)

theorem prepare_record {request : DemoMaterialsRequest} {surroundings : Surroundings Governance}
    {record : IssuerRecord} {governance : Option Governance}
    (h : prepare py request surroundings = .ok (record, governance)) :
    record.issuerId = demoIssuerName ∧ record.source = .ephemeral := by
  obtain ⟨-, -, h⟩ := Fallible.bind_eq_ok_iff.mp h
  obtain ⟨expiresAt, -, h⟩ := Fallible.bind_eq_ok_iff.mp h
  obtain ⟨domains, -, h⟩ := Fallible.bind_eq_ok_iff.mp h
  obtain ⟨rendered, -, h⟩ := Fallible.bind_eq_ok_iff.mp h
  obtain ⟨rfl, -⟩ := Prod.mk.inj (Except.ok.inj h)
  exact ⟨rfl, rfl⟩

/-- The writes of a request that meets no projected entry leave the projection. -/
theorem sameProjected_enrol {store : Store Governance} {request : DemoMaterialsRequest}
    {material : DemoKeyMaterial} {now : Datetime} {record : IssuerRecord}
    {governance : Option Governance} (hspares : Spares store request material.keyRef)
    (hid : record.issuerId = demoIssuerName) (hsource : record.source = .ephemeral) :
    SameProjected store (enrol py store request material now record governance).1 := by
  rw [enrol]
  by_cases hregister : request.registerScannerTrust = true
  · rw [if_pos hregister]
    have hsame := @sameProjected_registerScannerTrust py _ store record
      (demoKeyEntry request material) governance hsource rfl
      (hid ▸ hspares.issuer hregister) hspares.key
    split
    · rename_i registered exc heq
      rw [heq] at hsame
      exact hsame
    · rename_i registered heq
      rw [heq] at hsame
      by_cases hrotate : request.rotateKey = true
      · rw [if_pos hrotate]
        exact hsame.trans (sameProjected_retireKeysFor
          ((hspares.of_sameProjected hsame).retired hregister hrotate))
      · rw [if_neg hrotate]
        exact hsame
  · rw [if_neg hregister]
    exact sameProjected_removeKey hspares.key

/-- The reference a request signs under. -/
def signingKeyRef (s : System Governance) (request : DemoMaterialsRequest)
    (surroundings : Surroundings Governance) : String :=
  (activeDemoKey s.refresh.store s.demoKeys request.rotateKey surroundings.publicKeyPem).1.keyRef

/-- **REQUEST**: a demo request that meets no projected entry leaves the
    projection, whether it returns or raises. -/
theorem sameProjected_demo {s : System Governance} {request : DemoMaterialsRequest}
    {surroundings : Surroundings Governance}
    (hspares : Spares s.refresh.store request (signingKeyRef s request surroundings)) :
    SameProjected s.refresh.store (s.demo py request surroundings).refresh.store := by
  show SameProjected s.refresh.store
    (buildDemoMaterialsResponse py ⟨s.refresh.store, s.demoKeys⟩ request surroundings).1.store
  rw [buildDemoMaterialsResponse]
  dsimp only
  cases hprepare : prepare py request surroundings with
  | error exc => exact .refl _
  | ok prepared =>
      obtain ⟨record, governance⟩ := prepared
      obtain ⟨hid, hsource⟩ := prepare_record hprepare
      have hsame := @sameProjected_enrol py _ s.refresh.store request
        (activeDemoKey s.refresh.store s.demoKeys request.rotateKey surroundings.publicKeyPem).1
        surroundings.now record governance hspares hid hsource
      dsimp only
      split
      · rename_i store exc heq
        rw [heq] at hsame
        exact hsame
      · rename_i store heq
        rw [heq] at hsame
        exact hsame

/-! ## Snapshots that resolve -/

/-- **RESOLVES**: every issuer and key of the snapshot stands in the store as it
    was projected. -/
structure ResolvesAs (store : Store Governance) (snapshot : TrustSnapshot) : Prop where
  issuers : ∀ record ∈ snapshot.issuers, store.issuers.get? record.issuerId = some record
  keys : ∀ entry ∈ snapshot.keys, store.keys.get? entry.keyRef = some entry

/-- The store resolves the snapshot of a committed state from number `since` on. -/
def ResolvesSince (py : PyRuntime) (s : ProjectionFreshness.System Governance) (since : Nat) :
    Prop :=
  ∃ n db rows snapshot, since ≤ n ∧ s.history.state? n = some db ∧ FetchedRows.Of rows db
    ∧ loadTrustSnapshot py db.trustState rows = .ok snapshot ∧ ResolvesAs s.store snapshot

/-- No two issuers that a load projects have one `issuer_id`. -/
def OneIssuerPerId (db : Database) : Prop :=
  ∀ row ∈ db.issuers, ∀ row' ∈ db.issuers, row.projectable → row'.projectable →
    row.key.issuerId = row'.key.issuerId → row = row'

/-- What is written over nothing under keys of one value each is read back, where
    it is among the values told apart. -/
theorem filter_get?_written {ν : Type} {p : ν → Bool} {entries : List (String × ν)} {k : String}
    {v : ν} (hmem : (k, v) ∈ entries) (hone : ∀ w, (k, w) ∈ entries → w = v) (hv : p v = true) :
    (((OrderedMap.empty.filter fun e => !p e.2).setAll entries).get? k).filter p = some v := by
  obtain ⟨w, hget, hw⟩ := OrderedMap.exists_get?_setAll
    (m := OrderedMap.empty.filter fun e : String × ν => !p e.2) hmem
  rw [hget, hone w hw]
  exact Option.filter_some_pos hv

/-- A projected record is tagged, and has the id and a projectable row. -/
theorem loadedRecord_some {proofRows : List DomainProofRow} {row : IssuerRow}
    {record : IssuerRecord} (h : loadedRecord py proofRows row = some record) :
    record.issuerId = row.key.issuerId ∧ record.source = .projection ∧ row.projectable := by
  obtain ⟨status, hstatus, rfl⟩ := Option.map_eq_some_iff.mp h
  exact ⟨rfl, rfl, IssuerRow.projectable_of_some hstatus⟩

theorem projectCertificateRow_source {row : CertificateRow} {entry : KeyEntry}
    (h : (projectCertificateRow py row).1 = some entry) : entry.source = .projection := by
  rw [projectCertificateRow] at h
  cases hstate : keyProjection row.keyStatus with
  | none => rw [hstate] at h; cases h
  | some state =>
      simp only [hstate] at h
      split at h
      · cases h
      · obtain rfl := Option.some.inj h
        rfl

/-- **PROJECTION**: a store with the projected entries of a load resolves its
    snapshot, where no two issuers have one id. -/
theorem resolvesAs_of_sameProjected {db : Database} {rows : FetchedRows} (hrows : rows.Of db)
    (hone : OneIssuerPerId db) {snapshot : TrustSnapshot}
    (hload : loadTrustSnapshot py db.trustState rows = .ok snapshot) {store : Store Governance}
    (hsame : SameProjected (loadedStore .empty snapshot) store) : ResolvesAs store snapshot := by
  cases htoken : db.trustState with
  | none => rw [htoken] at hload; cases hload
  | some token =>
      rw [htoken] at hload
      obtain ⟨rfl, -⟩ := loadTrustSnapshot_eq_ok_iff.mp hload
      constructor
      · intro record hrecord
        obtain ⟨row, hrow, hloaded⟩ := List.mem_filterMap.mp hrecord
        obtain ⟨hid, hsource, hprojectable⟩ := loadedRecord_some hloaded
        have hprojected : projectedIssuer store record.issuerId = some record := by
          rw [← hsame.issuers]
          refine @filter_get?_written _ (fun r : IssuerRecord => r.source = .projection) _ _ _
            (List.mem_map.mpr ⟨record, hrecord, rfl⟩) (fun other hother => ?_)
            (decide_eq_true hsource)
          -- another record under the id comes from the same row
          obtain ⟨row', hrow', hid', hloaded'⟩ := (mem_loadedRecords hrows).mp hother
          obtain ⟨-, -, hprojectable'⟩ := loadedRecord_some hloaded'
          obtain rfl := hone row (hrows.issuerRows.mem_iff.mp hrow) row' hrow' hprojectable
            hprojectable' (hid.symm.trans hid'.symm)
          exact Option.some.inj (hloaded'.symm.trans hloaded)
        exact (Option.filter_eq_some_iff.mp hprojected).1
      · intro entry hentry
        obtain ⟨⟨projected, defect⟩, hmem, hfst⟩ := List.mem_filterMap.mp hentry
        obtain ⟨row, hrow, hpair⟩ := List.mem_map.mp hmem
        have hloaded : (projectCertificateRow py row).1 = some entry := by rw [hpair]; exact hfst
        have hprojected : projectedKey store entry.keyRef = some entry := by
          rw [← hsame.keys]
          refine @filter_get?_written _ (fun e : KeyEntry => e.source = .projection) _ _ _
            (List.mem_map.mpr ⟨entry, hentry, rfl⟩) (fun other hother => ?_)
            (decide_eq_true (projectCertificateRow_source hloaded))
          -- the certificate id is the primary key of its table
          obtain ⟨entry', hentry', heq⟩ := List.mem_map.mp hother
          obtain ⟨href, rfl⟩ := Prod.mk.inj heq
          obtain ⟨⟨projected', defect'⟩, hmem', hfst'⟩ := List.mem_filterMap.mp hentry'
          obtain ⟨row', hrow', hpair'⟩ := List.mem_map.mp hmem'
          have hloaded' : (projectCertificateRow py row').1 = some entry' := by
            rw [hpair']; exact hfst'
          obtain rfl := List.inj_on_of_nodup_map db.certificates_key
            (hrows.certificateRows.mem_iff.mp hrow') (hrows.certificateRows.mem_iff.mp hrow)
            ((projectCertificateRow_some hloaded').1.symm.trans
              (href.trans (projectCertificateRow_some hloaded).1))
          exact Option.some.inj (hloaded'.symm.trans hloaded)
        exact (Option.filter_eq_some_iff.mp hprojected).1

/-! ## Runs -/

/-- A step meets no projected entry. -/
def MeetsNone (s : System Governance) : Action Governance → Prop
  | .refresh _ => True
  | .demo request surroundings =>
      Spares s.refresh.store request (signingKeyRef s request surroundings)

/-- **RUN**: as far as the projection goes, requests that meet no projected entry
    are steps of the others. -/
theorem reachable_refresh {s : System Governance} (hs : Reachable py MeetsNone s) :
    ProjectionFreshness.Reachable py s.refresh := by
  induction hs with
  | start db maxStalenessSeconds clock => exact .start db maxStalenessSeconds clock (.refl _)
  | step hs hmeets hstep ih =>
      cases hstep with
      | refresh hrefresh => exact ih.step hrefresh
      | demo request surroundings =>
          have hsame := @sameProjected_demo py _ _ request surroundings hmeets
          exact ih.step (.ephemeral hsame)

theorem resolvesSince_of_holdsSince {s : ProjectionFreshness.System Governance} {since : Nat}
    (hone : ∀ n db, s.history.state? n = some db → OneIssuerPerId db)
    (h : HoldsSince py s since) : ResolvesSince py s since := by
  obtain ⟨n, db, hle, hdb, rows, hrows, snapshot, hload, hsame⟩ := h
  exact ⟨n, db, rows, snapshot, hle, hdb, hrows, hload,
    resolvesAs_of_sameProjected hrows (hone n db hdb) hload hsame⟩

/-- **UNSHADOWED**: in a run whose requests meet no projected entry, over states
    without two projected issuers of one id, a call that returns fresh or reused
    leaves the snapshot of a state no older than the call resolving as it was
    projected, and one that returns stale-served that of a state no older than
    the last completed refresh saw. -/
theorem projected_unshadowed (py : PyRuntime) (s s' : System Governance)
    (hs : Reachable py MeetsNone s) (call : Call) (status : Freshness)
    (hstep : Step py s (.refresh (some (call, status))) s')
    (hone : ∀ n db, s'.refresh.history.state? n = some db → OneIssuerPerId db) :
    (status = .fresh ∨ status = .reused → ResolvesSince py s'.refresh call.startedAt)
      ∧ (status = .staleServed → ∃ refresh, s'.refresh.lastRefresh = some refresh
        ∧ ResolvesSince py s'.refresh refresh.state) := by
  cases hstep with
  | @refresh _ refresh' hrefresh =>
      obtain ⟨hfresh, hstale⟩ := ((ensureFresh_sound py s.refresh (reachable_refresh hs)).2 _ _
        hrefresh).2 call status rfl
      refine ⟨fun h => resolvesSince_of_holdsSince hone (hfresh h), fun h => ?_⟩
      obtain ⟨refresh, hlast, -, hholds⟩ := hstale h
      exact ⟨refresh, hlast, resolvesSince_of_holdsSince hone hholds⟩

/-! ## A governed issuer under the name of the demo issuer -/

/-- The states steps around `ensure_fresh` reach, alone. -/
theorem Reachable.refresh {Meets : System Governance → Action Governance → Prop}
    (hmeets : ∀ s event, Meets s (.refresh event)) {s : System Governance}
    (hs : Reachable py Meets s) {event : Option (Call × Freshness)}
    {refresh : ProjectionFreshness.System Governance}
    (hstep : ProjectionFreshness.Step py s.refresh event refresh) :
    Reachable py Meets { s with refresh := refresh } :=
  hs.step (hmeets s event) (.refresh hstep)

/-- The first call of a run loads the projection. -/
theorem exists_loaded {Meets : System Governance → Action Governance → Prop}
    (hmeets : ∀ s event, Meets s (.refresh event)) (db : Database) {token : TrustStateToken}
    (htoken : db.trustState = some token) {rows : FetchedRows} (hrows : rows.Of db)
    {snapshot : TrustSnapshot} (hload : loadTrustSnapshot py db.trustState rows = .ok snapshot) :
    ∃ refresh : ProjectionFreshness.System Governance, Reachable py Meets ⟨refresh, []⟩
      ∧ refresh.phase = .idle ∧ refresh.waiting = [] ∧ refresh.clock = 0
      ∧ refresh.history = .start db ∧ refresh.manager.token = some snapshot.token
      ∧ refresh.store = loadedStore .empty snapshot := by
  have hstart : Reachable py Meets ⟨.start db 60 0 .empty, []⟩ := .start db 60 0
  have hcall := hstart.refresh hmeets (.call (Int.le_refl 0))
  have hprobing := (hcall.refresh hmeets (.acquire rfl rfl)).refresh hmeets (.connected rfl)
  have hloading := hprobing.refresh hmeets
    (.probeMoved rfl htoken (Option.some_ne_none _).symm)
  have hloaded := (hloading.refresh hmeets (.snapshot rfl)).refresh hmeets
    (.loaded rfl (History.state?_last (.start db)) hrows hload)
  exact ⟨_, hloaded.refresh hmeets (.returned rfl), rfl, rfl, rfl, rfl, rfl, rfl⟩

/-- A call that probes the remembered token returns reused, over the store as it
    is. -/
theorem exists_reused {Meets : System Governance → Action Governance → Prop}
    (hmeets : ∀ s event, Meets s (.refresh event)) {s : System Governance}
    (hs : Reachable py Meets s) (hphase : s.refresh.phase = .idle)
    (hwaiting : s.refresh.waiting = []) (hclock : s.refresh.clock = 0) {token : TrustStateToken}
    (hprobe : s.refresh.history.newest.trustState = some token)
    (hsame : s.refresh.manager.token = some token) :
    ∃ s₁ s' call, Reachable py Meets s₁ ∧ Step py s₁ (.refresh (some (call, .reused))) s'
      ∧ call.startedAt = s.refresh.history.last ∧ s'.refresh.history = s.refresh.history
      ∧ s'.refresh.store = s.refresh.store := by
  have hcall := hs.refresh hmeets (@ProjectionFreshness.Step.call _ _ _ 0 (Int.le_of_eq hclock))
  rw [hwaiting] at hcall
  have hprobing := (hcall.refresh hmeets (.acquire hphase rfl)).refresh hmeets (.connected rfl)
  have hclosing := hprobing.refresh hmeets (.probeReused rfl hprobe hsame)
  exact ⟨_, _, _, hclosing, .refresh (.returned rfl), rfl, rfl, rfl⟩

/-- A governed issuer of the demo issuer's name, revoked. -/
def revokedNamesake : IssuerRow :=
  { sampleIssuer "a" "revoked" with
    key := ⟨"root:demo", "a", demoIssuerName⟩
    displayName := demoIssuerName }

/-- The trust tables with that issuer alone. -/
def namesakeDatabase : Database where
  issuers := [revokedNamesake]
  certificates := []
  domainProofs := []
  trustState := some ⟨"epoch", 1⟩
  issuers_key := by decide
  certificates_key := by decide
  certificates_issuer := by decide
  domainProofs_issuer := by decide
  domainProofs_current := by decide

/-- A request for the default demo materials. -/
def defaultRequest : DemoMaterialsRequest where
  verifiedDomains := ["acme.example"]
  allowSubdomains := false
  certificateActive := true
  certificateRevoked := false
  certificateRevocationReason := none
  issuerRecordExpiresOffsetMinutes := none
  keyState := none
  rotateKey := false
  registerScannerTrust := true

/-- A clock, a new key, and no governance fixture. -/
def sampleSurroundings : Surroundings Unit := ⟨.utc 63902822400000000, "pem", .ok (), .ok none⟩

/-- The status under the demo issuer's name in the store of a state. -/
def demoIssuerStatus (store : Store Unit) : Option IssuerStatus :=
  (store.issuers.get? demoIssuerName).map IssuerRecord.status

theorem namesake_projected {rows : FetchedRows} (hrows : rows.Of namesakeDatabase)
    {snapshot : TrustSnapshot}
    (hload : loadTrustSnapshot sampleRuntime namesakeDatabase.trustState rows = .ok snapshot) :
    ∃ record ∈ snapshot.issuers, record.issuerId = demoIssuerName ∧ record.status = .revoked := by
  obtain ⟨rfl, -⟩ := loadTrustSnapshot_eq_ok_iff.mp hload
  have hrow : revokedNamesake ∈ rows.issuerRows :=
    hrows.issuerRows.mem_iff.mpr (List.mem_singleton_self _)
  have hstatus : issuerProjection revokedNamesake.enrollmentStatus = some .revoked := rfl
  exact ⟨_, List.mem_filterMap.mpr ⟨_, hrow, by rw [loadedRecord, hstatus]; rfl⟩, rfl, rfl⟩

/-- **SHADOWED**: the demo request puts its own issuer over the governed one, and
    the next call finds the token it remembers and returns reused over it. -/
theorem demo_shadows :
    ∃ (s s' : System Unit) (call : Call),
      Reachable sampleRuntime (fun _ _ => True) s
        ∧ Step sampleRuntime s (.refresh (some (call, .reused))) s'
        ∧ demoIssuerStatus s'.refresh.store = some .active
        ∧ ¬ ResolvesSince sampleRuntime s'.refresh 0 := by
  have hshown : (loadTrustSnapshot sampleRuntime namesakeDatabase.trustState
      (fetchInOrder namesakeDatabase)).toOption.map (fun snapshot =>
        (demoIssuerStatus (buildDemoMaterialsResponse sampleRuntime
          ⟨loadedStore .empty snapshot, []⟩ defaultRequest sampleSurroundings).1.store,
          snapshot.token))
      = some (some .active, ⟨"epoch", 1⟩) := by decide +kernel
  obtain ⟨snapshot, hload, hsnapshot⟩ := Option.map_eq_some_iff.mp hshown
  obtain ⟨hactive, htoken⟩ := Prod.mk.inj hsnapshot
  obtain ⟨refresh, hs, hphase, hwaiting, hclock, hhistory, hmanager, hstore⟩ :=
    @exists_loaded _ _ (fun _ _ => True) (fun _ _ => trivial) namesakeDatabase _ rfl _
      (fetchInOrder_of _) _ (Fallible.toOption_eq_some_iff.mp hload)
  -- the request writes over the loaded record
  have hdemo := hs.step trivial (.demo defaultRequest sampleSurroundings)
  obtain ⟨s₁, s', call, hs₁, hstep, -, hhistory', hstore'⟩ :=
    exists_reused (fun _ _ => trivial) hdemo hphase hwaiting hclock
      (by show refresh.history.newest.trustState = _; rw [hhistory]; rfl)
      (by show refresh.manager.token = some ⟨"epoch", 1⟩; rw [hmanager, htoken])
  have hstatus : demoIssuerStatus s'.refresh.store = some .active := by
    rw [hstore']
    show demoIssuerStatus (buildDemoMaterialsResponse sampleRuntime ⟨refresh.store, []⟩
      defaultRequest sampleSurroundings).1.store = some .active
    rw [hstore]
    exact hactive
  refine ⟨s₁, s', call, hs₁, hstep, hstatus, ?_⟩
  rintro ⟨n, db, rows, snapshot', -, hdb, hrows, hload', hresolves⟩
  have hsole : db = namesakeDatabase := by
    rw [hhistory', show (System.demo sampleRuntime ⟨refresh, []⟩ defaultRequest
      sampleSurroundings).refresh.history = refresh.history from rfl, hhistory] at hdb
    exact (List.mem_singleton.mp (List.mem_of_getElem? hdb))
  subst hsole
  obtain ⟨record, hrecord, hid, hrevoked⟩ := namesake_projected hrows hload'
  have hget := hresolves.issuers record hrecord
  rw [hid] at hget
  rw [demoIssuerStatus, hget, Option.map_some, hrevoked] at hstatus
  exact absurd hstatus (by decide)

theorem get?_of_notMem_keys {ν : Type} {m : OrderedMap String ν} {k : String}
    (h : k ∉ m.keys) : m.get? k = none :=
  (OrderedMap.get?_eq_none_iff ..).mpr fun v hv => h (OrderedMap.mem_keys.mpr ⟨v, hv⟩)

/-- Beside another issuer, the demo request shadows nothing: the next call
    returns reused, and the snapshot resolves as it was projected. -/
theorem projected_unshadowed_sole :
    ∃ (s s' : System Unit) (call : Call),
      Step sampleRuntime s (.refresh (some (call, .reused))) s'
        ∧ ResolvesSince sampleRuntime s'.refresh call.startedAt := by
  have hshown : (loadTrustSnapshot sampleRuntime soleDatabase.trustState
      (fetchInOrder soleDatabase)).toOption.map (fun snapshot =>
        ((loadedStore (.empty : Store Unit) snapshot).issuers.keys,
          (loadedStore (.empty : Store Unit) snapshot).keys.keys, snapshot.token))
      = some (["issuer:acme"], ["cert:a"], ⟨"epoch", 1⟩) := by decide +kernel
  obtain ⟨snapshot, hload, hsnapshot⟩ := Option.map_eq_some_iff.mp hshown
  obtain ⟨hissuers, hrest⟩ := Prod.mk.inj hsnapshot
  obtain ⟨hkeys, htoken⟩ := Prod.mk.inj hrest
  obtain ⟨refresh, hs, hphase, hwaiting, hclock, hhistory, hmanager, hstore⟩ :=
    @exists_loaded _ _ MeetsNone (fun _ _ => trivial) soleDatabase _ rfl _
      (fetchInOrder_of _) _ (Fallible.toOption_eq_some_iff.mp hload)
  have hspares : MeetsNone (⟨refresh, []⟩ : System Unit)
      (.demo defaultRequest sampleSurroundings) := by
    have hissuer : refresh.store.issuers.get? demoIssuerName = none := by
      rw [hstore]
      exact get?_of_notMem_keys (by rw [hissuers]; decide)
    have hkey : refresh.store.keys.get? demoKeyRefBase = none := by
      rw [hstore]
      exact get?_of_notMem_keys (by rw [hkeys]; decide)
    refine ⟨?_, fun _ => ?_, fun _ hrotate => Bool.noConfusion hrotate⟩
    · show (refresh.store.keys.get? demoKeyRefBase).filter _ = none
      rw [hkey]
      rfl
    · rw [projectedIssuer]
      show (refresh.store.issuers.get? demoIssuerName).filter _ = none
      rw [hissuer]
      rfl
  have hdemo := hs.step hspares (.demo defaultRequest sampleSurroundings)
  obtain ⟨s₁, s', call, hs₁, hstep, -, hhistory', -⟩ :=
    exists_reused (fun _ _ => trivial) hdemo hphase hwaiting hclock
      (by show refresh.history.newest.trustState = _; rw [hhistory]; rfl)
      (by show refresh.manager.token = some ⟨"epoch", 1⟩; rw [hmanager, htoken])
  refine ⟨s₁, s', call, hstep, (projected_unshadowed sampleRuntime s₁ s' hs₁ call .reused hstep
    (fun n db hdb => ?_)).1 (.inr rfl)⟩
  rw [hhistory', show (System.demo sampleRuntime ⟨refresh, []⟩ defaultRequest
    sampleSurroundings).refresh.history = refresh.history from rfl, hhistory] at hdb
  obtain rfl := List.mem_singleton.mp (List.mem_of_getElem? hdb)
  intro row hrow row' hrow' _ _ _
  rw [List.mem_singleton.mp hrow, List.mem_singleton.mp hrow']

end DemoMaterials
