import QrTrust.Lib.Separated
import QrTrust.Network.PolicyMatchProofs
import QrTrust.Network.PostgresVerifierCache
import QrTrust.Network.TrustFactProofs
import Mathlib.Order.Bounds.Basic
import Mathlib.Order.MinMax

/-! # The rows mirror the cache

    A row of the Postgres cache mirrors the two halves that the in-memory cache
    holds under its key: the same issuer record and policy, the same authority
    context, the latest generation date and the earliest expiry.  Every call
    that meets `Orderly` keeps it so (`mirrored_step`), and with it every run
    (`mirrored_run`). -/

namespace PostgresVerifierCache

open VerifierCache TrustFact Runs

/-! ## Keys -/

/-- The text under which the in-memory cache keeps a key. -/
def keyText (key : DestinationPolicyKey) : String :=
  verifierCachePolicyKey key.ns key.destinationPolicyId

/-- The key of an issuer record. -/
def issuerKey (issuer : IssuerProjection) : DestinationPolicyKey :=
  ⟨issuer.ns, issuer.destinationPolicyId⟩

/-- The key of a policy. -/
def policyKey (policy : DestinationPolicyProjection) : DestinationPolicyKey :=
  ⟨policy.ns, policy.destinationPolicyId⟩

/-- The text has no unit separator in it. -/
def Plain (text : String) : Prop := '\x1f' ∉ text.toList

/-- **PLAIN KEY**: the ids of the key are not empty and have no unit separator. -/
def PlainKey (key : DestinationPolicyKey) : Prop :=
  ∀ id ∈ [key.ns.rootProgramId, key.ns.delegatedAuthorityId, key.ns.issuerId,
    key.destinationPolicyId], id ≠ "" ∧ Plain id

/-- Texts joined by the unit separator are determined when the one side is plain. -/
theorem joinUnitSeparator_inj {first second : List String}
    (hlength : first.length = second.length) (hplain : ∀ text ∈ second, Plain text)
    (h : JsString.joinUnitSeparator first = JsString.joinUnitSeparator second) :
    first = second := by
  have hjoined : Separated.joined '\x1f' (first.map String.toList)
      = Separated.joined '\x1f' (second.map String.toList) := String.ofList_inj.mp h
  have hpieces := Separated.joined_injective_of_length (by simp [hlength])
    (List.forall_mem_map.mpr hplain) hjoined
  exact List.map_injective_iff.mpr (fun _ _ => String.toList_inj.mp) hpieces

/-- A plain key is determined by its text. -/
theorem keyText_inj {key key' : DestinationPolicyKey} (hplain : PlainKey key')
    (h : keyText key = keyText key') : key = key' := by
  obtain ⟨⟨root, authority, issuer⟩, policy⟩ := key
  obtain ⟨⟨root', authority', issuer'⟩, policy'⟩ := key'
  have hpieces := joinUnitSeparator_inj (by rfl) (fun id hid => (hplain id hid).2) h
  simp only [List.cons.injEq, and_true] at hpieces
  obtain ⟨rfl, rfl, rfl, rfl⟩ := hpieces
  rfl

/-- A plain namespace is determined by its text. -/
theorem authorityIssuerKey_plain_inj {ns : IssuerNamespace} {key : DestinationPolicyKey}
    (hplain : PlainKey key) (h : authorityIssuerKey ns = authorityIssuerKey key.ns) :
    ns = key.ns := by
  obtain ⟨⟨root, authority, issuer⟩, policy⟩ := key
  have hplain' : ∀ id ∈ [root, authority, issuer], Plain id := fun id hid =>
    (hplain id (by simp only [List.mem_cons] at hid ⊢; tauto)).2
  have hpieces := joinUnitSeparator_inj (by rfl) hplain' h
  simp only [List.cons.injEq, and_true] at hpieces
  obtain ⟨hroot, hauthority, hissuer⟩ := hpieces
  obtain ⟨root', authority', issuer'⟩ := ns
  simp only [IssuerNamespace.mk.injEq]
  exact ⟨hroot, hauthority, hissuer⟩

/-- The prefix of an authority covers a plain namespace only when it is of that
    authority. -/
theorem startsWith_authorityPrefix_iff {key : DestinationPolicyKey} (hplain : PlainKey key)
    (root authority : String) :
    JsString.startsWith (authorityIssuerKey key.ns) (authorityPrefix root authority) = true ↔
      key.ns.rootProgramId = root ∧ key.ns.delegatedAuthorityId = authority := by
  constructor
  · intro h
    rw [JsString.startsWith, List.isPrefixOf_iff_prefix] at h
    obtain ⟨rest, hrest⟩ := h
    have htext : authorityIssuerKey ⟨root, authority, String.ofList rest⟩
        = authorityIssuerKey key.ns := by
      apply String.toList_inj.mp
      rw [← hrest]
      simp [authorityIssuerKey, authorityPrefix, JsString.joinUnitSeparator]
    have hns := authorityIssuerKey_plain_inj hplain htext
    rw [← hns]
    exact ⟨rfl, rfl⟩
  · rintro ⟨rfl, rfl⟩
    exact startsWith_authorityPrefix key.ns

/-! ## Sound projections -/

/-- Texts of one date format: both hosts read them, as the same instant, their
    order is that of the instants, and an instant written by `toISOString` is
    read back. -/
structure DateFormat (dates : DateHost) where
  Conforms : String → Prop
  reads : ∀ text, Conforms text →
    ∃ t, dates.parse text = some t ∧ dates.timestamptz text = some t
      ∧ dates.parse (dates.toISOString t) = some t
  ordered : ∀ a b s t, Conforms a → Conforms b → dates.parse a = some s →
    dates.parse b = some t → (JsString.less a b = true ↔ s < t)

section Sound

variable {dates : DateHost} (js : JsRuntime) (format : DateFormat dates)

/-- An issuer record under a plain key, with a name and a tier, dated in the
    format. -/
structure SoundIssuer (issuer : IssuerProjection) : Prop where
  key : PlainKey (issuerKey issuer)
  named : issuer.issuerDisplayName ≠ ""
  tiered : issuer.assuranceTier ≠ ""
  generated : format.Conforms issuer.cacheGeneratedAt
  expires : format.Conforms issuer.cacheExpiresAt

/-- A policy under a plain key that decoding leaves as it is, dated in the
    format. -/
structure SoundPolicy (policy : DestinationPolicyProjection) : Prop where
  key : PlainKey (policyKey policy)
  rules : decodeApprovedDestinations js policy.approvedDestinations
    = .ok policy.approvedDestinations
  redirect : decodeRedirectPolicy js policy.redirectPolicy = .ok policy.redirectPolicy
  generated : format.Conforms policy.cacheGeneratedAt
  expires : format.Conforms policy.cacheExpiresAt

/-- What a call writes is sound. -/
def SoundCall : CacheCall → Prop
  | .upsertIssuer projection => SoundIssuer format projection
  | .upsertDestinationPolicy projection => SoundPolicy js format projection
  | .updateIssuerAssuranceTier update => update.assuranceTier ≠ ""
  | _ => True

end Sound

/-! ## What a row mirrors -/

section Held

variable (dates : DateHost) (cache : Cache) (key : DestinationPolicyKey)

/-- The issuer record in memory under a key. -/
def heldIssuer : Option IssuerProjection := cache.issuersByPolicyKey.get? (keyText key)

/-- The policy in memory under a key. -/
def heldPolicy : Option DestinationPolicyProjection := cache.policiesByKey.get? (keyText key)

/-- The instants that a date of the two halves stands for. -/
def heldInstants (ofIssuer : IssuerProjection → String)
    (ofPolicy : DestinationPolicyProjection → String) : Set Int :=
  {t | (heldIssuer cache key).bind (fun issuer => dates.parse (ofIssuer issuer)) = some t
    ∨ (heldPolicy cache key).bind (fun policy => dates.parse (ofPolicy policy)) = some t}

/-- When the halves in memory were generated. -/
def generatedInstants : Set Int :=
  heldInstants dates cache key IssuerProjection.cacheGeneratedAt
    DestinationPolicyProjection.cacheGeneratedAt

/-- When the halves in memory expire. -/
def expiryInstants : Set Int :=
  heldInstants dates cache key IssuerProjection.cacheExpiresAt
    DestinationPolicyProjection.cacheExpiresAt

/-- The authority context of a namespace in memory. -/
def heldContext (ns : IssuerNamespace) : AuthorityContext where
  rootManifestAuthorizesAuthority :=
    ((cache.activeDelegatedAuthoritiesByRoot.get? ns.rootProgramId).getD []).contains
      ns.delegatedAuthorityId
  delegatedAuthorityAuthorizesIssuer :=
    cache.activeIssuersByAuthority.contains (authorityIssuerKey ns)

/-- The issuer of a row is the record in memory, or a placeholder for none. -/
def MirrorsIssuer : Option IssuerProjection → RowIssuer → Prop
  | none, row => row.placeholder = true
  | some issuer, row => row = ⟨false, issuer.issuerDisplayName, issuer.assuranceTier⟩

/-- The policy of a row is the policy in memory, or the empty one for none. -/
def MirrorsPolicy : Option DestinationPolicyProjection → RowDestinationPolicy → Prop
  | none, row => row = emptyDestinationPolicyProjection
  | some policy, row => row = ⟨policy.approvedDestinations, policy.redirectPolicy⟩

/-- **MIRROR**: a row shows what the memory holds under its key, with the latest
    generation and the earliest expiry of the halves. -/
structure Mirrors (row : VerifierCacheRow) : Prop where
  issuer : MirrorsIssuer (heldIssuer cache key) row.scannerTrustProjection.issuer
  policy : MirrorsPolicy (heldPolicy cache key) row.scannerTrustProjection.destinationPolicy
  context : row.scannerTrustProjection.authorityContext = heldContext cache key.ns
  generated : IsGreatest (generatedInstants dates cache key) row.cacheGeneratedAt
  expires : IsLeast (expiryInstants dates cache key) row.cacheExpiresAt

end Held

/-- **MIRRORED**: every row mirrors the memory, and where the memory holds both
    halves there is a row. -/
structure Mirrored (js : JsRuntime) {dates : DateHost} (format : DateFormat dates)
    (s : Caches) : Prop where
  keyed : WellKeyed s.cache
  issuers : ∀ issuer ∈ s.cache.issuersByPolicyKey.values, SoundIssuer format issuer
  policies : ∀ policy ∈ s.cache.policiesByKey.values, SoundPolicy js format policy
  rows : ∀ key row, s.table.get? key = some row → PlainKey key ∧ Mirrors dates s.cache key row
  complete : ∀ key, PlainKey key → (heldIssuer s.cache key).isSome = true →
    (heldPolicy s.cache key).isSome = true → ∃ row, s.table.get? key = some row

/-! ## Orderly calls -/

/-- The key that an upsert of a half writes. -/
def writtenKey : CacheCall → Option DestinationPolicyKey
  | .upsertIssuer projection => some (issuerKey projection)
  | .upsertDestinationPolicy projection => some (policyKey projection)
  | _ => none

/-- **NO FRESHER**: every generation date of the entry is followed by one as late,
    and every expiry by one as early. -/
def NoFresher (dates : DateHost) (cache cache' : Cache) (key : DestinationPolicyKey) : Prop :=
  (∀ t ∈ generatedInstants dates cache key, ∃ t' ∈ generatedInstants dates cache' key, t ≤ t')
    ∧ ∀ t ∈ expiryInstants dates cache key, ∃ t' ∈ expiryInstants dates cache' key, t' ≤ t

/-- **ORDERLY**: the statement of the call executes and what it writes is sound.
    Where it writes a half, the published manifests authorise what the memory
    does, the row is there when the entry is complete now, and an entry that has
    a row gets no fresher. -/
structure Orderly (js : JsRuntime) {dates : DateHost} (format : DateFormat dates) (s : Caches)
    (issued : Issued) : Prop where
  executes : issued.db.executes issued.call = true
  sound : SoundCall js format issued.call
  authorised : ∀ key, writtenKey issued.call = some key →
    durableAuthorityContext issued.db key.ns = heldContext s.cache key.ns
  findsRow : ∀ key, writtenKey issued.call = some key →
    (heldIssuer (applyCall s.cache issued.call) key).isSome = true →
    (heldPolicy (applyCall s.cache issued.call) key).isSome = true →
    s.table.contains key = true
  noFresher : ∀ key, writtenKey issued.call = some key → s.table.contains key = true →
    NoFresher dates s.cache (applyCall s.cache issued.call) key

/-- The two caches, as a machine that takes one call at a time. -/
def machine (dates : DateHost) : Machine Caches Issued Issued where
  plan _ issued := [issued]
  apply := Caches.apply dates

variable {js : JsRuntime} {dates : DateHost} {format : DateFormat dates} {s : Caches}
  {cache cache' : Cache} {key : DestinationPolicyKey} {row : VerifierCacheRow}

/-- Where the memory holds the same halves in the same context, a row mirrors it
    still. -/
theorem Mirrors.congr (h : Mirrors dates cache key row)
    (hissuer : heldIssuer cache' key = heldIssuer cache key)
    (hpolicy : heldPolicy cache' key = heldPolicy cache key)
    (hcontext : heldContext cache' key.ns = heldContext cache key.ns) :
    Mirrors dates cache' key row := by
  refine ⟨hissuer ▸ h.issuer, hpolicy ▸ h.policy, h.context.trans hcontext.symm, ?_, ?_⟩
  · have hsame : generatedInstants dates cache' key = generatedInstants dates cache key := by
      rw [generatedInstants, heldInstants, hissuer, hpolicy]
      rfl
    exact hsame ▸ h.generated
  · have hsame : expiryInstants dates cache' key = expiryInstants dates cache key := by
      rw [expiryInstants, heldInstants, hissuer, hpolicy]
      rfl
    exact hsame ▸ h.expires

/-- The context in memory, fact by fact. -/
theorem eq_heldContext_iff {context : AuthorityContext} {ns : IssuerNamespace} :
    context = heldContext cache ns ↔
      (context.rootManifestAuthorizesAuthority = true ↔
          AuthorityActive ns.rootProgramId ns.delegatedAuthorityId cache)
        ∧ (context.delegatedAuthorityAuthorizesIssuer = true ↔ IssuerActive ns cache) := by
  obtain ⟨root, authority⟩ := context
  rw [heldContext, AuthorityContext.mk.injEq, AuthorityActive, IssuerActive,
    ← List.contains_iff_mem, ← List.contains_iff_mem, ← Bool.eq_iff_iff, ← Bool.eq_iff_iff]

/-- What the memory holds under a plain key is of that key. -/
theorem Mirrored.heldIssuer_key (h : Mirrored js format s) {issuer : IssuerProjection}
    (hplain : PlainKey key) (hheld : heldIssuer s.cache key = some issuer) :
    issuerKey issuer = key := by
  have hmem := (OrderedMap.get?_eq_some_iff ..).mp hheld
  exact keyText_inj hplain (h.keyed.issuers _ _ hmem).symm

theorem Mirrored.heldPolicy_key (h : Mirrored js format s) {policy : DestinationPolicyProjection}
    (hplain : PlainKey key) (hheld : heldPolicy s.cache key = some policy) :
    policyKey policy = key := by
  have hmem := (OrderedMap.get?_eq_some_iff ..).mp hheld
  exact keyText_inj hplain (h.keyed.policies _ _ hmem).symm

/-! ## Dates under an upsert -/

/-- A greatest element, when the set takes in one more and keeps up with every
    member it had. -/
theorem isGreatest_max {α : Type} [LinearOrder α] {S S' : Set α} {a b : α}
    (h : IsGreatest S a) (hsub : ∀ t ∈ S', t ∈ S ∨ t = b) (hb : b ∈ S')
    (hkeeps : ∀ t ∈ S, ∃ t' ∈ S', t ≤ t') : IsGreatest S' (max a b) := by
  obtain ⟨ha, hupper⟩ := h
  constructor
  · obtain ⟨t', ht', hle⟩ := hkeeps a ha
    rcases hsub t' ht' with hold | rfl
    · obtain rfl : t' = a := le_antisymm (hupper hold) hle
      rcases max_choice t' b with hmax | hmax <;> rw [hmax] <;> assumption
    · rw [max_eq_right hle]
      exact ht'
  · intro t ht
    rcases hsub t ht with hold | rfl
    · exact le_max_of_le_left (hupper hold)
    · exact le_max_right a t

theorem isLeast_min {α : Type} [LinearOrder α] {S S' : Set α} {a b : α}
    (h : IsLeast S a) (hsub : ∀ t ∈ S', t ∈ S ∨ t = b) (hb : b ∈ S')
    (hkeeps : ∀ t ∈ S, ∃ t' ∈ S', t' ≤ t) : IsLeast S' (min a b) :=
  @isGreatest_max αᵒᵈ _ S S' a b h hsub hb hkeeps

/-- An entry that keeps the halves it has gets no fresher. -/
theorem noFresher_of_kept
    (hissuer : ∀ issuer, heldIssuer cache key = some issuer → heldIssuer cache' key = some issuer)
    (hpolicy : ∀ policy, heldPolicy cache key = some policy →
      heldPolicy cache' key = some policy) : NoFresher dates cache cache' key := by
  have hkept : ∀ ofIssuer ofPolicy, ∀ t ∈ heldInstants dates cache key ofIssuer ofPolicy,
      t ∈ heldInstants dates cache' key ofIssuer ofPolicy := by
    intro ofIssuer ofPolicy t ht
    rcases ht with ht | ht
    · obtain ⟨issuer, hheld, hparsed⟩ := Option.bind_eq_some_iff.mp ht
      left
      rw [hissuer issuer hheld]
      exact hparsed
    · obtain ⟨policy, hheld, hparsed⟩ := Option.bind_eq_some_iff.mp ht
      right
      rw [hpolicy policy hheld]
      exact hparsed
  constructor
  · intro t ht
    exact ⟨t, hkept _ _ t ht, le_refl t⟩
  · intro t ht
    exact ⟨t, hkept _ _ t ht, le_refl t⟩

/-! ## Sound memory -/

theorem soundIssuers_applyCall {call : CacheCall}
    (h : ∀ issuer ∈ cache.issuersByPolicyKey.values, SoundIssuer format issuer)
    (hcall : SoundCall js format call) :
    ∀ issuer ∈ (applyCall cache call).issuersByPolicyKey.values, SoundIssuer format issuer := by
  intro issuer hissuer
  obtain ⟨key, hmem⟩ := OrderedMap.mem_values.mp hissuer
  have hold : ∀ old, (key, old) ∈ cache.issuersByPolicyKey.entries → SoundIssuer format old :=
    fun old hentry => h old (OrderedMap.mem_values.mpr ⟨key, hentry⟩)
  cases call with
  | upsertIssuer projection =>
      rcases (OrderedMap.mem_set ..).mp hmem with ⟨-, rfl⟩ | ⟨-, hentry⟩
      · exact hcall
      · exact hold issuer hentry
  | updateIssuerAssuranceTier update =>
      obtain ⟨old, hentry, rfl⟩ := (OrderedMap.mem_mapValues ..).mp hmem
      have hsound := hold old hentry
      split
      · exact ⟨hsound.key, hsound.named, hcall, hsound.generated, hsound.expires⟩
      · exact hsound
  | removeIssuer ns => exact hold issuer ((OrderedMap.mem_filter ..).mp hmem).1
  | removeDelegatedAuthority target => exact hold issuer ((OrderedMap.mem_filter ..).mp hmem).1
  | upsertDestinationPolicy policy => exact hold issuer hmem
  | upsertRootAuthorityContext context => exact hold issuer hmem
  | upsertDelegatedAuthorityIssuerContext context => exact hold issuer hmem
  | removeDestinationPolicy target => exact hold issuer hmem
  | removeDestinationPoliciesForIssuer target => exact hold issuer hmem

theorem soundPolicies_applyCall {call : CacheCall}
    (h : ∀ policy ∈ cache.policiesByKey.values, SoundPolicy js format policy)
    (hcall : SoundCall js format call) :
    ∀ policy ∈ (applyCall cache call).policiesByKey.values, SoundPolicy js format policy := by
  intro policy hpolicy
  obtain ⟨key, hmem⟩ := OrderedMap.mem_values.mp hpolicy
  have hold : ∀ old, (key, old) ∈ cache.policiesByKey.entries → SoundPolicy js format old :=
    fun old hentry => h old (OrderedMap.mem_values.mpr ⟨key, hentry⟩)
  cases call with
  | upsertDestinationPolicy projection =>
      rcases (OrderedMap.mem_set ..).mp hmem with ⟨-, rfl⟩ | ⟨-, hentry⟩
      · exact hcall
      · exact hold policy hentry
  | removeDestinationPolicy target => exact hold policy ((OrderedMap.mem_erase ..).mp hmem).1
  | removeDestinationPoliciesForIssuer ns =>
      exact hold policy ((OrderedMap.mem_filter ..).mp hmem).1
  | removeDelegatedAuthority target => exact hold policy ((OrderedMap.mem_filter ..).mp hmem).1
  | upsertIssuer projection => exact hold policy hmem
  | upsertRootAuthorityContext context => exact hold policy hmem
  | upsertDelegatedAuthorityIssuerContext context => exact hold policy hmem
  | updateIssuerAssuranceTier update => exact hold policy hmem
  | removeIssuer ns => exact hold policy hmem

/-! ## Three kinds of statements -/

/-- What a call leaves under a key. -/
structure SameHeld (cache cache' : Cache) (key : DestinationPolicyKey) : Prop where
  issuer : heldIssuer cache' key = heldIssuer cache key
  policy : heldPolicy cache' key = heldPolicy cache key
  context : heldContext cache' key.ns = heldContext cache key.ns

/-- **UPDATES**: a statement that changes rows in place keeps the mirror where it keeps it
    row by row. -/
theorem Mirrored.update {picks : DestinationPolicyKey → Bool}
    {change : DestinationPolicyKey → ScannerTrustProjection → ScannerTrustProjection}
    {call : CacheCall} (h : Mirrored js format s) (hcall : SoundCall js format call)
    (hrow : ∀ key row, PlainKey key → Mirrors dates s.cache key row →
      Mirrors dates (applyCall s.cache call) key
        (if picks key then
          { row with scannerTrustProjection := change key row.scannerTrustProjection }
        else row))
    (hissuer : ∀ key, (heldIssuer (applyCall s.cache call) key).isSome = true →
      (heldIssuer s.cache key).isSome = true)
    (hpolicy : ∀ key, heldPolicy (applyCall s.cache call) key = heldPolicy s.cache key) :
    Mirrored js format ⟨updateWhere picks change s.table, applyCall s.cache call⟩ where
  keyed := wellKeyed_applyCall h.keyed call
  issuers := soundIssuers_applyCall h.issuers hcall
  policies := soundPolicies_applyCall h.policies hcall
  rows := by
    intro key row hget
    rw [updateWhere, OrderedMap.get?_update] at hget
    obtain ⟨old, hold, rfl⟩ := Option.map_eq_some_iff.mp hget
    obtain ⟨hplain, hmirrors⟩ := h.rows key old hold
    exact ⟨hplain, hrow key old hplain hmirrors⟩
  complete := by
    intro key hplain hheld hheld'
    rw [hpolicy key] at hheld'
    obtain ⟨old, hold⟩ := h.complete key hplain (hissuer key hheld) hheld'
    have hupdated : (updateWhere picks change s.table).get? key = _ := OrderedMap.get?_update ..
    rw [hold] at hupdated
    exact ⟨_, hupdated⟩

/-- **DELETES**: a statement that deletes rows keeps the mirror where the memory keeps what
    it shows in the others, and loses a half under every key that it drops. -/
theorem Mirrored.delete {keep : DestinationPolicyKey → Bool} {call : CacheCall}
    (h : Mirrored js format s) (hcall : SoundCall js format call)
    (hkept : ∀ key, PlainKey key → keep key = true →
      SameHeld s.cache (applyCall s.cache call) key)
    (hdropped : ∀ key, PlainKey key → (heldIssuer (applyCall s.cache call) key).isSome = true →
      (heldPolicy (applyCall s.cache call) key).isSome = true → keep key = true) :
    Mirrored js format ⟨s.table.filter fun entry => keep entry.1, applyCall s.cache call⟩ where
  keyed := wellKeyed_applyCall h.keyed call
  issuers := soundIssuers_applyCall h.issuers hcall
  policies := soundPolicies_applyCall h.policies hcall
  rows := by
    intro key row hget
    rw [OrderedMap.get?_filter] at hget
    obtain ⟨hold, hkeep⟩ := Option.filter_eq_some_iff.mp hget
    obtain ⟨hplain, hmirrors⟩ := h.rows key row hold
    have hsame := hkept key hplain hkeep
    exact ⟨hplain, hmirrors.congr hsame.issuer hsame.policy hsame.context⟩
  complete := by
    intro key hplain hheld hheld'
    have hkeep := hdropped key hplain hheld hheld'
    have hsame := hkept key hplain hkeep
    rw [hsame.issuer] at hheld
    rw [hsame.policy] at hheld'
    obtain ⟨row, hrow⟩ := h.complete key hplain hheld hheld'
    exact ⟨row, by rw [OrderedMap.get?_filter]; exact Option.filter_eq_some_iff.mpr ⟨hrow, hkeep⟩⟩

theorem get?_upsertRow {table : VerifierCacheTable} {excluded : VerifierCacheRow}
    {merged : ScannerTrustProjection → ScannerTrustProjection} (key' : DestinationPolicyKey) :
    (upsertRow table key excluded merged).get? key' =
      if key' = key then
        some (match table.get? key with
          | none => excluded
          | some row =>
              { row with
                scannerTrustProjection := merged row.scannerTrustProjection
                cacheGeneratedAt := max row.cacheGeneratedAt excluded.cacheGeneratedAt
                cacheExpiresAt := min row.cacheExpiresAt excluded.cacheExpiresAt })
      else table.get? key' := by
  rw [upsertRow]
  cases table.get? key <;> rw [OrderedMap.get?_set]

/-- **UPSERTS**: a statement that writes one row keeps the mirror where it shows what the
    memory holds under that key now, and the memory keeps what the others show. -/
theorem Mirrored.upsert {excluded : VerifierCacheRow}
    {merged : ScannerTrustProjection → ScannerTrustProjection} {call : CacheCall}
    (h : Mirrored js format s) (hcall : SoundCall js format call) (hplain : PlainKey key)
    (hother : ∀ key', PlainKey key' → key' ≠ key → SameHeld s.cache (applyCall s.cache call) key')
    (hfirst : s.table.get? key = none → Mirrors dates (applyCall s.cache call) key excluded)
    (hmerged : ∀ row, s.table.get? key = some row → Mirrors dates s.cache key row →
      Mirrors dates (applyCall s.cache call) key
        { row with
          scannerTrustProjection := merged row.scannerTrustProjection
          cacheGeneratedAt := max row.cacheGeneratedAt excluded.cacheGeneratedAt
          cacheExpiresAt := min row.cacheExpiresAt excluded.cacheExpiresAt }) :
    Mirrored js format ⟨upsertRow s.table key excluded merged, applyCall s.cache call⟩ where
  keyed := wellKeyed_applyCall h.keyed call
  issuers := soundIssuers_applyCall h.issuers hcall
  policies := soundPolicies_applyCall h.policies hcall
  rows := by
    intro key' row hget
    by_cases hkey : key' = key
    · subst hkey
      refine ⟨hplain, ?_⟩
      rw [get?_upsertRow, if_pos rfl] at hget
      cases hold : s.table.get? key' with
      | none =>
          rw [hold] at hget
          obtain rfl := Option.some.inj hget
          exact hfirst hold
      | some old =>
          rw [hold] at hget
          obtain rfl := Option.some.inj hget
          exact hmerged old hold (h.rows key' old hold).2
    · rw [get?_upsertRow, if_neg hkey] at hget
      obtain ⟨hplain', hmirrors⟩ := h.rows key' row hget
      have hsame := hother key' hplain' hkey
      exact ⟨hplain', hmirrors.congr hsame.issuer hsame.policy hsame.context⟩
  complete := by
    intro key' hplain' hheld hheld'
    show ∃ row, (upsertRow s.table key excluded merged).get? key' = some row
    by_cases hkey : key' = key
    · exact ⟨_, (get?_upsertRow key').trans (if_pos hkey)⟩
    · have hsame := hother key' hplain' hkey
      rw [hsame.issuer] at hheld
      rw [hsame.policy] at hheld'
      obtain ⟨row, hold⟩ := h.complete key' hplain' hheld hheld'
      exact ⟨row, ((get?_upsertRow key').trans (if_neg hkey)).trans hold⟩

/-! ## Each call -/

/-- The text of a key that is not this plain one. -/
theorem keyText_ne {key' : DestinationPolicyKey} (hplain : PlainKey key') (hne : key' ≠ key) :
    keyText key' ≠ keyText key := fun h => hne (keyText_inj hplain h.symm).symm

/-- The context of a namespace after the manifest of a root. -/
theorem context_rootContext (context : RootAuthorityContext) :
    heldContext (applyCall cache (.upsertRootAuthorityContext context)) key.ns
      = if key.ns.rootProgramId = context.rootProgramId then
          { heldContext cache key.ns with
            rootManifestAuthorizesAuthority :=
              context.activeDelegatedAuthorityIds.contains key.ns.delegatedAuthorityId }
        else heldContext cache key.ns := by
  symm
  rw [eq_heldContext_iff, authorityActive_applyCall, issuerActive_applyCall]
  have hheld := (@eq_heldContext_iff cache (heldContext cache key.ns) key.ns).mp rfl
  simp only [ListsAuthority, WithdrawsAuthority, ListsIssuer, WithdrawsIssuer, false_or,
    not_false_eq_true, and_true]
  by_cases hroot : key.ns.rootProgramId = context.rootProgramId
  · rw [if_pos hroot]
    refine ⟨?_, hheld.2⟩
    simp only [hroot, true_and, not_not, List.contains_iff_mem]
    tauto
  · rw [if_neg hroot]
    refine ⟨?_, hheld.2⟩
    rw [hheld.1]
    simp [Ne.symm hroot]

/-- The context of a plain namespace after the manifest of an authority. -/
theorem context_authorityContext (hplain : PlainKey key)
    (context : DelegatedAuthorityIssuerContext) :
    heldContext (applyCall cache (.upsertDelegatedAuthorityIssuerContext context)) key.ns
      = if key.ns.rootProgramId = context.rootProgramId
            ∧ key.ns.delegatedAuthorityId = context.delegatedAuthorityId then
          { heldContext cache key.ns with
            delegatedAuthorityAuthorizesIssuer :=
              context.activeIssuerIds.contains key.ns.issuerId }
        else heldContext cache key.ns := by
  symm
  rw [eq_heldContext_iff, authorityActive_applyCall, issuerActive_applyCall]
  have hheld := (@eq_heldContext_iff cache (heldContext cache key.ns) key.ns).mp rfl
  have hlists : ContextLists context key.ns ↔ key.ns.rootProgramId = context.rootProgramId
      ∧ key.ns.delegatedAuthorityId = context.delegatedAuthorityId
      ∧ key.ns.issuerId ∈ context.activeIssuerIds := by
    constructor
    · rintro ⟨issuerId, hmem, htext⟩
      have hns := authorityIssuerKey_plain_inj hplain htext
      rw [← hns]
      exact ⟨rfl, rfl, hmem⟩
    · rintro ⟨hroot, hauthority, hmem⟩
      exact ⟨key.ns.issuerId, hmem, by rw [← hroot, ← hauthority]⟩
  simp only [ListsAuthority, WithdrawsAuthority, ListsIssuer, WithdrawsIssuer, false_or,
    not_false_eq_true, and_true, hlists, startsWith_authorityPrefix_iff hplain]
  by_cases hauthority : key.ns.rootProgramId = context.rootProgramId
      ∧ key.ns.delegatedAuthorityId = context.delegatedAuthorityId
  · rw [if_pos hauthority]
    refine ⟨hheld.1, ?_⟩
    simp only [hauthority.1, hauthority.2, true_and, List.contains_iff_mem]
    tauto
  · rw [if_neg hauthority]
    refine ⟨hheld.1, ?_⟩
    rw [hheld.2]
    tauto

/-- The context of a plain namespace of another authority, after the removal of one. -/
theorem context_removeDelegatedAuthority (hplain : PlainKey key) (target : DelegatedAuthorityKey)
    (hother : delegatedAuthorityEquals key.ns target = false) :
    heldContext (applyCall cache (.removeDelegatedAuthority target)) key.ns
      = heldContext cache key.ns := by
  have hne : ¬ (key.ns.rootProgramId = target.rootProgramId
      ∧ key.ns.delegatedAuthorityId = target.delegatedAuthorityId) := by
    simpa [delegatedAuthorityEquals] using hother
  symm
  rw [eq_heldContext_iff, authorityActive_applyCall, issuerActive_applyCall]
  have hheld := (@eq_heldContext_iff cache (heldContext cache key.ns) key.ns).mp rfl
  rw [hheld.1, hheld.2]
  simp only [ListsAuthority, WithdrawsAuthority, ListsIssuer, WithdrawsIssuer, false_or,
    startsWith_authorityPrefix_iff hplain]
  have hne' : ¬ (target.rootProgramId = key.ns.rootProgramId
      ∧ target.delegatedAuthorityId = key.ns.delegatedAuthorityId) :=
    fun h => hne ⟨h.1.symm, h.2.symm⟩
  simp [hne, hne']

theorem Mirrored.rootContext (h : Mirrored js format s) (context : RootAuthorityContext) :
    Mirrored js format ⟨upsertVerifierCacheRootAuthorityContextCommand context s.table,
      applyCall s.cache (.upsertRootAuthorityContext context)⟩ := by
  refine h.update trivial (fun key row hplain hmirrors => ?_) (fun key hheld => hheld)
    (fun key => rfl)
  have hcontext := @context_rootContext s.cache key context
  by_cases hroot : key.ns.rootProgramId = context.rootProgramId
  · rw [if_pos hroot] at hcontext
    rw [if_pos (decide_eq_true hroot)]
    refine ⟨hmirrors.issuer, hmirrors.policy, ?_, hmirrors.generated, hmirrors.expires⟩
    rw [hcontext, ← hmirrors.context]
  · rw [if_neg hroot] at hcontext
    rw [if_neg (by simpa using hroot)]
    exact hmirrors.congr rfl rfl hcontext

theorem Mirrored.authorityContext (h : Mirrored js format s)
    (context : DelegatedAuthorityIssuerContext) :
    Mirrored js format ⟨upsertVerifierCacheDelegatedAuthorityIssuerContextCommand context s.table,
      applyCall s.cache (.upsertDelegatedAuthorityIssuerContext context)⟩ := by
  refine h.update trivial (fun key row hplain hmirrors => ?_) (fun key hheld => hheld)
    (fun key => rfl)
  have hcontext := @context_authorityContext s.cache key hplain context
  by_cases hauthority : key.ns.rootProgramId = context.rootProgramId
      ∧ key.ns.delegatedAuthorityId = context.delegatedAuthorityId
  · rw [if_pos hauthority] at hcontext
    rw [if_pos (by simpa using hauthority)]
    refine ⟨hmirrors.issuer, hmirrors.policy, ?_, hmirrors.generated, hmirrors.expires⟩
    rw [hcontext, ← hmirrors.context]
  · rw [if_neg hauthority] at hcontext
    rw [if_neg (by simpa using hauthority)]
    exact hmirrors.congr rfl rfl hcontext

/-- The record under a key after an update of tiers. -/
theorem heldIssuer_assuranceTier (update : IssuerAssuranceTierUpdate) :
    heldIssuer (applyCall cache (.updateIssuerAssuranceTier update)) key
      = (heldIssuer cache key).map fun issuer =>
        if issuer.ns = update.ns then { issuer with assuranceTier := update.assuranceTier }
        else issuer :=
  OrderedMap.get?_mapValues ..

/-- The projection of a row after an update of its tier. -/
def withTier (update : IssuerAssuranceTierUpdate) (projection : ScannerTrustProjection) :
    ScannerTrustProjection :=
  if projection.issuer.placeholder then projection
  else
    { projection with issuer := { projection.issuer with assuranceTier := update.assuranceTier } }

theorem withTier_keeps (update : IssuerAssuranceTierUpdate) (projection : ScannerTrustProjection) :
    (withTier update projection).destinationPolicy = projection.destinationPolicy
      ∧ (withTier update projection).authorityContext = projection.authorityContext := by
  rw [withTier]
  split <;> exact ⟨rfl, rfl⟩

theorem withTier_issuer (update : IssuerAssuranceTierUpdate) (projection : ScannerTrustProjection) :
    (withTier update projection).issuer
      = if projection.issuer.placeholder then projection.issuer
        else { projection.issuer with assuranceTier := update.assuranceTier } := by
  rw [withTier]
  split <;> rfl

theorem Mirrored.assuranceTier (h : Mirrored js format s) (update : IssuerAssuranceTierUpdate)
    (htier : update.assuranceTier ≠ "") :
    Mirrored js format ⟨updateVerifierCacheIssuerAssuranceTierCommand update s.table,
      applyCall s.cache (.updateIssuerAssuranceTier update)⟩ := by
  refine @Mirrored.update _ _ _ _ _ (fun _ => withTier update) _ h htier
    (fun key row hplain hmirrors => ?_) (fun key hheld => ?_) (fun key => rfl)
  · have hdates : ∀ date : IssuerProjection → String,
        (∀ issuer tier, date { issuer with assuranceTier := tier } = date issuer) →
        (heldIssuer (applyCall s.cache (.updateIssuerAssuranceTier update)) key).bind
            (fun issuer => dates.parse (date issuer))
          = (heldIssuer s.cache key).bind (fun issuer => dates.parse (date issuer)) := by
      intro date hdate
      rw [heldIssuer_assuranceTier]
      cases heldIssuer s.cache key with
      | none => rfl
      | some issuer =>
          show dates.parse (date (if _ then _ else _)) = dates.parse (date issuer)
          split
          · rw [hdate]
          · rfl
    have hgenerated : generatedInstants dates
        (applyCall s.cache (.updateIssuerAssuranceTier update)) key
          = generatedInstants dates s.cache key := by
      rw [generatedInstants, generatedInstants, heldInstants, heldInstants,
        hdates _ (fun _ _ => rfl)]
      rfl
    have hexpires : expiryInstants dates
        (applyCall s.cache (.updateIssuerAssuranceTier update)) key
          = expiryInstants dates s.cache key := by
      rw [expiryInstants, expiryInstants, heldInstants, heldInstants, hdates _ (fun _ _ => rfl)]
      rfl
    have hissuer := hmirrors.issuer
    constructor
    · rw [heldIssuer_assuranceTier]
      cases hheld : heldIssuer s.cache key with
      | none =>
          rw [hheld] at hissuer
          have hplaceholder : row.scannerTrustProjection.issuer.placeholder = true := hissuer
          split
          · show (withTier update row.scannerTrustProjection).issuer.placeholder = true
            rw [withTier_issuer, if_pos hplaceholder]
            exact hplaceholder
          · exact hplaceholder
      | some issuer =>
          rw [hheld] at hissuer
          have hrow : row.scannerTrustProjection.issuer
              = ⟨false, issuer.issuerDisplayName, issuer.assuranceTier⟩ := hissuer
          have hns : issuer.ns = key.ns :=
            congrArg DestinationPolicyKey.ns (h.heldIssuer_key hplain hheld)
          show MirrorsIssuer (some (if issuer.ns = update.ns then _ else issuer)) _
          rw [hns]
          by_cases hupdate : key.ns = update.ns
          · rw [if_pos hupdate, if_pos (decide_eq_true hupdate)]
            show (withTier update row.scannerTrustProjection).issuer = _
            rw [withTier_issuer, hrow]
            rfl
          · rw [if_neg hupdate, if_neg (by simpa using hupdate)]
            exact hrow
    · split
      · show MirrorsPolicy _ (withTier update row.scannerTrustProjection).destinationPolicy
        rw [(withTier_keeps update _).1]
        exact hmirrors.policy
      · exact hmirrors.policy
    · split
      · show (withTier update row.scannerTrustProjection).authorityContext = _
        rw [(withTier_keeps update _).2]
        exact hmirrors.context
      · exact hmirrors.context
    · rw [hgenerated]
      split <;> exact hmirrors.generated
    · rw [hexpires]
      split <;> exact hmirrors.expires
  · rw [heldIssuer_assuranceTier] at hheld
    cases hold : heldIssuer s.cache key with
    | none =>
        rw [hold] at hheld
        exact nomatch hheld
    | some issuer => rfl

/-- A filter that keeps what stands under a key changes nothing there. -/
theorem get?_filter_of {ν : Type} (p : ν → Bool) {m : OrderedMap String ν} {k : String}
    (h : ∀ v, m.get? k = some v → p v = true) :
    (m.filter fun entry => p entry.2).get? k = m.get? k := by
  rw [OrderedMap.get?_filter]
  cases hget : m.get? k with
  | none => rfl
  | some v => exact Option.filter_eq_some_iff.mpr ⟨rfl, h v hget⟩

/-- What passes a filter stood there before, and passes it. -/
theorem of_get?_filter {ν : Type} (p : ν → Bool) {m : OrderedMap String ν} {k : String}
    (h : ((m.filter fun entry => p entry.2).get? k).isSome = true) :
    ∃ v, m.get? k = some v ∧ p v = true := by
  rw [OrderedMap.get?_filter] at h
  obtain ⟨v, hv⟩ := Option.isSome_iff_exists.mp h
  exact ⟨v, Option.filter_eq_some_iff.mp hv⟩

theorem Mirrored.issuer_ns (h : Mirrored js format s) {issuer : IssuerProjection}
    (hplain : PlainKey key) (hheld : heldIssuer s.cache key = some issuer) :
    issuer.ns = key.ns :=
  congrArg DestinationPolicyKey.ns (h.heldIssuer_key hplain hheld)

theorem Mirrored.policy_ns (h : Mirrored js format s) {policy : DestinationPolicyProjection}
    (hplain : PlainKey key) (hheld : heldPolicy s.cache key = some policy) :
    policy.ns = key.ns :=
  congrArg DestinationPolicyKey.ns (h.heldPolicy_key hplain hheld)

theorem Mirrored.removeIssuer (h : Mirrored js format s) (ns : IssuerNamespace) :
    Mirrored js format ⟨deleteVerifierCacheIssuerCommand ns s.table,
      applyCall s.cache (.removeIssuer ns)⟩ := by
  refine @Mirrored.delete _ _ _ _ (fun key => key.ns ≠ ns) (.removeIssuer ns) h trivial
    (fun key hplain hkeep => ?_) (fun key hplain hheld hheld' => ?_)
  · refine ⟨get?_filter_of (fun issuer : IssuerProjection => decide (issuer.ns ≠ ns))
      fun issuer hissuer => ?_, rfl, rfl⟩
    rw [h.issuer_ns hplain hissuer]
    exact hkeep
  · obtain ⟨issuer, hissuer, hne⟩ :=
      of_get?_filter (fun issuer : IssuerProjection => decide (issuer.ns ≠ ns)) hheld
    rw [h.issuer_ns hplain hissuer] at hne
    exact hne

theorem Mirrored.removeDestinationPoliciesForIssuer (h : Mirrored js format s)
    (ns : IssuerNamespace) :
    Mirrored js format ⟨deleteVerifierCacheIssuerCommand ns s.table,
      applyCall s.cache (.removeDestinationPoliciesForIssuer ns)⟩ := by
  refine @Mirrored.delete _ _ _ _ (fun key => key.ns ≠ ns)
    (.removeDestinationPoliciesForIssuer ns) h trivial
    (fun key hplain hkeep => ?_) (fun key hplain hheld hheld' => ?_)
  · refine ⟨rfl, get?_filter_of (fun policy : DestinationPolicyProjection =>
      decide (policy.ns ≠ ns)) fun policy hpolicy => ?_, rfl⟩
    rw [h.policy_ns hplain hpolicy]
    exact hkeep
  · obtain ⟨policy, hpolicy, hne⟩ :=
      of_get?_filter (fun policy : DestinationPolicyProjection => decide (policy.ns ≠ ns)) hheld'
    rw [h.policy_ns hplain hpolicy] at hne
    exact hne

theorem Mirrored.removeDestinationPolicy (h : Mirrored js format s)
    (target : DestinationPolicyKey) :
    Mirrored js format ⟨deleteVerifierCacheDestinationPolicyCommand target s.table,
      applyCall s.cache (.removeDestinationPolicy target)⟩ := by
  refine @Mirrored.delete _ _ _ _ (fun key => key ≠ target) (.removeDestinationPolicy target) h
    trivial (fun key hplain hkeep => ?_) (fun key hplain hheld hheld' => ?_)
  · refine ⟨rfl, ?_, rfl⟩
    show (OrderedMap.filter ..).get? _ = _
    rw [OrderedMap.get?_filter]
    cases hpolicy : heldPolicy s.cache key with
    | none =>
        rw [heldPolicy] at hpolicy
        rw [hpolicy]
        rfl
    | some policy =>
        rw [heldPolicy] at hpolicy
        rw [hpolicy]
        refine Option.filter_eq_some_iff.mpr ⟨rfl, decide_eq_true fun htext => ?_⟩
        exact of_decide_eq_true hkeep (keyText_inj hplain htext.symm).symm
  · have hne : keyText key ≠ keyText target := by
      intro htext
      rw [heldPolicy] at hheld'
      obtain ⟨policy, hpolicy⟩ := Option.isSome_iff_exists.mp hheld'
      have hmem := (OrderedMap.get?_eq_some_iff ..).mp hpolicy
      exact ((OrderedMap.mem_erase ..).mp hmem).2 htext
    exact decide_eq_true fun heq => hne (congrArg keyText heq)

theorem Mirrored.removeDelegatedAuthority (h : Mirrored js format s)
    (target : DelegatedAuthorityKey) :
    Mirrored js format ⟨deleteVerifierCacheDelegatedAuthorityCommand target s.table,
      applyCall s.cache (.removeDelegatedAuthority target)⟩ := by
  refine @Mirrored.delete _ _ _ _ (fun key => !delegatedAuthorityEquals key.ns target)
    (.removeDelegatedAuthority target) h trivial (fun key hplain hkeep => ?_)
    (fun key hplain hheld hheld' => ?_)
  · refine ⟨get?_filter_of
        (fun issuer : IssuerProjection => !delegatedAuthorityEquals issuer.ns target) ?_,
      get?_filter_of
        (fun policy : DestinationPolicyProjection => !delegatedAuthorityEquals policy.ns target) ?_,
      context_removeDelegatedAuthority hplain target (by simpa using hkeep)⟩
    · intro issuer hissuer
      rw [h.issuer_ns hplain hissuer]
      exact hkeep
    · intro policy hpolicy
      rw [h.policy_ns hplain hpolicy]
      exact hkeep
  · obtain ⟨issuer, hissuer, hne⟩ := of_get?_filter
      (fun issuer : IssuerProjection => !delegatedAuthorityEquals issuer.ns target) hheld
    rw [h.issuer_ns hplain hissuer] at hne
    exact hne

/-! ## The two halves -/

theorem table_contains_of_get? {table : VerifierCacheTable} {row : VerifierCacheRow}
    (h : table.get? key = some row) : table.contains key = true :=
  OrderedMap.contains_iff.mpr (OrderedMap.mem_keys_iff_get?.mpr ⟨row, h⟩)

theorem exists_of_table_contains {table : VerifierCacheTable} (h : table.contains key = true) :
    ∃ row, table.get? key = some row :=
  OrderedMap.mem_keys_iff_get?.mp (OrderedMap.contains_iff.mp h)

/-- The instants of an entry whose issuer record was just written. -/
theorem heldInstants_of_issuer {issuer : IssuerProjection} {t : Int}
    {ofIssuer : IssuerProjection → String} {ofPolicy : DestinationPolicyProjection → String}
    (hissuer : heldIssuer cache' key = some issuer)
    (hpolicy : heldPolicy cache' key = heldPolicy cache key)
    (hparse : dates.parse (ofIssuer issuer) = some t) :
    t ∈ heldInstants dates cache' key ofIssuer ofPolicy
      ∧ ∀ u ∈ heldInstants dates cache' key ofIssuer ofPolicy,
        u = t
          ∨ (heldPolicy cache key).bind (fun policy => dates.parse (ofPolicy policy)) = some u := by
  have hwritten : (heldIssuer cache' key).bind (fun issuer => dates.parse (ofIssuer issuer))
      = some t := by
    rw [hissuer]
    exact hparse
  refine ⟨.inl hwritten, fun u hu => ?_⟩
  rcases hu with hu | hu
  · exact .inl (Option.some.inj (hu.symm.trans hwritten))
  · rw [hpolicy] at hu
    exact .inr hu

/-- The instants of an entry whose policy was just written. -/
theorem heldInstants_of_policy {policy : DestinationPolicyProjection} {t : Int}
    {ofIssuer : IssuerProjection → String} {ofPolicy : DestinationPolicyProjection → String}
    (hissuer : heldIssuer cache' key = heldIssuer cache key)
    (hpolicy : heldPolicy cache' key = some policy)
    (hparse : dates.parse (ofPolicy policy) = some t) :
    t ∈ heldInstants dates cache' key ofIssuer ofPolicy
      ∧ ∀ u ∈ heldInstants dates cache' key ofIssuer ofPolicy,
        u = t
          ∨ (heldIssuer cache key).bind (fun issuer => dates.parse (ofIssuer issuer)) = some u := by
  have hwritten : (heldPolicy cache' key).bind (fun policy => dates.parse (ofPolicy policy))
      = some t := by
    rw [hpolicy]
    exact hparse
  refine ⟨.inr hwritten, fun u hu => ?_⟩
  rcases hu with hu | hu
  · rw [hissuer] at hu
    exact .inr hu
  · exact .inl (Option.some.inj (hu.symm.trans hwritten))

/-- The instants of an entry whose other half is missing. -/
theorem bounds_of_only {S : Set Int} {t : Int} (ht : t ∈ S) (hall : ∀ u ∈ S, u = t) :
    IsGreatest S t ∧ IsLeast S t :=
  ⟨⟨ht, fun u hu => (hall u hu).le⟩, ht, fun u hu => (hall u hu).ge⟩

/-- What an upsert of a half is promised. -/
structure Promised (s : Caches) (db : Database) (call : CacheCall) (key : DestinationPolicyKey) :
    Prop where
  authorised : durableAuthorityContext db key.ns = heldContext s.cache key.ns
  findsRow : (heldIssuer (applyCall s.cache call) key).isSome = true →
    (heldPolicy (applyCall s.cache call) key).isSome = true → s.table.contains key = true

theorem Mirrored.upsertIssuer (h : Mirrored js format s) {issued : Issued}
    {projection : IssuerProjection} (hcall : issued.call = .upsertIssuer projection)
    (hsound : SoundIssuer format projection)
    (hpromised : Promised s issued.db issued.call (issuerKey projection))
    (hfresher : s.table.contains (issuerKey projection) = true →
      NoFresher dates s.cache (applyCall s.cache issued.call) (issuerKey projection)) :
    ∃ table, upsertVerifierCacheIssuerCommand dates issued.db projection s.table = some table
      ∧ Mirrored js format ⟨table, applyCall s.cache issued.call⟩ := by
  obtain ⟨generated, hgenerated, hgeneratedTz, -⟩ := format.reads _ hsound.generated
  obtain ⟨expires, hexpires, hexpiresTz, -⟩ := format.reads _ hsound.expires
  rw [hcall] at hpromised hfresher ⊢
  refine ⟨_, by rw [upsertVerifierCacheIssuerCommand, hgeneratedTz, hexpiresTz]; rfl, ?_⟩
  have hissuer : heldIssuer (applyCall s.cache (.upsertIssuer projection)) (issuerKey projection)
      = some projection := OrderedMap.get?_set_self ..
  have hpolicy : heldPolicy (applyCall s.cache (.upsertIssuer projection)) (issuerKey projection)
      = heldPolicy s.cache (issuerKey projection) := rfl
  obtain ⟨hgeneratedMem, hgeneratedOnly⟩ := @heldInstants_of_issuer dates s.cache _ _ _ _
    IssuerProjection.cacheGeneratedAt DestinationPolicyProjection.cacheGeneratedAt hissuer hpolicy
    hgenerated
  obtain ⟨hexpiresMem, hexpiresOnly⟩ := @heldInstants_of_issuer dates s.cache _ _ _ _
    IssuerProjection.cacheExpiresAt DestinationPolicyProjection.cacheExpiresAt hissuer hpolicy
    hexpires
  refine @Mirrored.upsert _ _ _ _ (issuerKey projection) _ _ _ h hsound hsound.key
    (fun key' hplain' hne => ⟨?_, rfl, rfl⟩) (fun hget => ?_) (fun old hget hmirrors => ?_)
  · have hkey : keyText key' ≠ projection.policyKey :=
      @keyText_ne (issuerKey projection) key' hplain' hne
    exact OrderedMap.get?_set_ne s.cache.issuersByPolicyKey projection hkey
  · -- without a row the memory has no policy there
    have hnone : heldPolicy s.cache (issuerKey projection) = none := by
      cases hheld : heldPolicy s.cache (issuerKey projection) with
      | none => rfl
      | some policy =>
          have hfound := hpromised.findsRow (by rw [hissuer]; rfl) (by rw [hpolicy, hheld]; rfl)
          obtain ⟨row, hrow⟩ := exists_of_table_contains hfound
          exact nomatch hget.symm.trans hrow
    rw [hnone] at hgeneratedOnly hexpiresOnly
    refine ⟨?_, ?_, hpromised.authorised, ?_, ?_⟩
    · rw [hissuer]
      rfl
    · rw [hpolicy, hnone]
      rfl
    · exact (bounds_of_only hgeneratedMem fun u hu =>
        (hgeneratedOnly u hu).resolve_right (fun hnone => nomatch hnone)).1
    · exact (bounds_of_only hexpiresMem fun u hu =>
        (hexpiresOnly u hu).resolve_right (fun hnone => nomatch hnone)).2
  · obtain ⟨hlater, hearlier⟩ := hfresher (table_contains_of_get? hget)
    refine ⟨?_, hmirrors.policy, hpromised.authorised, ?_, ?_⟩
    · rw [hissuer]
      rfl
    · exact isGreatest_max hmirrors.generated
        (fun u hu => (hgeneratedOnly u hu).symm.imp_left .inr) hgeneratedMem hlater
    · exact isLeast_min hmirrors.expires
        (fun u hu => (hexpiresOnly u hu).symm.imp_left .inr) hexpiresMem hearlier

theorem Mirrored.upsertDestinationPolicy (h : Mirrored js format s) {issued : Issued}
    {projection : DestinationPolicyProjection}
    (hcall : issued.call = .upsertDestinationPolicy projection)
    (hsound : SoundPolicy js format projection)
    (hpromised : Promised s issued.db issued.call (policyKey projection))
    (hfresher : s.table.contains (policyKey projection) = true →
      NoFresher dates s.cache (applyCall s.cache issued.call) (policyKey projection)) :
    ∃ table, upsertVerifierCacheDestinationPolicyCommand dates issued.db projection s.table
        = some table ∧ Mirrored js format ⟨table, applyCall s.cache issued.call⟩ := by
  obtain ⟨generated, hgenerated, hgeneratedTz, -⟩ := format.reads _ hsound.generated
  obtain ⟨expires, hexpires, hexpiresTz, -⟩ := format.reads _ hsound.expires
  rw [hcall] at hpromised hfresher ⊢
  refine ⟨_, by rw [upsertVerifierCacheDestinationPolicyCommand, hgeneratedTz, hexpiresTz]; rfl, ?_⟩
  have hissuer : heldIssuer (applyCall s.cache (.upsertDestinationPolicy projection))
      (policyKey projection) = heldIssuer s.cache (policyKey projection) := rfl
  have hpolicy : heldPolicy (applyCall s.cache (.upsertDestinationPolicy projection))
      (policyKey projection) = some projection := OrderedMap.get?_set_self ..
  obtain ⟨hgeneratedMem, hgeneratedOnly⟩ := @heldInstants_of_policy dates s.cache _ _ _ _
    IssuerProjection.cacheGeneratedAt DestinationPolicyProjection.cacheGeneratedAt hissuer hpolicy
    hgenerated
  obtain ⟨hexpiresMem, hexpiresOnly⟩ := @heldInstants_of_policy dates s.cache _ _ _ _
    IssuerProjection.cacheExpiresAt DestinationPolicyProjection.cacheExpiresAt hissuer hpolicy
    hexpires
  refine @Mirrored.upsert _ _ _ _ (policyKey projection) _ _ _ h hsound hsound.key
    (fun key' hplain' hne => ⟨rfl, ?_, rfl⟩) (fun hget => ?_) (fun old hget hmirrors => ?_)
  · have hkey : keyText key' ≠ projection.policyKey :=
      @keyText_ne (policyKey projection) key' hplain' hne
    exact OrderedMap.get?_set_ne s.cache.policiesByKey projection hkey
  · -- without a row the memory has no issuer record there
    have hnone : heldIssuer s.cache (policyKey projection) = none := by
      cases hheld : heldIssuer s.cache (policyKey projection) with
      | none => rfl
      | some issuer =>
          have hfound := hpromised.findsRow (by rw [hissuer, hheld]; rfl) (by rw [hpolicy]; rfl)
          obtain ⟨row, hrow⟩ := exists_of_table_contains hfound
          exact nomatch hget.symm.trans hrow
    rw [hnone] at hgeneratedOnly hexpiresOnly
    refine ⟨?_, ?_, hpromised.authorised, ?_, ?_⟩
    · rw [hissuer, hnone]
      rfl
    · rw [hpolicy]
      rfl
    · exact (bounds_of_only hgeneratedMem fun u hu =>
        (hgeneratedOnly u hu).resolve_right (fun hnone => nomatch hnone)).1
    · exact (bounds_of_only hexpiresMem fun u hu =>
        (hexpiresOnly u hu).resolve_right (fun hnone => nomatch hnone)).2
  · obtain ⟨hlater, hearlier⟩ := hfresher (table_contains_of_get? hget)
    refine ⟨hmirrors.issuer, ?_, hpromised.authorised, ?_, ?_⟩
    · rw [hpolicy]
      rfl
    · exact isGreatest_max hmirrors.generated
        (fun u hu => (hgeneratedOnly u hu).symm.imp_left .inl) hgeneratedMem hlater
    · exact isLeast_min hmirrors.expires
        (fun u hu => (hexpiresOnly u hu).symm.imp_left .inl) hexpiresMem hearlier

/-! ## Runs -/

/-- **STEP**: an orderly call keeps the mirror. -/
theorem mirrored_step {issued : Issued} (h : Mirrored js format s)
    (horderly : Orderly js format s issued) : Mirrored js format (s.apply dates issued) := by
  obtain ⟨hexecutes, hsound, hauthorised, hfinds, hfresher⟩ := horderly
  have hpromised : ∀ key, writtenKey issued.call = some key →
      Promised s issued.db issued.call key :=
    fun key hkey => ⟨hauthorised key hkey, hfinds key hkey⟩
  have htable : ∀ table, executeCall dates issued.db s.table issued.call = some table →
      Mirrored js format ⟨table, applyCall s.cache issued.call⟩ →
      Mirrored js format (s.apply dates issued) := by
    intro table hexecuted hmirrored
    have happly : s.apply dates issued = ⟨table, applyCall s.cache issued.call⟩ := by
      rw [Caches.apply, hexecuted]
      rfl
    rw [happly]
    exact hmirrored
  have hexecuted : ∀ statement : Option VerifierCacheTable,
      executeCall dates issued.db s.table issued.call
        = (if !issued.db.executes issued.call then none else statement) →
      executeCall dates issued.db s.table issued.call = statement := by
    intro statement h
    rw [h, hexecutes]
    rfl
  cases hcall : issued.call with
  | upsertIssuer projection =>
      rw [hcall] at hsound
      obtain ⟨table, hwritten, hmirrored⟩ := h.upsertIssuer hcall hsound
        (hpromised _ (by rw [hcall]; rfl)) (hfresher _ (by rw [hcall]; rfl))
      refine htable table ((hexecuted _ ?_).trans hwritten) hmirrored
      rw [executeCall.eq_def, hcall]
  | upsertDestinationPolicy projection =>
      rw [hcall] at hsound
      obtain ⟨table, hwritten, hmirrored⟩ := h.upsertDestinationPolicy hcall hsound
        (hpromised _ (by rw [hcall]; rfl)) (hfresher _ (by rw [hcall]; rfl))
      refine htable table ((hexecuted _ ?_).trans hwritten) hmirrored
      rw [executeCall.eq_def, hcall]
  | upsertRootAuthorityContext context =>
      refine htable _ (hexecuted _ ?_) (hcall ▸ h.rootContext context)
      rw [executeCall.eq_def, hcall]
  | upsertDelegatedAuthorityIssuerContext context =>
      refine htable _ (hexecuted _ ?_) (hcall ▸ h.authorityContext context)
      rw [executeCall.eq_def, hcall]
  | updateIssuerAssuranceTier update =>
      have htier : update.assuranceTier ≠ "" := by
        rw [hcall] at hsound
        exact hsound
      refine htable _ (hexecuted _ ?_) (hcall ▸ h.assuranceTier update htier)
      rw [executeCall.eq_def, hcall]
  | removeIssuer ns =>
      refine htable _ (hexecuted _ ?_) (hcall ▸ h.removeIssuer ns)
      rw [executeCall.eq_def, hcall]
  | removeDestinationPolicy target =>
      refine htable _ (hexecuted _ ?_) (hcall ▸ h.removeDestinationPolicy target)
      rw [executeCall.eq_def, hcall]
  | removeDestinationPoliciesForIssuer ns =>
      refine htable _ (hexecuted _ ?_) (hcall ▸ h.removeDestinationPoliciesForIssuer ns)
      rw [executeCall.eq_def, hcall]
  | removeDelegatedAuthority target =>
      refine htable _ (hexecuted _ ?_) (hcall ▸ h.removeDelegatedAuthority target)
      rw [executeCall.eq_def, hcall]

/-- Caches without content mirror each other. -/
theorem mirrored_empty : Mirrored js format .empty where
  keyed := wellKeyed_empty
  issuers := fun issuer hissuer => absurd hissuer List.not_mem_nil
  policies := fun policy hpolicy => absurd hpolicy List.not_mem_nil
  rows := by
    intro key row hget
    cases hget
  complete := by
    intro key hplain hheld
    cases hheld

/-- **RUNS**: in every run of orderly calls from empty caches, whatever the database holds
    at each of them, the rows mirror the memory between any two calls. -/
theorem mirrored_run {calls : List Issued}
    (h : (machine dates).EachMeets (Orderly js format) .empty calls) :
    ∀ before, before <+: calls →
      Mirrored js format ((machine dates).applyAll .empty before) := by
  intro before hbefore
  exact (machine dates).prefix_invariant (fun s issued hs horderly => mirrored_step hs horderly)
    mirrored_empty h before hbefore

/-! ## An issuer and its policy -/

/-- The beginnings of two years, in milliseconds. -/
def sampleDates : DateHost where
  parse text :=
    if text = "2026-01-01T00:00:00.000Z" then some 1767225600000
    else if text = "2027-01-01T00:00:00.000Z" then some 1798761600000 else none
  timestamptz text :=
    if text = "2026-01-01T00:00:00.000Z" then some 1767225600000
    else if text = "2027-01-01T00:00:00.000Z" then some 1798761600000 else none
  toISOString t :=
    if t = 1767225600000 then "2026-01-01T00:00:00.000Z" else "2027-01-01T00:00:00.000Z"

/-- The two texts. -/
def sampleFormat : DateFormat sampleDates where
  Conforms text := text = "2026-01-01T00:00:00.000Z" ∨ text = "2027-01-01T00:00:00.000Z"
  reads := by
    rintro text (rfl | rfl)
    · exact ⟨_, rfl, rfl, rfl⟩
    · exact ⟨_, rfl, rfl, rfl⟩
  ordered := by
    rintro a b s t (rfl | rfl) (rfl | rfl) hs ht <;> cases hs <;> cases ht <;> decide

/-- A host that reads no URL. -/
def sampleJs : JsRuntime := ⟨fun _ => none, fun text => text, fun _ => none, fun _ => ""⟩

def sampleKey : DestinationPolicyKey :=
  ⟨⟨"root:qrtrust-demo:2026", "authority:qrtrust-demo:merchant-web", "issuer:acme-demo"⟩,
    "policy:acme-demo:storefront"⟩

def sampleIssuer : IssuerProjection where
  ns := sampleKey.ns
  issuerDisplayName := "Acme"
  assuranceTier := "verified_business"
  destinationPolicyId := sampleKey.destinationPolicyId
  allowedHosts := ["shop.example"]
  cacheGeneratedAt := "2026-01-01T00:00:00.000Z"
  cacheExpiresAt := "2027-01-01T00:00:00.000Z"

/-- A policy that approves no destination. -/
def samplePolicy : DestinationPolicyProjection where
  ns := sampleKey.ns
  destinationPolicyId := sampleKey.destinationPolicyId
  approvedDestinations := []
  redirectPolicy := emptyDestinationPolicyProjection.redirectPolicy
  allowedHosts := ["shop.example"]
  allowSubdomains := false
  cacheGeneratedAt := "2026-01-01T00:00:00.000Z"
  cacheExpiresAt := "2027-01-01T00:00:00.000Z"

/-- A database without a published artifact. -/
def sampleDatabase : Database := ⟨.empty, fun _ => none, 0, fun _ => true⟩

/-- The issuer is written, and then its policy. -/
def sampleCalls : List Issued :=
  [⟨sampleDatabase, .upsertIssuer sampleIssuer⟩,
    ⟨sampleDatabase, .upsertDestinationPolicy samplePolicy⟩]

theorem plainKey_sample : PlainKey sampleKey := by
  simp [PlainKey, Plain, sampleKey]

/-- Both calls are orderly: the second finds the row of the first, which is as old. -/
theorem orderly_sample : (machine sampleDates).EachMeets (Orderly sampleJs sampleFormat) .empty
    sampleCalls := by
  refine ⟨⟨rfl, ⟨plainKey_sample, by decide, by decide, .inl rfl, .inr rfl⟩, ?_, ?_, ?_⟩,
    ⟨rfl, ⟨plainKey_sample, rfl, rfl, .inl rfl, .inr rfl⟩, ?_, ?_, ?_⟩, trivial⟩
  · intro key hkey
    obtain rfl := Option.some.inj hkey
    rfl
  · intro key hkey hissuer hpolicy
    cases hpolicy
  · intro key hkey hrow
    cases hrow
  · intro key hkey
    obtain rfl := Option.some.inj hkey
    rfl
  · intro key hkey hissuer hpolicy
    obtain rfl := Option.some.inj hkey
    rfl
  · intro key hkey hrow
    refine noFresher_of_kept (fun issuer hheld => hheld) ?_
    intro policy hheld
    cases hheld

/-- After both calls the rows mirror the memory. -/
theorem mirrored_run_sample :
    Mirrored sampleJs sampleFormat ((machine sampleDates).applyAll .empty sampleCalls) :=
  mirrored_run orderly_sample sampleCalls (List.prefix_refl _)
end PostgresVerifierCache
