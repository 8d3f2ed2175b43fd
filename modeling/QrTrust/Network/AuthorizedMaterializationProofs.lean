import Mathlib.Data.List.Infix
import QrTrust.Network.ChainSoundnessProofs
import QrTrust.Network.KeyRotationProofs
import QrTrust.Network.ReadModelWorkerProofs

/-! # What is materialized is what was authorized

    The invariant of a work item says which steps it has done (those that are no
    longer pending), that each accepted signature is over the artifact that was
    fetched, and that the database still answers with the body that was fetched
    until the body is fetched again.  Every step of the worker keeps it, and so
    does a publication that leaves those bodies alone. -/

namespace ReadModelWorker

open ArtifactPublication NatsPropagation TrustKeys SignatureVerification SignatureAcceptance
open CacheMaterialization VerifierCache PostgresArtifactStore

variable {host : WorkerHost} {s : State} {p next : Progress} {rows : PublishedArtifacts}
  {keys : List TrustKeyRecord} {step : Step} {rest : List Step} {role : ArtifactRole}

/-! ## What one step can do -/

/-- The body under an id, as a fetch finds it. -/
def bodyAt (host : WorkerHost) (rows : PublishedArtifacts) (artifactId : String) :
    Option JsonValue :=
  match PostgresArtifactStore.get host.store rows artifactId with
  | .succeed (some artifact) => some artifact.body
  | _ => none

theorem fetchRequiredArtifact_eq_succeed {artifactId message : String}
    {artifact : SignedArtifact}
    (h : fetchRequiredArtifact host rows artifactId message = .succeed artifact) :
    bodyAt host rows artifactId = some artifact.body := by
  obtain ⟨found, hget, hfound⟩ := Exit.bind_eq_succeed_iff.mp h
  cases found with
  | none => cases hfound
  | some other =>
      obtain rfl := Exit.succeed.inj hfound
      rw [bodyAt, hget]

theorem verifySignature_eq_succeed {artifact : SignedArtifact} {u : Unit}
    (h : verifySignature host keys role artifact = .succeed u) :
    requireAccepted host keys artifact.body = .succeed () := by
  have hsource : ∀ label,
      (signedTrustArtifactBody artifact label).bind (fun body => requireAccepted host keys body)
        = .succeed u → requireAccepted host keys artifact.body = .succeed () := by
    intro label h
    obtain ⟨body, hbody, haccepted⟩ := Exit.bind_eq_succeed_iff.mp h
    obtain ⟨record, hrecord, hbody⟩ := Exit.bind_eq_succeed_iff.mp hbody
    have hsame : record = artifact.body := by
      unfold recordValue at hrecord
      split at hrecord
      · rename_i fields hfields
        obtain rfl := Exit.succeed.inj hrecord
        exact (Option.some.inj hfields).symm
      · cases hrecord
    obtain ⟨artifactType, -, hbody⟩ := Exit.bind_eq_succeed_iff.mp hbody
    split at hbody
    · cases hbody
    · obtain ⟨_, -, hbody⟩ := Exit.bind_eq_succeed_iff.mp hbody
      obtain ⟨_, -, hbody⟩ := Exit.bind_eq_succeed_iff.mp hbody
      obtain ⟨_, -, hbody⟩ := Exit.bind_eq_succeed_iff.mp hbody
      obtain rfl := Exit.succeed.inj hbody
      rw [← hsame]
      exact haccepted
  cases role with
  | statusEvent => exact h
  | rootManifest => exact hsource _ h
  | delegatedAuthorityManifest => exact hsource _ h
  | issuerRecord => exact hsource _ h
  | destinationPolicy => exact hsource _ h

/-- **STEPS**: what a step that succeeds reads and what it changes. -/
theorem runStep_cases (h : runStep host rows keys p step = .succeed next) :
    (∃ role artifact, step = .fetch role
      ∧ bodyAt host rows (p.item.artifacts role) = some artifact.body
      ∧ next = { p with fetched := Function.update p.fetched role (some artifact) })
    ∨ (∃ role artifact key, step = .verifySignature role ∧ p.fetched role = some artifact
      ∧ SignedWith host artifact.body key
      ∧ next = { p with signers := Function.update p.signers role (some key) })
    ∨ (∃ role artifact, step = .refetch role
      ∧ bodyAt host rows (p.item.artifacts role) = some artifact.body
      ∧ next = { p with refetched := Function.update p.refetched role (some artifact) })
    ∨ ((step = .readClaims ∨ step = .requireStatusScope)
      ∧ ∃ claims, next = { p with claims := claims }) := by
  cases step with
  | fetch role =>
      obtain ⟨artifact, hfetch, hnext⟩ := Exit.bind_eq_succeed_iff.mp h
      exact .inl ⟨role, artifact, rfl, fetchRequiredArtifact_eq_succeed hfetch,
        (Exit.succeed.inj hnext).symm⟩
  | readClaims =>
      refine .inr (.inr (.inr ⟨.inl rfl, ?_⟩))
      simp only [runStep] at h
      split at h
      · obtain ⟨claims, -, hnext⟩ := Exit.bind_eq_succeed_iff.mp h
        exact ⟨some claims, (Exit.succeed.inj hnext).symm⟩
      · cases h
  | verifySignature role =>
      refine .inr (.inl ?_)
      simp only [runStep] at h
      split at h
      · rename_i artifact hfetched
        obtain ⟨_, haccepted, hnext⟩ := Exit.bind_eq_succeed_iff.mp h
        obtain ⟨key, hkey, hsigned⟩ :=
          signedWith_of_accepted (verifySignature_eq_succeed haccepted)
        rw [hkey] at hnext
        exact ⟨role, artifact, key, rfl, hfetched, hsigned, (Exit.succeed.inj hnext).symm⟩
      · cases h
  | requireStatusScope =>
      refine .inr (.inr (.inr ⟨.inr rfl, ?_⟩))
      simp only [runStep] at h
      split at h
      · obtain ⟨_, -, hnext⟩ := Exit.bind_eq_succeed_iff.mp h
        exact ⟨p.claims, (Exit.succeed.inj hnext).symm⟩
      · cases h
  | refetch role =>
      obtain ⟨artifact, hfetch, hnext⟩ := Exit.bind_eq_succeed_iff.mp h
      exact .inr (.inr (.inl ⟨role, artifact, rfl, fetchRequiredArtifact_eq_succeed hfetch,
        (Exit.succeed.inj hnext).symm⟩))

/-! ## The order of the program -/

/-- In what is left of the program, an artifact that is still to be fetched is
    still to be verified, and one that is still to be verified is still to be
    fetched again. -/
theorem pending_order {pending : List Step} (h : pending <:+ program) :
    (.fetch role ∈ pending → .verifySignature role ∈ pending)
      ∧ (.verifySignature role ∈ pending → .refetch role ∈ pending) := by
  have hall : ∀ tail ∈ program.tails,
      (.fetch role ∈ tail → .verifySignature role ∈ tail)
        ∧ (.verifySignature role ∈ tail → .refetch role ∈ tail) := by
    cases role <;> decide
  exact hall pending ((List.mem_tails ..).mpr h)

theorem program_nodup : program.Nodup := by decide

/-- The step that is taken does not come again. -/
theorem not_mem_rest (h : step :: rest <:+ program) : step ∉ rest :=
  (List.nodup_cons.mp (program_nodup.sublist h.sublist)).1

/-! ## The invariant of a work item -/

/-- What a body of a role has to be like for its signer to be in the scope of the
    issuer: a root manifest is not signed as its delegated authority, and the
    scope of an issuer record is that of its issuer. -/
def WellSigned : ArtifactRole → JsonValue → Prop
  | .rootManifest, body => ¬ SignsAsAuthority body
  | .issuerRecord, body =>
      (body.prop "issuer_namespace").bind (·.stringField "root_program_id")
          = body.stringField "root_program_id"
        ∧ (SignsAsAuthority body →
          (body.prop "issuer_namespace").bind (·.stringField "delegated_authority_id")
            = body.stringField "delegated_authority_id")
  | _, _ => True

/-- A work item has done the steps of the program that are no longer pending. -/
structure Progress.Tracks (p : Progress) : Prop where
  suffix : p.pending <:+ program
  fetched : ∀ role, (p.fetched role).isSome = true ↔ .fetch role ∉ p.pending
  signed : ∀ role, (p.signers role).isSome = true ↔ .verifySignature role ∉ p.pending
  refetched : ∀ role, (p.refetched role).isSome = true ↔ .refetch role ∉ p.pending

/-- Its signatures are over what it fetched, and what it fetched is what the
    database has, or had when it was fetched again. -/
structure Progress.Sound (host : WorkerHost) (rows : PublishedArtifacts) (p : Progress) :
    Prop extends p.Tracks where
  signedWith : ∀ role key, p.signers role = some key → ∃ artifact,
    p.fetched role = some artifact ∧ SignedWith host artifact.body key
      ∧ WellSigned role artifact.body
  pinned : ∀ role artifact, p.fetched role = some artifact → p.refetched role = none →
    bodyAt host rows (p.item.artifacts role) = some artifact.body
  same : ∀ role artifact used, p.fetched role = some artifact →
    p.refetched role = some used → used.body = artifact.body

theorem start_sound (item : VerifierCacheReadModelWorkItem) :
    (Progress.start item).Sound host rows := by
  have hall : ∀ role, .fetch role ∈ program ∧ .verifySignature role ∈ program
      ∧ .refetch role ∈ program := by
    intro role
    cases role <;> decide
  constructor
  · constructor
    · exact List.suffix_refl _
    · exact fun role => iff_of_false (by exact Bool.false_ne_true) (not_not.mpr (hall role).1)
    · exact fun role => iff_of_false (by exact Bool.false_ne_true) (not_not.mpr (hall role).2.1)
    · exact fun role => iff_of_false (by exact Bool.false_ne_true) (not_not.mpr (hall role).2.2)
  · intro role key h
    cases h
  · intro role artifact h
    cases h
  · intro role artifact used h
    cases h

/-- Marking what a step has done keeps track of it. -/
theorem isSome_update_iff {role' : ArtifactRole} {α : Type} {f : ArtifactRole → Option α} {a : α}
    {kind : ArtifactRole → Step} (hinj : Function.Injective kind)
    (hf : ∀ role, (f role).isSome = true ↔ kind role ∉ kind role' :: rest)
    (hrest : kind role' ∉ rest) (role : ArtifactRole) :
    (Function.update f role' (some a) role).isSome = true ↔ kind role ∉ rest := by
  by_cases h : role = role'
  · subst h
    rw [Function.update_self]
    exact iff_of_true rfl hrest
  · rw [Function.update_of_ne h, hf role, List.mem_cons, not_or]
    exact and_iff_right fun heq => h (hinj heq)

/-- A step of one kind is no step of another. -/
theorem isSome_iff_of_ne {α : Type} {f : ArtifactRole → Option α}
    {kind : ArtifactRole → Step} (hne : ∀ role, kind role ≠ step)
    (hf : ∀ role, (f role).isSome = true ↔ kind role ∉ step :: rest) (role : ArtifactRole) :
    (f role).isSome = true ↔ kind role ∉ rest := by
  rw [hf role, List.mem_cons, not_or]
  exact and_iff_right (hne role)

/-- **ONE STEP** keeps the invariant, when the body whose signature it verifies is
    well signed. -/
theorem runStep_sound (hsound : p.Sound host rows) (hpending : p.pending = step :: rest)
    (hstep : runStep host rows keys p step = .succeed next)
    (hwell : ∀ role artifact, step = .verifySignature role → p.fetched role = some artifact →
      WellSigned role artifact.body) :
    ({ next with pending := rest } : Progress).Sound host rows := by
  obtain ⟨⟨hsuffix, hfetched, hsigned, hrefetched⟩, hsignedWith, hpinned, hsame⟩ := hsound
  rw [hpending] at hsuffix hfetched hsigned hrefetched
  have hrestSuffix : rest <:+ program := (List.suffix_cons ..).trans hsuffix
  have hnot := not_mem_rest hsuffix
  rcases runStep_cases hstep with ⟨r, artifact, rfl, hbody, rfl⟩ |
    ⟨r, artifact, key, rfl, hartifact, hkey, rfl⟩ | ⟨r, artifact, rfl, hbody, rfl⟩ |
    ⟨hkind, claims, rfl⟩
  · -- a fetch: nothing is known yet of the artifact that is fetched
    have hpend : .verifySignature r ∈ Step.fetch r :: rest :=
      (pending_order hsuffix).1 (List.mem_cons_self ..)
    have hunsigned : p.signers r = none := by
      rw [← Option.not_isSome_iff_eq_none, hsigned r]
      exact not_not.mpr hpend
    have hunfetched : p.refetched r = none := by
      rw [← Option.not_isSome_iff_eq_none, hrefetched r]
      exact not_not.mpr ((pending_order hsuffix).2 hpend)
    refine ⟨⟨hrestSuffix, isSome_update_iff (fun a b h => Step.fetch.inj h) hfetched hnot,
      isSome_iff_of_ne (fun _ h => by cases h) hsigned,
      isSome_iff_of_ne (fun _ h => by cases h) hrefetched⟩, ?_, ?_, ?_⟩
    · intro role key h
      have hne : role ≠ r := fun heq => by
        rw [heq] at h
        exact Option.some_ne_none _ (h.symm.trans hunsigned)
      dsimp only
      rw [Function.update_of_ne hne]
      exact hsignedWith role key h
    · intro role other h hnone
      by_cases heq : role = r
      · subst heq
        dsimp only at h
        rw [Function.update_self] at h
        obtain rfl := Option.some.inj h
        exact hbody
      · dsimp only at h
        rw [Function.update_of_ne heq] at h
        exact hpinned role other h hnone
    · intro role other used h hused
      have hne : role ≠ r := fun heq => by
        rw [heq] at hused
        exact Option.some_ne_none _ (hused.symm.trans hunfetched)
      dsimp only at h
      rw [Function.update_of_ne hne] at h
      exact hsame role other used h hused
  · -- a signature: it is over the artifact that was fetched
    refine ⟨⟨hrestSuffix, isSome_iff_of_ne (fun _ h => by cases h) hfetched,
      isSome_update_iff (fun a b h => Step.verifySignature.inj h) hsigned hnot,
      isSome_iff_of_ne (fun _ h => by cases h) hrefetched⟩, ?_, hpinned, hsame⟩
    intro role other h
    by_cases heq : role = r
    · subst heq
      dsimp only at h
      rw [Function.update_self] at h
      obtain rfl := Option.some.inj h
      exact ⟨artifact, hartifact, hkey, hwell role artifact rfl hartifact⟩
    · dsimp only at h
      rw [Function.update_of_ne heq] at h
      exact hsignedWith role other h
  · -- the second fetch finds the body that the first one found
    refine ⟨⟨hrestSuffix, isSome_iff_of_ne (fun _ h => by cases h) hfetched,
      isSome_iff_of_ne (fun _ h => by cases h) hsigned,
      isSome_update_iff (fun a b h => Step.refetch.inj h) hrefetched hnot⟩, hsignedWith, ?_, ?_⟩
    · intro role other h hnone
      by_cases heq : role = r
      · subst heq
        dsimp only at hnone
        rw [Function.update_self] at hnone
        exact absurd hnone (Option.some_ne_none _)
      · dsimp only at hnone
        rw [Function.update_of_ne heq] at hnone
        exact hpinned role other h hnone
    · intro role other used h hused
      by_cases heq : role = r
      · subst heq
        dsimp only at hused
        rw [Function.update_self] at hused
        obtain rfl := Option.some.inj hused
        have hnone : p.refetched role = none := by
          rw [← Option.not_isSome_iff_eq_none, hrefetched role]
          exact not_not.mpr (List.mem_cons_self ..)
        exact Option.some.inj (hbody.symm.trans (hpinned role other h hnone))
      · dsimp only at hused
        rw [Function.update_of_ne heq] at hused
        exact hsame role other used h hused
  · -- the reads and the checks of the status event
    have hne : ∀ role, Step.fetch role ≠ step ∧ Step.verifySignature role ≠ step
        ∧ Step.refetch role ≠ step := by
      intro role
      rcases hkind with rfl | rfl
      · exact ⟨Step.noConfusion, Step.noConfusion, Step.noConfusion⟩
      · exact ⟨Step.noConfusion, Step.noConfusion, Step.noConfusion⟩
    exact ⟨⟨hrestSuffix, isSome_iff_of_ne (fun role => (hne role).1) hfetched,
      isSome_iff_of_ne (fun role => (hne role).2.1) hsigned,
      isSome_iff_of_ne (fun role => (hne role).2.2) hrefetched⟩, hsignedWith, hpinned, hsame⟩

/-! ## What is persisted -/

/-- **AS AUTHORIZED**: the row is materialized from bodies whose signatures were
    verified for the work item, each with a key in the scope of the issuer, and
    that of the root manifest with a key of its root program. -/
structure AsAuthorized (host : WorkerHost) (persisted : PersistedEntry) : Prop where
  materialized : ∃ input report, persisted.source.materializationInput = some input
    ∧ materializeVerifierCacheEntry host.materialization input = .ok report
    ∧ persisted.entry = cacheEntryWrite persisted.source.item.verifierId report
  authorized : ∀ role, ∃ artifact used key, persisted.source.fetched role = some artifact
    ∧ persisted.source.refetched role = some used ∧ used.body = artifact.body
    ∧ persisted.source.signers role = some key ∧ SignedWith host artifact.body key
    ∧ InScope key persisted.entry.issuer.ns
  rootSigned : ∀ key, persisted.source.signers .rootManifest = some key →
    key.scope = .rootProgram ∧ key.rootProgramId = persisted.entry.issuer.ns.rootProgramId

/-- The artifacts of an input, by what they are. -/
def inputArtifact (input : VerifierCacheMaterializationInput) : ArtifactRole → SignedArtifact
  | .rootManifest => input.rootManifest
  | .delegatedAuthorityManifest => input.delegatedAuthorityManifest
  | .issuerRecord => input.issuerRecord
  | .destinationPolicy => input.destinationPolicy
  | .statusEvent => input.statusEvent

theorem refetched_of_input {input : VerifierCacheMaterializationInput}
    (h : p.materializationInput = some input) (role : ArtifactRole) :
    p.refetched role = some (inputArtifact input role) := by
  obtain ⟨rootManifest, hroot, h⟩ := Option.bind_eq_some_iff.mp h
  obtain ⟨authority, hauthority, h⟩ := Option.bind_eq_some_iff.mp h
  obtain ⟨record, hrecord, h⟩ := Option.bind_eq_some_iff.mp h
  obtain ⟨policy, hpolicy, h⟩ := Option.bind_eq_some_iff.mp h
  obtain ⟨event, hevent, h⟩ := Option.bind_eq_some_iff.mp h
  obtain rfl := Option.some.inj h
  cases role with
  | rootManifest => exact hroot
  | delegatedAuthorityManifest => exact hauthority
  | issuerRecord => exact hrecord
  | destinationPolicy => exact hpolicy
  | statusEvent => exact hevent

/-- A well signed body of a checked chain names the root program of the issuer,
    and its authority where its signer signs as one. -/
theorem names_issuer_scope {input : VerifierCacheMaterializationInput}
    {chain : SourceChain host.materialization input} (hchecked : chain.Checked)
    (hwell : WellSigned role (inputArtifact input role).body) :
    (inputArtifact input role).body.stringField "root_program_id"
        = some chain.record.issuerNamespace.rootProgramId
      ∧ (SignsAsAuthority (inputArtifact input role).body →
        (inputArtifact input role).body.stringField "delegated_authority_id"
          = some chain.record.issuerNamespace.delegatedAuthorityId) := by
  have hns := hchecked.oneNamespace
  cases role with
  | rootManifest =>
      refine ⟨?_, fun hsigns => absurd hsigns hwell⟩
      rw [hns.recordRoot]
      exact rootManifestBody_reads chain.rootDecoded
  | delegatedAuthorityManifest =>
      have hreads := delegatedAuthorityBody_reads chain.authorityDecoded
      rw [hns.recordRoot, ← hns.authorityRoot, hns.recordAuthority]
      exact ⟨hreads.root, fun _ => hreads.authority⟩
  | issuerRecord =>
      have hreads := issuerRecordBody_reads chain.recordDecoded
      exact ⟨hwell.1.symm.trans hreads.root,
        fun hsigns => (hwell.2 hsigns).symm.trans hreads.authority⟩
  | destinationPolicy =>
      have hreads := destinationPolicyBody_reads chain.policyDecoded
      rw [← hns.policyScope]
      exact ⟨hreads.root, fun _ => hreads.authority⟩
  | statusEvent =>
      have hreads := statusEventBody_reads chain.eventDecoded
      rw [← hns.eventRoot, ← hns.eventAuthority]
      exact ⟨hreads.root, fun _ => hreads.authority⟩

/-- A work item whose steps are all done is persisted as authorized. -/
theorem asAuthorized_of_sound {input : VerifierCacheMaterializationInput}
    {report : VerifierCacheMaterializationReport} (hsound : p.Sound host rows)
    (hpending : p.pending = []) (hinput : p.materializationInput = some input)
    (hreport : materializeVerifierCacheEntry host.materialization input = .ok report) :
    AsAuthorized host ⟨cacheEntryWrite p.item.verifierId report, p⟩ := by
  obtain ⟨chain, _, _, hchecked, -, -, heq⟩ := materialized_iff.mp hreport
  have hns : report.issuerProjection.ns = chain.record.issuerNamespace := by rw [heq]; rfl
  have hdone : ∀ role, ∃ artifact key, p.fetched role = some artifact
      ∧ p.signers role = some key ∧ (inputArtifact input role).body = artifact.body
      ∧ SignedWith host artifact.body key ∧ WellSigned role artifact.body := by
    intro role
    have hsigned : (p.signers role).isSome = true := by
      rw [hsound.signed role, hpending]
      exact List.not_mem_nil
    obtain ⟨key, hkey⟩ := Option.isSome_iff_exists.mp hsigned
    obtain ⟨artifact, hartifact, hwith, hwell⟩ := hsound.signedWith role key hkey
    exact ⟨artifact, key, hartifact, hkey,
      hsound.same role artifact _ hartifact (refetched_of_input hinput role), hwith, hwell⟩
  refine ⟨⟨input, _, hinput, hreport, rfl⟩, fun role => ?_, fun key hkey => ?_⟩
  · obtain ⟨artifact, key, hartifact, hkey, hbody, hwith, hwell⟩ := hdone role
    rw [← hbody] at hwell
    obtain ⟨hroot, hauthority⟩ := names_issuer_scope hchecked hwell
    rw [hbody, ← hns] at hroot hauthority
    exact ⟨artifact, _, key, hartifact, refetched_of_input hinput role, hbody, hkey, hwith,
      inScope_of_usable hwith.usable hroot hauthority⟩
  · obtain ⟨artifact, other, -, hother, hbody, hwith, hwell⟩ := hdone .rootManifest
    obtain rfl := Option.some.inj (hother.symm.trans hkey)
    have hroot := (@names_issuer_scope host .rootManifest input chain hchecked (hbody ▸ hwell)).1
    rw [hbody, ← hns] at hroot
    exact ⟨rootProgram_of_usable hwith.usable hwell,
      Option.some.inj ((scope_of_usable hwith.usable).1.symm.trans hroot)⟩

/-! ## Runs -/

/-- **UNDISTURBED**: a publication leaves the bodies alone that the authorizer has
    fetched and the worker not fetched again, and a body is well signed when its
    signature is verified. -/
def Undisturbed (host : WorkerHost) (s : State) : Action → Prop
  | .publish artifact => ∀ p role fetched, s.current = some p → p.fetched role = some fetched →
      p.refetched role = none →
      bodyAt host (put host.store s.rows artifact).2 (p.item.artifacts role)
        = bodyAt host s.rows (p.item.artifacts role)
  | .advance _ => ∀ p role rest artifact, s.current = some p →
      p.pending = .verifySignature role :: rest → p.fetched role = some artifact →
      WellSigned role artifact.body
  | _ => True

/-- The work item on its way is sound, and every row is persisted as authorized. -/
structure Authorized (host : WorkerHost) (s : State) : Prop where
  current : ∀ p, s.current = some p → p.Sound host s.rows
  persisted : ∀ e ∈ s.persisted, AsAuthorized host e

/-- Without a current work item only the rows count. -/
theorem authorized_of_idle {t : State} (hidle : t.current = none)
    (h : ∀ e ∈ t.persisted, AsAuthorized host e) : Authorized host t :=
  ⟨fun p hp => absurd (hp.symm.trans hidle) (Option.some_ne_none p), h⟩

theorem finish_authorized (h : Authorized host s) (hcurrent : s.current = some p)
    (hpending : p.pending = []) (persists : Bool) :
    Authorized host (finish host s p persists) := by
  unfold finish
  cases hinput : p.materializationInput with
  | none => exact authorized_of_idle rfl h.persisted
  | some input =>
      dsimp only
      cases hreport : materializeVerifierCacheEntry host.materialization input with
      | error e => exact authorized_of_idle rfl h.persisted
      | ok report =>
          cases persists with
          | false => exact authorized_of_idle rfl h.persisted
          | true =>
              refine authorized_of_idle rfl fun e he => ?_
              rcases List.mem_append.mp he with hold | hnew
              · exact h.persisted e hold
              · obtain rfl := List.mem_singleton.mp hnew
                exact asAuthorized_of_sound (h.current p hcurrent) hpending hinput hreport

theorem advance_authorized (h : Authorized host s) {persists : Bool}
    (hundisturbed : Undisturbed host s (.advance persists)) :
    Authorized host (advance host s persists) := by
  unfold advance
  cases hcurrent : s.current with
  | none =>
      cases hbatch : s.batch with
      | nil => exact h
      | cons item rest =>
          refine ⟨fun p hp => ?_, h.persisted⟩
          obtain rfl := Option.some.inj hp
          exact start_sound item
  | some p =>
      dsimp only
      cases hpending : p.pending with
      | nil => exact finish_authorized h hcurrent hpending persists
      | cons step rest =>
          dsimp only
          cases hstep : runStep host s.rows s.keys p step with
          | fail error => exact authorized_of_idle rfl h.persisted
          | die => exact authorized_of_idle rfl h.persisted
          | succeed next =>
              refine ⟨fun q hq => ?_, h.persisted⟩
              obtain rfl := Option.some.inj hq
              refine runStep_sound (h.current p hcurrent) hpending hstep ?_
              rintro role artifact rfl hartifact
              exact hundisturbed p role rest artifact hcurrent hpending hartifact

/-- **STEP**: an undisturbed action keeps the invariant. -/
theorem apply_authorized (action : Action) (h : Authorized host s)
    (hundisturbed : Undisturbed host s action) : Authorized host (apply host s action) := by
  cases action with
  | publish artifact =>
      refine ⟨fun p hp => ?_, h.persisted⟩
      have hsound := h.current p hp
      refine ⟨hsound.toTracks, hsound.signedWith, ?_, hsound.same⟩
      intro role fetched hfetched hnone
      exact (hundisturbed p role fetched hp hfetched hnone).trans
        (hsound.pinned role fetched hfetched hnone)
  | changeKeys keys => exact ⟨h.current, h.persisted⟩
  | claim batch =>
      show Authorized host (if s.current.isNone ∧ s.batch = [] then _ else s)
      split
      · exact ⟨h.current, h.persisted⟩
      · exact h
  | advance persists => exact advance_authorized h hundisturbed
  | restart => exact authorized_of_idle rfl h.persisted

/-- **WHAT IS MATERIALIZED IS WHAT WAS AUTHORIZED**: in every run that leaves the
    fetched bodies alone and whose bodies are well signed when they are verified,
    every persisted row is as authorized. -/
theorem materialized_as_authorized {actions before : List Action}
    (hidle : s.current = none) (hempty : s.persisted = [])
    (hundisturbed : (machine host).EachMeets (Undisturbed host) s actions)
    (hbefore : before <+: actions) :
    ∀ e ∈ ((machine host).applyAll s before).persisted, AsAuthorized host e := by
  have hinit : Authorized host s := by
    refine authorized_of_idle hidle fun e he => ?_
    rw [hempty] at he
    exact absurd he List.not_mem_nil
  exact ((machine host).prefix_invariant (fun t action ht hmeets =>
    apply_authorized action ht hmeets) hinit hundisturbed before hbefore).persisted

/-! ## A run -/

instance : Decidable (SignsAsAuthority body) :=
  decidable_of_iff
    ((body.stringField "signed_by").any fun signer =>
      body.stringField "delegated_authority_id" = some signer) (by
    rw [Option.any_eq_true]
    exact exists_congr fun authority => and_congr_right' decide_eq_true_iff)

instance : Decidable (WellSigned role body) := by
  cases role
  all_goals unfold WellSigned
  all_goals infer_instance

/-- The body whose signature the next step verifies is well signed. -/
def nextWellSigned (s : State) : Bool :=
  match s.current with
  | none => true
  | some p =>
      match p.pending with
      | .verifySignature role :: _ =>
          (p.fetched role).all fun artifact => WellSigned role artifact.body
      | _ => true

/-- A batch is claimed, and the worker takes its steps, well signed all the way. -/
def runsWellSigned (host : WorkerHost) : State → List Action → Bool
  | _, [] => true
  | s, .claim batch :: rest => runsWellSigned host (apply host s (.claim batch)) rest
  | s, .advance persists :: rest =>
      nextWellSigned s && runsWellSigned host (advance host s persists) rest
  | _, _ => false

theorem undisturbed_of_runsWellSigned {actions : List Action}
    (h : runsWellSigned host s actions = true) :
    (machine host).EachMeets (Undisturbed host) s actions := by
  induction actions generalizing s with
  | nil => trivial
  | cons action rest ih =>
      cases action with
      | claim batch => exact ⟨trivial, ih h⟩
      | advance persists =>
          obtain ⟨hnext, hrest⟩ := Bool.and_eq_true_iff.mp h
          refine ⟨?_, ih hrest⟩
          intro p role others artifact hcurrent hpending hfetched
          rw [nextWellSigned, hcurrent] at hnext
          dsimp only at hnext
          rw [hpending] at hnext
          dsimp only at hnext
          rw [hfetched] at hnext
          exact of_decide_eq_true hnext
      | publish artifact => cases h
      | changeKeys keys => cases h
      | restart => cases h

/-- A body with a signature of a signer. -/
def signedBody (body : JsonValue) (signedBy publicKeyPem : String) : JsonValue :=
  match body with
  | .obj fields => .obj
      ([("signature", .str publicKeyPem), ("signed_by", .str signedBy)] ++ fields
        ++ [("signature_input", .str trustSignatureInput),
          ("signature_status", .str trustSignatureStatus),
          ("signature_algorithm_id", .str "ed25519")])
  | other => other

/-- The key of the root program. -/
def rootKey : TrustKeyRecord where
  keyId := "key:root"
  signerId := "root:demo"
  rootProgramId := "root:demo"
  algorithmId := "ed25519"
  scope := .rootProgram
  status := .active
  publicKeyMaterialRef := "pem://root"
  publicKeyMaterialPem := some "pem:root"
  delegatedAuthorityId := none

/-- The hosts of the demo chain, with a verifier that knows the keys by name. -/
def demoWorkerHost : WorkerHost where
  store :=
    { KeyRotation.namingHost with
      sha256 := fun text => text
      parseJson := fun _ => none
      parsesTimestamptz := fun _ => true }
  materialization := demoHost
  keyMaterial := KeyRotation.inlineMaterial

/-- The row of an artifact. -/
def demoRow (artifactType artifactHash : String) (body : JsonValue) : PublishedArtifactRow where
  artifactType := artifactType
  rootProgramId := "root:demo"
  delegatedAuthorityId := none
  issuerId := none
  destinationPolicyId := none
  canonicalJson := body
  artifactHash := artifactHash
  version := 1
  publishedAt := none

/-- The issuer record names its scope at the top, too. -/
def scopedRecord (body : JsonValue) : JsonValue :=
  match body with
  | .obj fields => .obj (fields ++ [("root_program_id", .str "root:demo"),
      ("delegated_authority_id", .str "authority:demo")])
  | other => other

/-- The demo chain, signed: the manifests by the root program, the rest by the
    authority. -/
def demoRows : PublishedArtifacts :=
  let chain := demoInput "art_status_1" "art_status_1"
  .ofList
    [("art_root", demoRow "root_manifest" "hash:root"
        (signedBody chain.rootManifest.body "root:demo" "pem:root")),
      ("art_authority", demoRow "delegated_authority_manifest" "hash:authority"
        (signedBody chain.delegatedAuthorityManifest.body "root:demo" "pem:root")),
      ("art_issuer", demoRow "issuer_record" "hash:issuer"
        (signedBody (scopedRecord chain.issuerRecord.body) "authority:demo" "pem:v1")),
      ("art_policy", demoRow "destination_policy" "hash:policy"
        (signedBody chain.destinationPolicy.body "authority:demo" "pem:v1")),
      ("art_status_1", demoRow "revocation_status_event" "hash:status"
        (signedBody chain.statusEvent.body "authority:demo" "pem:v1"))]

/-- A work item for the chain. -/
def demoItem : VerifierCacheReadModelWorkItem where
  verifierId := "verifier:demo"
  artifacts
    | .rootManifest => "art_root"
    | .delegatedAuthorityManifest => "art_authority"
    | .issuerRecord => "art_issuer"
    | .destinationPolicy => "art_policy"
    | .statusEvent => "art_status_1"
  materializedAt := some 1782864000000

/-- The chain is published, and the worker is idle. -/
def demoState : State where
  rows := demoRows
  keys := [rootKey, KeyRotation.authorityKey "v1"]
  batch := []
  current := none
  persisted := []

/-- The worker claims the item, and authorizes it in thirteen steps. -/
def authorizeItem : List Action := .claim [demoItem] :: List.replicate 13 (.advance true)

/-- It fetches the artifacts again, and persists the row. -/
def processItem : List Action := List.replicate 6 (.advance true)

/-- The worker left alone: its run is undisturbed, and one row is persisted. -/
def demoRun : {s : State // s = (machine demoWorkerHost).applyAll demoState
      (authorizeItem ++ processItem) ∧ s.persisted.length = 1
    ∧ runsWellSigned demoWorkerHost demoState (authorizeItem ++ processItem) = true} :=
  ⟨_, rfl, by decide +kernel, by decide +kernel⟩

/-- Left alone, the worker persists one row, as authorized. -/
theorem demo_materialized_as_authorized :
    ((machine demoWorkerHost).applyAll demoState (authorizeItem ++ processItem)).persisted.length
        = 1
      ∧ ∀ e ∈ ((machine demoWorkerHost).applyAll demoState
          (authorizeItem ++ processItem)).persisted, AsAuthorized demoWorkerHost e := by
  obtain ⟨s, hs, hlength, hwell⟩ := demoRun
  refine ⟨hs ▸ hlength, ?_⟩
  exact materialized_as_authorized rfl rfl (undisturbed_of_runsWellSigned hwell)
    (List.prefix_refl _)

/-- The policy of the chain under its id, without a signature. -/
def unsignedPolicy : SignedArtifact :=
  ⟨"art_policy", "hash:unsigned", "destination_policy", 2,
    (demoInput "art_status_1" "art_status_1").destinationPolicy.body⟩

/-- The run in which the policy is published between the two. -/
def disturbed : State :=
  (machine demoWorkerHost).applyAll demoState
    (authorizeItem ++ .publish unsignedPolicy :: processItem)

/-- The rows of that run, with the signer of the policy each was materialized from. -/
def disturbedRows : {rows : List PersistedEntry // rows = disturbed.persisted
    ∧ rows.map (fun e => (e.source.refetched .destinationPolicy).map fun used =>
        used.body.stringField "signed_by") = [some none]} :=
  ⟨_, rfl, by decide +kernel⟩

/-- **UNSIGNED POLICY PERSISTED**: published between the authorization and the
    second fetches, it is what the row is materialized from. -/
theorem unsigned_policy_materialized :
    ¬ ∀ e ∈ disturbed.persisted, AsAuthorized demoWorkerHost e := by
  intro hall
  obtain ⟨rows, hrows, hsigners⟩ := disturbedRows
  rw [← hrows] at hall
  cases rows with
  | nil => cases hsigners
  | cons e rest =>
      obtain ⟨artifact, used, key, -, hused, hsame, -, hwith, -⟩ :=
        (hall e (List.mem_cons_self ..)).authorized .destinationPolicy
      have hnone : (e.source.refetched .destinationPolicy).map (fun used =>
          used.body.stringField "signed_by") = some none := (List.cons.inj hsigners).1
      rw [hused] at hnone
      have hunsigned : used.body.stringField "signed_by" = none := Option.some.inj hnone
      rw [hsame, signer_of_usable hwith.usable] at hunsigned
      cases hunsigned

end ReadModelWorker
