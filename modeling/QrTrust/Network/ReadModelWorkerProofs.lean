import QrTrust.Network.CacheMaterializationProofs
import QrTrust.Network.ReadModelWorker
import QrTrust.Network.SignatureAcceptanceProofs

/-! # What the read-model worker persists

    The steps of a work item come from one program, so what a work item has done
    is what is no longer pending.  While no publication changes a body between
    its two fetches, the artifacts that are materialized are those whose
    signatures were verified.  Whose signatures those are depends on the scope
    the bodies name: a root manifest that names its signer as its delegated
    authority, and an issuer record whose own scope is not that of its issuer,
    are verified with keys from elsewhere. -/

namespace ReadModelWorker

open ArtifactPublication NatsPropagation TrustKeys SignatureVerification SignatureAcceptance
open CacheMaterialization VerifierCache PostgresArtifactStore

variable {host : WorkerHost} {s : State} {p : Progress} {body : JsonValue}
  {key : TrustKeyRecord}

/-! ## Signers and scopes -/

/-- Ed25519 accepts the body under a key that is usable for it. -/
structure SignedWith (host : WorkerHost) (body : JsonValue) (key : TrustKeyRecord) : Prop where
  supported : Supported body
  usable : usableFor body key = true
  verifies : Verifies host.store.toSignatureHost host.keyMaterial body key

/-- The key that decides a lookup is the first usable one. -/
theorem decidingKey_of_find? {keys : List TrustKeyRecord}
    (h : keys.find? (usableFor body) = some key) : decidingKey keys body = some key := by
  have husable : usableFor body key = true := List.find?_some h
  obtain ⟨input, hinput, -⟩ := (Option.any_eq_true ..).mp husable
  rw [usableFor_eq hinput] at h
  rw [decidingKey, hinput]
  show (selectTrustKeyForLookup keys input).key = some key
  rw [selectTrustKeyForLookup_some h]

/-- A body that passes the verifier is signed with the deciding key. -/
theorem signedWith_of_accepted {keys : List TrustKeyRecord}
    (h : requireAccepted host keys body = .succeed ()) :
    ∃ key, decidingKey keys body = some key ∧ SignedWith host body key := by
  have haccepts : Accepts host.store.toSignatureHost keys host.keyMaterial body := by
    unfold requireAccepted at h
    cases hresult : verifyTrustArtifact host.store.toSignatureHost
        (selectTrustKeyForLookup keys) host.keyMaterial body with
    | error cause =>
        rw [hresult] at h
        cases h
    | ok result =>
        rw [hresult] at h
        obtain ⟨accepted, reason⟩ := result
        cases accepted with
        | false => cases h
        | true => exact ⟨reason, hresult⟩
  obtain ⟨hsupported, key, hfind, hverifies⟩ := accepts_iff.mp haccepts
  exact ⟨key, decidingKey_of_find? hfind, hsupported, List.find?_some hfind, hverifies⟩

/-- The body names its signer as its delegated authority. -/
def SignsAsAuthority (body : JsonValue) : Prop :=
  ∃ authority, body.stringField "signed_by" = some authority
    ∧ body.stringField "delegated_authority_id" = some authority

/-- The key is of the root program of a namespace, and of its delegated authority
    unless it is the root program's own. -/
def InScope (key : TrustKeyRecord) (ns : IssuerNamespace) : Prop :=
  key.rootProgramId = ns.rootProgramId ∧
    match key.scope with
    | .rootProgram => key.signerId = ns.rootProgramId
    | .delegatedAuthority =>
        key.signerId = ns.delegatedAuthorityId
          ∧ key.delegatedAuthorityId = some ns.delegatedAuthorityId

/-- A usable key is of the signer that the body names. -/
theorem signer_of_usable (h : usableFor body key = true) :
    body.stringField "signed_by" = some key.signerId := by
  obtain ⟨input, hinput, hkey⟩ := (Option.any_eq_true ..).mp h
  obtain ⟨accepted, -, hlookup⟩ := Option.bind_eq_some_iff.mp hinput
  obtain ⟨signedBy, hsignedBy, hlookup⟩ := Option.bind_eq_some_iff.mp hlookup
  obtain ⟨rootProgramId, -, hlookup⟩ := Option.bind_eq_some_iff.mp hlookup
  obtain rfl := Option.some.inj hlookup
  exact hsignedBy.trans (congrArg some (usableKey_iff.mp hkey).1.symm)

/-- **SCOPE OF A USABLE KEY**: it is of the root program that the body names, and
    a delegated key signs as the authority that the body names. -/
theorem scope_of_usable (h : usableFor body key = true) :
    body.stringField "root_program_id" = some key.rootProgramId
      ∧ match key.scope with
        | .rootProgram => key.signerId = key.rootProgramId
        | .delegatedAuthority =>
            body.stringField "delegated_authority_id" = some key.signerId
              ∧ key.delegatedAuthorityId = some key.signerId := by
  obtain ⟨input, hinput, hkey⟩ := (Option.any_eq_true ..).mp h
  obtain ⟨accepted, -, hlookup⟩ := Option.bind_eq_some_iff.mp hinput
  obtain ⟨signedBy, -, hlookup⟩ := Option.bind_eq_some_iff.mp hlookup
  obtain ⟨rootProgramId, hroot, hlookup⟩ := Option.bind_eq_some_iff.mp hlookup
  obtain rfl := Option.some.inj hlookup
  obtain ⟨-, hkeyRoot, hmatches, -, -⟩ := usableKey_iff.mp hkey
  dsimp only at hkeyRoot
  refine ⟨hroot.trans (congrArg some hkeyRoot.symm), ?_⟩
  rw [keyMatchesScope] at hmatches
  cases hscope : key.scope with
  | rootProgram =>
      rw [hscope] at hmatches
      exact (of_decide_eq_true hmatches).trans hkeyRoot.symm
  | delegatedAuthority =>
      rw [hscope] at hmatches
      dsimp only at hmatches ⊢
      cases htruthy : JsString.truthy (body.stringField "delegated_authority_id") with
      | none =>
          rw [htruthy] at hmatches
          cases hmatches
      | some authority =>
          rw [htruthy] at hmatches
          obtain ⟨hdelegated, hsignerId⟩ := Bool.and_eq_true_iff.mp hmatches
          obtain rfl := of_decide_eq_true hsignerId
          exact ⟨(Option.filter_eq_some_iff.mp htruthy).1, of_decide_eq_true hdelegated⟩

/-- A usable key for a body with the root program of a namespace is in its scope,
    when the body, if its signer signs as its delegated authority, names the
    authority of the namespace. -/
theorem inScope_of_usable {ns : IssuerNamespace} (h : usableFor body key = true)
    (hroot : body.stringField "root_program_id" = some ns.rootProgramId)
    (hauthority : SignsAsAuthority body →
      body.stringField "delegated_authority_id" = some ns.delegatedAuthorityId) :
    InScope key ns := by
  obtain ⟨hkeyRoot, hscope⟩ := scope_of_usable h
  have hsame : key.rootProgramId = ns.rootProgramId :=
    Option.some.inj (hkeyRoot.symm.trans hroot)
  refine ⟨hsame, ?_⟩
  cases hkind : key.scope with
  | rootProgram =>
      rw [hkind] at hscope
      exact hscope.trans hsame
  | delegatedAuthority =>
      rw [hkind] at hscope
      obtain ⟨hnamed, hdelegated⟩ := hscope
      have hsigner : key.signerId = ns.delegatedAuthorityId :=
        Option.some.inj (hnamed.symm.trans (hauthority ⟨_, signer_of_usable h, hnamed⟩))
      exact ⟨hsigner, hdelegated.trans (congrArg some hsigner)⟩

/-- Unless its signer signs as its delegated authority, only a key of a root
    program is usable for a body. -/
theorem rootProgram_of_usable (h : usableFor body key = true) (hsigns : ¬ SignsAsAuthority body) :
    key.scope = .rootProgram := by
  obtain ⟨-, hscope⟩ := scope_of_usable h
  cases hkind : key.scope with
  | rootProgram => rfl
  | delegatedAuthority =>
      rw [hkind] at hscope
      exact absurd ⟨_, signer_of_usable h, hscope.1⟩ hsigns

end ReadModelWorker
