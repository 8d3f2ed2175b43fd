import QrTrust.Backend.DestinationCanonicalization
import QrTrust.Lib.Fallible
import QrTrust.Lib.SplitPieces

/-! # Canonical paths

    A path goes through percent normalization, dot-segment removal and the
    stripping of trailing slashes.  The results are exactly the renderings of
    canonical segment lists (`canonicalizePath_render`, `exists_render`): each
    segment normal, none a dot segment, the last one not empty.  On these the
    whole procedure is the identity, and the prefix test is a test on segment
    lists (`pathMatchesPrefix_render`). -/

namespace DestinationCanonicalization

open Fallible Separated

/-- What `canonicalize_destination` and `canonicalize_rule_prefix` make of a path. -/
def canonicalizePath (path : String) : Except PyError String := do
  let normalized ← normalizePercentEncoding path
  return stripTrailingSlashes (removeDotSegments normalized)

theorem canonicalizePath_of_normalized {path normalized : String}
    (h : normalizePercentEncoding path = .ok normalized) :
    canonicalizePath path = .ok (stripTrailingSlashes (removeDotSegments normalized)) := by
  rw [canonicalizePath, h]
  rfl

theorem canonicalizeRulePrefix_eq (rulePrefix : String) :
    canonicalizeRulePrefix rulePrefix =
      canonicalizePath (if PyString.startswith (PyString.strip rulePrefix) "/"
        then PyString.strip rulePrefix else "/" ++ PyString.strip rulePrefix) := rfl

/-! ## The parts of a destination -/

/-- How a destination comes about: the URL, what `urlsplit` makes of it, its
    hostname and its port. -/
structure DestinationParts (py : PyRuntime) (raw candidate : String) (parsed : SplitResult)
    (hostname : String) (port : Option Nat) (destination : CanonicalDestination) : Prop where
  notBlank : PyString.strip raw ≠ ""
  noBackslash : ¬ PyString.contains (PyString.strip raw) "\\" = true
  noNull : ¬ ((PyString.strip raw).toList.any fun c => c.toNat = 0) = true
  schemed : schemedCandidate py (PyString.strip raw) = .ok candidate
  split : py.urlsplit candidate = .ok parsed
  noUserinfo : ¬ (parsed.username.isSome || parsed.password.isSome) = true
  named : parsed.hostname = some hostname
  ported : parsed.port = .ok port
  scheme_eq : destination.scheme = py.lower parsed.scheme
  host : canonicalizeHost py hostname = .ok destination.host
  port_eq : destination.port =
    if port.isSome && port = defaultPort (py.lower parsed.scheme) then none else port
  path : canonicalizePath (if parsed.path = "" then "/" else parsed.path) = .ok destination.path
  query : normalizePercentEncoding parsed.query = .ok destination.query

theorem mapError_eq_ok {α : Type} {ε : Type} {f : ε → PyError} {r : Except ε α} {a : α}
    (h : r.mapError f = .ok a) : r = .ok a := by
  cases r with
  | error e => cases h
  | ok b => exact congrArg Except.ok (Except.ok.inj h)

theorem throw_bind_ne {α β : Type} {e : PyError} {f : α → Except PyError β} {b : β} :
    ((throw e : Except PyError α) >>= f) ≠ .ok b := by
  intro h
  exact nomatch h

/-- **DESTINATION**: every destination comes about so. -/
theorem exists_parts {py : PyRuntime} {raw : String} {destination : CanonicalDestination}
    (h : canonicalizeDestination py raw = .ok destination) :
    ∃ candidate parsed hostname port,
      DestinationParts py raw candidate parsed hostname port destination := by
  rw [canonicalizeDestination] at h
  split at h
  · exact absurd h throw_bind_ne
  rename_i hblank
  dsimp only at h
  split at h
  · exact absurd h throw_bind_ne
  rename_i hbackslash
  split at h
  · exact absurd h throw_bind_ne
  rename_i hnull
  obtain ⟨candidate, hcandidate, h⟩ := bind_eq_ok_iff.mp h
  obtain ⟨parsed, hparsed, h⟩ := bind_eq_ok_iff.mp h
  split at h
  · exact absurd h throw_bind_ne
  rename_i huserinfo
  split at h
  · exact absurd h throw_bind_ne
  rename_i hostname hhostname
  obtain ⟨_, h', h⟩ := bind_eq_ok_iff.mp h
  obtain rfl := Except.ok.inj h'
  obtain ⟨port, hport, h⟩ := bind_eq_ok_iff.mp h
  obtain ⟨host, hhost, h⟩ := bind_eq_ok_iff.mp h
  obtain ⟨path, hpath, h⟩ := bind_eq_ok_iff.mp h
  obtain ⟨query, hquery, h⟩ := bind_eq_ok_iff.mp h
  have hfields := Except.ok.inj h
  have hcanonical : canonicalizePath (if parsed.path = "" then "/" else parsed.path)
      = .ok (stripTrailingSlashes (removeDotSegments path)) :=
    canonicalizePath_of_normalized hpath
  subst hfields
  exact ⟨candidate, parsed, hostname, port,
    { notBlank := hblank
      noBackslash := hbackslash
      noNull := hnull
      schemed := hcandidate
      split := mapError_eq_ok hparsed
      noUserinfo := huserinfo
      named := hhostname
      ported := mapError_eq_ok hport
      scheme_eq := rfl
      host := hhost
      port_eq := rfl
      path := hcanonical
      query := hquery }⟩

/-- Where the parts are there, the destination is. -/
theorem DestinationParts.canonicalizeDestination_eq {py : PyRuntime} {raw candidate : String}
    {parsed : SplitResult} {hostname : String} {port : Option Nat}
    {destination : CanonicalDestination}
    (h : DestinationParts py raw candidate parsed hostname port destination) :
    canonicalizeDestination py raw = .ok destination := by
  obtain ⟨path, hpath, hrest⟩ := bind_eq_ok_iff.mp h.path
  rw [canonicalizeDestination, if_neg h.notBlank, if_neg h.noBackslash, if_neg h.noNull]
  refine bind_eq_ok_iff.mpr ⟨candidate, h.schemed, bind_eq_ok_iff.mpr ⟨parsed, ?_, ?_⟩⟩
  · rw [h.split]
    rfl
  rw [if_neg h.noUserinfo, h.named, h.ported]
  refine bind_eq_ok_iff.mpr ⟨hostname, rfl, bind_eq_ok_iff.mpr ⟨port, rfl, ?_⟩⟩
  refine bind_eq_ok_iff.mpr ⟨destination.host, h.host, bind_eq_ok_iff.mpr ⟨path, hpath, ?_⟩⟩
  refine bind_eq_ok_iff.mpr ⟨destination.query, h.query, ?_⟩
  show Except.ok (CanonicalDestination.mk _ _ _ _ _) = _
  rw [← h.port_eq, ← h.scheme_eq, Except.ok.inj hrest]

/-! ## Percent normalization -/

/-- Normalized text: an escape is in upper case, of an octet other than null that
    has to be escaped. -/
inductive Normal : List Char → Prop where
  | nil : Normal []
  | plain {c : Char} {rest : List Char} (hc : c ≠ '%') (hrest : Normal rest) : Normal (c :: rest)
  | escape {h l : Nat} {rest : List Char} (hh : h < 16) (hl : l < 16) (hvalue : 16 * h + l ≠ 0)
      (hreserved : isUnreserved (Char.ofNat (16 * h + l)) = false) (hrest : Normal rest) :
      Normal ('%' :: upperHexDigit h :: upperHexDigit l :: rest)

theorem hexValue_upperHexDigit {h : Nat} (hh : h < 16) : hexValue (upperHexDigit h) = some h := by
  have hall : ∀ d : Fin 16, hexValue (upperHexDigit d) = some d.val := by decide
  exact hall ⟨h, hh⟩

theorem upperHexDigit_ne_slash {h : Nat} (hh : h < 16) : upperHexDigit h ≠ '/' := by
  have hall : ∀ d : Fin 16, upperHexDigit d ≠ '/' := by decide
  exact hall ⟨h, hh⟩

theorem hexValue_lt {c : Char} {h : Nat} (hc : hexValue c = some h) : h < 16 := by
  simp only [hexValue, Char.le_def, UInt32.le_iff_toNat_le] at hc
  split at hc
  · rename_i hrange
    have hle : c.toNat ≤ 57 := hrange.2
    injection hc with hc
    omega
  · split at hc
    · rename_i hrange
      have hle : c.toNat ≤ 102 := hrange.2
      injection hc with hc
      omega
    · split at hc
      · rename_i hrange
        have hle : c.toNat ≤ 70 := hrange.2
        injection hc with hc
        omega
      · exact absurd hc (by simp)

theorem ne_percent_of_unreserved {c : Char} (h : isUnreserved c = true) : c ≠ '%' := by
  rintro rfl
  exact absurd h (by decide)

theorem map_eq_ok {α β : Type} {f : α → β} {r : Except PyError α} {b : β}
    (h : r.map f = .ok b) : ∃ a, r = .ok a ∧ f a = b := by
  cases r with
  | error e => cases h
  | ok a => exact ⟨a, rfl, Except.ok.inj h⟩

/-- Normalization gives normalized text. -/
theorem normal_of_normalizeFrom {index : Nat} {text result : List Char}
    (h : normalizePercentEncodingFrom index text = .ok result) : Normal result := by
  fun_induction normalizePercentEncodingFrom index text generalizing result with
  | case1 =>
      obtain rfl := Except.ok.inj h
      exact .nil
  | case2 => cases h
  | case3 index high low tail h' l hlow hhigh value hvalue decoded piece =>
      rename_i ih
      obtain ⟨rest, hrest, rfl⟩ := map_eq_ok h
      by_cases hun : isUnreserved decoded = true
      · simp only [piece, if_pos hun]
        exact .plain (ne_percent_of_unreserved hun) (ih hrest)
      · simp only [piece, if_neg hun]
        exact .escape (hexValue_lt hhigh) (hexValue_lt hlow) hvalue (by simpa using hun) (ih hrest)
  | case4 => injection h
  | case5 => injection h
  | case6 index c rest hc ih =>
      obtain ⟨normalized, hrest, rfl⟩ := map_eq_ok h
      exact .plain hc (ih hrest)

/-- Normalized text stays as it is. -/
theorem Normal.fixed {text : List Char} (h : Normal text) (index : Nat) :
    normalizePercentEncodingFrom index text = .ok text := by
  induction h generalizing index with
  | nil => rfl
  | plain hc _ ih =>
      rw [normalizePercentEncodingFrom, ih]
      · rfl
      · exact hc
  | escape hh hl hvalue hreserved _ ih =>
      simp only [normalizePercentEncodingFrom, hexValue_upperHexDigit hh, hexValue_upperHexDigit hl,
        if_neg hvalue, hreserved, ih]
      rfl

theorem Normal.append {a b : List Char} (ha : Normal a) (hb : Normal b) : Normal (a ++ b) := by
  induction ha with
  | nil => exact hb
  | plain hc _ ih => exact .plain hc ih
  | escape hh hl hvalue hreserved _ ih => exact .escape hh hl hvalue hreserved ih

/-- No escape reaches across a slash. -/
theorem Normal.of_append_slash {a b : List Char} (h : Normal (a ++ '/' :: b)) :
    Normal a ∧ Normal b := by
  generalize htext : a ++ '/' :: b = text at h
  induction h generalizing a with
  | nil => exact absurd htext (by simp)
  | plain hc hrest ih =>
      cases a with
      | nil =>
          obtain ⟨-, rfl⟩ := List.cons.inj htext
          exact ⟨.nil, hrest⟩
      | cons c a =>
          obtain ⟨rfl, htail⟩ := List.cons.inj htext
          obtain ⟨ha, hb⟩ := ih htail
          exact ⟨.plain hc ha, hb⟩
  | escape hh hl hvalue hreserved hrest ih =>
      match a with
      | [] => exact absurd (List.cons.inj htext).1 (by decide)
      | [_] =>
          exact absurd (List.cons.inj (List.cons.inj htext).2).1.symm (upperHexDigit_ne_slash hh)
      | [_, _] =>
          exact absurd (List.cons.inj (List.cons.inj (List.cons.inj htext).2).2).1.symm
            (upperHexDigit_ne_slash hl)
      | _ :: _ :: _ :: a =>
          simp only [List.cons_append, List.cons.injEq] at htext
          obtain ⟨rfl, rfl, rfl, htail⟩ := htext
          obtain ⟨ha, hb⟩ := ih htail
          exact ⟨.escape hh hl hvalue hreserved ha, hb⟩

/-- A path is normal when its segments are. -/
theorem normal_joined_iff {ps : List (List Char)} :
    Normal (joined '/' ps) ↔ ∀ p ∈ ps, Normal p := by
  induction ps with
  | nil => exact ⟨fun _ p hp => absurd hp List.not_mem_nil, fun _ => .nil⟩
  | cons p ps ih =>
      rw [List.forall_mem_cons]
      by_cases hps : ps = []
      · subst hps
        rw [joined_singleton]
        exact ⟨fun hp => ⟨hp, fun q hq => absurd hq List.not_mem_nil⟩, And.left⟩
      · rw [joined_cons p hps]
        constructor
        · intro h
          exact h.of_append_slash.imp_right ih.mp
        · rintro ⟨hp, hrest⟩
          exact hp.append (.plain (by decide) (ih.mpr hrest))

/-! ## Percent decoding -/

/-- The text with its escapes decoded. -/
def unescape : List Char → List Char
  | '%' :: high :: low :: rest =>
      match hexValue high, hexValue low with
      | some h, some l => Char.ofNat (16 * h + l) :: unescape rest
      | _, _ => '%' :: unescape (high :: low :: rest)
  | c :: rest => c :: unescape rest
  | [] => []

/-- An escape that is left stands for no unreserved character. -/
theorem Normal.unescape_eq {text : List Char} (h : Normal text)
    (hplain : ∀ c ∈ unescape text, isUnreserved c = true) : unescape text = text := by
  induction h with
  | nil => rfl
  | plain hc _ ih =>
      rw [unescape] at hplain ⊢
      · rw [ih fun d hd => hplain d (List.mem_cons_of_mem _ hd)]
      all_goals exact fun _ _ _ hpercent _ => hc hpercent
  | escape hh hl _ hreserved _ _ =>
      simp only [unescape, hexValue_upperHexDigit hh, hexValue_upperHexDigit hl] at hplain
      exact absurd (hplain _ (List.mem_cons_self ..)) (by simp [hreserved])

/-! ## Dot segments -/

/-- The segments `_remove_dot_segments` resolves. -/
def dotSegments : List (List Char) := [['.'], ['.', '.']]

theorem unreserved_of_mem_dots {segment : List Char} (h : segment ∈ dotSegments) :
    ∀ c ∈ segment, isUnreserved c = true := by
  intro c hc
  have hdot : c = '.' := by
    simp only [dotSegments, List.mem_cons, List.not_mem_nil, or_false] at h
    rcases h with rfl | rfl
    · exact List.mem_singleton.mp hc
    · simpa using hc
  rw [hdot]
  decide

theorem resolveSegment_of_not_mem {resolved : List (List Char)} {segment : List Char}
    (h : segment ∉ dotSegments) : resolveSegment resolved segment = resolved ++ [segment] := by
  simp only [dotSegments, List.mem_cons, List.not_mem_nil, or_false, not_or] at h
  rw [resolveSegment, if_neg h.1, if_neg h.2]

/-- A resolved segment is one of the path's, and no dot segment. -/
theorem mem_resolved {segments resolved : List (List Char)} {p : List Char}
    (h : p ∈ segments.foldl resolveSegment resolved) :
    p ∈ resolved ∨ p ∈ segments ∧ p ∉ dotSegments := by
  induction segments generalizing resolved with
  | nil => exact .inl h
  | cons segment segments ih =>
      rw [List.foldl_cons] at h
      rcases ih h with hp | ⟨hp, hdots⟩
      · by_cases hsegment : segment ∈ dotSegments
        · -- a dot segment adds nothing
          left
          simp only [dotSegments, List.mem_cons, List.not_mem_nil, or_false] at hsegment
          rcases hsegment with rfl | rfl
          · exact hp
          · exact (List.dropLast_sublist _).subset hp
        · rw [resolveSegment_of_not_mem hsegment, List.mem_append, List.mem_singleton] at hp
          rcases hp with hp | rfl
          · exact .inl hp
          · exact .inr ⟨List.mem_cons_self .., hsegment⟩
      · exact .inr ⟨List.mem_cons_of_mem _ hp, hdots⟩

theorem resolve_of_not_mem {segments resolved : List (List Char)}
    (h : ∀ p ∈ segments, p ∉ dotSegments) :
    segments.foldl resolveSegment resolved = resolved ++ segments := by
  induction segments generalizing resolved with
  | nil => exact (List.append_nil _).symm
  | cons segment segments ih =>
      rw [List.foldl_cons, resolveSegment_of_not_mem (h segment (List.mem_cons_self ..)),
        ih fun p hp => h p (List.mem_cons_of_mem _ hp), List.append_assoc, List.singleton_append]

/-! ## Canonical segment lists -/

/-- The segments of a path; the root has none. -/
def pathSegments (path : String) : List (List Char) :=
  if path = "/" then [] else (path.toList.splitOn '/').drop 1

/-- The path with the given segments. -/
def render (segments : List (List Char)) : String := String.ofList ('/' :: joined '/' segments)

theorem toList_splitOn_render (segments : List (List Char)) :
    ((render segments).toList.splitOn '/').drop 1 = (joined '/' segments).splitOn '/' := by
  rw [render, String.toList_ofList, splitOn_cons_self, List.drop_one, List.tail_cons]

/-- A segment as canonical paths have it. -/
structure IsCanonicalSegment (segment : List Char) : Prop where
  normal : Normal segment
  not_mem_slash : '/' ∉ segment
  not_mem_dots : segment ∉ dotSegments

/-- The segments of a canonical path. -/
structure AreCanonical (segments : List (List Char)) : Prop where
  canonical : ∀ p ∈ segments, IsCanonicalSegment p
  getLast?_ne : segments.getLast? ≠ some []

namespace AreCanonical

variable {segments : List (List Char)}

theorem not_mem_slash (h : AreCanonical segments) : ∀ p ∈ segments, '/' ∉ p :=
  fun p hp => (h.canonical p hp).not_mem_slash

/-- Only the root renders as a lone slash. -/
theorem joined_ne_nil (h : AreCanonical segments) (hne : segments ≠ []) :
    joined '/' segments ≠ [] := by
  intro hnil
  have hsplit := splitOn_joined h.not_mem_slash hne
  rw [hnil, List.splitOn_nil] at hsplit
  exact h.getLast?_ne (by rw [← hsplit]; rfl)

theorem render_eq_root_iff (h : AreCanonical segments) : render segments = "/" ↔ segments = [] := by
  constructor
  · intro hroot
    by_contra hne
    exact h.joined_ne_nil hne (List.cons.inj (String.ofList_injective hroot)).2
  · rintro rfl
    rfl

theorem pathSegments_render (h : AreCanonical segments) :
    pathSegments (render segments) = segments := by
  by_cases hne : segments = []
  · rw [hne]
    rfl
  · rw [pathSegments, if_neg (h.render_eq_root_iff.not.mpr hne), toList_splitOn_render,
      splitOn_joined h.not_mem_slash hne]

end AreCanonical

theorem removeDotSegments_eq (path : String) :
    removeDotSegments path =
      render (((path.toList.splitOn '/').drop 1).foldl resolveSegment []) := rfl

theorem stripTrailingSlashes_render {segments : List (List Char)} (h : ∀ p ∈ segments, '/' ∉ p) :
    stripTrailingSlashes (render segments) = render (segments.rdropWhile (· = [])) := by
  rw [render, render, ← rdropWhile_joined h, stripTrailingSlashes, String.toList_ofList]
  rfl

theorem normalizePercentEncoding_ok_iff {text normalized : String} :
    normalizePercentEncoding text = .ok normalized ↔
      normalizePercentEncodingFrom 0 text.toList = .ok normalized.toList := by
  rw [normalizePercentEncoding]
  constructor
  · intro h
    obtain ⟨result, hresult, rfl⟩ := map_eq_ok h
    rw [hresult, String.toList_ofList]
  · intro h
    rw [h]
    exact congrArg Except.ok (String.ofList_toList)

/-- Every canonicalized path renders a canonical segment list. -/
theorem exists_render {path canonical : String} (h : canonicalizePath path = .ok canonical) :
    ∃ segments, AreCanonical segments ∧ canonical = render segments := by
  cases hnormalized : normalizePercentEncoding path with
  | error e =>
      rw [canonicalizePath, hnormalized] at h
      cases h
  | ok normalized =>
      rw [canonicalizePath, hnormalized] at h
      obtain rfl := Except.ok.inj h
      have hnormal := normal_of_normalizeFrom (normalizePercentEncoding_ok_iff.mp hnormalized)
      rw [← joined_splitOn '/' normalized.toList, normal_joined_iff] at hnormal
      have hresolved : ∀ p ∈ ((normalized.toList.splitOn '/').drop 1).foldl resolveSegment [],
          IsCanonicalSegment p := by
        intro p hp
        rcases mem_resolved hp with hp | ⟨hp, hdots⟩
        · exact absurd hp List.not_mem_nil
        · have hmem := List.mem_of_mem_drop hp
          exact ⟨hnormal p hmem, not_mem_of_mem_splitOn hmem, hdots⟩
      rw [removeDotSegments_eq, stripTrailingSlashes_render fun p hp => (hresolved p hp).not_mem_slash]
      refine ⟨_, ⟨fun p hp => hresolved p ((List.rdropWhile_prefix _ _).subset hp), ?_⟩, rfl⟩
      intro hlast
      have hne : ((((normalized.toList.splitOn '/').drop 1).foldl resolveSegment []).rdropWhile
          (· = [])) ≠ [] := by
        intro hnil
        rw [hnil] at hlast
        cases hlast
      have hkept := List.rdropWhile_last_not _ _ hne
      rw [List.getLast?_eq_getLast_of_ne_nil hne, Option.some.injEq] at hlast
      exact hkept (by rw [hlast]; rfl)

/-- Rendered canonical segment lists stay as they are. -/
theorem canonicalizePath_render {segments : List (List Char)} (h : AreCanonical segments) :
    canonicalizePath (render segments) = .ok (render segments) := by
  have hnormal : Normal (render segments).toList := by
    rw [render, String.toList_ofList]
    exact .plain (by decide) (normal_joined_iff.mpr fun p hp => (h.canonical p hp).normal)
  have hresolved : (((render segments).toList.splitOn '/').drop 1).foldl resolveSegment [] =
      (joined '/' segments).splitOn '/' := by
    rw [toList_splitOn_render]
    by_cases hne : segments = []
    · rw [hne]
      rfl
    · rw [splitOn_joined h.not_mem_slash hne]
      exact resolve_of_not_mem fun p hp => (h.canonical p hp).not_mem_dots
  rw [canonicalizePath, normalizePercentEncoding_ok_iff.mpr (hnormal.fixed 0)]
  show Except.ok (stripTrailingSlashes (removeDotSegments (render segments))) = _
  rw [removeDotSegments_eq, hresolved, stripTrailingSlashes_render fun p => not_mem_of_mem_splitOn]
  by_cases hne : segments = []
  · rw [hne]
    rfl
  · -- the last segment is not empty, so no slash goes
    rw [splitOn_joined h.not_mem_slash hne]
    congr 2
    rw [List.rdropWhile_eq_self_iff]
    intro hne' hlast
    exact h.getLast?_ne (by rw [List.getLast?_eq_getLast_of_ne_nil hne', of_decide_eq_true hlast])

/-- On canonical segment lists the prefix test compares segments. -/
theorem pathMatchesPrefix_render {ps qs : List (List Char)} (hps : AreCanonical ps)
    (hqs : AreCanonical qs) : pathMatchesPrefix (render qs) (render ps) = true ↔ ps <+: qs := by
  rw [pathMatchesPrefix, Bool.or_eq_true, Bool.or_eq_true, decide_eq_true_iff, decide_eq_true_iff,
    hps.render_eq_root_iff, PyString.startswith, List.isPrefixOf_iff_prefix, String.toList_append,
    render, render, String.toList_ofList, String.toList_ofList, String.ofList_inj,
    List.cons.injEq]
  rw [List.cons_append, String.toList_ofList, List.cons_prefix_cons]
  by_cases hps' : ps = []
  · simp [hps']
  · by_cases hqs' : qs = []
    · subst hqs'
      simp [hps', hps.joined_ne_nil hps', Ne.symm (hps.joined_ne_nil hps')]
    · rw [← joined_prefix_iff hps.not_mem_slash hqs.not_mem_slash hps' hqs']
      simp [hps']

/-- **CANONICAL PATHS**: canonicalization is idempotent and leaves no dot segment,
    spelt out or in escapes; against a canonicalized prefix the prefix test compares
    segment lists. -/
theorem canonicalizePath_canonical :
    (∀ path canonical, canonicalizePath path = .ok canonical →
      canonicalizePath canonical = .ok canonical ∧
        ∀ segment ∈ pathSegments canonical,
          segment ∉ dotSegments ∧ unescape segment ∉ dotSegments) ∧
    ∀ path canonical rulePrefix canonicalPrefix, canonicalizePath path = .ok canonical →
      canonicalizeRulePrefix rulePrefix = .ok canonicalPrefix →
        (pathMatchesPrefix canonical canonicalPrefix = true ↔
          pathSegments canonicalPrefix <+: pathSegments canonical) := by
  constructor
  · intro path canonical h
    obtain ⟨segments, hsegments, rfl⟩ := exists_render h
    refine ⟨canonicalizePath_render hsegments, fun segment hmem => ?_⟩
    rw [hsegments.pathSegments_render] at hmem
    have hcanonical := hsegments.canonical segment hmem
    refine ⟨hcanonical.not_mem_dots, fun hdots => hcanonical.not_mem_dots ?_⟩
    -- a decoded dot segment has only unreserved characters, so it was spelt out
    rwa [← hcanonical.normal.unescape_eq (unreserved_of_mem_dots hdots)]
  · intro path canonical rulePrefix canonicalPrefix h hrule
    rw [canonicalizeRulePrefix_eq] at hrule
    obtain ⟨qs, hqs, rfl⟩ := exists_render h
    obtain ⟨ps, hps, rfl⟩ := exists_render hrule
    rw [hps.pathSegments_render, hqs.pathSegments_render]
    exact pathMatchesPrefix_render hps hqs

theorem canonicalizePath_canonical_sample :
    canonicalizePath "/a/./%2e%2E/b%2f//" = .ok "/b%2F" ∧
      (canonicalizePath "/b%2F" = .ok "/b%2F" ∧
        ∀ segment ∈ pathSegments "/b%2F", segment ∉ dotSegments ∧ unescape segment ∉ dotSegments) ∧
      (pathMatchesPrefix "/b%2F" "/b" = true ↔ pathSegments "/b" <+: pathSegments "/b%2F") := by
  have hpath : canonicalizePath "/a/./%2e%2E/b%2f//" = .ok "/b%2F" := by decide +kernel
  have hrule : canonicalizeRulePrefix " b/ " = .ok "/b" := by decide +kernel
  exact ⟨hpath, canonicalizePath_canonical.1 _ _ hpath,
    canonicalizePath_canonical.2 _ _ _ _ hpath hrule⟩

end DestinationCanonicalization
