import QrTrust.Backend.PathCanonicalizationProofs
import Mathlib

/-! # Canonical hosts

    `_canonicalize_host` strips white space and one final dot before it encodes.
    The encoder writes a dot for each of the four full stops of a host, so what
    was stripped can come back: the canonical host of `acme.example。` ends in a
    dot, and that of `acme .` in a space.  `hostIsCanonical_iff` says of which
    hosts the canonical form is canonical. -/

namespace DestinationCanonicalization

open Fallible Separated

variable {py : PyRuntime}

/-! ## Text -/

/-- Text in ASCII. -/
def IsAscii (text : List Char) : Prop := ∀ c ∈ text, c.toNat < 128

/-- Text in ASCII without upper-case letters. -/
def IsLowerAscii (text : List Char) : Prop := ∀ c ∈ text, c.toNat < 128 ∧ c.isUpper = false

instance (text : List Char) : Decidable (IsAscii text) :=
  @List.decidableBAll Char (fun c => c.toNat < 128) (fun c => Nat.decLt c.toNat 128) text

/-- White space neither begins nor ends the text. -/
structure IsStripped (text : List Char) : Prop where
  first : ∀ c, text.head? = some c → PyString.isspace c = false
  last : ∀ c, text.getLast? = some c → PyString.isspace c = false

theorem dropWhile_eq_self {p : Char → Bool} {l : List Char}
    (h : ∀ c, l.head? = some c → p c = false) : l.dropWhile p = l := by
  cases l with
  | nil => rfl
  | cons c l => rw [List.dropWhile_cons_of_neg (by simp [h c rfl])]

theorem toList_strip (s : String) :
    (PyString.strip s).toList =
      (s.toList.dropWhile PyString.isspace).rdropWhile PyString.isspace :=
  String.toList_ofList

/-- Stripping leaves exactly the stripped text as it is. -/
theorem strip_eq_self_iff {s : String} : PyString.strip s = s ↔ IsStripped s.toList := by
  rw [← String.toList_inj, toList_strip]
  constructor
  · intro h
    have hfront : s.toList.dropWhile PyString.isspace = s.toList := by
      refine (List.dropWhile_suffix _).eq_of_length_le ?_
      calc s.toList.length = _ := (congrArg List.length h).symm
        _ ≤ _ := (List.rdropWhile_prefix _ _).length_le
    rw [hfront] at h
    constructor
    · intro c hc
      by_contra hspace
      rw [Bool.not_eq_false] at hspace
      obtain ⟨rest, hrest⟩ := List.head?_eq_some_iff.mp hc
      rw [hrest, List.dropWhile_cons_of_pos hspace] at hfront
      exact absurd (congrArg List.length hfront)
        (Nat.ne_of_lt (Nat.lt_succ_of_le (List.dropWhile_suffix _).length_le))
    · intro c hc
      by_contra hspace
      rw [Bool.not_eq_false] at hspace
      obtain ⟨front, hfront'⟩ := List.getLast?_eq_some_iff.mp hc
      rw [hfront', List.rdropWhile_concat_pos _ _ _ hspace] at h
      have hlength := congrArg List.length h
      rw [List.length_append] at hlength
      exact absurd hlength
        (Nat.ne_of_lt (Nat.lt_succ_of_le (List.rdropWhile_prefix _ _).length_le))
  · intro h
    rw [dropWhile_eq_self h.first, List.rdropWhile, dropWhile_eq_self, List.reverse_reverse]
    intro c hc
    exact h.last c (List.head?_reverse ▸ hc)

theorem length_strip_le (s : String) : (PyString.strip s).toList.length ≤ s.toList.length := by
  rw [toList_strip]
  exact (List.rdropWhile_prefix _ _).length_le.trans (List.dropWhile_suffix _).length_le

theorem mem_of_mem_strip {s : String} {c : Char} (h : c ∈ (PyString.strip s).toList) :
    c ∈ s.toList := by
  rw [toList_strip] at h
  exact (List.dropWhile_suffix _).subset ((List.rdropWhile_prefix _ _).subset h)

theorem isStripped_strip (s : String) : IsStripped (PyString.strip s).toList := by
  rw [toList_strip]
  constructor
  · intro c hc
    obtain ⟨rest, hrest⟩ := List.head?_eq_some_iff.mp hc
    obtain ⟨tail, htail⟩ := List.rdropWhile_prefix PyString.isspace
      (s.toList.dropWhile PyString.isspace)
    rw [hrest, List.cons_append] at htail
    have hne : s.toList.dropWhile PyString.isspace ≠ [] := htail ▸ List.cons_ne_nil _ _
    have hhead := List.head_dropWhile_not PyString.isspace hne
    have hc : (s.toList.dropWhile PyString.isspace).head hne = c := by
      simp only [← htail, List.head_cons]
    rwa [hc] at hhead
  · intro c hc
    have hne : (s.toList.dropWhile PyString.isspace).rdropWhile PyString.isspace ≠ [] := by
      intro hnil
      rw [hnil] at hc
      cases hc
    have hlast := List.rdropWhile_last_not PyString.isspace _ hne
    rw [List.getLast?_eq_getLast_of_ne_nil hne, Option.some.injEq] at hc
    rwa [hc, Bool.not_eq_true] at hlast

theorem strip_strip (s : String) : PyString.strip (PyString.strip s) = PyString.strip s :=
  strip_eq_self_iff.mpr (isStripped_strip s)

/-! ## The encoder -/

/-- The four full stops of a host. -/
def isFullStop (c : Char) : Bool := c ∈ ['.', '。', '．', '｡']

/-- The labels of a host. -/
def hostLabels (host : String) : List (List Char) := host.toList.splitOnP isFullStop

/-- An IDNA encoder: it encodes label by label and writes a dot for a full stop; a
    label in ASCII stays as it is.  A host in ASCII is taken when its labels are
    not empty and `fits` holds of them, as it does of those of every result. -/
structure IsIdnaEncoder (encodeIdna : String → Except String String)
    (toAscii : List Char → List Char) (fits : List Char → Prop) : Prop where
  encodes : ∀ host encoded, encodeIdna host = .ok encoded →
    encoded.toList = joined '.' ((hostLabels host).map toAscii)
  ascii : ∀ label, IsAscii label → toAscii label = label
  fitting : ∀ host encoded, encodeIdna host = .ok encoded →
    ∀ label ∈ encoded.toList.splitOn '.', fits label
  accepts : ∀ host, IsAscii host.toList →
    (∀ label ∈ host.toList.splitOn '.', label ≠ [] ∧ fits label) →
      ∃ encoded, encodeIdna host = .ok encoded

/-- `lower()` leaves no upper-case letter of ASCII, and lower-case ASCII as it is. -/
structure IsLower (lower : String → String) : Prop where
  fixed : ∀ s, IsLowerAscii s.toList → lower s = s
  not_upper : ∀ s, ∀ c ∈ (lower s).toList, c.isUpper = false

theorem isFullStop_of_ascii {c : Char} (hc : c.toNat < 128) : isFullStop c = (c == '.') := by
  by_cases hdot : c = '.'
  · rw [hdot]
    rfl
  · rw [beq_false_of_ne hdot, isFullStop, decide_eq_false_iff_not]
    intro hmem
    simp only [List.mem_cons, List.not_mem_nil, or_false, hdot, false_or] at hmem
    rcases hmem with rfl | rfl | rfl <;> exact absurd hc (by decide)

theorem hostLabels_of_ascii {host : String} (h : IsAscii host.toList) :
    hostLabels host = host.toList.splitOn '.' := by
  rw [hostLabels, List.splitOn_eq_splitOnP]
  exact splitOnP_congr fun c hc => isFullStop_of_ascii (h c hc)

/-- A host in ASCII is its own encoding. -/
theorem IsIdnaEncoder.eq_of_ascii {toAscii : List Char → List Char} {fits : List Char → Prop}
    {encodeIdna : String → Except String String} (henc : IsIdnaEncoder encodeIdna toAscii fits)
    {host encoded : String} (hascii : IsAscii host.toList) (h : encodeIdna host = .ok encoded) :
    encoded = host := by
  have hfixed : (hostLabels host).map toAscii = hostLabels host := by
    refine (List.map_congr_left fun label hlabel => ?_).trans (List.map_id _)
    exact henc.ascii label fun c hc => hascii c (of_mem_splitOnP hlabel hc).1
  rw [← String.toList_inj, henc.encodes host encoded h, hfixed, hostLabels_of_ascii hascii,
    joined_splitOn]

/-! ## Canonicalization -/

/-- What is encoded of a host: in lower case, without white space around it and
    without one final dot. -/
def undotted (py : PyRuntime) (rawHost : String) : String :=
  let lowered := py.lower (PyString.strip rawHost)
  if PyString.endswith lowered "." then PyString.dropLast lowered else lowered

theorem canonicalizeHost_ok_iff {rawHost host : String} :
    canonicalizeHost py rawHost = .ok host ↔
      [] ∉ (undotted py rawHost).toList.splitOn '.' ∧
        py.encodeIdna (undotted py rawHost) = .ok host := by
  rw [canonicalizeHost, undotted]
  generalize (if PyString.endswith (py.lower (PyString.strip rawHost)) "." then
    PyString.dropLast (py.lower (PyString.strip rawHost))
    else py.lower (PyString.strip rawHost)) = text
  by_cases hempty : [] ∈ text.toList.splitOn '.'
  · rw [if_pos (.inr hempty)]
    exact ⟨fun h => (nomatch h), fun h => absurd hempty h.1⟩
  · have hne : text ≠ "" := by
      rintro rfl
      exact hempty (by decide)
    rw [if_neg (not_or.mpr ⟨hne, hempty⟩)]
    cases py.encodeIdna text with
    | error exc => exact ⟨fun h => (nomatch h), fun h => (nomatch h.2)⟩
    | ok encoded =>
        exact ⟨fun h => ⟨hempty, congrArg _ (Except.ok.inj h)⟩,
          fun h => congrArg _ (Except.ok.inj h.2)⟩

/-- The host is canonical: canonicalization leaves it as it is, it ends in no dot,
    and it is in lower-case ASCII. -/
structure HostIsCanonical (py : PyRuntime) (host : String) : Prop where
  fixed : canonicalizeHost py host = .ok host
  noFinalDot : PyString.endswith host "." = false
  lowerAscii : IsLowerAscii host.toList

theorem IsLowerAscii.isAscii {text : List Char} (h : IsLowerAscii text) : IsAscii text :=
  fun c hc => (h c hc).1

theorem endswith_dot_iff {s : String} :
    PyString.endswith s "." = true ↔ s.toList.getLast? = some '.' := by
  rw [PyString.endswith, List.isSuffixOf_iff_suffix, List.getLast?_eq_some_iff]
  exact ⟨fun ⟨front, h⟩ => ⟨front, h.symm⟩, fun ⟨front, h⟩ => ⟨front, h.symm⟩⟩

/-- Text without an empty piece ends in no dot. -/
theorem endswith_dot_of_not_mem {s : String} (h : [] ∉ s.toList.splitOn '.') :
    PyString.endswith s "." = false := by
  rw [Bool.eq_false_iff]
  intro hdot
  obtain ⟨front, hfront⟩ := List.getLast?_eq_some_iff.mp (endswith_dot_iff.mp hdot)
  rw [hfront, List.splitOn_append_cons_self] at h
  exact h (List.mem_append_right _ (List.mem_singleton_self _))

/-- **CANONICAL TEXT**: of the encodings, those in lower-case ASCII with nothing to
    strip and no empty piece are canonical. -/
theorem hostIsCanonical_encoded_iff {toAscii : List Char → List Char} {fits : List Char → Prop}
    (henc : IsIdnaEncoder py.encodeIdna toAscii fits) (hlower : IsLower py.lower)
    {text host : String} (h : py.encodeIdna text = .ok host) :
    HostIsCanonical py host ↔
      IsLowerAscii host.toList ∧ IsStripped host.toList ∧ [] ∉ host.toList.splitOn '.' := by
  constructor
  · intro hcanonical
    refine ⟨hcanonical.lowerAscii, ?_⟩
    obtain ⟨hpieces, hencoded⟩ := canonicalizeHost_ok_iff.mp hcanonical.fixed
    have hstripped : IsLowerAscii (PyString.strip host).toList := fun c hc =>
      hcanonical.lowerAscii c (mem_of_mem_strip hc)
    rw [undotted, hlower.fixed _ hstripped] at hpieces hencoded
    split at hencoded
    · -- a dot that is dropped does not come back
      rename_i hdot
      have hascii : IsAscii (PyString.dropLast (PyString.strip host)).toList := by
        intro c hc
        rw [PyString.dropLast, String.toList_ofList] at hc
        exact (hstripped c ((List.dropLast_sublist _).subset hc)).1
      have hlength := congrArg (fun s => s.toList.length) (henc.eq_of_ascii hascii hencoded)
      obtain ⟨front, hfront⟩ := List.getLast?_eq_some_iff.mp (endswith_dot_iff.mp hdot)
      have hle := length_strip_le host
      simp only [PyString.dropLast, String.toList_ofList, hfront, List.dropLast_concat,
        List.length_append, List.length_singleton] at hlength hle
      omega
    · rename_i hdot
      rw [if_neg hdot] at hpieces
      have hstrip := henc.eq_of_ascii hstripped.isAscii hencoded
      rw [← hstrip] at hpieces
      exact ⟨strip_eq_self_iff.mp hstrip.symm, hpieces⟩
  · rintro ⟨hascii, hstripped, hpieces⟩
    have hdot := endswith_dot_of_not_mem hpieces
    refine ⟨?_, hdot, hascii⟩
    have htext : undotted py host = host := by
      rw [undotted, strip_eq_self_iff.mpr hstripped, hlower.fixed host hascii]
      exact if_neg (by rw [hdot]; decide)
    rw [canonicalizeHost_ok_iff, htext]
    obtain ⟨encoded, hencoded⟩ := henc.accepts host hascii.isAscii fun label hlabel =>
      ⟨fun hnil => hpieces (hnil ▸ hlabel), henc.fitting text host h label hlabel⟩
    rw [hencoded, henc.eq_of_ascii hascii.isAscii hencoded]
    exact ⟨hpieces, rfl⟩

/-! ## The labels of a host -/

/-- The labels of a host whose encoding is canonical: none is empty, the encoding
    of one that is not in ASCII is in lower-case ASCII without an empty piece, and
    white space neither begins the first encoding nor ends the last. -/
structure EncodesCleanly (toAscii : List Char → List Char) (labels : List (List Char)) : Prop where
  nonempty : ∀ label ∈ labels, label ≠ []
  encoded : ∀ label ∈ labels, ¬ IsAscii label →
    IsLowerAscii (toAscii label) ∧ [] ∉ (toAscii label).splitOn '.'
  first : ∀ label, labels.head? = some label →
    ∀ c, (toAscii label).head? = some c → PyString.isspace c = false
  last : ∀ label, labels.getLast? = some label →
    ∀ c, (toAscii label).getLast? = some c → PyString.isspace c = false

/-- The encoding of a label is clean. -/
def IsCleanLabel (encoded : List Char) : Prop :=
  IsLowerAscii encoded ∧ [] ∉ encoded.splitOn '.'

theorem IsCleanLabel.ne_nil {encoded : List Char} (h : IsCleanLabel encoded) : encoded ≠ [] := by
  rintro rfl
  exact h.2 (by decide)

/-- Clean encodings make a clean host. -/
theorem joined_clean_iff {ps : List (List Char)} (hne : ps ≠ []) :
    IsLowerAscii (joined '.' ps) ∧ [] ∉ (joined '.' ps).splitOn '.' ↔ ∀ p ∈ ps, IsCleanLabel p := by
  rw [splitOn_joined_eq_flatMap hne]
  constructor
  · rintro ⟨hascii, hpieces⟩ p hp
    exact ⟨fun c hc => hascii c (mem_joined_of_mem hp hc), fun hnil =>
      hpieces (List.mem_flatMap.mpr ⟨p, hp, hnil⟩)⟩
  · intro hclean
    refine ⟨fun c hc => ?_, fun hnil => ?_⟩
    · rcases mem_joined hc with rfl | ⟨p, hp, hc⟩
      · decide
      · exact (hclean p hp).1 c hc
    · obtain ⟨p, hp, hnil⟩ := List.mem_flatMap.mp hnil
      exact (hclean p hp).2 hnil

/-- A label in ASCII that has gone through `lower()` is clean unless it is empty. -/
theorem isCleanLabel_iff {toAscii : List Char → List Char} {fits : List Char → Prop}
    {encodeIdna : String → Except String String} (henc : IsIdnaEncoder encodeIdna toAscii fits)
    {text : String} (hupper : ∀ c ∈ text.toList, c.isUpper = false) {label : List Char}
    (hlabel : label ∈ hostLabels text) :
    IsCleanLabel (toAscii label) ↔
      label ≠ [] ∧ (¬ IsAscii label → IsLowerAscii (toAscii label) ∧ [] ∉ (toAscii label).splitOn '.') := by
  by_cases hascii : IsAscii label
  · have hdots : '.' ∉ label := fun hdot => absurd (of_mem_splitOnP hlabel hdot).2 (by decide)
    rw [henc.ascii label hascii, IsCleanLabel, List.splitOn_eq_singleton hdots, List.mem_singleton]
    constructor
    · rintro ⟨-, hne⟩
      exact ⟨fun hnil => hne hnil.symm, fun h => absurd hascii h⟩
    · rintro ⟨hne, -⟩
      exact ⟨fun c hc => ⟨hascii c hc, hupper c (of_mem_splitOnP hlabel hc).1⟩,
        fun hnil => hne hnil.symm⟩
  · constructor
    · intro hclean
      refine ⟨?_, fun _ => hclean⟩
      rintro rfl
      exact hascii fun c hc => absurd hc List.not_mem_nil
    · rintro ⟨-, hclean⟩
      exact hclean hascii

/-- **LABELS**: the encoding of a lower-case host is clean and has nothing to strip
    exactly when its labels encode cleanly. -/
theorem encodesCleanly_iff {toAscii : List Char → List Char} {fits : List Char → Prop}
    {encodeIdna : String → Except String String} (henc : IsIdnaEncoder encodeIdna toAscii fits)
    {text host : String} (h : encodeIdna text = .ok host)
    (hupper : ∀ c ∈ text.toList, c.isUpper = false) :
    (IsLowerAscii host.toList ∧ IsStripped host.toList ∧ [] ∉ host.toList.splitOn '.') ↔
      EncodesCleanly toAscii (hostLabels text) := by
  have hne : hostLabels text ≠ [] := List.splitOnP_ne_nil _ _
  have hmap : (hostLabels text).map toAscii ≠ [] := fun hnil => hne (List.map_eq_nil_iff.mp hnil)
  have hlabels : (∀ p ∈ (hostLabels text).map toAscii, IsCleanLabel p) ↔
      ∀ label ∈ hostLabels text, label ≠ [] ∧ (¬ IsAscii label →
        IsLowerAscii (toAscii label) ∧ [] ∉ (toAscii label).splitOn '.') := by
    rw [List.forall_mem_map]
    exact forall₂_congr fun label hlabel => isCleanLabel_iff henc hupper hlabel
  -- the ends of the host are those of its first and last label
  have hfirst : ∀ label, (hostLabels text).head? = some label → toAscii label ≠ [] →
      host.toList.head? = (toAscii label).head? := by
    intro label hlabel hlabelne
    obtain ⟨rest, hrest⟩ := List.head?_eq_some_iff.mp hlabel
    rw [henc.encodes text host h, hrest, List.map_cons, head?_joined hlabelne]
  have hlast : ∀ label, (hostLabels text).getLast? = some label → toAscii label ≠ [] →
      host.toList.getLast? = (toAscii label).getLast? := by
    intro label hlabel hlabelne
    obtain ⟨front, hfront⟩ := List.getLast?_eq_some_iff.mp hlabel
    rw [henc.encodes text host h, hfront, List.map_append, List.map_singleton,
      getLast?_joined hlabelne]
  constructor
  · rintro ⟨hascii, hstripped, hpieces⟩
    rw [henc.encodes text host h] at hascii hpieces
    have hclean := (joined_clean_iff hmap).mp ⟨hascii, hpieces⟩
    have hencodes := hlabels.mp hclean
    have hencoded : ∀ label ∈ hostLabels text, toAscii label ≠ [] := fun label hlabel =>
      (hclean _ (List.mem_map_of_mem hlabel)).ne_nil
    refine ⟨fun label hlabel => (hencodes label hlabel).1,
      fun label hlabel => (hencodes label hlabel).2, fun label hlabel c hc => ?_,
      fun label hlabel c hc => ?_⟩
    · have hmem : label ∈ hostLabels text := List.mem_of_head? hlabel
      exact hstripped.first c ((hfirst label hlabel (hencoded label hmem)).trans hc)
    · have hmem : label ∈ hostLabels text := List.mem_of_getLast? hlabel
      exact hstripped.last c ((hlast label hlabel (hencoded label hmem)).trans hc)
  · intro hencodes
    have hclean := hlabels.mpr fun label hlabel =>
      ⟨hencodes.nonempty label hlabel, hencodes.encoded label hlabel⟩
    have hencoded : ∀ label ∈ hostLabels text, toAscii label ≠ [] := fun label hlabel =>
      (hclean _ (List.mem_map_of_mem hlabel)).ne_nil
    obtain ⟨hascii, hpieces⟩ := (joined_clean_iff hmap).mpr hclean
    rw [← henc.encodes text host h] at hascii hpieces
    refine ⟨hascii, ⟨fun c hc => ?_, fun c hc => ?_⟩, hpieces⟩
    · have hlabel := List.head?_eq_some_head hne
      rw [hfirst _ hlabel (hencoded _ (List.head_mem hne))] at hc
      exact hencodes.first _ hlabel c hc
    · have hlabel := List.getLast?_eq_some_getLast hne
      rw [hlast _ hlabel (hencoded _ (List.getLast_mem hne))] at hc
      exact hencodes.last _ hlabel c hc

/-! ## Destinations -/

/-- The hostname of a payload, as `urlsplit` reads it. -/
def hostnameOf (py : PyRuntime) (raw : String) : Option String :=
  (schemedCandidate py (PyString.strip raw)).toOption.bind fun candidate =>
    (py.urlsplit candidate).toOption.bind SplitResult.hostname

theorem DestinationParts.hostnameOf_eq {raw candidate : String} {parsed : SplitResult}
    {hostname : String} {port : Option Nat} {destination : CanonicalDestination}
    (h : DestinationParts py raw candidate parsed hostname port destination) :
    hostnameOf py raw = some hostname := by
  rw [hostnameOf, h.schemed]
  show (py.urlsplit candidate).toOption.bind _ = _
  rw [h.split]
  exact h.named

/-- The payload names a host whose labels, once it is in lower case and without
    its final dot, encode cleanly. -/
def NamesCleanHost (py : PyRuntime) (toAscii : List Char → List Char) (raw : String) : Prop :=
  ∃ hostname, hostnameOf py raw = some hostname ∧
    EncodesCleanly toAscii (hostLabels (undotted py hostname))

theorem not_upper_undotted (hlower : IsLower py.lower) (rawHost : String) :
    ∀ c ∈ (undotted py rawHost).toList, c.isUpper = false := by
  intro c hc
  rw [undotted] at hc
  split at hc
  · rw [PyString.dropLast, String.toList_ofList] at hc
    exact hlower.not_upper _ c ((List.dropLast_sublist _).subset hc)
  · exact hlower.not_upper _ c hc

/-- **CANONICAL HOSTS**: the canonical host of a payload is canonical exactly when
    the payload names a clean host. -/
theorem hostIsCanonical_iff {toAscii : List Char → List Char} {fits : List Char → Prop}
    (henc : IsIdnaEncoder py.encodeIdna toAscii fits) (hlower : IsLower py.lower) {raw : String}
    {destination : CanonicalDestination} (h : canonicalizeDestination py raw = .ok destination) :
    HostIsCanonical py destination.host ↔ NamesCleanHost py toAscii raw := by
  obtain ⟨candidate, parsed, hostname, port, hparts⟩ := exists_parts h
  obtain ⟨-, hencoded⟩ := canonicalizeHost_ok_iff.mp hparts.host
  rw [hostIsCanonical_encoded_iff henc hlower hencoded,
    encodesCleanly_iff henc hencoded (not_upper_undotted hlower hostname), NamesCleanHost,
    hparts.hostnameOf_eq]
  constructor
  · intro hclean
    exact ⟨hostname, rfl, hclean⟩
  · rintro ⟨hostname', hsame, hclean⟩
    obtain rfl := Option.some.inj hsame
    exact hclean

/-! ## A full stop at the end -/

/-- An encoder that knows ASCII labels only; the last label may be empty. -/
def encodeAsciiLabels (host : String) : Except String String :=
  let labels := hostLabels host
  if (∀ label ∈ labels, IsAscii label) ∧ ∀ label ∈ labels.dropLast, label ≠ [] then
    .ok (String.ofList (joined '.' labels))
  else .error "label empty or too long"

theorem isIdnaEncoder_encodeAsciiLabels :
    IsIdnaEncoder encodeAsciiLabels (fun label => label) fun _ => True where
  encodes := by
    intro host encoded h
    rw [encodeAsciiLabels] at h
    split at h
    · obtain rfl := Except.ok.inj h
      rw [String.toList_ofList, List.map_id']
    · cases h
  ascii := fun _ _ => rfl
  fitting := fun _ _ _ _ _ => trivial
  accepts := by
    intro host hascii hlabels
    refine ⟨_, if_pos ⟨fun label hlabel c hc => hascii c (of_mem_splitOnP hlabel hc).1, ?_⟩⟩
    intro label hlabel
    rw [hostLabels_of_ascii hascii] at hlabel
    exact (hlabels label ((List.dropLast_sublist _).subset hlabel)).1

/-- The lower case of an ASCII letter. -/
def lowerChar (c : Char) : Char := if c.isUpper then Char.ofNat (c.toNat + 32) else c

/-- `lower()` on ASCII. -/
def lowerAscii (s : String) : String := String.ofList (s.toList.map lowerChar)

theorem not_upper_lowerChar (c : Char) : (lowerChar c).isUpper = false := by
  rw [lowerChar]
  split
  · rename_i hupper
    have hletters : ∀ n : Fin 26, (Char.ofNat (n + 97)).isUpper = false := by decide
    simp only [Char.isUpper, decide_eq_true_eq] at hupper
    have hlow : 65 ≤ c.toNat := hupper.1
    have hhigh : c.toNat ≤ 90 := hupper.2
    have hletter := hletters ⟨c.toNat - 65, by omega⟩
    rwa [show c.toNat - 65 + 97 = c.toNat + 32 by omega] at hletter
  · exact Bool.eq_false_iff.mpr ‹_›

theorem isLower_lowerAscii : IsLower lowerAscii where
  fixed := by
    intro s h
    rw [← String.toList_inj, lowerAscii, String.toList_ofList]
    refine (List.map_congr_left fun c hc => ?_).trans (List.map_id _)
    exact if_neg (by rw [(h c hc).2]; decide)
  not_upper := by
    intro s c hc
    rw [lowerAscii, String.toList_ofList] at hc
    obtain ⟨d, -, rfl⟩ := List.mem_map.mp hc
    exact not_upper_lowerChar d

/-- A runtime that knows two URLs of a host. -/
def fullStopRuntime : PyRuntime where
  lower := lowerAscii
  repr := id
  reprList := fun _ => ""
  encodeIdna := encodeAsciiLabels
  urlsplit := fun url =>
    if url = "https://Acme.example。/" then
      .ok ⟨"https", none, none, some "acme.example。", .ok none, "/", ""⟩
    else if url = "https://Acme.example./" then
      .ok ⟨"https", none, none, some "acme.example.", .ok none, "/", ""⟩
    else .error ""
  urlparse := fun _ => .error ""
  isDigit := fun _ => false
  parseQsl := fun _ => []
  fromisoformat := fun _ => none
  loadsPemPublicKey := fun _ => true
  verifiesRsaPss := fun _ _ _ => true
  sha256 := id

/-- The host of `https://Acme.example。/` keeps a final dot; written with a plain
    one it does not. -/
theorem hostIsCanonical_ideographic_stop :
    ¬ ∀ (py : PyRuntime) (toAscii : List Char → List Char) (fits : List Char → Prop),
      IsIdnaEncoder py.encodeIdna toAscii fits → IsLower py.lower →
        ∀ raw destination, canonicalizeDestination py raw = .ok destination →
          HostIsCanonical py destination.host := by
  intro hclaim
  have hrun : (canonicalizeDestination fullStopRuntime "https://Acme.example。/").toOption =
      some ⟨"https", "acme.example.", none, "/", ""⟩ := by decide +kernel
  have hdot := (hclaim fullStopRuntime _ _ isIdnaEncoder_encodeAsciiLabels isLower_lowerAscii _ _
    (toOption_eq_some_iff.mp hrun)).noFinalDot
  exact absurd hdot (by decide)

theorem hostIsCanonical_iff_plain_dot :
    HostIsCanonical fullStopRuntime "acme.example" ↔
      NamesCleanHost fullStopRuntime (fun label => label) "https://Acme.example./" := by
  have hrun : (canonicalizeDestination fullStopRuntime "https://Acme.example./").toOption =
      some ⟨"https", "acme.example", none, "/", ""⟩ := by decide +kernel
  exact hostIsCanonical_iff isIdnaEncoder_encodeAsciiLabels isLower_lowerAscii
    (toOption_eq_some_iff.mp hrun)

end DestinationCanonicalization
