import QrTrust.Backend.FormQuery
import QrTrust.Backend.HostCanonicalizationProofs
import QrTrust.Backend.PayloadRevalidation

/-! # Query keys and the allow-list

    Percent normalization respells a query and leaves its keys as they are
    (`formKeys_normalized`).  A rule compares what stands before the first equals
    sign of a decoded key, so `a%3Db`, the key `a=b`, passes for `a`; and an
    allow-list of blank entries is no allow-list.  `acceptsListedKeys_iff` says
    where a rule accepts listed keys only. -/

namespace FormQuery

open DestinationCanonicalization

/-- The second text is the first with some escapes decoded and others in upper
    case. -/
inductive Respelled : List Char → List Char → Prop where
  | nil : Respelled [] []
  | plain {c : Char} {a b : List Char} (hc : c ≠ '%') (h : Respelled a b) :
      Respelled (c :: a) (c :: b)
  | decoded {high low : Char} {h l : Nat} {a b : List Char} (hh : hexValue high = some h)
      (hl : hexValue low = some l) (hun : isUnreserved (Char.ofNat (16 * h + l)) = true)
      (hrest : Respelled a b) : Respelled ('%' :: high :: low :: a) (Char.ofNat (16 * h + l) :: b)
  | kept {high low : Char} {h l : Nat} {a b : List Char} (hh : hexValue high = some h)
      (hl : hexValue low = some l) (hrest : Respelled a b) :
      Respelled ('%' :: high :: low :: a) ('%' :: upperHexDigit h :: upperHexDigit l :: b)

/-- Normalization respells. -/
theorem respelled_of_normalizeFrom {index : Nat} {text result : List Char}
    (h : normalizePercentEncodingFrom index text = .ok result) : Respelled text result := by
  fun_induction normalizePercentEncodingFrom index text generalizing result with
  | case1 =>
      obtain rfl := Except.ok.inj h
      exact .nil
  | case2 => cases h
  | case3 index high low tail h' l hlow hhigh value hvalue decoded piece =>
      rename_i ih
      obtain ⟨rest, hrest, rfl⟩ := map_eq_ok h
      by_cases hun : isUnreserved decoded = true
      · simp only [piece, if_pos hun]
        exact .decoded hhigh hlow hun (ih hrest)
      · simp only [piece, if_neg hun]
        exact .kept hhigh hlow (ih hrest)
  | case4 => injection h
  | case5 => injection h
  | case6 index c rest hc ih =>
      obtain ⟨normalized, hrest, rfl⟩ := map_eq_ok h
      exact .plain hc (ih hrest)

/-- A separator is neither a hexadecimal digit, unreserved nor the percent sign. -/
structure IsSeparator (x : Char) : Prop where
  notHex : hexValue x = none
  reserved : isUnreserved x = false
  notPercent : x ≠ '%'

theorem IsSeparator.ne_of_hexValue {x c : Char} {h : Nat} (hx : IsSeparator x)
    (hc : hexValue c = some h) : c ≠ x := by
  rintro rfl
  rw [hx.notHex] at hc
  cases hc

theorem IsSeparator.ne_of_unreserved {x c : Char} (hx : IsSeparator x)
    (hc : isUnreserved c = true) : c ≠ x := by
  rintro rfl
  rw [hx.reserved] at hc
  cases hc

theorem isSeparator_ampersand : IsSeparator '&' := ⟨by decide, by decide, by decide⟩

theorem isSeparator_equals : IsSeparator '=' := ⟨by decide, by decide, by decide⟩

theorem isSeparator_plus : IsSeparator '+' := ⟨by decide, by decide, by decide⟩

theorem splitOn_cons_ne {x c : Char} (hc : c ≠ x) (l : List Char) :
    (c :: l).splitOn x = (l.splitOn x).modifyHead (List.cons c) := by
  rw [List.splitOn_cons_eq_if_modifyHead, if_neg (by simpa using hc)]

theorem hexValue_upperHexDigit_of_eq {c : Char} {h : Nat} (hc : hexValue c = some h) :
    hexValue (upperHexDigit h) = some h :=
  hexValue_upperHexDigit (hexValue_lt hc)

/-- Pieces between separators are respelled one by one. -/
theorem Respelled.splitOn {x : Char} (hx : IsSeparator x) {a b : List Char} (h : Respelled a b) :
    List.Forall₂ Respelled (a.splitOn x) (b.splitOn x) := by
  have hhead : ∀ {ps qs : List (List Char)} {f g : List Char → List Char},
      (∀ p q, Respelled p q → Respelled (f p) (g q)) → List.Forall₂ Respelled ps qs →
        List.Forall₂ Respelled (ps.modifyHead f) (qs.modifyHead g) := by
    intro ps qs f g hfg hall
    cases hall with
    | nil => exact .nil
    | cons hfirst hrest => exact .cons (hfg _ _ hfirst) hrest
  induction h with
  | nil => exact .cons .nil .nil
  | @plain c a b hc _ ih =>
      by_cases heq : c = x
      · subst heq
        rw [Separated.splitOn_cons_self, Separated.splitOn_cons_self]
        exact .cons .nil ih
      · rw [splitOn_cons_ne heq, splitOn_cons_ne heq]
        exact hhead (fun p q hpq => .plain hc hpq) ih
  | decoded hh hl hun _ ih =>
      rw [splitOn_cons_ne (Ne.symm hx.notPercent), splitOn_cons_ne (hx.ne_of_hexValue hh),
        splitOn_cons_ne (hx.ne_of_hexValue hl), splitOn_cons_ne (hx.ne_of_unreserved hun),
        List.modifyHead_modifyHead, List.modifyHead_modifyHead]
      exact hhead (fun p q hpq => .decoded hh hl hun hpq) ih
  | kept hh hl _ ih =>
      rw [splitOn_cons_ne (Ne.symm hx.notPercent), splitOn_cons_ne (hx.ne_of_hexValue hh),
        splitOn_cons_ne (hx.ne_of_hexValue hl), splitOn_cons_ne (Ne.symm hx.notPercent),
        splitOn_cons_ne (hx.ne_of_hexValue (hexValue_upperHexDigit_of_eq hh)),
        splitOn_cons_ne (hx.ne_of_hexValue (hexValue_upperHexDigit_of_eq hl)),
        List.modifyHead_modifyHead, List.modifyHead_modifyHead, List.modifyHead_modifyHead,
        List.modifyHead_modifyHead]
      exact hhead (fun p q hpq => .kept hh hl hpq) ih

/-- The key of a respelled pair is respelled. -/
theorem Respelled.takeWhile {x : Char} (hx : IsSeparator x) {a b : List Char}
    (h : Respelled a b) : Respelled (a.takeWhile (· ≠ x)) (b.takeWhile (· ≠ x)) := by
  have hpass : ∀ {c : Char} {l : List Char}, c ≠ x →
      (c :: l).takeWhile (· ≠ x) = c :: l.takeWhile (· ≠ x) := fun hc =>
    List.takeWhile_cons_of_pos (by simpa using hc)
  induction h with
  | nil => exact .nil
  | @plain c a b hc _ ih =>
      by_cases heq : c = x
      · rw [List.takeWhile_cons_of_neg (by simpa using heq),
          List.takeWhile_cons_of_neg (by simpa using heq)]
        exact .nil
      · rw [hpass heq, hpass heq]
        exact .plain hc ih
  | decoded hh hl hun _ ih =>
      rw [hpass (Ne.symm hx.notPercent), hpass (hx.ne_of_hexValue hh), hpass (hx.ne_of_hexValue hl),
        hpass (hx.ne_of_unreserved hun)]
      exact .decoded hh hl hun ih
  | kept hh hl _ ih =>
      rw [hpass (Ne.symm hx.notPercent), hpass (hx.ne_of_hexValue hh), hpass (hx.ne_of_hexValue hl),
        hpass (Ne.symm hx.notPercent),
        hpass (hx.ne_of_hexValue (hexValue_upperHexDigit_of_eq hh)),
        hpass (hx.ne_of_hexValue (hexValue_upperHexDigit_of_eq hl))]
      exact .kept hh hl ih

theorem Respelled.nil_iff {a b : List Char} (h : Respelled a b) : a = [] ↔ b = [] := by
  cases h with
  | nil => exact Iff.rfl
  | plain => exact ⟨fun h => absurd h (List.cons_ne_nil _ _), fun h => absurd h (List.cons_ne_nil _ _)⟩
  | decoded => exact ⟨fun h => absurd h (List.cons_ne_nil _ _), fun h => absurd h (List.cons_ne_nil _ _)⟩
  | kept => exact ⟨fun h => absurd h (List.cons_ne_nil _ _), fun h => absurd h (List.cons_ne_nil _ _)⟩

/-! ## Octets -/

theorem octets_cons_ne {c : Char} (hc : c ≠ '%') (rest : List Char) :
    octets (c :: rest) = (if c.toNat < 128 then .inl c.toNat else .inr c) :: octets rest := by
  rw [octets]
  exact fun _ _ _ hpercent _ => hc hpercent

theorem octets_escape {high low : Char} {h l : Nat} (hh : hexValue high = some h)
    (hl : hexValue low = some l) (rest : List Char) :
    octets ('%' :: high :: low :: rest) = .inl (16 * h + l) :: octets rest := by
  simp only [octets, hh, hl]

theorem toNat_lt_of_unreserved {c : Char} (h : isUnreserved c = true) : c.toNat < 128 := by
  simp only [isUnreserved, Char.isAlphanum, Char.isAlpha, Char.isUpper, Char.isLower, Char.isDigit,
    Bool.or_eq_true, Bool.and_eq_true, decide_eq_true_eq, List.mem_cons, List.not_mem_nil,
    or_false] at h
  have hcode : ∀ n : UInt32, c.val ≤ n → c.toNat ≤ n.toNat := fun n hn => hn
  rcases h with ((h | h) | h) | rfl | rfl | rfl | rfl
  · exact Nat.lt_of_le_of_lt (hcode _ h.2) (by decide)
  · exact Nat.lt_of_le_of_lt (hcode _ h.2) (by decide)
  · exact Nat.lt_of_le_of_lt (hcode _ h.2) (by decide)
  all_goals decide

/-- Respelling keeps the octets a text stands for, also where a plus is a space. -/
theorem Respelled.octets_eq {a b : List Char} (h : Respelled a b) :
    octets (plusToSpace a) = octets (plusToSpace b) := by
  have hspace : ∀ {c : Char} {l : List Char}, c ≠ '+' →
      plusToSpace (c :: l) = c :: plusToSpace l := fun hc => by
    rw [plusToSpace, List.map_cons, if_neg hc]
    rfl
  have hhex : ∀ {c : Char} {n : Nat} {l : List Char}, hexValue c = some n →
      plusToSpace (c :: l) = c :: plusToSpace l := fun hc =>
    hspace (isSeparator_plus.ne_of_hexValue hc)
  induction h with
  | nil => rfl
  | @plain c a b hc _ ih =>
      have hne : (if c = '+' then ' ' else c) ≠ '%' := by
        split
        · decide
        · exact hc
      rw [plusToSpace, plusToSpace, List.map_cons, List.map_cons, octets_cons_ne hne,
        octets_cons_ne hne]
      exact congrArg _ ih
  | @decoded high low h l a b hh hl hun _ ih =>
      have hcodes : ∀ n : Fin 256, (Char.ofNat n).toNat = n.val := by decide +kernel
      have hcode : (Char.ofNat (16 * h + l)).toNat = 16 * h + l :=
        hcodes ⟨16 * h + l, by have hh' := hexValue_lt hh; have hl' := hexValue_lt hl; omega⟩
      have hpercent : Char.ofNat (16 * h + l) ≠ '%' := ne_percent_of_unreserved hun
      rw [hspace (by decide), hhex hh, hhex hl, octets_escape hh hl,
        hspace (isSeparator_plus.ne_of_unreserved hun), octets_cons_ne hpercent,
        if_pos (toNat_lt_of_unreserved hun), hcode, ih]
  | kept hh hl _ ih =>
      rw [hspace (by decide), hhex hh, hhex hl, octets_escape hh hl, hspace (by decide),
        hhex (hexValue_upperHexDigit_of_eq hh), hhex (hexValue_upperHexDigit_of_eq hl),
        octets_escape (hexValue_upperHexDigit_of_eq hh) (hexValue_upperHexDigit_of_eq hl), ih]

/-! ## The keys of a query -/

variable {decode : List Nat → List Char}

theorem decodeRuns_octets (hdecode : DecodesAscii decode) {text : List Char} (h : '%' ∉ text)
    {run : List Nat} (hrun : ∀ octet ∈ run, octet < 128) :
    decodeRuns decode run (octets text) = run.map Char.ofNat ++ text := by
  induction text generalizing run with
  | nil =>
      rw [List.append_nil]
      exact hdecode run hrun
  | cons c text ih =>
      obtain ⟨hc, htext⟩ := not_or.mp (List.mem_cons.not.mp h)
      rw [octets_cons_ne (Ne.symm hc)]
      by_cases hascii : c.toNat < 128
      · have hrun' : ∀ octet ∈ run ++ [c.toNat], octet < 128 := by
          intro octet hoctet
          rcases List.mem_append.mp hoctet with hoctet | hoctet
          · exact hrun octet hoctet
          · rwa [List.mem_singleton.mp hoctet]
        rw [if_pos hascii, decodeRuns, ih htext hrun', List.map_append, List.map_singleton,
          Char.ofNat_toNat, List.append_assoc, List.singleton_append]
      · rw [if_neg hascii, decodeRuns, hdecode run hrun,
          ih htext fun octet hoctet => absurd hoctet List.not_mem_nil]
        rfl

/-- The shortcut for a text without escapes makes no difference. -/
theorem unquote_eq (hdecode : DecodesAscii decode) (text : List Char) :
    unquote decode text = decodeRuns decode [] (octets text) := by
  rw [unquote]
  split
  · rfl
  · rename_i h
    rw [decodeRuns_octets hdecode h fun octet hoctet => absurd hoctet List.not_mem_nil]
    rfl

/-- The key of a pair. -/
def pairKey (decode : List Nat → List Char) (pair : List Char) : String :=
  String.ofList (unquote decode (plusToSpace (pair.takeWhile (· ≠ '='))))

theorem formKeys_eq (query : String) :
    formKeys decode query = ((query.toList.splitOn '&').filter (· ≠ [])).map (pairKey decode) := by
  rw [formKeys, parseQsl, List.map_map]
  rfl

theorem Respelled.pairKey_eq (hdecode : DecodesAscii decode) {a b : List Char}
    (h : Respelled a b) : pairKey decode a = pairKey decode b := by
  rw [pairKey, pairKey, unquote_eq hdecode, unquote_eq hdecode,
    (h.takeWhile isSeparator_equals).octets_eq]

/-- **SAME KEYS**: percent normalization leaves the keys of a query as they are. -/
theorem formKeys_normalized (hdecode : DecodesAscii decode) {query normalized : String}
    (h : normalizePercentEncoding query = .ok normalized) :
    formKeys decode normalized = formKeys decode query := by
  have hpieces := (respelled_of_normalizeFrom (normalizePercentEncoding_ok_iff.mp h)).splitOn
    isSeparator_ampersand
  rw [formKeys_eq, formKeys_eq]
  generalize query.toList.splitOn '&' = pairs at hpieces ⊢
  generalize normalized.toList.splitOn '&' = respelled at hpieces ⊢
  induction hpieces with
  | nil => rfl
  | @cons pair _ _ _ hpair _ ih =>
      rw [List.filter_cons, List.filter_cons]
      by_cases hne : pair = []
      · rw [if_neg (by simpa using hpair.nil_iff.mp hne), if_neg (by simpa using hne), ih]
      · rw [if_pos (by simpa using fun hnil => hne (hpair.nil_iff.mpr hnil)),
          if_pos (by simpa using hne), List.map_cons, List.map_cons, ih,
          hpair.pairKey_eq hdecode]

end FormQuery

namespace PayloadRevalidation

open DestinationCanonicalization Fallible FormQuery

variable {py : PyRuntime}

/-! ## The checks of a rule -/

/-- The query keys of a destination, each once. -/
def queryKeys (py : PyRuntime) (destination : CanonicalDestination) : List String :=
  ((py.parseQsl destination.query).map Prod.fst).eraseDups

/-- The entries of the allow-list that count. -/
def allowedQueryKeys (rule : List (String × PyJson)) : List String :=
  (PyJson.get rule "allowed_query_keys").stringList

/-- A destination passes the checks of a rule but for that of the allow-list. -/
structure PassesOtherChecks (py : PyRuntime) (destination : CanonicalDestination)
    (rule : List (String × PyJson)) : Prop where
  scheme : destination.scheme ∈ allowedSchemes rule
  port : ∃ ports, (PyJson.get rule "allowed_ports").iterOrEmpty = .ok ports ∧
    ∀ port, destination.port = some port → (ports.filter PyJson.isInt).any (·.eqInt port) = true
  path : ∃ inside, anyPrefixMatches destination.path (PyJson.get rule "path_prefixes").stringList
      = .ok inside ∧ ((PyJson.get rule "path_prefixes").stringList = [] ∨ inside = true)
  query : (PyJson.get rule "query_policy").asStr = some "none" → queryKeys py destination = []

/-- The allow-list lets a destination pass: it has no entry that counts, or the
    name of every key is one. -/
def PassesAllowList (py : PyRuntime) (destination : CanonicalDestination)
    (rule : List (String × PyJson)) : Prop :=
  allowedQueryKeys rule = [] ∨
    ∀ key ∈ queryKeys py destination, queryKeyName key ∈ allowedQueryKeys rule

theorem queryReason_eq_none_iff {destination : CanonicalDestination}
    {rule : List (String × PyJson)} :
    queryReason py destination rule = none ↔
      ((PyJson.get rule "query_policy").asStr = some "none" → queryKeys py destination = []) ∧
        PassesAllowList py destination rule := by
  rw [queryReason, PassesAllowList, queryKeys, allowedQueryKeys]
  generalize ((py.parseQsl destination.query).map Prod.fst).eraseDups = keys
  generalize (PyJson.get rule "allowed_query_keys").stringList = listed
  by_cases hquery : (PyJson.get rule "query_policy").asStr = some "none" ∧ keys ≠ []
  · rw [if_pos hquery]
    exact ⟨fun h => (nomatch h), fun h => absurd (h.1 hquery.1) hquery.2⟩
  · rw [if_neg hquery]
    have hnone : (PyJson.get rule "query_policy").asStr = some "none" → keys = [] :=
      fun h => by_contra fun hne => hquery ⟨h, hne⟩
    by_cases hoff : listed ≠ [] ∧ (keys.any fun key => queryKeyName key ∉ listed) = true
    · rw [if_pos hoff]
      refine ⟨fun h => (nomatch h), fun h => ?_⟩
      obtain ⟨key, hkey, hname⟩ := List.any_eq_true.mp hoff.2
      rcases h.2 with hnil | hall
      · exact absurd hnil hoff.1
      · exact absurd (hall key hkey) (of_decide_eq_true hname)
    · rw [if_neg hoff]
      refine ⟨fun _ => ⟨hnone, ?_⟩, fun _ => rfl⟩
      by_cases hnil : listed = []
      · exact .inl hnil
      · refine .inr fun key hkey => by_contra fun hname => hoff ⟨hnil, ?_⟩
        exact List.any_eq_true.mpr ⟨key, hkey, decide_eq_true hname⟩

/-- **ACCEPTED**: a rule accepts what passes its checks. -/
theorem policyRuleReason_eq_none_iff {destination : CanonicalDestination}
    {rule : List (String × PyJson)} :
    policyRuleReason py destination rule = .ok none ↔
      PassesOtherChecks py destination rule ∧ PassesAllowList py destination rule := by
  rw [policyRuleReason]
  constructor
  · intro h
    dsimp only at h
    split at h
    · cases h
    rename_i hscheme
    obtain ⟨ports, hports, h⟩ := bind_eq_ok_iff.mp h
    split at h
    · cases h
    rename_i hport
    obtain ⟨inside, hinside, h⟩ := bind_eq_ok_iff.mp h
    split at h
    · cases h
    rename_i hpath
    obtain ⟨hquery, hlist⟩ := queryReason_eq_none_iff.mp (Except.ok.inj h)
    refine ⟨⟨not_not.mp hscheme, ⟨ports, hports, fun port hsome => ?_⟩, ⟨inside, hinside, ?_⟩,
      hquery⟩, hlist⟩
    · rw [hsome] at hport
      change Option.filter _ (some (port : Int)) = none at hport
      rw [Option.filter_some] at hport
      split at hport
      · cases hport
      · rename_i hlisted
        simpa using hlisted
    · by_contra hneither
      obtain ⟨hne, hout⟩ := not_or.mp hneither
      exact hpath ⟨hne, by simpa using hout⟩
  · rintro ⟨hother, hlist⟩
    obtain ⟨ports, hports, hport⟩ := hother.port
    obtain ⟨inside, hinside, hpath⟩ := hother.path
    dsimp only
    rw [if_neg (not_not.mpr hother.scheme)]
    refine bind_eq_ok_iff.mpr ⟨ports, hports, ?_⟩
    have hnone : (Option.filter (fun port => !(ports.filter PyJson.isInt).any (·.eqInt port))
        (do let a ← destination.port; pure (a : Int))) = none := by
      cases hsome : destination.port with
      | none => rfl
      | some port =>
          change Option.filter _ (some (port : Int)) = none
          rw [Option.filter_some, hport port hsome]
          rfl
    rw [hnone]
    refine bind_eq_ok_iff.mpr ⟨inside, hinside, ?_⟩
    rw [if_neg]
    · exact congrArg Except.ok (queryReason_eq_none_iff.mpr ⟨hother.query, hlist⟩)
    · rintro ⟨hne, hout⟩
      rcases hpath with hnil | htrue
      · exact hne hnil
      · rw [htrue] at hout
        cases hout

/-! ## Listed keys -/

/-- The query of a payload, as `urlsplit` reads it. -/
def queryOf (py : PyRuntime) (raw : String) : String :=
  ((schemedCandidate py (PyString.strip raw)).toOption.bind fun candidate =>
    (py.urlsplit candidate).toOption.map SplitResult.query).getD ""

/-- The key is an entry of the allow-list of the rule. -/
def Lists (rule : List (String × PyJson)) (key : String) : Prop :=
  ∃ items, PyJson.get rule "allowed_query_keys" = .list items ∧ PyJson.str key ∈ items

/-- The rule accepts the destination of the payload only if every key a server
    reads in the query of the payload is listed. -/
def AcceptsListedKeys (py : PyRuntime) (decode : List Nat → List Char) (raw : String)
    (destination : CanonicalDestination) (rule : List (String × PyJson)) : Prop :=
  policyRuleReason py destination rule = .ok none →
    ∀ key ∈ formKeys decode (queryOf py raw), Lists rule key

/-- No key slips past the allow-list: if no entry counts, every key is listed all
    the same; and if the names of all keys are entries that count, every key with an
    equals sign in it is listed itself. -/
structure NoneSlipsPast (keys : List String) (rule : List (String × PyJson)) : Prop where
  blank : allowedQueryKeys rule = [] → ∀ key ∈ keys, Lists rule key
  named : (∀ key ∈ keys, queryKeyName key ∈ allowedQueryKeys rule) →
    ∀ key ∈ keys, '=' ∈ key.toList → Lists rule key

theorem lists_of_mem_allowedQueryKeys {rule : List (String × PyJson)} {key : String}
    (h : key ∈ allowedQueryKeys rule) : Lists rule key := by
  rw [allowedQueryKeys] at h
  cases hvalue : PyJson.get rule "allowed_query_keys" with
  | list items =>
      rw [hvalue] at h
      obtain ⟨item, hitem, hstr⟩ := List.mem_filterMap.mp (List.mem_of_mem_filter h)
      cases item with
      | str text =>
          obtain rfl := Option.some.inj hstr
          exact ⟨items, hvalue, hitem⟩
      | _ => cases hstr
  | _ =>
      rw [hvalue] at h
      exact absurd h List.not_mem_nil

theorem queryKeyName_of_not_mem {key : String} (h : '=' ∉ key.toList) : queryKeyName key = key := by
  have hall : key.toList.takeWhile (· ≠ '=') = key.toList :=
    List.takeWhile_eq_self_iff.mpr fun c hc => by
      simpa using fun heq : c = '=' => h (heq ▸ hc)
  rw [queryKeyName, hall, String.ofList_toList]

/-- The keys of the canonical query are those a server reads. -/
theorem mem_queryKeys_iff {decode : List Nat → List Char} (hdecode : DecodesAscii decode)
    (hqsl : py.parseQsl = parseQsl decode) {raw : String} {destination : CanonicalDestination}
    (h : canonicalizeDestination py raw = .ok destination) {key : String} :
    key ∈ queryKeys py destination ↔ key ∈ formKeys decode (queryOf py raw) := by
  obtain ⟨candidate, parsed, hostname, port, hparts⟩ := exists_parts h
  have hquery : queryOf py raw = parsed.query := by
    rw [queryOf, hparts.schemed]
    show ((py.urlsplit candidate).toOption.map SplitResult.query).getD "" = _
    rw [hparts.split]
    rfl
  rw [hquery, ← formKeys_normalized hdecode hparts.query, queryKeys, hqsl, List.mem_eraseDups,
    formKeys]

/-- **LISTED KEYS**: a rule accepts a payload only with listed keys exactly where
    its other checks fail or no key slips past the allow-list. -/
theorem acceptsListedKeys_iff {decode : List Nat → List Char} (hdecode : DecodesAscii decode)
    (hqsl : py.parseQsl = parseQsl decode) {raw : String} {destination : CanonicalDestination}
    (h : canonicalizeDestination py raw = .ok destination) (rule : List (String × PyJson)) :
    AcceptsListedKeys py decode raw destination rule ↔
      (PassesOtherChecks py destination rule →
        NoneSlipsPast (formKeys decode (queryOf py raw)) rule) := by
  have hkeys : ∀ key, key ∈ queryKeys py destination ↔ key ∈ formKeys decode (queryOf py raw) :=
    fun key => mem_queryKeys_iff hdecode hqsl h
  rw [AcceptsListedKeys, policyRuleReason_eq_none_iff]
  constructor
  · intro haccepts hother
    refine ⟨fun hnil => haccepts ⟨hother, .inl hnil⟩, fun hnamed key hkey _ => ?_⟩
    exact haccepts ⟨hother, .inr fun key hkey => hnamed key ((hkeys key).mp hkey)⟩ key hkey
  · rintro hslips ⟨hother, hlist⟩ key hkey
    obtain ⟨hblank, hnamed⟩ := hslips hother
    rcases hlist with hnil | hall
    · exact hblank hnil key hkey
    · by_cases hequals : '=' ∈ key.toList
      · exact hnamed (fun key hkey => hall key ((hkeys key).mpr hkey)) key hkey hequals
      · -- without an equals sign the name is the key
        have hname := hall key ((hkeys key).mpr hkey)
        rw [queryKeyName_of_not_mem hequals] at hname
        exact lists_of_mem_allowedQueryKeys hname

/-! ## An escaped equals sign -/

/-- A decoder that knows ASCII. -/
def decodeAscii (run : List Nat) : List Char := run.map Char.ofNat

/-- A runtime that knows one URL with an escaped equals sign in a key. -/
def queryRuntime : PyRuntime :=
  { fullStopRuntime with
    urlsplit := fun url =>
      if url = "https://acme.example/?a%3Db=1" then
        .ok ⟨"https", none, none, some "acme.example", .ok none, "/", "a%3Db=1"⟩
      else .error ""
    parseQsl := parseQsl decodeAscii }

/-- A rule that lists the key `a`. -/
def listsA : List (String × PyJson) := [("allowed_query_keys", .list [.str "a"])]

theorem canonicalize_escaped_equals :
    canonicalizeDestination queryRuntime "https://acme.example/?a%3Db=1" =
      .ok ⟨"https", "acme.example", none, "/", "a%3Db=1"⟩ := by
  decide +kernel

/-- The rule accepts the URL, and the server reads the key `a=b`. -/
theorem acceptsListedKeys_escaped_equals :
    ¬ AcceptsListedKeys queryRuntime decodeAscii "https://acme.example/?a%3Db=1"
        ⟨"https", "acme.example", none, "/", "a%3Db=1"⟩ listsA := by
  intro haccepts
  have hrun : (policyRuleReason queryRuntime ⟨"https", "acme.example", none, "/", "a%3Db=1"⟩
        listsA).toOption = some none
      ∧ formKeys decodeAscii (queryOf queryRuntime "https://acme.example/?a%3Db=1") = ["a=b"] := by
    decide +kernel
  have hlisted := haccepts (toOption_eq_some_iff.mp hrun.1) "a=b"
    (hrun.2 ▸ List.mem_singleton_self _)
  obtain ⟨items, hitems, hmem⟩ := hlisted
  obtain rfl := PyJson.list.inj hitems
  exact absurd (PyJson.str.inj (List.mem_singleton.mp hmem)) (by decide)

theorem acceptsListedKeys_iff_escaped_equals :
    AcceptsListedKeys queryRuntime decodeAscii "https://acme.example/?a%3Db=1"
        ⟨"https", "acme.example", none, "/", "a%3Db=1"⟩ listsA ↔
      (PassesOtherChecks queryRuntime ⟨"https", "acme.example", none, "/", "a%3Db=1"⟩ listsA →
        NoneSlipsPast (formKeys decodeAscii (queryOf queryRuntime "https://acme.example/?a%3Db=1"))
          listsA) :=
  acceptsListedKeys_iff (fun _ _ => rfl) rfl canonicalize_escaped_equals listsA

end PayloadRevalidation
