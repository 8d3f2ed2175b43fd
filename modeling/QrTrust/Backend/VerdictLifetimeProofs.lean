import QrTrust.Backend.VerdictCache
import Mathlib.Data.Int.Order.Basic
import Mathlib.Algebra.Order.Group.Int

/-! # How long a verdict is stored

    `_verdict_cache_ttl_seconds` counts the whole seconds up to a boundary, and
    takes a boundary with none left for one that is past.  So the TTL stops
    before every boundary that is a second away or more, and runs over one that
    is closer (`ttl_clamped_iff`). -/

namespace VerdictLifetime

open VerdictCache

variable (py : PyRuntime)

/-! ## Whole seconds -/

/-- The instant of a boundary; a naive one is in UTC. -/
def instantOf (boundary : Datetime) : Int := boundary.withUtc.instant

/-- There are seconds left exactly from one second away on. -/
theorem secondsUntil_pos_iff {now : Int} {boundary : Datetime} :
    0 < secondsUntil now boundary ↔ now + 1000000 ≤ instantOf boundary := by
  show 0 < (instantOf boundary - now).tdiv 1000000 ↔ _
  rcases le_total 0 (instantOf boundary - now) with hahead | hbehind
  · rw [Int.tdiv_eq_ediv_of_nonneg hahead]
    omega
  · have hmirrored : 0 ≤ (-(instantOf boundary - now)).tdiv 1000000 :=
      Int.tdiv_nonneg (by omega) (by omega)
    rw [Int.neg_tdiv] at hmirrored
    constructor
    · intro hpos
      omega
    · intro hfar
      omega

/-- The seconds counted to a boundary end before it. -/
theorem secondsUntil_le {now : Int} {boundary : Datetime} (h : now ≤ instantOf boundary) :
    secondsUntil now boundary * 1000000 ≤ instantOf boundary - now := by
  show (instantOf boundary - now).tdiv 1000000 * 1000000 ≤ _
  have hahead : 0 ≤ instantOf boundary - now := by omega
  rw [Int.tdiv_eq_ediv_of_nonneg hahead]
  omega

/-! ## The running minimum -/

/-- **MINIMUM**: the clamped TTL is the greatest one within the starting TTL and
    within every boundary that has seconds left. -/
theorem le_foldl_clampToBoundary_iff {now ttl bound : Int} {boundaries : List (Option Datetime)} :
    bound ≤ boundaries.foldl (clampToBoundary now) ttl ↔
      bound ≤ ttl ∧ ∀ boundary, some boundary ∈ boundaries → 0 < secondsUntil now boundary →
        bound ≤ secondsUntil now boundary := by
  induction boundaries generalizing ttl with
  | nil => exact ⟨fun h => ⟨h, fun _ hmem => absurd hmem List.not_mem_nil⟩, fun h => h.1⟩
  | cons hd rest ih =>
      rw [List.foldl_cons, ih]
      cases hd with
      | none =>
          show bound ≤ ttl ∧ _ ↔ _
          simp
      | some boundary =>
          by_cases hleft : 0 < secondsUntil now boundary
          · rw [clampToBoundary, if_pos hleft, le_min_iff]
            constructor
            · rintro ⟨⟨httl, hboundary⟩, hrest⟩
              refine ⟨httl, fun other hmem hother => ?_⟩
              rcases List.mem_cons.mp hmem with heq | hmem
              · obtain rfl := Option.some.inj heq
                exact hboundary
              · exact hrest other hmem hother
            · rintro ⟨httl, hall⟩
              exact ⟨⟨httl, hall boundary (List.mem_cons_self ..) hleft⟩,
                fun other hmem => hall other (List.mem_cons_of_mem _ hmem)⟩
          · rw [clampToBoundary, if_neg hleft]
            constructor
            · rintro ⟨httl, hrest⟩
              refine ⟨httl, fun other hmem hother => ?_⟩
              rcases List.mem_cons.mp hmem with heq | hmem
              · obtain rfl := Option.some.inj heq
                exact absurd hother hleft
              · exact hrest other hmem hother
            · rintro ⟨httl, hall⟩
              exact ⟨httl, fun other hmem => hall other (List.mem_cons_of_mem _ hmem)⟩

/-! ## The lifetime and its boundaries -/

/-- The end of the claims, where it can be read. -/
def claimsEnd (expiresAt : Option String) : Option Datetime :=
  expiresAt.bind fun text => py.fromisoformat (replaceZulu text)

/-- The verdict is not to be cached: the cache is off, or the claims end within a
    second, or no end can be read. -/
def Uncacheable (config : BackendConfig) (now : Int) (expiresAt : Option String) : Prop :=
  config.verifierVerdictCacheTtlSeconds ≤ 0
    ∨ ∃ text, expiresAt = some text ∧ ∀ expiry, py.fromisoformat (replaceZulu text) = some expiry →
        instantOf expiry < now + 1000000

/-- A TTL stays within the configured one and before every boundary ahead: no
    boundary lies in it. -/
structure Clamped (config : BackendConfig) (now : Int) (boundaries : List Datetime)
    (ttl : Int) : Prop where
  configured : ttl ≤ config.verifierVerdictCacheTtlSeconds
  ahead : ∀ boundary ∈ boundaries, now < instantOf boundary →
    ttl * 1000000 ≤ instantOf boundary - now
  clear : 0 < ttl → ∀ boundary ∈ boundaries,
    ¬ (now < instantOf boundary ∧ instantOf boundary < now + ttl * 1000000)

/-- The boundaries of a verdict: the end of the claims and those consulted. -/
def boundariesOf (expiresAt : Option String) (consulted : List (Option Datetime)) :
    List Datetime :=
  (claimsEnd py expiresAt).toList ++ consulted.filterMap id

theorem mem_boundariesOf {expiresAt : Option String} {consulted : List (Option Datetime)}
    {boundary : Datetime} :
    boundary ∈ boundariesOf py expiresAt consulted
      ↔ claimsEnd py expiresAt = some boundary ∨ some boundary ∈ consulted := by
  simp [boundariesOf]

/-- A positive lifetime is the configured one, clamped to the end of the claims. -/
theorem clampToExpiry_pos {now ttl : Int} {expiresAt : Option String}
    (h : 0 < clampToExpiry py now ttl expiresAt) :
    0 < ttl ∧ clampToExpiry py now ttl expiresAt ≤ ttl
      ∧ (∀ text, expiresAt = some text → ∃ expiry, py.fromisoformat (replaceZulu text) = some expiry
          ∧ now + 1000000 ≤ instantOf expiry
          ∧ clampToExpiry py now ttl expiresAt ≤ secondsUntil now expiry) := by
  cases expiresAt with
  | none => exact ⟨h, le_refl ttl, fun text htext => by cases htext⟩
  | some text =>
      rw [clampToExpiry] at h ⊢
      cases hexpiry : py.fromisoformat (replaceZulu text) with
      | none => rw [hexpiry] at h; exact absurd h (lt_irrefl 0)
      | some expiry =>
          rw [hexpiry] at h
          dsimp only at h ⊢
          by_cases hover : secondsUntil now expiry ≤ 0
          · rw [if_pos hover] at h
            exact absurd h (lt_irrefl 0)
          · rw [if_neg hover] at h ⊢
            refine ⟨lt_of_lt_of_le h (min_le_left _ _), min_le_left _ _, fun text' htext => ?_⟩
            obtain rfl := Option.some.inj htext
            exact ⟨expiry, hexpiry, secondsUntil_pos_iff.mp (not_le.mp hover), min_le_right _ _⟩

/-- The lifetime the end of the claims leaves is none exactly where the verdict is
    not to be cached. -/
theorem clampToExpiry_pos_iff {config : BackendConfig} {now : Int} {expiresAt : Option String} :
    (0 < config.verifierVerdictCacheTtlSeconds
        ∧ 0 < clampToExpiry py now config.verifierVerdictCacheTtlSeconds expiresAt)
      ↔ ¬ Uncacheable py config now expiresAt := by
  constructor
  · rintro ⟨hon, hpos⟩ (hoff | ⟨text, htext, hsoon⟩)
    · omega
    · obtain ⟨expiry, hexpiry, hfar, -⟩ := (clampToExpiry_pos py hpos).2.2 text htext
      have := hsoon expiry hexpiry
      omega
  · intro hcacheable
    have hon : 0 < config.verifierVerdictCacheTtlSeconds :=
      not_le.mp fun hoff => hcacheable (.inl hoff)
    refine ⟨hon, ?_⟩
    cases expiresAt with
    | none => exact hon
    | some text =>
        cases hexpiry : py.fromisoformat (replaceZulu text) with
        | none =>
            exact absurd (.inr ⟨text, rfl, fun expiry h => by rw [hexpiry] at h; cases h⟩)
              hcacheable
        | some expiry =>
            have hleft : 0 < secondsUntil now expiry := by
              rw [secondsUntil_pos_iff]
              by_contra hsoon
              refine hcacheable (.inr ⟨text, rfl, fun other hother => ?_⟩)
              obtain rfl := Option.some.inj (hexpiry.symm.trans hother)
              omega
            rw [clampToExpiry, hexpiry]
            dsimp only
            rw [if_neg (not_le.mpr hleft)]
            exact lt_min hon hleft

/-- A verdict that is not to be cached has no lifetime. -/
theorem ttl_of_uncacheable {config : BackendConfig} {now : Int} {expiresAt : Option String}
    (consulted : List (Option Datetime)) (h : Uncacheable py config now expiresAt) :
    verdictCacheTtlSeconds py config now expiresAt consulted = 0 := by
  rw [verdictCacheTtlSeconds]
  by_cases hon : config.verifierVerdictCacheTtlSeconds ≤ 0
  · rw [if_pos hon]
  · rw [if_neg hon]
    show ite _ _ _ = _
    rw [if_pos]
    by_contra hpos
    exact (clampToExpiry_pos_iff py).mp ⟨not_le.mp hon, not_le.mp hpos⟩ h

/-- **LIFETIME**: of a verdict to be cached, the greatest TTL within what the
    claims leave and within every consulted boundary that has seconds left. -/
theorem le_ttl_iff {config : BackendConfig} {now : Int} {expiresAt : Option String}
    (consulted : List (Option Datetime)) (h : ¬ Uncacheable py config now expiresAt)
    (bound : Int) :
    bound ≤ verdictCacheTtlSeconds py config now expiresAt consulted ↔
      bound ≤ clampToExpiry py now config.verifierVerdictCacheTtlSeconds expiresAt
        ∧ ∀ boundary, some boundary ∈ consulted → 0 < secondsUntil now boundary →
            bound ≤ secondsUntil now boundary := by
  obtain ⟨hon, hpos⟩ := (clampToExpiry_pos_iff py).mpr h
  rw [verdictCacheTtlSeconds, if_neg (not_le.mpr hon)]
  show bound ≤ ite _ _ _ ↔ _
  rw [if_neg (not_le.mpr hpos), le_foldl_clampToBoundary_iff]

/-- A verdict to be cached is cached for a second at least. -/
theorem ttl_pos {config : BackendConfig} {now : Int} {expiresAt : Option String}
    (consulted : List (Option Datetime)) (h : ¬ Uncacheable py config now expiresAt) :
    0 < verdictCacheTtlSeconds py config now expiresAt consulted := by
  have hone := (le_ttl_iff py consulted h 1).mpr
    ⟨((clampToExpiry_pos_iff py).mpr h).2, fun boundary _ hleft => hleft⟩
  omega

/-- **TTL CLAMP**: the TTL stays within the configured one and before every
    boundary ahead exactly where the configured TTL is not negative and, if the
    verdict is to be cached at all, no consulted boundary is less than a second
    ahead. -/
theorem ttl_clamped_iff (config : BackendConfig) (now : Int) (expiresAt : Option String)
    (consulted : List (Option Datetime)) :
    Clamped config now (boundariesOf py expiresAt consulted)
        (verdictCacheTtlSeconds py config now expiresAt consulted)
      ↔ 0 ≤ config.verifierVerdictCacheTtlSeconds
        ∧ (Uncacheable py config now expiresAt
          ∨ ∀ boundary, some boundary ∈ consulted →
              ¬ (now < instantOf boundary ∧ instantOf boundary < now + 1000000)) := by
  by_cases hoff : Uncacheable py config now expiresAt
  · rw [ttl_of_uncacheable py consulted hoff]
    constructor
    · intro hclamped
      exact ⟨hclamped.configured, .inl hoff⟩
    · rintro ⟨hconfigured, -⟩
      refine ⟨hconfigured, fun boundary _ hahead => ?_, fun hpos => absurd hpos (lt_irrefl 0)⟩
      omega
  · have hpos := ttl_pos py consulted hoff
    obtain ⟨hon, hclaims⟩ := (clampToExpiry_pos_iff py).mpr hoff
    obtain ⟨hbase, hconsulted⟩ := (le_ttl_iff py consulted hoff _).mp (le_refl _)
    obtain ⟨-, hconfigured, hexpiry⟩ := clampToExpiry_pos py hclaims
    constructor
    · intro hclamped
      refine ⟨le_of_lt hon, .inr ?_⟩
      rintro boundary hmem ⟨hahead, hsoon⟩
      -- a whole second does not fit before the boundary
      have hfit := hclamped.ahead boundary ((mem_boundariesOf py).mpr (.inr hmem)) hahead
      omega
    · rintro ⟨-, huncacheable | hfar⟩
      · exact absurd huncacheable hoff
      have hbefore : ∀ boundary ∈ boundariesOf py expiresAt consulted,
          now < instantOf boundary →
            verdictCacheTtlSeconds py config now expiresAt consulted * 1000000
              ≤ instantOf boundary - now := by
        intro boundary hmem hahead
        have hcounted : verdictCacheTtlSeconds py config now expiresAt consulted
            ≤ secondsUntil now boundary := by
          rcases (mem_boundariesOf py).mp hmem with hend | hmem
          · obtain ⟨text, htext, hparsed⟩ := Option.bind_eq_some_iff.mp hend
            obtain ⟨expiry, hexpiry, -, hle⟩ := hexpiry text htext
            obtain rfl := Option.some.inj (hexpiry.symm.trans hparsed)
            exact le_trans hbase hle
          · refine hconsulted boundary hmem (secondsUntil_pos_iff.mpr ?_)
            have hnear := hfar boundary hmem
            omega
        have hwhole := secondsUntil_le (le_of_lt hahead)
        omega
      refine ⟨le_trans hbase hconfigured, hbefore, ?_⟩
      rintro - boundary hmem ⟨hahead, hwithin⟩
      have := hbefore boundary hmem hahead
      omega

/-- Half a second before a domain proof expires, a verdict under it is stored for
    the configured half minute. -/
theorem ttl_over_close_boundary :
    ¬ ∀ (py : PyRuntime) (config : BackendConfig) (now : Int) (expiresAt : Option String)
        (consulted : List (Option Datetime)),
      Clamped config now (boundariesOf py expiresAt consulted)
        (verdictCacheTtlSeconds py config now expiresAt consulted) := by
  intro h
  have hclamped := h
    ⟨id, id, fun _ => "", .ok, fun _ => .error "", fun _ => .error "", fun _ => false,
      fun _ => [], fun _ => none, fun _ => true, fun _ _ _ => true, id⟩
    ⟨"", 0, 30⟩ 63902822400000000 none [some (.utc 63902822400500000)]
  have hahead := hclamped.ahead (.utc 63902822400500000) (by decide) (by decide)
  revert hahead
  decide

end VerdictLifetime
