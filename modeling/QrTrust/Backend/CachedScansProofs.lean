import QrTrust.Backend.CachedScans
import Mathlib.Data.List.Induction
import Mathlib.Data.List.Range
import Mathlib.Tactic.Linarith

/-! # What the counters of cached scans count

    A bucket is kept for as long as one of its scans can lie in the baseline
    window, so that the buckets of a window hold every scan recorded in it
    (`Tallied`), and they reach back less than one bucket before it.  How long a
    bucket is counted is set by its first scan (`Dated`). -/

namespace CachedScans

open RateCounters

/-! ## Buckets -/

theorem truncate_mono {s t : ℚ} (h : s ≤ t) : truncate s ≤ truncate t := by
  rw [truncate, truncate]
  split
  · rename_i hs
    rw [if_pos (hs.trans h)]
    exact Int.floor_le_floor h
  · rename_i hs
    split
    · rename_i ht
      exact (Int.ceil_le.mpr (by simpa using (not_le.mp hs).le)).trans (Int.floor_nonneg.mpr ht)
    · exact Int.ceil_le_ceil h

theorem rateBucket_mono {s t : ℚ} (h : s ≤ t) : rateBucket s ≤ rateBucket t :=
  Int.ediv_le_ediv (by decide) (truncate_mono h)

/-- A time lies before the end of its bucket. -/
theorem lt_end (t : ℚ) : t < 60 * (rateBucket t + 1) := by
  have hbucket : truncate t + 1 ≤ 60 * (rateBucket t + 1) := by
    have hdiv := Int.emod_lt_of_pos (truncate t) (by decide : (0 : Int) < 60)
    have hsplit := Int.mul_ediv_add_emod (truncate t) 60
    rw [rateBucket]
    omega
  have htruncate : t < truncate t + 1 := by
    rw [truncate]
    split
    · exact Int.lt_floor_add_one t
    · exact (Int.le_ceil t).trans_lt (lt_add_one _)
  have hcast : (truncate t : ℚ) + 1 ≤ 60 * (rateBucket t + 1) := by exact_mod_cast hbucket
  linarith

/-- A time since the epoch lies after the start of its bucket. -/
theorem start_le {t : ℚ} (h : 0 ≤ t) : 60 * (rateBucket t : ℚ) ≤ t := by
  have hbucket : 60 * rateBucket t ≤ ⌊t⌋ := by
    have hdiv := Int.emod_nonneg (truncate t) (by decide : (60 : Int) ≠ 0)
    have hsplit := Int.mul_ediv_add_emod (truncate t) 60
    rw [rateBucket, ← show truncate t = ⌊t⌋ from if_pos h]
    omega
  exact_mod_cast Int.le_floor.mp hbucket

theorem mem_rateBuckets {since stop : ℚ} {bucket : Int} :
    bucket ∈ rateBuckets since stop ↔ rateBucket since ≤ bucket ∧ bucket ≤ rateBucket stop := by
  rw [rateBuckets]
  split
  · rename_i hempty
    constructor
    · intro h
      cases h
    · rintro ⟨hfirst, hlast⟩
      omega
  · rw [List.mem_map]
    constructor
    · rintro ⟨i, hi, rfl⟩
      have hrange := List.mem_range.mp hi
      omega
    · rintro ⟨hfirst, hlast⟩
      exact ⟨(bucket - rateBucket since).toNat, List.mem_range.mpr (by omega), by omega⟩

theorem rateBuckets_nodup (since stop : ℚ) : (rateBuckets since stop).Nodup := by
  rw [rateBuckets]
  split
  · exact List.nodup_nil
  · refine List.nodup_range.map fun i j h => ?_
    have hcast : (i : Int) = j := Int.add_left_cancel h
    exact_mod_cast hcast

/-! ## Tallies -/

/-- The scans of an envelope in a bucket. -/
def tally (scans : List CachedScan) (fingerprint : String) (bucket : Int) : Nat :=
  scans.countP fun scan => scan.fingerprint = fingerprint ∧ rateBucket scan.now = bucket

/-- The tallies of distinct buckets count the scans of all of them. -/
theorem sum_tally (scans : List CachedScan) (fingerprint : String) {buckets : List Int}
    (h : buckets.Nodup) :
    (buckets.map (tally scans fingerprint)).sum
      = scans.countP fun scan =>
          scan.fingerprint = fingerprint ∧ rateBucket scan.now ∈ buckets := by
  induction buckets with
  | nil => simp
  | cons bucket rest ih =>
      obtain ⟨hfresh, hrest⟩ := List.nodup_cons.mp h
      rw [List.map_cons, List.sum_cons, ih hrest, tally]
      -- scan by scan: a bucket among the rest is another one
      clear ih h hrest
      induction scans with
      | nil => rfl
      | cons scan scans ih =>
          rw [List.countP_cons, List.countP_cons, List.countP_cons, ← ih]
          by_cases hfingerprint : scan.fingerprint = fingerprint
          · by_cases hbucket : rateBucket scan.now = bucket
            · simp [hfingerprint, hbucket, hfresh]
              omega
            · simp [hfingerprint, hbucket]
              omega
          · simp [hfingerprint]

theorem tally_concat_self (scans : List CachedScan) (scan : CachedScan) :
    tally (scans ++ [scan]) scan.fingerprint (rateBucket scan.now)
      = tally scans scan.fingerprint (rateBucket scan.now) + 1 := by
  rw [tally, List.countP_append, List.countP_cons_of_pos (by simp), List.countP_nil]
  rfl

theorem tally_concat_of_ne (scans : List CachedScan) {scan : CachedScan} {fingerprint : String}
    {bucket : Int} (h : (fingerprint, bucket) ≠ (scan.fingerprint, rateBucket scan.now)) :
    tally (scans ++ [scan]) fingerprint bucket = tally scans fingerprint bucket := by
  rw [tally, List.countP_append, List.countP_cons_of_neg, List.countP_nil]
  · rfl
  · intro hboth
    obtain ⟨rfl, rfl⟩ := of_decide_eq_true hboth
    exact h rfl

/-- **TALLIED**: a count is the tally of its bucket, and is kept until no scan of the
    bucket lies in a baseline window; a bucket without one has no scan, or none in a
    window that is still to come. -/
structure Tallied (baselineSeconds : Nat) (scans : List CachedScan) (clock : ℚ)
    (rate : OrderedMap (String × Int) (ℚ × Nat)) : Prop where
  found : ∀ fingerprint bucket expiry count,
    rate.get? (fingerprint, bucket) = some (expiry, count) →
      count = tally scans fingerprint bucket ∧ 60 * ((bucket : ℚ) + 1) + baselineSeconds ≤ expiry
  missing : ∀ fingerprint bucket, rate.get? (fingerprint, bucket) = none →
    tally scans fingerprint bucket = 0 ∨ 60 * ((bucket : ℚ) + 1) + baselineSeconds ≤ clock

variable {baselineSeconds : Nat} {scans : List CachedScan} {clock now : ℚ}
  {counters : RateCounters}

/-- Pruning drops what nobody will ask for. -/
theorem Tallied.prune (h : Tallied baselineSeconds scans clock counters.rate)
    (hclock : clock ≤ now) : Tallied baselineSeconds scans now (counters.prune now).rate := by
  have hlater : Tallied baselineSeconds scans now counters.rate :=
    ⟨h.found, fun fingerprint bucket hnone =>
      (h.missing fingerprint bucket hnone).imp_right fun hend => hend.trans hclock⟩
  rw [RateCounters.prune]
  split
  · refine ⟨fun fingerprint bucket expiry count hget => ?_, fun fingerprint bucket hget => ?_⟩
    · rw [OrderedMap.get?_filter] at hget
      exact h.found _ _ _ _ (Option.filter_eq_some_iff.mp hget).1
    · rw [OrderedMap.get?_filter] at hget
      cases hentry : counters.rate.get? (fingerprint, bucket) with
      | none => exact hlater.missing _ _ hentry
      | some entry =>
          obtain ⟨expiry, count⟩ := entry
          rw [hentry, Option.filter_some] at hget
          right
          by_cases hlive : now < expiry
          · simp [hlive] at hget
          · exact (h.found _ _ _ _ hentry).2.trans (not_lt.mp hlive)
  · exact hlater

/-- One more scan, retained for the baseline and one bucket. -/
theorem Tallied.record (h : Tallied baselineSeconds scans clock counters.rate) {scan : CachedScan}
    (hclock : clock ≤ scan.now) (hretain : (baselineSeconds : Int) + 60 ≤ scan.retainSeconds) :
    Tallied baselineSeconds (scans ++ [scan]) scan.now (counters.recordCachedScan scan).rate := by
  have hpruned := h.prune hclock
  have hend := lt_end scan.now
  have hstart := start_le scan.since_epoch
  have hbaseline : (0 : ℚ) ≤ baselineSeconds := Nat.cast_nonneg _
  have hkeep : 60 * ((rateBucket scan.now : ℚ) + 1) + baselineSeconds
      ≤ scan.now + scan.retainSeconds := by
    have hcast : (baselineSeconds : ℚ) + 60 ≤ scan.retainSeconds := by exact_mod_cast hretain
    linarith
  -- the entry of the scan's bucket, whose end has not come yet
  have hself : ∀ expiry count,
      counted ((counters.prune scan.now).rate.get? (scan.fingerprint, rateBucket scan.now))
          scan.now scan.retainSeconds = (expiry, count) →
        count = tally (scans ++ [scan]) scan.fingerprint (rateBucket scan.now)
          ∧ 60 * ((rateBucket scan.now : ℚ) + 1) + baselineSeconds ≤ expiry := by
    intro expiry count hcounted
    rw [tally_concat_self]
    cases hentry : (counters.prune scan.now).rate.get?
        (scan.fingerprint, rateBucket scan.now) with
    | none =>
        rw [hentry] at hcounted
        obtain ⟨rfl, rfl⟩ := Prod.mk.inj hcounted
        rcases hpruned.missing _ _ hentry with hzero | hpast
        · exact ⟨by omega, hkeep⟩
        · linarith
    | some entry =>
        obtain ⟨expiry', count'⟩ := entry
        obtain ⟨hcount, hexpiry⟩ := hpruned.found _ _ _ _ hentry
        rw [hentry, counted, if_neg (by linarith)] at hcounted
        obtain ⟨rfl, rfl⟩ := Prod.mk.inj hcounted
        exact ⟨by omega, hexpiry⟩
  rw [recordCachedScan]
  refine ⟨fun fingerprint bucket expiry count hget => ?_, fun fingerprint bucket hget => ?_⟩
  · by_cases hkey : (fingerprint, bucket) = (scan.fingerprint, rateBucket scan.now)
    · obtain ⟨rfl, rfl⟩ := Prod.mk.inj hkey
      rw [OrderedMap.get?_set_self] at hget
      exact hself expiry count (Option.some.inj hget)
    · rw [OrderedMap.get?_set_ne _ _ hkey] at hget
      rw [tally_concat_of_ne scans hkey]
      exact hpruned.found _ _ _ _ hget
  · by_cases hkey : (fingerprint, bucket) = (scan.fingerprint, rateBucket scan.now)
    · rw [hkey, OrderedMap.get?_set_self] at hget
      cases hget
    · rw [OrderedMap.get?_set_ne _ _ hkey] at hget
      rw [tally_concat_of_ne scans hkey]
      exact hpruned.missing _ _ hget

/-- **EVERY RUN** is tallied. -/
theorem tallied_afterScans (hclock : (scans.map CachedScan.now).Pairwise (· ≤ ·))
    (hretain : ∀ scan ∈ scans, (baselineSeconds : Int) + 60 ≤ scan.retainSeconds)
    (hpast : ∀ scan ∈ scans, scan.now ≤ now) :
    Tallied baselineSeconds scans now (afterScans scans).rate := by
  induction scans using List.reverseRecOn generalizing now with
  | nil => exact ⟨(fun _ _ _ _ hget => nomatch hget), fun _ _ _ => .inl rfl⟩
  | append_singleton scans scan ih =>
      rw [List.map_append] at hclock
      obtain ⟨hfront, -, hlast⟩ := List.pairwise_append.mp hclock
      have hmem : scan ∈ scans ++ [scan] := List.mem_append_right _ (List.mem_singleton_self _)
      have htallied := @ih scan.now hfront
        (fun s hs => hretain s (List.mem_append_left _ hs))
        (fun s hs => hlast _ (List.mem_map_of_mem hs) _ (List.mem_singleton_self _))
      have hrecord := htallied.record (le_refl _) (hretain scan hmem)
      rw [afterScans, List.foldl_append]
      exact ⟨hrecord.found, fun fingerprint bucket hnone =>
        (hrecord.missing fingerprint bucket hnone).imp_right fun hend => hend.trans (hpast _ hmem)⟩

/-! ## The window -/

/-- The buckets of a baseline window hold the scans of the envelope in them. -/
theorem cachedScanCount_eq (h : Tallied baselineSeconds scans now counters.rate)
    (fingerprint : String) :
    counters.cachedScanCount fingerprint (now - baselineSeconds) now now
      = scans.countP fun scan => scan.fingerprint = fingerprint
          ∧ rateBucket scan.now ∈ rateBuckets (now - baselineSeconds) now := by
  rw [cachedScanCount, ← sum_tally scans fingerprint (rateBuckets_nodup _ _)]
  congr 1
  refine List.map_congr_left fun bucket hbucket => ?_
  -- a bucket of the window ends after its start, so its count has not expired
  obtain ⟨hfirst, -⟩ := mem_rateBuckets.mp hbucket
  have hstart := lt_end (now - baselineSeconds)
  have hcast : (rateBucket (now - baselineSeconds) : ℚ) ≤ bucket := by exact_mod_cast hfirst
  cases hentry : counters.rate.get? (fingerprint, bucket) with
  | none =>
      rcases h.missing _ _ hentry with hzero | hpast
      · exact hzero.symm
      · linarith
  | some entry =>
      obtain ⟨expiry, count⟩ := entry
      obtain ⟨hcount, hexpiry⟩ := h.found _ _ _ _ hentry
      rw [liveCount, if_pos (by linarith)]
      exact hcount

theorem filter_sublist_filter {α : Type} {p q : α → Bool} (l : List α)
    (h : ∀ a ∈ l, p a = true → q a = true) : (l.filter p).Sublist (l.filter q) := by
  have hsame : l.filter p = (l.filter q).filter p := by
    rw [List.filter_filter]
    refine List.filter_congr fun a ha => ?_
    cases hp : p a with
    | false => rfl
    | true => rw [h a ha hp]; rfl
  rw [hsame]
  exact List.filter_sublist

/-- **NOTHING LOST**: after any run under a clock that never goes back, each scan
    retained for the baseline and one bucket more, the count of a baseline window
    that ends now is the number of scans of the envelope that hold all those
    recorded in the window, and none that is a bucket older. -/
theorem cachedScanCount_window (scans : List CachedScan) (baselineSeconds : Nat) (now : ℚ)
    (fingerprint : String)
    (hclock : (scans.map CachedScan.now ++ [now]).Pairwise (· ≤ ·))
    (hretain : ∀ scan ∈ scans, (baselineSeconds : Int) + 60 ≤ scan.retainSeconds) :
    ∃ counted : List CachedScan,
      (afterScans scans).cachedScanCount fingerprint (now - baselineSeconds) now now
          = counted.length
        ∧ (scans.filter fun scan => scan.fingerprint = fingerprint
            ∧ now - baselineSeconds ≤ scan.now).Sublist counted
        ∧ counted.Sublist (scans.filter fun scan => scan.fingerprint = fingerprint)
        ∧ ∀ scan ∈ counted, now - baselineSeconds - 60 < scan.now := by
  obtain ⟨hfront, -, hlast⟩ := List.pairwise_append.mp hclock
  have hpast : ∀ scan ∈ scans, scan.now ≤ now := fun scan hscan =>
    hlast _ (List.mem_map_of_mem hscan) _ (List.mem_singleton_self _)
  have htallied := tallied_afterScans hfront hretain hpast
  refine ⟨scans.filter fun scan => scan.fingerprint = fingerprint
    ∧ rateBucket scan.now ∈ rateBuckets (now - baselineSeconds) now, ?_, ?_, ?_, ?_⟩
  · rw [cachedScanCount_eq htallied, List.countP_eq_length_filter]
  · refine filter_sublist_filter scans fun scan hscan hwindow => ?_
    obtain ⟨hfingerprint, hsince⟩ := of_decide_eq_true hwindow
    exact decide_eq_true ⟨hfingerprint, mem_rateBuckets.mpr
      ⟨rateBucket_mono hsince, rateBucket_mono (hpast scan hscan)⟩⟩
  · refine filter_sublist_filter scans fun scan _ hcounted => ?_
    exact decide_eq_true (of_decide_eq_true hcounted).1
  · intro scan hcounted
    obtain ⟨-, hbucket⟩ := of_decide_eq_true (List.mem_filter.mp hcounted).2
    have hcast : (rateBucket (now - baselineSeconds) : ℚ) ≤ rateBucket scan.now := by
      exact_mod_cast (mem_rateBuckets.mp hbucket).1
    have hend := lt_end (now - baselineSeconds)
    have hstart := start_le scan.since_epoch
    linarith

/-- A run that prunes: two scans of a minute, one long after, and the baseline of
    two minutes around them. -/
def sampleScans : List CachedScan :=
  [⟨"code", 50, 180, by decide +kernel⟩, ⟨"code", 59, 180, by decide +kernel⟩,
    ⟨"code", 130, 180, by decide +kernel⟩, ⟨"code", 175, 180, by decide +kernel⟩]

theorem cachedScanCount_window_sample : ∃ counted : List CachedScan,
    (afterScans sampleScans).cachedScanCount "code" (178 - (120 : Nat)) 178 178 = counted.length
      ∧ (sampleScans.filter fun scan => scan.fingerprint = "code"
          ∧ 178 - ((120 : Nat) : ℚ) ≤ scan.now).Sublist counted
      ∧ counted.Sublist (sampleScans.filter fun scan => scan.fingerprint = "code")
      ∧ ∀ scan ∈ counted, 178 - ((120 : Nat) : ℚ) - 60 < scan.now :=
  cachedScanCount_window sampleScans 120 178 "code" (by decide +kernel) (by decide +kernel)

/-- The two scans of the first minute are counted, though only one is in the window. -/
example : (afterScans sampleScans).cachedScanCount "code" (178 - 120) 178 178 = 4 := by
  decide +kernel

/-! ## How long a bucket is counted -/

/-- When the first scan of an envelope in a bucket was recorded. -/
def opening (scans : List CachedScan) (fingerprint : String) (bucket : Int) : Option ℚ :=
  (scans.find? fun scan => scan.fingerprint = fingerprint ∧ rateBucket scan.now = bucket).map
    CachedScan.now

theorem opening_eq_none_iff {scans : List CachedScan} {fingerprint : String} {bucket : Int} :
    opening scans fingerprint bucket = none ↔ tally scans fingerprint bucket = 0 := by
  rw [opening, tally, Option.map_eq_none_iff, List.find?_eq_none, List.countP_eq_zero]

theorem opening_spec {scans : List CachedScan} {fingerprint : String} {bucket : Int} {t : ℚ}
    (h : opening scans fingerprint bucket = some t) : 0 ≤ t ∧ rateBucket t = bucket := by
  obtain ⟨scan, hfind, rfl⟩ := Option.map_eq_some_iff.mp h
  have hscan := List.find?_some hfind
  exact ⟨scan.since_epoch, (of_decide_eq_true hscan).2⟩

theorem opening_concat_self (scans : List CachedScan) (scan : CachedScan) :
    opening (scans ++ [scan]) scan.fingerprint (rateBucket scan.now)
      = some ((opening scans scan.fingerprint (rateBucket scan.now)).getD scan.now) := by
  rw [opening, opening, List.find?_append, List.find?_cons_of_pos (by simp)]
  cases scans.find? fun other => other.fingerprint = scan.fingerprint
      ∧ rateBucket other.now = rateBucket scan.now with
  | none => rfl
  | some first => rfl

theorem opening_concat_of_ne (scans : List CachedScan) {scan : CachedScan} {fingerprint : String}
    {bucket : Int} (h : (fingerprint, bucket) ≠ (scan.fingerprint, rateBucket scan.now)) :
    opening (scans ++ [scan]) fingerprint bucket = opening scans fingerprint bucket := by
  have hother : ¬ (scan.fingerprint = fingerprint ∧ rateBucket scan.now = bucket) := by
    rintro ⟨rfl, rfl⟩
    exact h rfl
  rw [opening, List.find?_append, List.find?_cons_of_neg (by simpa using hother),
    List.find?_nil, Option.or_none]
  rfl

/-- Within its bucket the clock is less than a minute past the first scan. -/
theorem lt_opening_add {scans : List CachedScan} {fingerprint : String} {t now : ℚ}
    (h : opening scans fingerprint (rateBucket now) = some t) : now < t + 60 := by
  obtain ⟨hepoch, hbucket⟩ := opening_spec h
  have hend := lt_end now
  have hstart := start_le hepoch
  rw [hbucket] at hstart
  linarith

/-- **DATED**: where all scans are retained for the same time, a count is the tally of
    its bucket and expires that time after the first scan; a bucket without one has
    no scan, or has expired. -/
structure Dated (retainSeconds : Int) (scans : List CachedScan) (clock : ℚ)
    (rate : OrderedMap (String × Int) (ℚ × Nat)) : Prop where
  found : ∀ fingerprint bucket expiry count,
    rate.get? (fingerprint, bucket) = some (expiry, count) →
      count = tally scans fingerprint bucket
        ∧ ∃ t, opening scans fingerprint bucket = some t ∧ expiry = t + retainSeconds
  missing : ∀ fingerprint bucket, rate.get? (fingerprint, bucket) = none →
    ∀ t, opening scans fingerprint bucket = some t → t + retainSeconds ≤ clock

variable {retainSeconds : Int}

theorem Dated.prune (h : Dated retainSeconds scans clock counters.rate) (hclock : clock ≤ now) :
    Dated retainSeconds scans now (counters.prune now).rate := by
  have hlater : Dated retainSeconds scans now counters.rate :=
    ⟨h.found, fun fingerprint bucket hnone t ht =>
      (h.missing fingerprint bucket hnone t ht).trans hclock⟩
  rw [RateCounters.prune]
  split
  · refine ⟨fun fingerprint bucket expiry count hget => ?_, fun fingerprint bucket hget t ht => ?_⟩
    · rw [OrderedMap.get?_filter] at hget
      exact h.found _ _ _ _ (Option.filter_eq_some_iff.mp hget).1
    · rw [OrderedMap.get?_filter] at hget
      cases hentry : counters.rate.get? (fingerprint, bucket) with
      | none => exact hlater.missing _ _ hentry t ht
      | some entry =>
          obtain ⟨expiry, count⟩ := entry
          rw [hentry, Option.filter_some] at hget
          by_cases hlive : now < expiry
          · simp [hlive] at hget
          · obtain ⟨-, t', ht', rfl⟩ := h.found _ _ _ _ hentry
            obtain rfl := Option.some.inj (ht.symm.trans ht')
            exact not_lt.mp hlive
  · exact hlater

/-- One more scan, retained for a minute at least. -/
theorem Dated.record (h : Dated retainSeconds scans clock counters.rate) {scan : CachedScan}
    (hclock : clock ≤ scan.now) (hretain : scan.retainSeconds = retainSeconds)
    (hminute : 60 ≤ retainSeconds) :
    Dated retainSeconds (scans ++ [scan]) scan.now (counters.recordCachedScan scan).rate := by
  have hpruned := h.prune hclock
  have hcast : (60 : ℚ) ≤ retainSeconds := by exact_mod_cast hminute
  -- the entry of the scan's bucket: a first scan in it has not expired yet
  have hself : ∀ expiry count,
      counted ((counters.prune scan.now).rate.get? (scan.fingerprint, rateBucket scan.now))
          scan.now scan.retainSeconds = (expiry, count) →
        count = tally (scans ++ [scan]) scan.fingerprint (rateBucket scan.now)
          ∧ ∃ t, opening (scans ++ [scan]) scan.fingerprint (rateBucket scan.now) = some t
            ∧ expiry = t + retainSeconds := by
    intro expiry count hcounted
    rw [tally_concat_self, opening_concat_self]
    cases hentry : (counters.prune scan.now).rate.get?
        (scan.fingerprint, rateBucket scan.now) with
    | none =>
        rw [hentry] at hcounted
        obtain ⟨rfl, rfl⟩ := Prod.mk.inj hcounted
        cases hopening : opening scans scan.fingerprint (rateBucket scan.now) with
        | none =>
            rw [opening_eq_none_iff.mp hopening, hretain]
            exact ⟨rfl, scan.now, rfl, rfl⟩
        | some t =>
            have hpast := hpruned.missing _ _ hentry t hopening
            have hnear := lt_opening_add hopening
            linarith
    | some entry =>
        obtain ⟨expiry', count'⟩ := entry
        obtain ⟨hcount, t, hopening, rfl⟩ := hpruned.found _ _ _ _ hentry
        have hnear := lt_opening_add hopening
        rw [hentry, counted, if_neg (by linarith)] at hcounted
        obtain ⟨rfl, rfl⟩ := Prod.mk.inj hcounted
        rw [hcount, hopening]
        exact ⟨rfl, t, rfl, rfl⟩
  rw [recordCachedScan]
  refine ⟨fun fingerprint bucket expiry count hget => ?_, fun fingerprint bucket hget t ht => ?_⟩
  · by_cases hkey : (fingerprint, bucket) = (scan.fingerprint, rateBucket scan.now)
    · obtain ⟨rfl, rfl⟩ := Prod.mk.inj hkey
      rw [OrderedMap.get?_set_self] at hget
      exact hself expiry count (Option.some.inj hget)
    · rw [OrderedMap.get?_set_ne _ _ hkey] at hget
      rw [tally_concat_of_ne scans hkey, opening_concat_of_ne scans hkey]
      exact hpruned.found _ _ _ _ hget
  · by_cases hkey : (fingerprint, bucket) = (scan.fingerprint, rateBucket scan.now)
    · rw [hkey, OrderedMap.get?_set_self] at hget
      cases hget
    · rw [OrderedMap.get?_set_ne _ _ hkey] at hget
      rw [opening_concat_of_ne scans hkey] at ht
      exact hpruned.missing _ _ hget t ht

/-- **EVERY RUN** is dated. -/
theorem dated_afterScans (hclock : (scans.map CachedScan.now).Pairwise (· ≤ ·))
    (hretain : ∀ scan ∈ scans, scan.retainSeconds = retainSeconds) (hminute : 60 ≤ retainSeconds)
    (hpast : ∀ scan ∈ scans, scan.now ≤ now) :
    Dated retainSeconds scans now (afterScans scans).rate := by
  induction scans using List.reverseRecOn generalizing now with
  | nil => exact ⟨(fun _ _ _ _ hget => nomatch hget), (fun _ _ _ _ ht => nomatch ht)⟩
  | append_singleton scans scan ih =>
      rw [List.map_append] at hclock
      obtain ⟨hfront, -, hlast⟩ := List.pairwise_append.mp hclock
      have hmem : scan ∈ scans ++ [scan] := List.mem_append_right _ (List.mem_singleton_self _)
      have hdated := @ih scan.now hfront
        (fun s hs => hretain s (List.mem_append_left _ hs))
        (fun s hs => hlast _ (List.mem_map_of_mem hs) _ (List.mem_singleton_self _))
      have hrecord := hdated.record (le_refl _) (hretain scan hmem) hminute
      rw [afterScans, List.foldl_append]
      exact ⟨hrecord.found, fun fingerprint bucket hnone t ht =>
        (hrecord.missing fingerprint bucket hnone t ht).trans (hpast _ hmem)⟩

/-- The bucket is still counted: its first scan is retained. -/
def isHeld (retainSeconds : Int) (scans : List CachedScan) (now : ℚ) (fingerprint : String)
    (bucket : Int) : Bool :=
  (opening scans fingerprint bucket).any fun t => now < t + retainSeconds

/-- **HELD**: what is counted are the scans in the buckets of the window that are
    still held. -/
theorem cachedScanCount_held (h : Dated retainSeconds scans now counters.rate)
    (fingerprint : String) (since stop : ℚ) :
    counters.cachedScanCount fingerprint since stop now
      = scans.countP fun scan => scan.fingerprint = fingerprint
          ∧ rateBucket scan.now ∈ (rateBuckets since stop).filter
            (isHeld retainSeconds scans now fingerprint) := by
  rw [cachedScanCount, ← sum_tally scans fingerprint ((rateBuckets_nodup since stop).filter _)]
  have hlive : ∀ bucket, liveCount (counters.rate.get? (fingerprint, bucket)) now
      = if isHeld retainSeconds scans now fingerprint bucket then tally scans fingerprint bucket
        else 0 := by
    intro bucket
    rw [isHeld]
    cases hentry : counters.rate.get? (fingerprint, bucket) with
    | none =>
        cases hopening : opening scans fingerprint bucket with
        | none => rfl
        | some t =>
            have hpast := h.missing _ _ hentry t hopening
            rw [Option.any_some, if_neg (by simpa using hpast)]
            rfl
    | some entry =>
        obtain ⟨expiry, count⟩ := entry
        obtain ⟨rfl, t, hopening, rfl⟩ := h.found _ _ _ _ hentry
        rw [hopening, Option.any_some, liveCount]
        simp only [decide_eq_true_eq]
  induction rateBuckets since stop with
  | nil => rfl
  | cons bucket rest ih =>
      rw [List.map_cons, List.sum_cons, ih, hlive bucket, List.filter_cons]
      split
      · rw [List.map_cons, List.sum_cons]
      · rw [Nat.zero_add]

end CachedScans
