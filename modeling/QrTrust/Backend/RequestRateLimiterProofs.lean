import QrTrust.Backend.RequestRateLimiter
import Mathlib.Tactic.Linarith

/-! # The laws of the rate limiter

    Under a clock that never goes back the bucket of a key is the end of the log
    of its allowed checks, and that log is spaced (`kept`).  From this: the bound
    in every window, what a denied check says, and what `remaining` counts. -/

namespace RequestRateLimiter

open SpacedLog

variable {budgets : String → Budget} {calls before : List Call} {key : String} {now : ℚ}

/-! ## One call -/

theorem checkKey_eq (records : Records) (key : String) (now : ℚ) :
    checkKey budgets records key now
      = ((checkBucket (bucketOf records key) (budgets key).limit (budgets key).windowSeconds now).1,
        records.set key
          (checkBucket (bucketOf records key) (budgets key).limit
            (budgets key).windowSeconds now).2) := by
  have hpos : ¬ (budgets key).limit ≤ 0 := by
    have hlimit := (budgets key).limit_pos
    omega
  rw [checkKey, check, if_neg hpos]

theorem bucketOf_set_self (records : Records) (key : String) (bucket : List ℚ) :
    bucketOf (records.set key bucket) key = bucket := by
  rw [bucketOf, OrderedMap.get?_set_self, Option.getD_some]

/-- A call leaves the buckets of other keys. -/
theorem bucketOf_call_of_ne (records : Records) {c : Call} (h : key ≠ c.key) :
    bucketOf (call budgets records c).2 key = bucketOf records key := by
  cases c with
  | remaining key' now => rfl
  | check key' now =>
      have hne : key ≠ key' := h
      rw [call, checkKey_eq]
      dsimp only
      rw [bucketOf, OrderedMap.get?_set_ne _ _ hne]
      rfl

theorem bucketOf_call_check (records : Records) (key : String) (now : ℚ) :
    bucketOf (call budgets records (.check key now)).2 key
      = (checkBucket (bucketOf records key) (budgets key).limit
          (budgets key).windowSeconds now).2 := by
  rw [call, checkKey_eq, bucketOf_set_self]

theorem checkBucket_full {bucket : List ℚ} {limit windowSeconds : Int}
    (h : limit ≤ (since (now - windowSeconds) bucket).length) :
    checkBucket bucket limit windowSeconds now
      = (⟨false, some (max 1 ⌈windowSeconds
            - (now - (since (now - windowSeconds) bucket).headD now)⌉)⟩,
        since (now - windowSeconds) bucket) :=
  if_pos h

theorem checkBucket_room {bucket : List ℚ} {limit windowSeconds : Int}
    (h : ¬ limit ≤ (since (now - windowSeconds) bucket).length) :
    checkBucket bucket limit windowSeconds now
      = (⟨true, none⟩, since (now - windowSeconds) bucket ++ [now]) :=
  if_neg h

/-! ## Runs -/

theorem after_concat (calls : List Call) (c : Call) :
    after budgets (calls ++ [c]) = (call budgets (after budgets calls) c).2 := by
  rw [after, List.foldl_append]
  rfl

theorem trace_concat (records : Records) (calls : List Call) (c : Call) :
    trace budgets records (calls ++ [c])
      = trace budgets records calls
        ++ [(c, (call budgets
            (calls.foldl (fun records c => (call budgets records c).2) records) c).1)] := by
  induction calls generalizing records with
  | nil => rfl
  | cons first rest ih =>
      show _ :: trace budgets _ (rest ++ [c]) = _
      rw [ih]
      rfl

theorem allowedTimes_concat (key : String) (calls : List Call) (c : Call) :
    allowedTimes budgets key (calls ++ [c])
      = allowedTimes budgets key calls
        ++ if allows key c (answerAfter budgets calls c) then [c.now] else [] := by
  rw [allowedTimes, trace_concat, List.filter_append, List.map_append]
  congr 1
  show List.map _ (List.filter _ [(c, answerAfter budgets calls c)]) = _
  cases hallows : allows key c (answerAfter budgets calls c) with
  | true => rw [List.filter_cons_of_pos (by simpa using hallows)]; rfl
  | false => rw [List.filter_cons_of_neg (by simp [hallows])]; rfl

/-- What `check` decides after a run. -/
def decisionAfter (budgets : String → Budget) (calls : List Call) (key : String) (now : ℚ) :
    RateLimitDecision :=
  (checkBucket (bucketOf (after budgets calls) key) (budgets key).limit
    (budgets key).windowSeconds now).1

theorem answerAfter_check (calls : List Call) (key : String) (now : ℚ) :
    answerAfter budgets calls (.check key now)
      = .decision (decisionAfter budgets calls key now) := by
  rw [answerAfter, call, checkKey_eq]
  rfl

theorem allowedTimes_of_ne {c : Call} (h : key ≠ c.key) :
    allowedTimes budgets key (calls ++ [c]) = allowedTimes budgets key calls := by
  rw [allowedTimes_concat]
  cases c with
  | remaining key' now => exact List.append_nil _
  | check key' now =>
      have hother : allows key (.check key' now)
          (answerAfter budgets calls (.check key' now)) = false := by
        rw [answerAfter_check, allows, decide_eq_false (fun heq => h heq.symm), Bool.false_and]
      rw [if_neg (by rw [hother]; exact Bool.false_ne_true), List.append_nil]

theorem allowedTimes_check (key : String) (now : ℚ) :
    allowedTimes budgets key (calls ++ [.check key now])
      = allowedTimes budgets key calls
        ++ if (decisionAfter budgets calls key now).allowed then [now] else [] := by
  rw [allowedTimes_concat, answerAfter_check, allows, decide_eq_true rfl, Bool.true_and]
  rfl

theorem Clocked.front {c : Call} (h : Clocked (calls ++ [c])) :
    Clocked calls ∧ ∀ earlier ∈ calls, earlier.now ≤ c.now := by
  rw [Clocked, List.map_append] at h
  obtain ⟨hcalls, -, hlast⟩ := List.pairwise_append.mp h
  exact ⟨hcalls, fun earlier hmem =>
    hlast _ (List.mem_map_of_mem hmem) _ (List.mem_singleton_self _)⟩

/-- **KEPT**: the log of the allowed checks of a key is spaced, and its bucket is the
    end of the log that the calls to come can still see. -/
structure Kept (budgets : String → Budget) (calls : List Call) (key : String) : Prop where
  spaced : Spaced (budgets key).limit.toNat ((budgets key).windowSeconds : ℚ)
    (allowedTimes budgets key calls)
  suffix : bucketOf (after budgets calls) key <:+ allowedTimes budgets key calls
  agrees : ∀ cutoff : ℚ, (∀ c ∈ calls, c.now - (budgets key).windowSeconds ≤ cutoff) →
    since cutoff (bucketOf (after budgets calls) key)
      = since cutoff (allowedTimes budgets key calls)
  few : ((bucketOf (after budgets calls) key).length : Int) ≤ (budgets key).limit
  past : ∀ t ∈ allowedTimes budgets key calls, ∃ c ∈ calls, c.now = t

/-- A call that leaves bucket and log of the key keeps the rest. -/
theorem Kept.of_same {c : Call} (h : Kept budgets calls key)
    (hbucket : bucketOf (after budgets (calls ++ [c])) key = bucketOf (after budgets calls) key)
    (hlog : allowedTimes budgets key (calls ++ [c]) = allowedTimes budgets key calls) :
    Kept budgets (calls ++ [c]) key where
  spaced := hlog ▸ h.spaced
  suffix := by rw [hbucket, hlog]; exact h.suffix
  agrees cutoff hcutoff := by
    rw [hbucket, hlog]
    exact h.agrees cutoff fun c' hc' => hcutoff c' (List.mem_append_left _ hc')
  few := hbucket ▸ h.few
  past t ht := by
    rw [hlog] at ht
    obtain ⟨c', hc', rfl⟩ := h.past t ht
    exact ⟨c', List.mem_append_left _ hc', rfl⟩

/-- A check of the key drops what left the window, and adds its time if it is
    allowed. -/
theorem Kept.check (h : Kept budgets calls key) (hclock : ∀ c ∈ calls, c.now ≤ now) :
    Kept budgets (calls ++ [.check key now]) key := by
  have hseen : since (now - (budgets key).windowSeconds) (bucketOf (after budgets calls) key)
      = since (now - (budgets key).windowSeconds) (allowedTimes budgets key calls) :=
    h.agrees _ fun c hc => sub_le_sub_right (hclock c hc) _
  have hbucket : bucketOf (after budgets (calls ++ [.check key now])) key
      = (checkBucket (bucketOf (after budgets calls) key) (budgets key).limit
          (budgets key).windowSeconds now).2 := by
    rw [after_concat, bucketOf_call_check]
  have hlast : ∀ cutoff : ℚ,
      (∀ c ∈ calls ++ [.check key now], c.now - (budgets key).windowSeconds ≤ cutoff) →
        now - (budgets key).windowSeconds ≤ cutoff := fun cutoff hcutoff =>
    hcutoff _ (List.mem_append_right _ (List.mem_singleton_self _))
  have hpast : ∀ t ∈ allowedTimes budgets key calls,
      ∃ c ∈ calls ++ [.check key now], c.now = t := by
    intro t ht
    obtain ⟨c, hc, rfl⟩ := h.past t ht
    exact ⟨c, List.mem_append_left _ hc, rfl⟩
  have hlog := @allowedTimes_check budgets calls key now
  by_cases hfull : (budgets key).limit
      ≤ (since (now - (budgets key).windowSeconds) (bucketOf (after budgets calls) key)).length
  · -- denied: the log stays as it is
    rw [checkBucket_full hfull] at hbucket
    rw [decisionAfter, checkBucket_full hfull, if_neg Bool.false_ne_true, List.append_nil] at hlog
    refine ⟨hlog ▸ h.spaced, ?_, fun cutoff hcutoff => ?_, ?_, hlog ▸ hpast⟩
    · rw [hbucket, hlog]
      exact (since_suffix _ _).trans h.suffix
    · rw [hbucket, hlog, hseen, since_since (hlast cutoff hcutoff)]
    · rw [hbucket]
      dsimp only
      have hlength := (since_suffix (now - (budgets key).windowSeconds)
        (bucketOf (after budgets calls) key)).length_le
      have hfew := h.few
      omega
  · -- allowed: the time goes to the end of both
    rw [checkBucket_room hfull] at hbucket
    rw [decisionAfter, checkBucket_room hfull, if_pos rfl] at hlog
    have hfilter := since_eq_filter h.spaced.pairwise (now - (budgets key).windowSeconds)
    refine ⟨?_, ?_, fun cutoff hcutoff => ?_, ?_, ?_⟩
    · rw [hlog]
      refine h.spaced.concat (fun t ht => ?_) ?_
      · obtain ⟨c, hc, rfl⟩ := h.past t ht
        exact hclock c hc
      · rw [← hfilter, ← hseen]
        omega
    · rw [hbucket, hlog, hseen]
      obtain ⟨dropped, hdropped⟩ := since_suffix (now - (budgets key).windowSeconds)
        (allowedTimes budgets key calls)
      exact ⟨dropped, by rw [← List.append_assoc, hdropped]⟩
    · rw [hbucket, hlog, hseen, since_since_append (hlast cutoff hcutoff)]
    · rw [hbucket, List.length_append, List.length_singleton]
      omega
    · rw [hlog]
      intro t ht
      rcases List.mem_append.mp ht with hold | hnew
      · exact hpast t hold
      · rw [List.mem_singleton.mp hnew]
        exact ⟨_, List.mem_append_right _ (List.mem_singleton_self _), rfl⟩

/-- **EVERY RUN** keeps it. -/
theorem kept (hclock : Clocked calls) (key : String) : Kept budgets calls key := by
  induction calls using List.reverseRecOn with
  | nil =>
      exact ⟨.nil, List.suffix_rfl, fun _ _ => rfl, (budgets key).limit_pos.le,
        fun t ht => absurd ht List.not_mem_nil⟩
  | append_singleton calls c ih =>
      obtain ⟨hcalls, hlast⟩ := hclock.front
      have hkept := ih hcalls
      by_cases hkey : key = c.key
      · cases c with
        | remaining key' now =>
            refine hkept.of_same ?_ ?_
            · rw [after_concat]; rfl
            · rw [allowedTimes_concat]; exact List.append_nil _
        | check key' now =>
            obtain rfl : key = key' := hkey
            exact hkept.check hlast
      · refine hkept.of_same ?_ (allowedTimes_of_ne hkey)
        rw [after_concat, bucketOf_call_of_ne _ hkey]

/-! ## The laws -/

/-- The calls that are no checks of a key leave its bucket. -/
theorem bucketOf_after_append {between : List Call}
    (h : ∀ c ∈ between, ∀ t, c ≠ .check key t) :
    bucketOf (after budgets (calls ++ between)) key = bucketOf (after budgets calls) key := by
  induction between using List.reverseRecOn with
  | nil => rw [List.append_nil]
  | append_singleton between c ih =>
      rw [← List.append_assoc, after_concat,
        ← ih fun c' hc' => h c' (List.mem_append_left _ hc')]
      cases c with
      | remaining key' now => rfl
      | check key' now =>
          refine bucketOf_call_of_ne _ fun hkey => ?_
          exact h (.check key' now) (List.mem_append_right _ (List.mem_singleton_self _)) now
            (by rw [show key = key' from hkey])

/-- The bucket of a key depends on the calls for that key alone. -/
theorem bucketOf_after_filter (calls : List Call) (key : String) :
    bucketOf (after budgets calls) key
      = bucketOf (after budgets (calls.filter (·.key = key))) key := by
  induction calls using List.reverseRecOn with
  | nil => rfl
  | append_singleton calls c ih =>
      rw [List.filter_append, after_concat]
      by_cases hkey : c.key = key
      · rw [List.filter_cons_of_pos (by simpa using hkey), List.filter_nil, after_concat]
        cases c with
        | remaining key' now => exact ih
        | check key' now =>
            obtain rfl : key' = key := hkey
            rw [bucketOf_call_check, bucketOf_call_check, ih]
      · rw [List.filter_cons_of_neg (by simpa using hkey), List.filter_nil, List.append_nil,
          bucketOf_call_of_ne _ (Ne.symm hkey), ih]

/-- A denied check found a full bucket. -/
theorem full_of_denied (h : (decisionAfter budgets calls key now).allowed = false) :
    (budgets key).limit
      ≤ (since (now - (budgets key).windowSeconds) (bucketOf (after budgets calls) key)).length := by
  by_contra hroom
  rw [decisionAfter, checkBucket_room hroom] at h
  cases h

/-- **LAWS** of a run of calls: in no window of a key's length, the first or the last
    instant left out, are more checks of it allowed than its limit; a check is
    denied after exactly that many in the window before it; the answers for a key
    depend on the calls for that key; a denied check that waits as long as it was
    told is allowed, unless the key was checked in between; and `remaining` is
    positive when a check in its place would be allowed. -/
structure Lawful (budgets : String → Budget) (calls : List Call) : Prop where
  bounded : ∀ key (start : ℚ),
    (((allowedTimes budgets key calls).filter fun t =>
      start ≤ t ∧ t < start + (budgets key).windowSeconds).length : Int) ≤ (budgets key).limit
  boundedAfter : ∀ key (start : ℚ),
    (((allowedTimes budgets key calls).filter fun t =>
      start < t ∧ t ≤ start + (budgets key).windowSeconds).length : Int) ≤ (budgets key).limit
  denied : ∀ before key now, before ++ [.check key now] <+: calls →
    (decisionAfter budgets before key now).allowed = false →
      (((allowedTimes budgets key before).filter fun t =>
        now - (budgets key).windowSeconds < t ∧ t ≤ now).length : Int) = (budgets key).limit
  independent : ∀ before c, before ++ [c] <+: calls →
    answerAfter budgets before c = answerAfter budgets (before.filter (·.key = c.key)) c
  retried : ∀ before key now seconds between later,
    before ++ .check key now :: (between ++ [.check key later]) <+: calls →
      decisionAfter budgets before key now = ⟨false, some seconds⟩ →
      (∀ c ∈ between, ∀ t, c ≠ .check key t) → now + seconds ≤ later →
        (decisionAfter budgets (before ++ .check key now :: between) key later).allowed = true
  remaining : ∀ before key now, before ++ [.remaining key now] <+: calls →
    (0 < remainingKey budgets (after budgets before) key now ↔
      (decisionAfter budgets before key now).allowed = true)

theorem Clocked.of_prefix (h : Clocked calls) (hpre : before <+: calls) : Clocked before :=
  h.sublist (hpre.sublist.map _)

/-- What a key can still see of its bucket is what its log has in the window. -/
theorem seen_eq (hclock : Clocked before) (hpast : ∀ c ∈ before, c.now ≤ now) :
    since (now - (budgets key).windowSeconds) (bucketOf (after budgets before) key)
      = (allowedTimes budgets key before).filter fun t =>
          now - (budgets key).windowSeconds < t ∧ t ≤ now := by
  have hkept := @kept budgets before hclock key
  rw [hkept.agrees _ fun c hc => sub_le_sub_right (hpast c hc) _,
    since_eq_filter hkept.spaced.pairwise]
  refine List.filter_congr fun t ht => ?_
  obtain ⟨c, hc, rfl⟩ := hkept.past t ht
  simp [hpast c hc]

/-- `remaining` counts what a check would count. -/
theorem remaining_pos_iff (hclock : Clocked before) :
    0 < remainingKey budgets (after budgets before) key now ↔
      (decisionAfter budgets before key now).allowed = true := by
  have hkept := @kept budgets before hclock key
  have hsorted := hkept.spaced.pairwise.sublist hkept.suffix.sublist
  rw [remainingKey, RequestRateLimiter.remaining, ← since_eq_filter hsorted, decisionAfter]
  by_cases hfull : (budgets key).limit
      ≤ (since (now - (budgets key).windowSeconds) (bucketOf (after budgets before) key)).length
  · rw [checkBucket_full hfull]
    simp only [Bool.false_eq_true, iff_false]
    omega
  · rw [checkBucket_room hfull]
    simp only [iff_true]
    omega

/-- A denied check that waits as long as it was told is allowed. -/
theorem allowed_of_retried {between : List Call} {seconds : Int} {later : ℚ}
    (hclock : Clocked before)
    (hdenied : decisionAfter budgets before key now = ⟨false, some seconds⟩)
    (hother : ∀ c ∈ between, ∀ t, c ≠ .check key t) (hlater : now + seconds ≤ later) :
    (decisionAfter budgets (before ++ .check key now :: between) key later).allowed = true := by
  have hfull := @full_of_denied budgets before key now (by rw [hdenied])
  have hfew := (@kept budgets before hclock key).few
  have hlength := (since_suffix (now - (budgets key).windowSeconds)
    (bucketOf (after budgets before) key)).length_le
  -- the bucket the check left, and nothing touched since
  have hbucket : bucketOf (after budgets (before ++ .check key now :: between)) key
      = since (now - (budgets key).windowSeconds) (bucketOf (after budgets before) key) := by
    rw [show before ++ .check key now :: between = (before ++ [.check key now]) ++ between by simp,
      bucketOf_after_append hother, after_concat, bucketOf_call_check, checkBucket_full hfull]
  rw [decisionAfter, checkBucket_full hfull] at hdenied
  have hseconds := Option.some.inj (congrArg RateLimitDecision.retryAfterSeconds hdenied)
  rw [decisionAfter, hbucket]
  cases hkept : since (now - (budgets key).windowSeconds) (bucketOf (after budgets before) key) with
  | nil =>
      have hpos := (budgets key).limit_pos
      rw [hkept, List.length_nil] at hfull
      omega
  | cons first rest =>
      -- its first time has left the window by then
      rw [hkept, List.headD_cons] at hseconds
      have hwait : ((budgets key).windowSeconds : ℚ) - (now - first) ≤ seconds := by
        refine (Int.le_ceil _).trans ?_
        rw [← hseconds]
        exact_mod_cast le_max_right _ _
      have hgone : first ≤ later - (budgets key).windowSeconds := by linarith
      have hroom := length_since_cons_le hgone rest
      rw [hkept, List.length_cons] at hlength
      rw [checkBucket_room]
      omega

/-- **LAWFUL**: every run of calls under a clock that never goes back. -/
theorem rateLimiter_lawful (budgets : String → Budget) (calls : List Call)
    (hclock : Clocked calls) : Lawful budgets calls where
  bounded key start := by
    have hspaced := (@kept budgets calls hclock key).spaced
    have hpos := (budgets key).limit_pos
    refine (Int.ofNat_le.mpr (hspaced.length_filter_le _ fun s t hs ht _ => ?_)).trans_eq
      (Int.toNat_of_nonneg hpos.le)
    obtain ⟨hstart, -⟩ := of_decide_eq_true hs
    obtain ⟨-, hend⟩ := of_decide_eq_true ht
    linarith
  boundedAfter key start := by
    have hspaced := (@kept budgets calls hclock key).spaced
    have hpos := (budgets key).limit_pos
    refine (Int.ofNat_le.mpr (hspaced.length_filter_le _ fun s t hs ht _ => ?_)).trans_eq
      (Int.toNat_of_nonneg hpos.le)
    obtain ⟨hstart, -⟩ := of_decide_eq_true hs
    obtain ⟨-, hend⟩ := of_decide_eq_true ht
    linarith
  denied before key now hpre hdenied := by
    obtain ⟨hbefore, hpast⟩ := (hclock.of_prefix hpre).front
    rw [← @seen_eq budgets before key now hbefore hpast]
    have hfull := full_of_denied hdenied
    have hfew := (@kept budgets before hbefore key).few
    have hlength := (since_suffix (now - (budgets key).windowSeconds)
      (bucketOf (after budgets before) key)).length_le
    omega
  independent before c _ := by
    cases c with
    | check key now =>
        rw [answerAfter_check, answerAfter_check, decisionAfter, bucketOf_after_filter]
        rfl
    | remaining key now =>
        show Answer.left (remainingKey budgets (after budgets before) key now)
          = .left (remainingKey budgets (after budgets _) key now)
        rw [remainingKey, RequestRateLimiter.remaining, bucketOf_after_filter]
        rfl
  retried before key now seconds between later hpre hdenied hother hlater := by
    have hbefore : before <+: calls := (List.prefix_append _ _).trans hpre
    exact allowed_of_retried (hclock.of_prefix hbefore) hdenied hother hlater
  remaining before key now hpre :=
    remaining_pos_iff (hclock.of_prefix ((List.prefix_append _ _).trans hpre))

/-- One check in ten seconds, for every key. -/
def sampleBudget : Budget := ⟨1, 10, by decide, by decide⟩

/-- A check is denied at five seconds, told to wait five more, and allowed then. -/
def sampleCalls : List Call :=
  [.check "scan" 0, .check "scan" 5, .remaining "scan" 5, .check "other" 6, .check "scan" 10]

theorem rateLimiter_lawful_sample :
    decisionAfter (fun _ => sampleBudget) (sampleCalls.take 1) "scan" 5 = ⟨false, some 5⟩
      ∧ allowedTimes (fun _ => sampleBudget) "scan" sampleCalls = [0, 10]
      ∧ Lawful (fun _ => sampleBudget) sampleCalls :=
  ⟨by decide +kernel, by decide +kernel,
    rateLimiter_lawful (fun _ => sampleBudget) sampleCalls (by decide +kernel)⟩

end RequestRateLimiter
