import QrTrust.Backend.CachedScansProofs
import QrTrust.Backend.SpikeDetection

/-! # What spike detection sees

    The detector merges rows with exact times and counters of whole minutes, and
    cuts its candidates by the rows alone.  A minute that the baseline window starts
    in adds scans from before the window to the prior ones, and an envelope served
    from the cache has few rows to be a candidate by: a flood is reported exactly
    where it is still a candidate, still clears the thresholds by the merged counts,
    and the list is not full before it (`seesFloods_iff`). -/

namespace ScanAccounting

open CachedScans SortedCut

/-! ## The ledger of a history -/

namespace Scan

/-- The envelope that was scanned. -/
def fingerprint : Scan → Option String
  | .computed row => row.envelopeFingerprint
  | .served fingerprint _ _ => some fingerprint

/-- When it was scanned. -/
def time : Scan → ℚ
  | .computed row => row.createdAt
  | .served _ servedAt _ => servedAt

/-- The row that a computed verdict leaves. -/
def row? : Scan → Option DecisionRow
  | .computed row => some row
  | .served .. => none

/-- The scan that the cache counts. -/
def served? (baselineSeconds : Nat) : Scan → Option CachedScan
  | .computed _ => none
  | .served fingerprint servedAt since_epoch =>
      some ⟨fingerprint, servedAt, (baselineSeconds : Int) + 60, since_epoch⟩

end Scan

/-- The scans of a history that the cache served. -/
def servedScans (baselineSeconds : Nat) (history : List Scan) : List CachedScan :=
  history.filterMap (Scan.served? baselineSeconds)

/-- The ledger has the rows of the computed verdicts, and counts those served. -/
theorem ledgerAfter_eq (baselineSeconds : Nat) (history : List Scan) :
    ledgerAfter baselineSeconds history
      = ⟨history.filterMap Scan.row?, afterScans (servedScans baselineSeconds history)⟩ := by
  induction history using List.reverseRecOn with
  | nil => rfl
  | append_singleton history scan ih =>
      rw [ledgerAfter, List.foldl_append, ← ledgerAfter, ih, List.filterMap_append, servedScans,
        servedScans, List.filterMap_append]
      cases scan with
      | computed row =>
          show Ledger.mk _ _ = Ledger.mk _ (afterScans (_ ++ []))
          rw [List.append_nil]
          rfl
      | served fingerprint servedAt since_epoch =>
          show Ledger.mk _ _ = Ledger.mk (_ ++ []) (afterScans (_ ++ [_]))
          rw [List.append_nil, afterScans, afterScans, List.foldl_append]
          rfl

/-! ## The scans of an envelope -/

/-- The scans of an envelope since a time. -/
def scansSince (history : List Scan) (envelope : String) (start : ℚ) : Nat :=
  history.countP fun scan => scan.fingerprint = some envelope ∧ start ≤ scan.time

/-- The scans of an envelope since one time and before another. -/
def scansBetween (history : List Scan) (envelope : String) (start stop : ℚ) : Nat :=
  history.countP fun scan =>
    scan.fingerprint = some envelope ∧ start ≤ scan.time ∧ scan.time < stop

/-- The rows of an envelope since a time. -/
def rowsSince (history : List Scan) (envelope : String) (start : ℚ) : Nat :=
  (history.filterMap Scan.row?).countP fun row =>
    row.envelopeFingerprint = some envelope ∧ start ≤ row.createdAt

/-- The scans of an envelope that the cache served, since the start of a minute, in
    minutes that are still held: those whose first scan is not older than the
    baseline and a minute. -/
def heldSince (baselineSeconds : Nat) (history : List Scan) (now : ℚ) (envelope : String)
    (start : ℚ) : Nat :=
  (servedScans baselineSeconds history).countP fun scan =>
    scan.fingerprint = envelope ∧ rateBucket start ≤ rateBucket scan.now
      ∧ isHeld ((baselineSeconds : Int) + 60) (servedScans baselineSeconds history) now envelope
        (rateBucket scan.now)

variable {settings : SpikeSettings} {history : List Scan} {now : ℚ} {envelope : String}

/-- The times of a history never go back, and it ends before now. -/
def IsOrdered (history : List Scan) (now : ℚ) : Prop :=
  (history.map Scan.time ++ [now]).Pairwise (· ≤ ·)

theorem IsOrdered.le (h : IsOrdered history now) {scan : Scan} (hscan : scan ∈ history) :
    scan.time ≤ now :=
  (List.pairwise_append.mp h).2.2 _ (List.mem_map_of_mem hscan) _ (List.mem_singleton_self _)

/-- The times of the served scans never go back. -/
theorem IsOrdered.served (h : IsOrdered history now) (baselineSeconds : Nat) :
    ((servedScans baselineSeconds history).map CachedScan.now).Pairwise (· ≤ ·)
      ∧ ∀ scan ∈ servedScans baselineSeconds history, scan.now ≤ now := by
  have htime : ∀ scan cached, Scan.served? baselineSeconds scan = some cached →
      cached.now = scan.time := by
    intro scan cached hcached
    cases scan with
    | computed row => cases hcached
    | served fingerprint servedAt since_epoch =>
        obtain rfl := Option.some.inj hcached
        rfl
  constructor
  · have hordered := (List.pairwise_append.mp h).1
    rw [List.pairwise_map] at hordered ⊢
    rw [servedScans, List.pairwise_filterMap]
    refine hordered.imp fun {a b} hab c hc d hd => ?_
    rw [htime a c hc, htime b d hd]
    exact hab
  · intro cached hcached
    obtain ⟨scan, hscan, hserved⟩ := List.mem_filterMap.mp hcached
    rw [htime scan cached hserved]
    exact h.le hscan

/-- **COUNTERS**: what the cache counts are the scans held. -/
theorem cachedCount_eq (h : IsOrdered history now) (baselineSeconds : Nat) (envelope : String)
    (start : ℚ) :
    cachedCount (some (ledgerAfter baselineSeconds history).counters) envelope start now
      = heldSince baselineSeconds history now envelope start := by
  obtain ⟨hordered, hpast⟩ := h.served baselineSeconds
  have hretain : ∀ scan ∈ servedScans baselineSeconds history,
      scan.retainSeconds = (baselineSeconds : Int) + 60 := by
    intro cached hcached
    obtain ⟨scan, -, hserved⟩ := List.mem_filterMap.mp hcached
    cases scan with
    | computed row => cases hserved
    | served fingerprint servedAt since_epoch =>
        obtain rfl := Option.some.inj hserved
        rfl
  rw [ledgerAfter_eq, cachedCount,
    cachedScanCount_held (dated_afterScans hordered hretain (by omega) hpast), heldSince]
  refine List.countP_congr fun scan hscan => ?_
  rw [decide_eq_true_iff, decide_eq_true_iff, List.mem_filter, mem_rateBuckets,
    and_iff_left (rateBucket_mono (hpast scan hscan))]

/-! ## The rows of the query -/

variable {db : Database} {baselineStart windowStart : ℚ}

theorem baselineCount_groupRow :
    (db.groupRow (history.filterMap Scan.row?) baselineStart windowStart envelope).baselineCount
      = rowsSince history envelope baselineStart := by
  show ((baselineRows _ _).filter _).length = _
  rw [← List.countP_eq_length_filter, baselineRows, List.countP_filter, rowsSince]
  refine List.countP_congr fun row _ => ?_
  rw [Bool.and_eq_true, Bool.and_eq_true, decide_eq_true_iff, decide_eq_true_iff,
    decide_eq_true_iff]
  constructor
  · rintro ⟨henvelope, -, hstart⟩
    exact ⟨henvelope, hstart⟩
  · rintro ⟨henvelope, hstart⟩
    exact ⟨henvelope, by rw [henvelope]; rfl, hstart⟩

/-- A row counts as recent where it is in both windows. -/
theorem recentCount_groupRow :
    (db.groupRow (history.filterMap Scan.row?) baselineStart windowStart envelope).recentCount
      = rowsSince history envelope (max baselineStart windowStart) := by
  show ((baselineRows _ _).filter _).countP _ = _
  rw [baselineRows, List.countP_filter, List.countP_filter, rowsSince]
  refine List.countP_congr fun row _ => ?_
  rw [Bool.and_eq_true, Bool.and_eq_true, Bool.and_eq_true, decide_eq_true_iff,
    decide_eq_true_iff, decide_eq_true_iff, decide_eq_true_iff, max_le_iff]
  constructor
  · rintro ⟨⟨hwindow, henvelope⟩, -, hbaseline⟩
    exact ⟨henvelope, hbaseline, hwindow⟩
  · rintro ⟨henvelope, hbaseline, hwindow⟩
    exact ⟨⟨hwindow, henvelope⟩, by rw [henvelope]; rfl, hbaseline⟩

theorem groups_nodup (rows : List DecisionRow) : (db.groups rows baselineStart).Nodup :=
  (List.perm_insertionSort ..).nodup_iff.mpr (List.nodup_dedup _)

/-- An envelope has a group where it has a row in the baseline window. -/
theorem mem_groups :
    envelope ∈ db.groups (history.filterMap Scan.row?) baselineStart
      ↔ 0 < rowsSince history envelope baselineStart := by
  rw [Database.groups, (List.perm_insertionSort ..).mem_iff, List.mem_dedup, List.mem_filterMap,
    rowsSince, List.countP_pos_iff]
  refine exists_congr fun row => ?_
  rw [baselineRows, List.mem_filter, Bool.and_eq_true, decide_eq_true_iff, decide_eq_true_iff]
  constructor
  · rintro ⟨⟨hrow, -, hstart⟩, henvelope⟩
    exact ⟨hrow, henvelope, hstart⟩
  · rintro ⟨hrow, henvelope, hstart⟩
    exact ⟨⟨hrow, by rw [henvelope]; rfl, hstart⟩, henvelope⟩

/-! ## The merged counts -/

/-- The rows the query counts as recent. -/
def recentRows (settings : SpikeSettings) (history : List Scan) (now : ℚ) (envelope : String) :
    Nat :=
  rowsSince history envelope (max (settings.baselineStart now) (settings.windowStart now))

/-- `recent`, of the detector. -/
def mergedRecent (settings : SpikeSettings) (history : List Scan) (now : ℚ) (envelope : String) :
    Nat :=
  recentRows settings history now envelope
    + heldSince settings.baselineSeconds history now envelope (settings.windowStart now)

/-- `baseline`, of the detector. -/
def mergedBaseline (settings : SpikeSettings) (history : List Scan) (now : ℚ)
    (envelope : String) : Nat :=
  rowsSince history envelope (settings.baselineStart now)
    + heldSince settings.baselineSeconds history now envelope (settings.baselineStart now)

/-- At least so many scans, and at least so many times the baseline. -/
def SpikeSettings.Exceeds (settings : SpikeSettings) (recent prior : Nat) : Prop :=
  settings.minScans ≤ recent
    ∧ settings.thresholdRatio * settings.baselinePerWindow prior ≤ recent

instance (settings : SpikeSettings) (recent prior : Nat) :
    Decidable (settings.Exceeds recent prior) := inferInstanceAs (Decidable (_ ∧ _))

/-- The merged counts clear the thresholds. -/
def Clears (settings : SpikeSettings) (history : List Scan) (now : ℚ) (envelope : String) : Prop :=
  settings.Exceeds (mergedRecent settings history now envelope)
    (mergedBaseline settings history now envelope - mergedRecent settings history now envelope)

instance : DecidablePred (Clears settings history now) :=
  fun _ => inferInstanceAs (Decidable (settings.Exceeds _ _))

theorem baselinePerWindow_nonneg (settings : SpikeSettings) (prior : Nat) :
    0 ≤ settings.baselinePerWindow prior := by
  rw [SpikeSettings.baselinePerWindow]
  split
  · rename_i hremaining
    have hcast : (0 : ℚ) < settings.remainingSeconds := by exact_mod_cast hremaining
    exact div_nonneg (mul_nonneg (Nat.cast_nonneg _) (Nat.cast_nonneg _)) hcast.le
  · exact le_refl _

/-- The two tests of the loop, the second one on the ratio where there is one. -/
theorem exceeds_iff_ratio {recent prior : Nat} :
    settings.Exceeds recent prior ↔ ¬ recent < settings.minScans ∧
      ¬ ((if 0 < settings.baselinePerWindow prior
          then some ((recent : ℚ) / settings.baselinePerWindow prior) else none).any
            fun value => value < settings.thresholdRatio) = true := by
  rw [SpikeSettings.Exceeds, not_lt]
  refine and_congr_right fun _ => ?_
  split
  · rename_i hpos
    rw [Option.any_some, decide_eq_true_iff, not_lt, le_div_iff₀ hpos]
  · rename_i hzero
    rw [le_antisymm (not_lt.mp hzero) (baselinePerWindow_nonneg settings prior), mul_zero]
    exact iff_of_true (Nat.cast_nonneg _) Bool.false_ne_true

/-- The record of an envelope, of the counts of its history. -/
def spikeRecord (db : Database) (settings : SpikeSettings) (history : List Scan) (now : ℚ)
    (envelope : String) : ScanSpikeRecord :=
  let row := db.groupRow (history.filterMap Scan.row?) (settings.baselineStart now)
    (settings.windowStart now) envelope
  let recent := mergedRecent settings history now envelope
  let baseline := mergedBaseline settings history now envelope
  let perWindow := settings.baselinePerWindow (baseline - recent)
  { envelopeFingerprint := envelope
    issuerId := row.issuerId
    rootProgramId := row.rootProgramId
    recentCount := recent
    baselineCount := baseline
    cachedRecentCount :=
      heldSince settings.baselineSeconds history now envelope (settings.windowStart now)
    cachedBaselineCount :=
      heldSince settings.baselineSeconds history now envelope (settings.baselineStart now)
    baselinePerWindow := perWindow
    ratio := if 0 < perWindow then some (recent / perWindow) else none
    thresholdRatio := settings.thresholdRatio
    minScans := settings.minScans
    windowSeconds := settings.windowSeconds
    baselineSeconds := settings.baselineSeconds
    observedAt := now }

/-- **TURN**: a turn of the loop reports its envelope where the merged counts clear
    the thresholds. -/
theorem spikeOfRow_eq (h : IsOrdered history now) (envelope : String) :
    spikeOfRow (some (ledgerAfter settings.baselineSeconds history).counters) settings now
        (db.groupRow (history.filterMap Scan.row?) (settings.baselineStart now)
          (settings.windowStart now) envelope)
      = if Clears settings history now envelope then
          some (spikeRecord db settings history now envelope)
        else none := by
  have hcached := cachedCount_eq h settings.baselineSeconds envelope
  have hrow : (db.groupRow (history.filterMap Scan.row?) (settings.baselineStart now)
      (settings.windowStart now) envelope).envelopeFingerprint = envelope := rfl
  rw [spikeOfRow]
  simp only [hrow, hcached, recentCount_groupRow, baselineCount_groupRow]
  rw [← recentRows, ← mergedRecent, ← mergedBaseline]
  by_cases hclears : Clears settings history now envelope
  · obtain ⟨hmin, hratio⟩ := exceeds_iff_ratio.mp hclears
    rw [if_pos hclears, if_neg hmin, if_neg hratio]
    rfl
  · rw [if_neg hclears]
    split
    · rfl
    · rename_i hmin
      rw [if_pos]
      by_contra hratio
      exact hclears (exceeds_iff_ratio.mpr ⟨hmin, hratio⟩)

/-! ## What is reported -/

theorem filterMap_ite {α β : Type} {p : α → Prop} [DecidablePred p] (f : α → β) (l : List α) :
    (l.filterMap fun a => if p a then some (f a) else none) = (l.filter p).map f := by
  induction l with
  | nil => rfl
  | cons a rest ih =>
      by_cases ha : p a
      · rw [List.filterMap_cons_some (by rw [if_pos ha]), ih, List.filter_cons_of_pos (by simpa),
          List.map_cons]
      · rw [List.filterMap_cons_none (by rw [if_neg ha]), ih, List.filter_cons_of_neg (by simpa)]

/-- The candidates, in the order of the answer to the query. -/
def candidates (db : Database) (settings : SpikeSettings) (history : List Scan) (now : ℚ) :
    List String :=
  (sortDesc (recentRows settings history now)
    (db.groups (history.filterMap Scan.row?) (settings.baselineStart now))).take
      settings.candidateLimit

/-- The envelopes of the answer are the candidates. -/
theorem envelopeSpikeQuery_eq :
    db.envelopeSpikeQuery (history.filterMap Scan.row?) (settings.baselineStart now)
        (settings.windowStart now) settings.candidateLimit
      = (candidates db settings history now).map (db.groupRow (history.filterMap Scan.row?)
          (settings.baselineStart now) (settings.windowStart now)) := by
  have hcount : recentRows settings history now = fun envelope =>
      (db.groupRow (history.filterMap Scan.row?) (settings.baselineStart now)
        (settings.windowStart now) envelope).recentCount :=
    funext fun envelope => recentCount_groupRow.symm
  rw [Database.envelopeSpikeQuery, candidates, hcount, ← map_sortDesc, List.map_take]

/-- The envelopes reported, in the order of the report. -/
theorem envelopes_spikesAfter (h : IsOrdered history now) :
    (spikesAfter db settings history now).map ScanSpikeRecord.envelopeFingerprint
      = (sortDesc (mergedRecent settings history now)
          ((candidates db settings history now).filter
            fun envelope => Clears settings history now envelope)).take settings.limit := by
  have hloop : ((candidates db settings history now).map (db.groupRow
      (history.filterMap Scan.row?) (settings.baselineStart now)
      (settings.windowStart now))).filterMap
        (spikeOfRow (some (ledgerAfter settings.baselineSeconds history).counters) settings now)
      = ((candidates db settings history now).filter
          fun envelope => Clears settings history now envelope).map
            (spikeRecord db settings history now) := by
    rw [List.filterMap_map, ← filterMap_ite]
    exact List.filterMap_congr fun envelope _ => spikeOfRow_eq h envelope
  have hrows : (ledgerAfter settings.baselineSeconds history).rows
      = history.filterMap Scan.row? := by rw [ledgerAfter_eq]
  rw [spikesAfter, detectEnvelopeSpikes, hrows, envelopeSpikeQuery_eq, hloop, ← map_sortDesc,
    ← List.map_take, List.map_map]
  exact List.map_id _

/-! ## The two cuts -/

/-- Ahead in the answer to the query: more recent rows, or as many and listed first. -/
def RowsAhead (db : Database) (settings : SpikeSettings) (history : List Scan) (now : ℚ) :
    String → String → Prop :=
  Ahead (recentRows settings history now) fun a b =>
    (db.groups (history.filterMap Scan.row?) (settings.baselineStart now)).idxOf a
      < (db.groups (history.filterMap Scan.row?) (settings.baselineStart now)).idxOf b

instance : DecidableRel (RowsAhead db settings history now) :=
  inferInstanceAs (DecidableRel (Ahead _ fun a b => List.idxOf a _ < List.idxOf b _))

theorem asymm_rowsAhead : Asymm (RowsAhead db settings history now) :=
  Asymm.byCount (fun _ _ hab hba => absurd hab hba.asymm) _

/-- Ahead in the report: more scans by the merged counts, or as many and ahead in the
    answer to the query. -/
def MergedAhead (db : Database) (settings : SpikeSettings) (history : List Scan) (now : ℚ) :
    String → String → Prop :=
  Ahead (mergedRecent settings history now) (RowsAhead db settings history now)

instance : DecidableRel (MergedAhead db settings history now) :=
  inferInstanceAs (DecidableRel (Ahead _ (RowsAhead db settings history now)))

theorem asymm_mergedAhead : Asymm (MergedAhead db settings history now) :=
  asymm_rowsAhead.byCount _

/-- The envelope has a row in the baseline window, and the candidates before it do
    not fill the limit of the query. -/
def IsCandidate (db : Database) (settings : SpikeSettings) (history : List Scan) (now : ℚ)
    (envelope : String) : Prop :=
  0 < rowsSince history envelope (settings.baselineStart now) ∧
    ((db.groups (history.filterMap Scan.row?) (settings.baselineStart now)).countP fun other =>
      RowsAhead db settings history now other envelope) < settings.candidateLimit

instance : DecidablePred (IsCandidate db settings history now) :=
  fun _ => inferInstanceAs (Decidable (_ ∧ _))

/-- The candidates that clear the thresholds before the envelope do not fill the
    report, and it is one of them. -/
def IsCaught (db : Database) (settings : SpikeSettings) (history : List Scan) (now : ℚ)
    (envelope : String) : Prop :=
  IsCandidate db settings history now envelope ∧ Clears settings history now envelope ∧
    ((db.groups (history.filterMap Scan.row?) (settings.baselineStart now)).countP fun other =>
      MergedAhead db settings history now other envelope
        ∧ Clears settings history now other ∧ IsCandidate db settings history now other)
      < settings.limit

theorem pairwise_sorted_groups :
    (sortDesc (recentRows settings history now)
      (db.groups (history.filterMap Scan.row?) (settings.baselineStart now))).Pairwise
        (RowsAhead db settings history now) :=
  pairwise_sortDesc (fun _ _ hab hba => absurd hab hba.asymm) _ (pairwise_idxOf (groups_nodup _))

theorem candidates_perm :
    (candidates db settings history now).Perm
      ((db.groups (history.filterMap Scan.row?) (settings.baselineStart now)).filter
        fun envelope => IsCandidate db settings history now envelope) := by
  have hsorted := sortDesc_perm (recentRows settings history now)
    (db.groups (history.filterMap Scan.row?) (settings.baselineStart now))
  refine (take_perm_filter asymm_rowsAhead pairwise_sorted_groups _).trans
    ((hsorted.filter _).trans (List.Perm.of_eq ?_))
  refine List.filter_congr fun envelope henvelope => ?_
  rw [decide_eq_decide, IsCandidate, and_iff_right (mem_groups.mp henvelope), hsorted.countP_eq]

theorem mem_candidates_iff :
    envelope ∈ candidates db settings history now
      ↔ IsCandidate db settings history now envelope := by
  rw [candidates_perm.mem_iff, List.mem_filter, decide_eq_true_iff]
  exact and_iff_right_of_imp fun h => mem_groups.mpr h.1

/-- **REPORT**: the detector reports exactly what is caught. -/
theorem reported_iff (h : IsOrdered history now) :
    (∃ spike ∈ spikesAfter db settings history now, spike.envelopeFingerprint = envelope)
      ↔ IsCaught db settings history now envelope := by
  have hcandidates : (candidates db settings history now).Pairwise
      (RowsAhead db settings history now) :=
    pairwise_sorted_groups.sublist (List.take_sublist ..)
  have hreport := pairwise_sortDesc asymm_rowsAhead (mergedRecent settings history now)
    (hcandidates.sublist (List.filter_sublist
      (p := fun envelope => decide (Clears settings history now envelope))))
  rw [← List.mem_map, envelopes_spikesAfter h, mem_take_iff asymm_mergedAhead hreport,
    (sortDesc_perm ..).mem_iff, (sortDesc_perm ..).countP_eq, List.countP_filter,
    candidates_perm.countP_eq, List.countP_filter, List.mem_filter, mem_candidates_iff,
    decide_eq_true_iff, and_assoc, IsCaught]
  simp only [Bool.decide_and, Bool.and_assoc]

/-! ## Rows, counters and scans -/

/-- The scans of an envelope that the cache served, since a time. -/
def servedSince (baselineSeconds : Nat) (history : List Scan) (envelope : String) (start : ℚ) :
    Nat :=
  (servedScans baselineSeconds history).countP fun scan =>
    scan.fingerprint = envelope ∧ start ≤ scan.now

/-- A scan left a row, or the cache served it. -/
theorem scansSince_eq (baselineSeconds : Nat) (start : ℚ) :
    scansSince history envelope start = rowsSince history envelope start
      + servedSince baselineSeconds history envelope start := by
  induction history with
  | nil => rfl
  | cons scan rest ih =>
      rw [scansSince, List.countP_cons, ← scansSince, ih]
      cases scan with
      | computed row =>
          have hrow : rowsSince (.computed row :: rest) envelope start
              = rowsSince rest envelope start
                + if decide (row.envelopeFingerprint = some envelope ∧ start ≤ row.createdAt) = true
                  then 1 else 0 := List.countP_cons
          rw [hrow, Nat.add_right_comm]
          rfl
      | served fingerprint servedAt since_epoch =>
          have hserved : servedSince baselineSeconds
              (.served fingerprint servedAt since_epoch :: rest) envelope start
              = servedSince baselineSeconds rest envelope start
                + if decide (fingerprint = envelope ∧ start ≤ servedAt) = true
                  then 1 else 0 := List.countP_cons
          rw [hserved, ← Nat.add_assoc]
          simp only [Scan.fingerprint, Scan.time, Option.some.injEq]
          rfl

theorem scansBetween_add (history : List Scan) (envelope : String) {start stop : ℚ}
    (h : start ≤ stop) :
    scansBetween history envelope start stop + scansSince history envelope stop
      = scansSince history envelope start := by
  induction history with
  | nil => rfl
  | cons scan rest ih =>
      rw [scansBetween, scansSince, scansSince, List.countP_cons, List.countP_cons,
        List.countP_cons, ← scansBetween, ← scansSince, ← scansSince, ← ih]
      by_cases henvelope : scan.fingerprint = some envelope
      · by_cases hstop : stop ≤ scan.time
        · simp [henvelope, hstop, h.trans hstop, not_lt.mpr hstop]
          omega
        · simp [henvelope, hstop, not_le.mp hstop]
          omega
      · simp [henvelope]

/-! ## Floods -/

/-- A flood: the scans in the alert window are at least so many, and at least so many
    times those of the baseline window before it, scaled to one window's worth. -/
def IsFlood (settings : SpikeSettings) (history : List Scan) (now : ℚ) (envelope : String) : Prop :=
  settings.Exceeds (scansSince history envelope (settings.windowStart now))
    (scansBetween history envelope (settings.baselineStart now) (settings.windowStart now))

instance : DecidablePred (IsFlood settings history now) :=
  fun _ => inferInstanceAs (Decidable (settings.Exceeds _ _))

/-- The envelopes of a history. -/
def envelopes (history : List Scan) : List String := (history.filterMap Scan.fingerprint).dedup

/-- The envelopes that are flooded. -/
def floods (settings : SpikeSettings) (history : List Scan) (now : ℚ) : List String :=
  (envelopes history).filter fun envelope => IsFlood settings history now envelope

/-- The detector reports the envelope. -/
def Reports (db : Database) (settings : SpikeSettings) (history : List Scan) (now : ℚ)
    (envelope : String) : Prop :=
  ∃ spike ∈ spikesAfter db settings history now, spike.envelopeFingerprint = envelope

/-- Every flood is reported, where there are not more than the limit, and without
    cached scans nothing else is. -/
structure SeesFloods (db : Database) (settings : SpikeSettings) (history : List Scan) (now : ℚ) :
    Prop where
  complete : (floods settings history now).length ≤ settings.limit →
    ∀ envelope ∈ floods settings history now, Reports db settings history now envelope
  sound : servedScans settings.baselineSeconds history = [] →
    ∀ envelope, Reports db settings history now envelope → IsFlood settings history now envelope

theorem scansBetween_eq_zero {start stop : ℚ} (h : stop ≤ start) :
    scansBetween history envelope start stop = 0 := by
  refine List.countP_eq_zero.mpr fun scan _ hscan => ?_
  obtain ⟨-, hstart, hstop⟩ := of_decide_eq_true hscan
  exact absurd (hstart.trans_lt hstop) (not_lt.mpr h)

theorem rowsSince_antitone {start start' : ℚ} (h : start ≤ start') :
    rowsSince history envelope start' ≤ rowsSince history envelope start :=
  List.countP_mono_left fun _ _ hrow => by
    obtain ⟨henvelope, hstart⟩ := of_decide_eq_true hrow
    exact decide_eq_true ⟨henvelope, h.trans hstart⟩

/-- Without cached scans the thresholds are those of a flood. -/
theorem isFlood_of_clears (hserved : servedScans settings.baselineSeconds history = [])
    (h : Clears settings history now envelope) : IsFlood settings history now envelope := by
  have hheld : ∀ start, heldSince settings.baselineSeconds history now envelope start = 0 := by
    intro start
    rw [heldSince, hserved]
    rfl
  have hscans : ∀ start, scansSince history envelope start = rowsSince history envelope start := by
    intro start
    rw [scansSince_eq settings.baselineSeconds, servedSince, hserved]
    rfl
  rw [Clears, mergedBaseline, mergedRecent, hheld, hheld, recentRows, Nat.add_zero,
    Nat.add_zero] at h
  rw [IsFlood, hscans]
  rcases le_total (settings.baselineStart now) (settings.windowStart now) with hle | hle
  · have hsplit := scansBetween_add history envelope hle
    rw [hscans, hscans] at hsplit
    rw [max_eq_right hle, ← hsplit, Nat.add_sub_cancel] at h
    exact h
  · -- the alert window is the longer one: there is no baseline
    rw [max_eq_left hle, Nat.sub_self] at h
    rw [scansBetween_eq_zero hle]
    have hzero : settings.thresholdRatio * settings.baselinePerWindow 0 = 0 := by
      rw [SpikeSettings.baselinePerWindow]
      split
      · rw [Nat.cast_zero, zero_mul, zero_div, mul_zero]
      · rw [mul_zero]
    refine ⟨h.1.trans (rowsSince_antitone hle), ?_⟩
    rw [hzero]
    exact Nat.cast_nonneg _

/-- A database that sorts by code points and lists groups as it first sees them. -/
def sampleDatabase : Database where
  collation := fun a b => decide (a < b)
  planRank := fun _ => 0

/-- A minute's window over two minutes' baseline, and a scan is enough. -/
def sampleSettings : SpikeSettings where
  windowSeconds := 60
  baselineSeconds := 120
  thresholdRatio := 1
  minScans := 1
  limit := 10

/-- A row of the one envelope. -/
def sampleRow (createdAt : ℚ) : DecisionRow := ⟨some "code", none, none, createdAt⟩

/-- A code computed at 60, served twice in that minute, and computed again at 200. -/
def sampleHistory : List Scan :=
  [.computed (sampleRow 60), .served "code" 70 (by decide +kernel),
    .served "code" 75 (by decide +kernel), .computed (sampleRow 200)]

theorem isOrdered_sampleHistory : IsOrdered sampleHistory 210 := by
  show List.Pairwise (· ≤ ·) [(60 : ℚ), 70, 75, 200, 210]
  decide +kernel

end ScanAccounting
