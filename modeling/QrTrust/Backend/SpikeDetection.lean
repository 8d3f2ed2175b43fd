import QrTrust.Backend.CachedScans
import QrTrust.Lib.SortedCut
import Mathlib.Data.List.Dedup

/-! # Spike detection

    The scans of the envelopes, in the evidence store and in the counters of the
    verdict cache, and the detector that merges the two. -/

namespace ScanAccounting

open CachedScans SortedCut

/-! ## The evidence store -/

/-- A row of `qr_trust.scanner_decisions`, as far as the spike query reads it. -/
structure DecisionRow where
  envelopeFingerprint : Option String
  issuerId : Option String
  rootProgramId : Option String
  createdAt : ℚ
  deriving DecidableEq

/-- What the query leaves to the database: whether the collation sorts one text
    before another, and the order in which the plan lists the groups. -/
structure Database where
  collation : String → String → Bool
  planRank : String → Nat

/-- A row of the answer to `_ENVELOPE_SPIKE_QUERY`. -/
structure SpikeRow where
  envelopeFingerprint : String
  issuerId : Option String
  rootProgramId : Option String
  recentCount : Nat
  baselineCount : Nat
  deriving DecidableEq

/-- `max(column)` of the texts that are not null. -/
def Database.maxText (db : Database) (values : List (Option String)) : Option String :=
  values.foldl (fun best value =>
    match best, value with
    | none, value => value
    | best, none => best
    | some a, some b => if db.collation a b then some b else some a) none

/-- `where envelope_fingerprint is not null and created_at >= $1`. -/
def baselineRows (rows : List DecisionRow) (baselineStart : ℚ) : List DecisionRow :=
  rows.filter fun row => row.envelopeFingerprint.isSome && baselineStart ≤ row.createdAt

/-- The groups of `group by envelope_fingerprint`, as the plan lists them. -/
def Database.groups (db : Database) (rows : List DecisionRow) (baselineStart : ℚ) : List String :=
  ((baselineRows rows baselineStart).filterMap DecisionRow.envelopeFingerprint).dedup.insertionSort
    fun a b => db.planRank a ≤ db.planRank b

/-- The row of a group. -/
def Database.groupRow (db : Database) (rows : List DecisionRow) (baselineStart windowStart : ℚ)
    (fingerprint : String) : SpikeRow :=
  let group := (baselineRows rows baselineStart).filter fun row =>
    row.envelopeFingerprint = some fingerprint
  { envelopeFingerprint := fingerprint
    issuerId := db.maxText (group.map DecisionRow.issuerId)
    rootProgramId := db.maxText (group.map DecisionRow.rootProgramId)
    recentCount := group.countP fun row => windowStart ≤ row.createdAt
    baselineCount := group.length }

/-- `_ENVELOPE_SPIKE_QUERY`: `order by recent_count desc limit $3`. -/
def Database.envelopeSpikeQuery (db : Database) (rows : List DecisionRow)
    (baselineStart windowStart : ℚ) (limit : Nat) : List SpikeRow :=
  (sortDesc SpikeRow.recentCount ((db.groups rows baselineStart).map
    (db.groupRow rows baselineStart windowStart))).take limit

/-! ## The detector -/

/-- `SCAN_SPIKE_CANDIDATE_LIMIT`. -/
def scanSpikeCandidateLimit : Nat := 500

/-- The arguments of the detector; its callers keep the numbers from being negative. -/
structure SpikeSettings where
  windowSeconds : Nat
  baselineSeconds : Nat
  thresholdRatio : ℚ
  minScans : Nat
  limit : Nat

namespace SpikeSettings

variable (settings : SpikeSettings)

/-- `window_start`. -/
def windowStart (now : ℚ) : ℚ := now - settings.windowSeconds

/-- `baseline_start`. -/
def baselineStart (now : ℚ) : ℚ := now - settings.baselineSeconds

/-- `remaining_seconds`. -/
def remainingSeconds : Int := settings.baselineSeconds - settings.windowSeconds

/-- `baseline_per_window`: the prior scans, scaled to one window's worth. -/
def baselinePerWindow (prior : Nat) : ℚ :=
  if 0 < settings.remainingSeconds then
    prior * settings.windowSeconds / settings.remainingSeconds
  else 0

/-- `max(limit, SCAN_SPIKE_CANDIDATE_LIMIT)`. -/
def candidateLimit : Nat := max settings.limit scanSpikeCandidateLimit

end SpikeSettings

/-- `ScanSpikeRecord`. -/
structure ScanSpikeRecord where
  envelopeFingerprint : String
  issuerId : Option String
  rootProgramId : Option String
  recentCount : Nat
  baselineCount : Nat
  cachedRecentCount : Nat
  cachedBaselineCount : Nat
  baselinePerWindow : ℚ
  ratio : Option ℚ
  thresholdRatio : ℚ
  minScans : Nat
  windowSeconds : Nat
  baselineSeconds : Nat
  observedAt : ℚ

/-- `cached_scan_count`, where there is a cache. -/
def cachedCount (verdictCache : Option RateCounters) (fingerprint : String) (since now : ℚ) : Nat :=
  match verdictCache with
  | none => 0
  | some counters => counters.cachedScanCount fingerprint since now now

/-- One turn of the loop of `detect_envelope_spikes`. -/
def spikeOfRow (verdictCache : Option RateCounters) (settings : SpikeSettings) (now : ℚ)
    (row : SpikeRow) : Option ScanSpikeRecord :=
  let cachedRecent :=
    cachedCount verdictCache row.envelopeFingerprint (settings.windowStart now) now
  let cachedBaseline :=
    cachedCount verdictCache row.envelopeFingerprint (settings.baselineStart now) now
  let recent := row.recentCount + cachedRecent
  let baseline := row.baselineCount + cachedBaseline
  -- the difference of naturals is `max(0, baseline - recent)`
  let prior := baseline - recent
  let baselinePerWindow := settings.baselinePerWindow prior
  let ratio := if 0 < baselinePerWindow then some (recent / baselinePerWindow) else none
  if recent < settings.minScans then none
  else if ratio.any fun value => value < settings.thresholdRatio then none
  else
    some
      { envelopeFingerprint := row.envelopeFingerprint
        issuerId := row.issuerId
        rootProgramId := row.rootProgramId
        recentCount := recent
        baselineCount := baseline
        cachedRecentCount := cachedRecent
        cachedBaselineCount := cachedBaseline
        baselinePerWindow := baselinePerWindow
        ratio := ratio
        thresholdRatio := settings.thresholdRatio
        minScans := settings.minScans
        windowSeconds := settings.windowSeconds
        baselineSeconds := settings.baselineSeconds
        observedAt := now }

/-- `detect_envelope_spikes`; rows and counters are read at `now`. -/
def detectEnvelopeSpikes (db : Database) (rows : List DecisionRow)
    (verdictCache : Option RateCounters) (settings : SpikeSettings) (now : ℚ) :
    List ScanSpikeRecord :=
  let candidates := db.envelopeSpikeQuery rows (settings.baselineStart now)
    (settings.windowStart now) settings.candidateLimit
  let spikes := candidates.filterMap (spikeOfRow verdictCache settings now)
  (sortDesc ScanSpikeRecord.recentCount spikes).take settings.limit

/-! ## Scans -/

/-- A scan, as the scanner endpoint accounts for it: a computed verdict leaves its
    row, one that the cache served is counted there. -/
inductive Scan where
  | computed (row : DecisionRow)
  | served (fingerprint : String) (servedAt : ℚ) (since_epoch : 0 ≤ servedAt)

/-- The evidence store and the counters. -/
structure Ledger where
  rows : List DecisionRow
  counters : RateCounters

/-- What the endpoint writes down of a scan; counts are retained for the baseline and
    one bucket. -/
def Ledger.record (baselineSeconds : Nat) (ledger : Ledger) : Scan → Ledger
  | .computed row => { ledger with rows := ledger.rows ++ [row] }
  | .served fingerprint servedAt since_epoch =>
      { ledger with
        counters := ledger.counters.recordCachedScan
          ⟨fingerprint, servedAt, (baselineSeconds : Int) + 60, since_epoch⟩ }

/-- The ledger after a history. -/
def ledgerAfter (baselineSeconds : Nat) (history : List Scan) : Ledger :=
  history.foldl (Ledger.record baselineSeconds) ⟨[], .empty⟩

/-- The spikes the detector reports after a history. -/
def spikesAfter (db : Database) (settings : SpikeSettings) (history : List Scan) (now : ℚ) :
    List ScanSpikeRecord :=
  let ledger := ledgerAfter settings.baselineSeconds history
  detectEnvelopeSpikes db ledger.rows (some ledger.counters) settings now

end ScanAccounting
