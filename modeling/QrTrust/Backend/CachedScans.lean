import QrTrust.Lib.OrderedMap
import Mathlib.Data.Rat.Floor

/-! # Counters of cached scans

    The minute buckets of `InMemoryVerdictCache`: the scans of an envelope that
    the cache answered, counted for the spike monitor. -/

namespace CachedScans

/-- `int(value)`, which drops the fraction. -/
def truncate (value : ℚ) : Int := if 0 ≤ value then ⌊value⌋ else ⌈value⌉

/-- `_rate_bucket`. -/
def rateBucket (timestamp : ℚ) : Int := truncate timestamp / 60

/-- `_rate_buckets`. -/
def rateBuckets (since stop : ℚ) : List Int :=
  let first := rateBucket since
  let last := rateBucket stop
  if last < first then []
  else (List.range (last + 1 - first).toNat).map fun (i : Nat) => first + (i : Int)

/-- `_rate` and `_next_rate_prune`: by fingerprint and bucket, when the count expires
    and the count. -/
structure RateCounters where
  rate : OrderedMap (String × Int) (ℚ × Nat)
  nextRatePrune : ℚ

/-- A call of `record_cached_scan`; its clock counts the seconds since the epoch. -/
structure CachedScan where
  fingerprint : String
  now : ℚ
  retainSeconds : Int
  since_epoch : 0 ≤ now

namespace RateCounters

/-- A new cache. -/
def empty : RateCounters := ⟨.empty, 0⟩

/-- The counts that have expired go, once a minute. -/
def prune (counters : RateCounters) (now : ℚ) : RateCounters :=
  if counters.nextRatePrune ≤ now then
    ⟨counters.rate.filter fun entry => now < entry.2.1, now + 60⟩
  else counters

/-- The entry of a bucket after one more scan. -/
def counted (entry : Option (ℚ × Nat)) (now : ℚ) (retainSeconds : Int) : ℚ × Nat :=
  match entry with
  | none => (now + retainSeconds, 1)
  | some (expiry, count) =>
      if expiry ≤ now then (now + retainSeconds, 1) else (expiry, count + 1)

/-- `record_cached_scan`. -/
def recordCachedScan (counters : RateCounters) (scan : CachedScan) : RateCounters :=
  let pruned := counters.prune scan.now
  let key := (scan.fingerprint, rateBucket scan.now)
  { pruned with
    rate := pruned.rate.set key (counted (pruned.rate.get? key) scan.now scan.retainSeconds) }

/-- What one bucket adds to a count that is read at `now`. -/
def liveCount (entry : Option (ℚ × Nat)) (now : ℚ) : Nat :=
  match entry with
  | none => 0
  | some (expiry, count) => if now < expiry then count else 0

/-- `cached_scan_count`, read at `now`. -/
def cachedScanCount (counters : RateCounters) (fingerprint : String) (since stop now : ℚ) : Nat :=
  ((rateBuckets since stop).map fun bucket =>
    liveCount (counters.rate.get? (fingerprint, bucket)) now).sum

end RateCounters

/-- The counters after a run of recorded scans. -/
def afterScans (scans : List CachedScan) : RateCounters :=
  scans.foldl RateCounters.recordCachedScan .empty

end CachedScans
