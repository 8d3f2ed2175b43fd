import QrTrust.Lib.OrderedMap
import Mathlib.Data.List.Basic
import Mathlib.Data.Int.Order.Basic
import Mathlib.Tactic.Common

/-! # Sliding windows

    A limiter that keeps the times of what it granted, by key, and counts those
    in the window that ends now.  Times that left the window are dropped when
    the key is asked for again; other keys keep their counts (`used_check_of_ne`). -/

namespace SlidingWindow

variable {κ : Type} [DecidableEq κ]

/-- The times of what was granted, by key. -/
abbrev Records (κ : Type) := OrderedMap κ (List Int)

/-- The times of a key. -/
def bucket (records : Records κ) (key : κ) : List Int := (records.get? key).getD []

/-- Drop the times that have left the window. -/
def prune (window now : Int) (stamps : List Int) : List Int :=
  stamps.dropWhile fun stamp => stamp ≤ now - window

/-- Ask for one more: is it granted, and the records after it. -/
def check (records : Records κ) (key : κ) (limit window now : Int) : Bool × Records κ :=
  if limit ≤ 0 then (false, records)
  else
    let stamps := prune window now (bucket records key)
    if limit ≤ stamps.length then (false, records.set key stamps)
    else (true, records.set key (stamps ++ [now]))

/-- The times in a window that ends at `now`. -/
def inWindow (window now : Int) (stamps : List Int) : List Int :=
  stamps.filter fun stamp => now - window < stamp

/-- How many were granted in the window that ends at `now`. -/
def used (records : Records κ) (key : κ) (window now : Int) : Nat :=
  (inWindow window now (bucket records key)).length

/-- How many are left in the window that ends at `now`. -/
def remaining (records : Records κ) (key : κ) (limit window now : Int) : Int :=
  max 0 (limit - used records key window now)

theorem used_set_of_ne (records : Records κ) {key key' : κ} (h : key' ≠ key) (stamps : List Int)
    (window now : Int) :
    used (records.set key stamps) key' window now = used records key' window now := by
  rw [used, bucket, OrderedMap.get?_set_ne _ _ h]
  rfl

/-- **OTHER KEYS**: they keep their counts. -/
theorem used_check_of_ne (records : Records κ) {key key' : κ} (h : key' ≠ key)
    (limit window now window' later : Int) :
    used (check records key limit window now).2 key' window' later
      = used records key' window' later := by
  simp only [check]
  split
  · rfl
  · split
    · exact used_set_of_ne records h _ _ _
    · exact used_set_of_ne records h _ _ _

end SlidingWindow
