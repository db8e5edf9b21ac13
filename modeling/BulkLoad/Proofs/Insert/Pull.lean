import BulkLoad.Proofs.Batch.Buffer
import BulkLoad.Proofs.Insert.Outcome

/-!
# Pulling records

An insert pulls the records one by one through a buffer and writes a batch as soon as it is filled (`Insert.pull`).
**This is the same as writing the batches that the records are cut into** (`Insert.pull_eq_drive`).
-/

namespace BulkLoad

open List

namespace Insert

variable {ρ ω τ κ : Type} [Target τ κ]

/-- Pulls further records through a buffer, when `taken` of them have been taken, and writes each batch as soon as it is
filled. -/
def pull (ops : Writer ω τ) (threshold : Nat) (b : Buffer ρ) (taken : Nat) : List ρ → Stage ω τ Unit
  | [] => do
    reach taken
    flush ops b.take.1
    wait ops
    settle ops
  | r :: rs => do
    reach (taken + 1)
    match b.add r with
    | (.error e, _) => throw (.serialization e)
    | (.ok (), b) =>
      if b.isFilled threshold then
        say s!"writing {batchText b.take.1}"
        wait ops
        settle ops
        write ops b.take.1
        pull ops threshold b.take.2 (taken + 1) rs
      else pull ops threshold b (taken + 1) rs

/-- The stages of an insert, with those behind the last batch that was filled put together. -/
theorem drive_eq (ops : Writer ω τ) (c : Cut) :
    drive ops c = (do feed ops c.filled; reach c.taken; finale ops c.ending) := by
  unfold drive
  cases c.ending <;> rfl

/-- A number of records that were taken is forgotten for the next one. -/
theorem reach_feed (ops : Writer ω τ) (m n : Nat) (fs : List Filled) (f : Unit → Stage ω τ Unit) :
    (do reach m; feed ops fs; reach n >>= f) = (do feed ops fs; reach n >>= f) := by
  cases fs with
  | nil => rfl
  | cons x xs => rfl

theorem pull_toBuffer (ops : Writer ω τ) (threshold : Nat) : ∀ (rs : List ρ) (b : Builder ρ) (taken : Nat),
    pull ops threshold b.toBuffer taken rs = drive ops (cutFrom threshold b taken rs)
  | [], b, taken => rfl
  | r :: rs, b, taken => by
    rw [pull, b.add_toBuffer r, cutFrom, drive_eq]
    cases hadd : b.add r with
    | error e => rfl
    | ok b' =>
      simp only
      rw [b'.isFilled_toBuffer]
      by_cases hfilled : b'.isFilled threshold = true
      · rw [if_pos hfilled, if_pos hfilled, b'.take_toBuffer, pull_toBuffer ops threshold rs b'.next, drive_eq]
        rw [feed]
        simp only [bind_assoc]
      · rw [if_neg hfilled, if_neg hfilled, pull_toBuffer ops threshold rs b', drive_eq]
        exact reach_feed ops _ _ _ _

/-- **Pulling records through a buffer** writes the batches that they are cut into. -/
theorem pull_eq_drive (ops : Writer ω τ) (threshold : Nat) (s : Schema ρ) (f : Format) (records : List ρ) :
    pull ops threshold { schema := s, format := f } 0 records = drive ops (cutRecords s f threshold records) :=
  pull_toBuffer ops threshold records { schema := s, format := f } 0

end Insert

end BulkLoad
