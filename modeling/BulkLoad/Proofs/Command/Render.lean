import BulkLoad.Command.Render
import BulkLoad.Proofs.Batch.Buffer

/-!
# What the render command writes

The render command builds its batches in a buffer and writes each as soon as it is filled. **It writes the batches that
the records are cut into** (`renderRecords_eq_renderCut`) and counts them.
-/

namespace BulkLoad

open List

variable {ρ : Type} {threshold : Nat}

/-- What is written for a cut, when `batches` have been written: its batches, and then their number or the failure. -/
def renderCut (batches : Nat) (c : Cut) : Rendered where
  out := c.batches.flatMap renderBatch
  result := match c.ending with
    | .failed e => .error (.serialization e)
    | .rest _ => .ok (batches + c.batches.length)

/-- What is written for a cut with one more batch that was filled. -/
theorem renderCut_cons (batches : Nat) (x : Filled) (c : Cut) :
    renderCut batches { c with filled := x :: c.filled } =
      { renderCut (batches + 1) c with out := renderBatch x.batch ++ (renderCut (batches + 1) c).out } := by
  have hcons : Cut.batches { c with filled := x :: c.filled } = x.batch :: c.batches := rfl
  unfold renderCut
  rw [hcons, flatMap_cons, length_cons]
  cases c.ending with
  | failed e => rfl
  | rest b => rw [Nat.add_assoc, Nat.add_comm 1]

theorem renderFrom_toBuffer : ∀ (rs : List ρ) (b : Builder ρ) (taken batches : Nat),
    renderFrom threshold b.toBuffer batches rs = renderCut batches (cutFrom threshold b taken rs)
  | [], b, taken, batches => by
    have hbatches : Cut.batches ⟨[], .rest b.batch, taken⟩ = if b.isEmpty then [] else [b.batch] := rfl
    rw [renderFrom, b.isEmpty_toBuffer, b.take_toBuffer, renderCut, cutFrom, hbatches]
    by_cases hempty : b.isEmpty = true
    · rw [if_pos hempty, if_pos hempty]
      rfl
    · rw [if_neg hempty, if_neg hempty, flatMap_singleton]
      rfl
  | r :: rs, b, taken, batches => by
    rw [renderFrom, b.add_toBuffer r, cutFrom]
    cases hadd : b.add r with
    | error e => rfl
    | ok b' =>
      simp only
      rw [b'.isFilled_toBuffer]
      by_cases hfilled : b'.isFilled threshold = true
      · rw [if_pos hfilled, if_pos hfilled, b'.take_toBuffer, renderCut_cons,
          renderFrom_toBuffer rs b'.next (taken + 1) (batches + 1)]
      · rw [if_neg hfilled, if_neg hfilled]
        exact renderFrom_toBuffer rs b' (taken + 1) batches

/-- **The batches of the records** are written. -/
theorem renderRecords_eq_renderCut (s : Schema ρ) (f : Format) (threshold : Nat) (records : List ρ) :
    renderRecords s f threshold records = renderCut 0 (cutRecords s f threshold records) :=
  renderFrom_toBuffer records { schema := s, format := f } 0 0

end BulkLoad
