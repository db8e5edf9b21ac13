import BulkLoad.Batch
import Mathlib.Data.List.Forall2

/-!
# What a batch carries

A batch carries a sequence of records (`Batch.Carries`) when its bytes are their encoded lines, in order, and its
counter is their number. A builder holds records in the same sense (`Builder.Holds`): it holds none at first, each
successful addition puts one record behind the others (`Builder.Holds.add`), and the batch it gives carries what it
holds (`Builder.Holds.carries`).
-/

namespace BulkLoad

open List

variable {ρ : Type}

/-- The lines of records, in order. -/
abbrev Lines (f : Format) (s : Schema ρ) (rs : List ρ) (lines : List Bytes) : Prop :=
  Forall₂ (fun r line => encodeLine f s r = .ok line) rs lines

/-- Lines are determined by their records. -/
theorem lines_unique {f : Format} {s : Schema ρ} {rs : List ρ} {lines lines' : List Bytes} (h : Lines f s rs lines)
    (h' : Lines f s rs lines') : lines = lines' := by
  induction h generalizing lines' with
  | nil => cases h'; rfl
  | cons hline _ ih =>
    cases h' with
    | cons hline' hrest =>
      rw [hline] at hline'
      cases hline'
      rw [ih hrest]

/-- The batch consists of the lines of the records. -/
def Batch.Carries (f : Format) (s : Schema ρ) (rs : List ρ) (b : Batch) : Prop :=
  b.records = rs.length ∧ ∃ lines, Lines f s rs lines ∧ b.bytes = lines.flatten

/-- A batch is empty when it carries no records. -/
theorem Batch.Carries.isEmpty {f : Format} {s : Schema ρ} {rs : List ρ} {b : Batch} (h : b.Carries f s rs) :
    b.isEmpty = true ↔ rs = [] := by
  simp [Batch.isEmpty, h.1]

/-- The builder holds the lines of the records. -/
def Builder.Holds (b : Builder ρ) (rs : List ρ) : Prop := Lines b.format b.schema rs b.lines.reverse

namespace Builder

variable {b b' : Builder ρ}

/-- A builder without records holds none. -/
theorem holds_nil (h : b.isEmpty = true) : b.Holds [] := by
  have hlines : b.lines = [] := by
    simpa [isEmpty, records] using h
  unfold Holds
  rw [hlines]
  exact Forall₂.nil

/-- What a successful addition does. -/
theorem eq_push_of_add {r : ρ} (h : b.add r = .ok b') :
    ∃ line, encodeLine b.format b.schema r = .ok line ∧ b' = b.push line := by
  unfold add at h
  split at h
  · cases h
  next line hline => cases h; exact ⟨line, hline, rfl⟩

/-- An addition puts its record behind the others. -/
theorem Holds.add {rs : List ρ} {r : ρ} (hb : b.Holds rs) (h : b.add r = .ok b') : b'.Holds (rs ++ [r]) := by
  obtain ⟨line, hline, rfl⟩ := eq_push_of_add h
  have hone : Lines b.format b.schema [r] [line] := Forall₂.cons hline Forall₂.nil
  simp only [Holds, push, reverse_cons]
  exact rel_append hb hone

/-- An addition changes neither schema, format nor number. -/
theorem frame_add {r : ρ} (h : b.add r = .ok b') :
    b'.schema = b.schema ∧ b'.format = b.format ∧ b'.seq = b.seq := by
  obtain ⟨line, _, rfl⟩ := eq_push_of_add h
  exact ⟨rfl, rfl, rfl⟩

/-- Additions that all succeed put their records behind the others. -/
theorem Holds.addAll : ∀ {rs : List ρ} {b b' : Builder ρ} {held : List ρ}, b.Holds held →
    rs.foldlM Builder.add b = .ok b' → b'.Holds (held ++ rs) ∧ b'.schema = b.schema ∧ b'.format = b.format
  | [], b, b', held, hb, h => by
    cases h
    rw [append_nil]
    exact ⟨hb, rfl, rfl⟩
  | r :: rs, b, b', held, hb, h => by
    rw [foldlM_cons] at h
    cases hr : b.add r with
    | error e => rw [hr] at h; cases h
    | ok b₁ =>
      rw [hr] at h
      obtain ⟨hh, hs, hf⟩ := Holds.addAll (hb.add hr) h
      obtain ⟨hs₁, hf₁, _⟩ := frame_add hr
      rw [append_assoc] at hh
      exact ⟨hh, hs.trans hs₁, hf.trans hf₁⟩

/-- The number of records is the number of additions. -/
theorem Holds.records {rs : List ρ} (hb : b.Holds rs) : b.records = rs.length := by
  rw [Builder.records, ← length_reverse]
  exact hb.length_eq.symm

/-- The batch of a builder carries what the builder holds. -/
theorem Holds.carries {rs : List ρ} (hb : b.Holds rs) : b.batch.Carries b.format b.schema rs :=
  ⟨hb.records, b.lines.reverse, hb, rfl⟩

end Builder

end BulkLoad
