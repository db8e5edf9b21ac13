import BulkLoad.Proofs.Batch.Content
import Mathlib.Algebra.GroupWithZero.Nat

/-!
# Cuts are partitions

Cutting records numbers the batches without gaps (`seq_filled`, `seq_ending`) and puts the records into them in order:
the batches that were filled carry consecutive groups of records from the start (`carries_filled`), so that any number
of them carries the records that come first (`carries_take`).
-/

namespace BulkLoad

open List

variable {ρ : Type} {threshold : Nat}

/-- How one record changes a cut. -/
theorem cutFrom_cons (b : Builder ρ) (taken : Nat) (r : ρ) (rs : List ρ) :
    (∃ e, b.add r = .error e ∧ cutFrom threshold b taken (r :: rs) = ⟨[], .failed e, taken + 1⟩) ∨
    (∃ b', b.add r = .ok b' ∧ cutFrom threshold b taken (r :: rs) =
      { cutFrom threshold b'.next (taken + 1) rs with
        filled := ⟨b'.batch, taken + 1⟩ :: (cutFrom threshold b'.next (taken + 1) rs).filled }) ∨
    ∃ b', b.add r = .ok b' ∧ cutFrom threshold b taken (r :: rs) = cutFrom threshold b' (taken + 1) rs := by
  rw [cutFrom]
  cases hadd : b.add r with
  | error e => exact Or.inl ⟨e, rfl, rfl⟩
  | ok b' =>
    by_cases hfilled : b'.isFilled threshold = true
    · exact Or.inr (Or.inl ⟨b', rfl, if_pos hfilled⟩)
    · exact Or.inr (Or.inr ⟨b', rfl, if_neg hfilled⟩)

/-! ## Batches -/

/-- The first batches of a cut are batches that were filled. -/
theorem Cut.take_batches {cut : Cut} {i : Nat} (h : i ≤ cut.filled.length) :
    cut.batches.take i = (cut.filled.take i).map Filled.batch := by
  unfold Cut.batches
  rw [take_append_of_le_length (by rw [length_map]; exact h), map_take]

/-- Behind the batches that were filled there is at most one more. -/
theorem Cut.length_batches (cut : Cut) : cut.batches.length ≤ cut.filled.length + 1 := by
  unfold Cut.batches
  rw [length_append, length_map]
  split
  · split <;> simp
  · simp

/-! ## Numbers -/

/-- The batches that were filled are numbered from the number of the builder. -/
theorem seq_filled_from : ∀ (rs : List ρ) (b : Builder ρ) (taken : Nat),
    (cutFrom threshold b taken rs).filled.map (fun x => x.batch.seq) =
      List.range' b.seq (cutFrom threshold b taken rs).filled.length
  | [], _, _ => rfl
  | r :: rs, b, taken => by
    rcases cutFrom_cons b taken r rs with ⟨e, _, hcut⟩ | ⟨b', hadd, hcut⟩ | ⟨b', hadd, hcut⟩
    · rw [hcut]
      rfl
    · have ih := seq_filled_from rs b'.next (taken + 1)
      rw [hcut, map_cons, ih, length_cons, range'_succ, ← (Builder.frame_add hadd).2.2]
      rfl
    · have ih := seq_filled_from rs b' (taken + 1)
      rw [hcut, ih, (Builder.frame_add hadd).2.2]

/-- The number of the batch behind those that were filled. -/
def Ending.seq : Ending → Nat
  | .rest b => b.seq
  | .failed e => e.batch

theorem seq_ending_from : ∀ (rs : List ρ) (b : Builder ρ) (taken : Nat),
    (cutFrom threshold b taken rs).ending.seq = b.seq + (cutFrom threshold b taken rs).filled.length
  | [], _, _ => rfl
  | r :: rs, b, taken => by
    rcases cutFrom_cons b taken r rs with ⟨e, hadd, hcut⟩ | ⟨b', hadd, hcut⟩ | ⟨b', hadd, hcut⟩
    · rw [hcut]
      unfold Builder.add at hadd
      split at hadd
      · cases hadd
        rfl
      · cases hadd
    · have ih := seq_ending_from rs b'.next (taken + 1)
      have hseq : b'.next.seq = b'.seq + 1 := rfl
      rw [hcut, length_cons, ih, ← (Builder.frame_add hadd).2.2]
      omega
    · have ih := seq_ending_from rs b' (taken + 1)
      rw [hcut, ih, (Builder.frame_add hadd).2.2]

variable (s : Schema ρ) (f : Format) (threshold : Nat) (records : List ρ)

/-- The batches that were filled are numbered from one. -/
theorem map_seq_filled : (cutRecords s f threshold records).filled.map (fun x => x.batch.seq) =
    List.range' 1 (cutRecords s f threshold records).filled.length :=
  seq_filled_from records { schema := s, format := f } 0

theorem seq_filled {i : Nat} {x : Filled} (h : (cutRecords s f threshold records).filled[i]? = some x) :
    x.batch.seq = i + 1 := by
  have hi : ((cutRecords s f threshold records).filled.map fun x => x.batch.seq)[i]? = some x.batch.seq := by
    rw [getElem?_map, h]
    rfl
  rw [map_seq_filled, getElem?_range' (List.getElem?_eq_some_iff.mp h).1] at hi
  have := Option.some.inj hi
  omega

/-- The batch behind those that were filled, or the one under construction when a record fails, has the next number. -/
theorem seq_ending : (cutRecords s f threshold records).ending.seq =
    (cutRecords s f threshold records).filled.length + 1 := by
  rw [cutRecords, seq_ending_from, Nat.add_comm]

/-- The batches that are sent are numbered from one. -/
theorem seq_batches {i : Nat} {b : Batch} (h : (cutRecords s f threshold records).batches[i]? = some b) :
    b.seq = i + 1 := by
  have hending := seq_ending s f threshold records
  unfold Cut.batches at h
  by_cases hi : i < (cutRecords s f threshold records).filled.length
  · rw [getElem?_append_left (by rw [length_map]; exact hi), getElem?_map, Option.map_eq_some_iff] at h
    obtain ⟨x, hx, rfl⟩ := h
    exact seq_filled s f threshold records hx
  · -- Behind the batches that were filled there is at most one more.
    rw [getElem?_append_right (by rw [length_map]; omega), length_map] at h
    split at h
    · rename_i rest hrest
      rw [hrest] at hending
      split at h
      · cases h
      · obtain ⟨hlt, rfl⟩ := List.getElem?_eq_some_iff.mp h
        simp only [length_cons, length_nil] at hlt
        have hlast : i = (cutRecords s f threshold records).filled.length := by omega
        simpa [hlast, Ending.seq] using hending
    · cases h

/-! ## Records -/

/-- A batch that was filled has a record. -/
theorem isEmpty_filled_from : ∀ (rs : List ρ) (b : Builder ρ) (taken : Nat),
    ∀ x ∈ (cutFrom threshold b taken rs).filled, x.batch.isEmpty = false
  | [], _, _, _, hx => absurd hx not_mem_nil
  | r :: rs, b, taken, x, hx => by
    rcases cutFrom_cons b taken r rs with ⟨e, _, hcut⟩ | ⟨b', hadd, hcut⟩ | ⟨b', _, hcut⟩
    · rw [hcut] at hx
      exact absurd hx not_mem_nil
    · rw [hcut] at hx
      rcases mem_cons.mp hx with rfl | hx
      · obtain ⟨line, _, rfl⟩ := Builder.eq_push_of_add hadd
        rfl
      · exact isEmpty_filled_from rs b'.next (taken + 1) x hx
    · rw [hcut] at hx
      exact isEmpty_filled_from rs b' (taken + 1) x hx

theorem isEmpty_filled {x : Filled} (hx : x ∈ (cutRecords s f threshold records).filled) : x.batch.isEmpty = false :=
  isEmpty_filled_from threshold records { schema := s, format := f } 0 x hx

theorem carries_filled_from : ∀ (rs : List ρ) {b : Builder ρ} {held : List ρ} (taken : Nat), b.Holds held →
    ∃ groups, Forall₂ (fun g (x : Filled) => x.batch.Carries b.format b.schema g) groups
        (cutFrom threshold b taken rs).filled ∧ groups.flatten <+: held ++ rs
  | [], _, _, _, _ => ⟨[], Forall₂.nil, nil_prefix⟩
  | r :: rs, b, held, taken, hb => by
    rcases cutFrom_cons b taken r rs with ⟨e, _, hcut⟩ | ⟨b', hadd, hcut⟩ | ⟨b', hadd, hcut⟩
    · rw [hcut]
      exact ⟨[], Forall₂.nil, nil_prefix⟩
    · have hb' := hb.add hadd
      obtain ⟨hs, hf, _⟩ := Builder.frame_add hadd
      have hnext : b'.next.Holds [] := Builder.holds_nil rfl
      obtain ⟨groups, hgroups, hprefix⟩ := carries_filled_from rs (taken + 1) hnext
      have hcarries := hb'.carries
      change Forall₂ (fun g (x : Filled) => x.batch.Carries b'.format b'.schema g) groups _ at hgroups
      rw [hs, hf] at hcarries hgroups
      rw [hcut]
      refine ⟨(held ++ [r]) :: groups, Forall₂.cons hcarries hgroups, ?_⟩
      rw [flatten_cons, append_cons held r rs, prefix_append_right_inj]
      exact hprefix
    · obtain ⟨hs, hf, _⟩ := Builder.frame_add hadd
      obtain ⟨groups, hgroups, hprefix⟩ := carries_filled_from rs (taken + 1) (hb.add hadd)
      rw [hs, hf] at hgroups
      rw [hcut]
      refine ⟨groups, hgroups, ?_⟩
      rw [append_cons held r rs]
      exact hprefix

/-- The batches that were filled carry groups of records from the start, in order. -/
theorem carries_filled : ∃ groups, Forall₂ (fun g (x : Filled) => x.batch.Carries f s g) groups
    (cutRecords s f threshold records).filled ∧ groups.flatten <+: records :=
  @carries_filled_from ρ threshold records { schema := s, format := f } [] 0 (Builder.holds_nil rfl)

theorem carries_ending_from : ∀ (rs : List ρ) {b : Builder ρ} {held : List ρ} (taken : Nat), b.Holds held →
    (∃ groups last rest, (cutFrom threshold b taken rs).ending = .rest rest ∧
      Forall₂ (fun g (x : Filled) => x.batch.Carries b.format b.schema g) groups (cutFrom threshold b taken rs).filled ∧
      rest.Carries b.format b.schema last ∧ groups.flatten ++ last = held ++ rs) ∨
    ∃ e, (cutFrom threshold b taken rs).ending = .failed e ∧
      ∃ r ∈ rs, ∃ cause, encodeLine b.format b.schema r = .error cause
  | [], b, held, taken, hb => Or.inl ⟨[], held, b.batch, rfl, Forall₂.nil, hb.carries, by simp⟩
  | r :: rs, b, held, taken, hb => by
    rcases cutFrom_cons b taken r rs with ⟨e, hadd, hcut⟩ | ⟨b', hadd, hcut⟩ | ⟨b', hadd, hcut⟩
    · rw [hcut]
      refine Or.inr ⟨e, rfl, r, mem_cons_self, ?_⟩
      unfold Builder.add at hadd
      split at hadd
      · next hline => exact ⟨_, hline⟩
      · cases hadd
    · obtain ⟨hs, hf, _⟩ := Builder.frame_add hadd
      have hnext : b'.next.Holds [] := Builder.holds_nil rfl
      have hcarries := (hb.add hadd).carries
      have ih := carries_ending_from rs (taken + 1) hnext
      change (∃ groups last, ∃ rest : Batch, _ ∧
        Forall₂ (fun g (x : Filled) => x.batch.Carries b'.format b'.schema g) groups _ ∧
        rest.Carries b'.format b'.schema last ∧ _) ∨
        ∃ e, _ ∧ ∃ r ∈ rs, ∃ cause, encodeLine b'.format b'.schema r = .error cause at ih
      rw [hs, hf] at hcarries ih
      rw [hcut]
      rcases ih with ⟨groups, last, rest, hending, hgroups, hlast, hflatten⟩ | ⟨e, hending, x, hx, hcause⟩
      · refine Or.inl ⟨(held ++ [r]) :: groups, last, rest, hending, Forall₂.cons hcarries hgroups, hlast, ?_⟩
        rw [flatten_cons, append_assoc, hflatten]
        simp
      · exact Or.inr ⟨e, hending, x, mem_cons_of_mem r hx, hcause⟩
    · obtain ⟨hs, hf, _⟩ := Builder.frame_add hadd
      have ih := carries_ending_from rs (taken + 1) (hb.add hadd)
      rw [hs, hf] at ih
      rw [hcut]
      rcases ih with ⟨groups, last, rest, hending, hgroups, hlast, hflatten⟩ | ⟨e, hending, x, hx, hcause⟩
      · exact Or.inl ⟨groups, last, rest, hending, hgroups, hlast, by rw [hflatten]; simp⟩
      · exact Or.inr ⟨e, hending, x, mem_cons_of_mem r hx, hcause⟩

/-- Either the batches that were filled and the last one carry all records, in order, or there is a record that cannot be
written. -/
theorem carries_ending :
    (∃ groups last rest, (cutRecords s f threshold records).ending = .rest rest ∧
      Forall₂ (fun g (x : Filled) => x.batch.Carries f s g) groups (cutRecords s f threshold records).filled ∧
      rest.Carries f s last ∧ groups.flatten ++ last = records) ∨
    ∃ e, (cutRecords s f threshold records).ending = .failed e ∧ ∃ r ∈ records, ∃ cause, encodeLine f s r = .error cause :=
  @carries_ending_from ρ threshold records { schema := s, format := f } [] 0 (Builder.holds_nil rfl)

/-- The number of records in batches. -/
def recordCount (bs : List Filled) : Nat := (bs.map fun x => x.batch.records).sum

theorem length_flatten_of_carries {groups : List (List ρ)} {bs : List Filled}
    (h : Forall₂ (fun g (x : Filled) => x.batch.Carries f s g) groups bs) : groups.flatten.length = recordCount bs := by
  induction h with
  | nil => rfl
  | cons hcarries _ ih =>
    rw [flatten_cons, length_append, ih, ← hcarries.1]
    rfl

/-- The first batches carry the records that come first. -/
theorem carries_take (m : Nat) : ∃ groups, Forall₂ (fun g (x : Filled) => x.batch.Carries f s g) groups
      ((cutRecords s f threshold records).filled.take m) ∧
    groups.flatten = records.take (recordCount ((cutRecords s f threshold records).filled.take m)) := by
  obtain ⟨groups, hgroups, hprefix⟩ := carries_filled s f threshold records
  have htake := forall₂_take m hgroups
  refine ⟨groups.take m, htake, ?_⟩
  rw [← length_flatten_of_carries s f htake]
  apply prefix_iff_eq_take.mp
  refine IsPrefix.trans ?_ hprefix
  conv => rhs; rw [← take_append_drop m groups, flatten_append]
  exact prefix_append _ _

end BulkLoad
