import BulkLoad.Proofs.Batch.Partition

/-!
# Greedy batches

Lines are cut into batches greedily (`Greedy`) when every batch holds the next lines, as few as make it larger than the
threshold, and the last one holds what is left. There is one way only to do this (`Greedy.unique`), and its totals are
those of the lines (`Greedy.totals`).

**Cutting records cuts their lines greedily** (`greedy_cutRecords`).
-/

namespace BulkLoad

open List

/-! ## Groups of lines -/

/-- The batch holds the group of lines, and without the last of them it is not larger than the threshold. -/
structure Batch.Fits (threshold : Nat) (group : List Bytes) (b : Batch) : Prop where
  nonempty : group ≠ []
  records : b.records = group.length
  bytes : b.bytes = group.flatten
  before : group.dropLast.flatten.length ≤ threshold

/-- The lines are cut into batches, numbered from one, that hold groups of them in order. Each batch but the last is
larger than the threshold, and no batch is without its last line. -/
structure Greedy (threshold : Nat) (lines : List Bytes) (batches : List Batch) : Prop where
  numbered : batches.map Batch.seq = range' 1 batches.length
  grouped : ∃ groups, Forall₂ (Batch.Fits threshold) groups batches ∧ groups.flatten = lines
  larger : ∀ b ∈ batches.dropLast, threshold < b.size

namespace Greedy

variable {threshold : Nat} {lines : List Bytes} {batches : List Batch}

/-- The first group of one cut cannot go on in the first group of another one. -/
theorem eq_nil_of_longer {group more : List Bytes} {groups groups' : List (List Bytes)} {b : Batch} {bs : List Batch}
    (hfits : Forall₂ (Batch.Fits threshold) (group :: groups) (b :: bs))
    (hlarger : ∀ b' ∈ (b :: bs).dropLast, threshold < b'.size)
    (hbefore : (group ++ more).dropLast.flatten.length ≤ threshold)
    (hrest : groups.flatten = more ++ groups'.flatten) : more = [] := by
  by_contra hmore
  obtain ⟨hfit, hfits⟩ := forall₂_cons.mp hfits
  have hbs : bs ≠ [] := by
    rintro rfl
    obtain rfl := forall₂_nil_right_iff.mp hfits
    exact hmore (append_eq_nil_iff.mp hrest.symm).1
  have hb : b ∈ (b :: bs).dropLast := by
    rw [dropLast_cons_of_ne_nil hbs]
    exact mem_cons_self
  have hsize := hlarger b hb
  rw [Batch.size, hfit.bytes] at hsize
  rw [dropLast_append_of_ne_nil hmore, flatten_append, length_append] at hbefore
  omega

/-- The groups are determined by the lines. -/
theorem groups_unique : ∀ {groups groups' : List (List Bytes)} {bs bs' : List Batch},
    Forall₂ (Batch.Fits threshold) groups bs → Forall₂ (Batch.Fits threshold) groups' bs' →
    (∀ b ∈ bs.dropLast, threshold < b.size) → (∀ b ∈ bs'.dropLast, threshold < b.size) →
    groups.flatten = groups'.flatten → groups = groups'
  | [], [], _, _, _, _, _, _, _ => rfl
  | [], group' :: _, _, _, _, .cons hfit _, _, _, h => absurd (append_eq_nil_iff.mp h.symm).1 hfit.nonempty
  | group :: _, [], _, _, .cons hfit _, _, _, _, h => absurd (append_eq_nil_iff.mp h).1 hfit.nonempty
  | group :: groups, group' :: groups', b :: bs, b' :: bs', hfits, hfits', hlarger, hlarger', h => by
    have hgroup : group = group' := by
      rw [flatten_cons, flatten_cons, append_eq_append_iff] at h
      rcases h with ⟨more, rfl, hrest⟩ | ⟨more, rfl, hrest⟩
      · have hbefore := (forall₂_cons.mp hfits').1.before
        rw [eq_nil_of_longer hfits hlarger hbefore hrest, append_nil]
      · have hbefore := (forall₂_cons.mp hfits).1.before
        rw [eq_nil_of_longer hfits' hlarger' hbefore hrest, append_nil]
    subst hgroup
    have htail (bs : List Batch) (b : Batch) : ∀ x ∈ bs.dropLast, x ∈ (b :: bs).dropLast := by
      intro x hx
      cases bs with
      | nil => exact hx
      | cons c cs => exact mem_cons_of_mem b hx
    rw [groups_unique (forall₂_cons.mp hfits).2 (forall₂_cons.mp hfits').2
      (fun x hx => hlarger x (htail bs b x hx)) (fun x hx => hlarger' x (htail bs' b' x hx))
      (append_cancel_left h)]

theorem batches_unique {groups : List (List Bytes)} {bs bs' : List Batch} (h : Forall₂ (Batch.Fits threshold) groups bs)
    (h' : Forall₂ (Batch.Fits threshold) groups bs') (hseq : bs.map Batch.seq = bs'.map Batch.seq) : bs = bs' := by
  induction h generalizing bs' with
  | nil => exact (forall₂_nil_left_iff.mp h').symm
  | @cons group b groups bs hfit _ ih =>
    cases h' with
    | @cons _ b' _ bs' hfit' hfits' =>
      rw [map_cons, map_cons, cons.injEq] at hseq
      obtain ⟨seq, records, bytes⟩ := b
      obtain ⟨seq', records', bytes'⟩ := b'
      obtain rfl : seq = seq' := hseq.1
      obtain rfl : records = records' := hfit.records.trans hfit'.records.symm
      obtain rfl : bytes = bytes' := hfit.bytes.trans hfit'.bytes.symm
      rw [ih hfits' hseq.2]

/-- **There is one way only to cut lines greedily.** -/
theorem unique {batches' : List Batch} (h : Greedy threshold lines batches) (h' : Greedy threshold lines batches') :
    batches = batches' := by
  obtain ⟨groups, hfits, hlines⟩ := h.grouped
  obtain ⟨groups', hfits', hlines'⟩ := h'.grouped
  obtain rfl := groups_unique hfits hfits' h.larger h'.larger (hlines.trans hlines'.symm)
  have hlength : batches.length = batches'.length := hfits.length_eq.symm.trans hfits'.length_eq
  refine batches_unique hfits hfits' ?_
  rw [h.numbered, h'.numbered, hlength]

theorem sum_of_fits {groups : List (List Bytes)} (h : Forall₂ (Batch.Fits threshold) groups batches) :
    (batches.map Batch.records).sum = groups.flatten.length ∧
      (batches.map Batch.size).sum = groups.flatten.flatten.length := by
  induction h with
  | nil => exact ⟨rfl, rfl⟩
  | cons hfit _ ih =>
    rw [map_cons, map_cons, sum_cons, sum_cons, flatten_cons, flatten_append, length_append, length_append, ih.1, ih.2,
      hfit.records, Batch.size, hfit.bytes]
    exact ⟨rfl, rfl⟩

/-- The records and the bytes of all batches are the lines and their bytes. -/
theorem totals (h : Greedy threshold lines batches) :
    (batches.map Batch.records).sum = lines.length ∧ (batches.map Batch.size).sum = lines.flatten.length := by
  obtain ⟨groups, hfits, rfl⟩ := h.grouped
  exact sum_of_fits hfits

end Greedy

/-! ## Cutting records -/

section Cutting

variable {ρ : Type} {threshold : Nat}

theorem cutFrom_of_add {b b' : Builder ρ} {r : ρ} (h : b.add r = .ok b') (taken : Nat) (rs : List ρ) :
    cutFrom threshold b taken (r :: rs) =
      if b'.isFilled threshold then
        { cutFrom threshold b'.next (taken + 1) rs with
          filled := ⟨b'.batch, taken + 1⟩ :: (cutFrom threshold b'.next (taken + 1) rs).filled }
      else cutFrom threshold b' (taken + 1) rs := by
  rw [cutFrom, h]

/-- The batches that were filled hold the groups of lines and are larger than the threshold. The rest holds the last
lines, which are not. -/
structure Cut.Grouped (threshold : Nat) (groups : List (List Bytes)) (last : List Bytes) (c : Cut) (rest : Batch) :
    Prop where
  ending : c.ending = .rest rest
  filled : Forall₂ (fun g (x : Filled) => x.batch.Fits threshold g ∧ threshold < x.batch.size) groups c.filled
  records : rest.records = last.length
  bytes : rest.bytes = last.flatten
  small : last.flatten.length ≤ threshold

/-- The batch of a builder that was not larger than the threshold before its last line. -/
theorem Builder.fits_push {b : Builder ρ} {line : Bytes} (hsize : b.size ≤ threshold) :
    (b.push line).batch.Fits threshold (b.lines.reverse ++ [line]) := by
  have hlines : (b.push line).lines.reverse = b.lines.reverse ++ [line] := reverse_cons
  refine ⟨by simp, ?_, congrArg flatten hlines, ?_⟩
  · rw [← hlines, length_reverse]
    rfl
  · rw [dropLast_concat]
    rw [← Builder.size_batch] at hsize
    exact hsize

/-- The lines of a builder that is not larger than the threshold, and those of further records, are cut greedily. -/
theorem grouped_cutFrom : ∀ {rs : List ρ} {lines : List Bytes} {b : Builder ρ} (taken : Nat),
    Lines b.format b.schema rs lines → b.size ≤ threshold →
    ∃ groups last rest, (cutFrom threshold b taken rs).Grouped threshold groups last rest ∧
      groups.flatten ++ last = b.lines.reverse ++ lines
  | [], _, b, taken, .nil, hsize => by
    rw [← Builder.size_batch] at hsize
    exact ⟨[], b.lines.reverse, b.batch, ⟨rfl, .nil, length_reverse.symm, rfl, hsize⟩, (append_nil _).symm⟩
  | r :: rs, line :: lines, b, taken, .cons hline hlines, hsize => by
    have hadd : b.add r = .ok (b.push line) := by
      rw [Builder.add, hline]
    rw [cutFrom_of_add hadd]
    by_cases hfilled : (b.push line).isFilled threshold = true
    · rw [if_pos hfilled]
      have hlarger : threshold < (b.push line).batch.size := by
        rw [Builder.size_batch]
        simpa [Builder.isFilled] using hfilled
      have hnext : (b.push line).next.size ≤ threshold := Nat.zero_le threshold
      obtain ⟨groups, last, rest, hgrouped, hflatten⟩ :=
        grouped_cutFrom (b := (b.push line).next) (taken + 1) hlines hnext
      refine ⟨(b.lines.reverse ++ [line]) :: groups, last, rest, ⟨hgrouped.ending, ?_, hgrouped.records,
        hgrouped.bytes, hgrouped.small⟩, ?_⟩
      · exact .cons ⟨Builder.fits_push hsize, hlarger⟩ hgrouped.filled
      · rw [flatten_cons, append_assoc, hflatten]
        simp [Builder.next]
    · rw [if_neg hfilled]
      have hsmall : (b.push line).size ≤ threshold := by
        simpa [Builder.isFilled] using hfilled
      obtain ⟨groups, last, rest, hgrouped, hflatten⟩ :=
        grouped_cutFrom (b := b.push line) (taken + 1) hlines hsmall
      have hlines' : (b.push line).lines.reverse = b.lines.reverse ++ [line] := reverse_cons
      refine ⟨groups, last, rest, hgrouped, ?_⟩
      rw [hflatten, hlines', append_assoc]
      rfl

/-- A cut into groups is greedy, when its batches are numbered from one. -/
theorem Cut.Grouped.greedy {c : Cut} {groups : List (List Bytes)} {last : List Bytes} {rest : Batch}
    (h : c.Grouped threshold groups last rest) (hnumbered : c.batches.map Batch.seq = range' 1 c.batches.length) :
    Greedy threshold (groups.flatten ++ last) c.batches := by
  have hbatches : c.batches = c.filled.map Filled.batch ++ if rest.isEmpty then [] else [rest] := by
    rw [Cut.batches, h.ending]
  have hfits : Forall₂ (Batch.Fits threshold) groups (c.filled.map Filled.batch) :=
    forall₂_map_right_iff.mpr (h.filled.imp fun _ _ h => h.1)
  have hlarger : ∀ b ∈ c.filled.map Filled.batch, threshold < b.size := by
    intro b hb
    obtain ⟨x, hx, rfl⟩ := mem_map.mp hb
    obtain ⟨i, hi, rfl⟩ := mem_iff_getElem.mp hx
    exact (h.filled.get (by rw [h.filled.length_eq]; exact hi) hi).2
  have hempty : rest.isEmpty = true ↔ last = [] := by
    simp [Batch.isEmpty, h.records]
  rw [hbatches] at hnumbered ⊢
  by_cases hrest : last = []
  · rw [if_pos (hempty.mpr hrest), append_nil] at hnumbered ⊢
    rw [hrest, append_nil]
    exact ⟨hnumbered, ⟨groups, hfits, rfl⟩, fun b hb => hlarger b (dropLast_subset _ hb)⟩
  · rw [if_neg (hrest ∘ hempty.mp)] at hnumbered ⊢
    have hbefore : last.dropLast.flatten.length ≤ threshold := by
      have hsmall := h.small
      rw [← dropLast_append_getLast hrest, flatten_append, length_append] at hsmall
      exact Nat.le_of_add_right_le hsmall
    refine ⟨hnumbered, ⟨groups ++ [last], ?_, ?_⟩, ?_⟩
    · exact rel_append hfits (Forall₂.cons ⟨hrest, h.records, h.bytes, hbefore⟩ Forall₂.nil)
    · rw [flatten_append, flatten_singleton]
    · rw [dropLast_concat]
      exact hlarger

variable {s : Schema ρ} {f : Format}

theorem map_seq_batches (s : Schema ρ) (f : Format) (threshold : Nat) (records : List ρ) :
    (cutRecords s f threshold records).batches.map Batch.seq =
      range' 1 (cutRecords s f threshold records).batches.length := by
  refine ext_getElem (by rw [length_map, length_range']) fun i hi _ => ?_
  rw [length_map] at hi
  rw [getElem_map, getElem_range', seq_batches s f threshold records (getElem?_eq_getElem hi)]
  omega

/-- The lines of records that can be written are cut into groups. -/
theorem grouped_cutRecords (threshold : Nat) {records : List ρ} {lines : List Bytes} (h : Lines f s records lines) :
    ∃ groups last rest, (cutRecords s f threshold records).Grouped threshold groups last rest ∧
      groups.flatten ++ last = lines :=
  @grouped_cutFrom ρ threshold records lines { schema := s, format := f } 0 h (Nat.zero_le threshold)

/-- Records that can be written are cut to the end. -/
theorem ending_of_lines (threshold : Nat) {records : List ρ} {lines : List Bytes} (h : Lines f s records lines) :
    ∃ rest, (cutRecords s f threshold records).ending = .rest rest := by
  obtain ⟨_, _, rest, hgrouped, _⟩ := grouped_cutRecords threshold h
  exact ⟨rest, hgrouped.ending⟩

/-- **Cutting records cuts their lines greedily.** -/
theorem greedy_cutRecords (threshold : Nat) {records : List ρ} {lines : List Bytes} (h : Lines f s records lines) :
    Greedy threshold lines (cutRecords s f threshold records).batches := by
  obtain ⟨groups, last, rest, hgrouped, rfl⟩ := grouped_cutRecords threshold h
  exact hgrouped.greedy (map_seq_batches s f threshold records)

end Cutting

end BulkLoad
