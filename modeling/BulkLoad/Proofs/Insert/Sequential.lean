import BulkLoad.Proofs.Batch.Partition
import BulkLoad.Proofs.Insert.Outcome

/-!
# Sequential inserts batch by batch

A sequential insert settles the batches that have been accepted and writes the next one, until a batch is rejected or a
record cannot be written. To follow it through the batches that were filled, it is enough to know what becomes of a
property when what has been accepted is settled and the next batch is written (`Insert.Advances`,
`Insert.Advances.feed`). A property of the records that have been accepted is followed through all stages
(`Insert.Upkeep`, `Insert.Upkeep.drive`). Where settling may fail as well, a property of the batches that have been
accepted is followed to the place where the insert stops (`Insert.Follows`, `Insert.Follows.drive`).
-/

namespace BulkLoad

open List

variable {ρ τ κ : Type} [Target τ κ]

/-- What has been accepted is settled, and the next batch is accepted or rejected. The property `I` speaks about the
batches that have been accepted, and `F` about those before a batch that is rejected. -/
def Insert.Advances (I : List Batch → ChannelWriter κ → Policy → τ → Prop)
    (F : List Batch → Batch → BulkError → ChannelWriter κ → Policy → τ → Prop) : Prop :=
  ∀ (bs : List Batch) (w : ChannelWriter κ) (p : Policy) (t : τ) (b : Batch), I bs w p t → b.isEmpty = false →
    ∃ p' t', (p.settle w.progress).out t = ((.ok (), p'), t') ∧
      ((∃ w' t'', (w.write b).out t' = ((.written, w'), t'') ∧ I (bs ++ [b]) w' p' t'') ∨
        ∃ e t'', (w.write b).out t' = ((.failed e, w), t'') ∧ F bs b e w p' t'')

/-- **The batches that were filled** are all accepted, or one is rejected behind those before it. -/
theorem Insert.Advances.feed {I : List Batch → ChannelWriter κ → Policy → τ → Prop}
    {F : List Batch → Batch → BulkError → ChannelWriter κ → Policy → τ → Prop} (h : Insert.Advances I F) :
    ∀ {fs : List Filled} {bs : List Batch} {w : ChannelWriter κ} {p : Policy} {t : τ} (n : Nat), I bs w p t →
      (∀ x ∈ fs, x.batch.isEmpty = false) →
      (∃ w' p' n' t', (Insert.feed (direct τ) fs).out ⟨w, p, n⟩ t = ((.ok (), ⟨w', p', n'⟩), t') ∧
        I (bs ++ fs.map Filled.batch) w' p' t') ∨
      ∃ i x e w' p' n' t', fs[i]? = some x ∧
        (Insert.feed (direct τ) fs).out ⟨w, p, n⟩ t = ((.error e, ⟨w', p', n'⟩), t') ∧
        F (bs ++ (fs.take i).map Filled.batch) x.batch e w' p' t'
  | [], bs, w, p, t, n, hI, _ => by
    refine Or.inl ⟨w, p, n, t, rfl, ?_⟩
    rw [map_nil, append_nil]
    exact hI
  | f :: fs, bs, w, p, t, n, hI, hne => by
    obtain ⟨p', t', hsettle, hwrite⟩ := h bs w p t f.batch hI (hne f mem_cons_self)
    rw [out_feed_cons, Stage.out_bind_of_ok out_wait_direct, Stage.out_bind_of_ok (out_settle_direct hsettle)]
    rcases hwrite with ⟨w', t'', hwrite, haccepted⟩ | ⟨e, t'', hwrite, hrejected⟩
    · rw [Stage.out_bind_of_ok (out_write_direct hwrite)]
      rcases Advances.feed h f.taken haccepted (fun x hx => hne x (mem_cons_of_mem f hx)) with
        ⟨w₂, p₂, n₂, t₂, hfeed, hall⟩ | ⟨i, x, e, w₂, p₂, n₂, t₂, hx, hfeed, hrejected⟩
      · rw [map_cons, append_cons]
        exact Or.inl ⟨w₂, p₂, n₂, t₂, hfeed, hall⟩
      · refine Or.inr ⟨i + 1, x, e, w₂, p₂, n₂, t₂, hx, hfeed, ?_⟩
        rw [take_succ_cons, map_cons, append_cons]
        exact hrejected
    · rw [Stage.out_bind_of_error (out_write_direct hwrite)]
      refine Or.inr ⟨0, f, e, w, p', f.taken, t'', rfl, rfl, ?_⟩
      rw [take_zero, map_nil, append_nil]
      exact hrejected

/-- A property of an insert under way is kept up. It speaks about the records whose batches have been accepted, and is
`I` after writing and `J` after settling. When a batch is rejected, `F` holds, with the records of that batch
included. -/
structure Insert.Upkeep (s : Schema ρ) (f : Format) (I J F : List ρ → ChannelWriter κ → Policy → τ → Prop) : Prop where
  settle {rs : List ρ} {w : ChannelWriter κ} {p : Policy} {t : τ} : I rs w p t →
    ∃ p' t', (p.settle w.progress).out t = ((.ok (), p'), t') ∧ J rs w p' t'
  settled {rs : List ρ} {w : ChannelWriter κ} {p : Policy} {t : τ} : J rs w p t → I rs w p t
  write {rs rs' : List ρ} {w : ChannelWriter κ} {p : Policy} {t : τ} {b : Batch} : I rs w p t →
    b.Carries f s rs' → rs' ≠ [] →
      (∃ w' t', (w.write b).out t = ((.written, w'), t') ∧ I (rs ++ rs') w' p t') ∨
      ∃ e t', (w.write b).out t = ((.failed e, w), t') ∧ F (rs ++ rs') w p t'

namespace Insert.Upkeep

variable {s : Schema ρ} {f : Format} {I J F : List ρ → ChannelWriter κ → Policy → τ → Prop} {rs rs' : List ρ}
  {w : ChannelWriter κ} {p : Policy} {t : τ} {b : Batch}

/-- **The batches that were filled** are all accepted, or one of them is rejected. -/
theorem feed (h : Upkeep s f I J F) : ∀ {groups : List (List ρ)} {fs : List Filled} {rs : List ρ} {w : ChannelWriter κ}
    {p : Policy} {t : τ} (taken : Nat), I rs w p t →
    Forall₂ (fun rs (x : Filled) => x.batch.Carries f s rs) groups fs → (∀ x ∈ fs, x.batch.isEmpty = false) →
      (∃ w' p' taken' t', (Insert.feed (direct τ) fs).out ⟨w, p, taken⟩ t = ((.ok (), ⟨w', p', taken'⟩), t') ∧
        I (rs ++ groups.flatten) w' p' t') ∨
      ∃ e w' p' taken' t' rs', (Insert.feed (direct τ) fs).out ⟨w, p, taken⟩ t = ((.error e, ⟨w', p', taken'⟩), t') ∧
        rs' <+: rs ++ groups.flatten ∧ F rs' w' p' t'
  | _, _, rs, w, p, t, taken, hI, .nil, _ => by
    refine Or.inl ⟨w, p, taken, t, rfl, ?_⟩
    rw [flatten_nil, append_nil]
    exact hI
  | _, _, rs, w, p, t, taken, hI, @Forall₂.cons _ _ _ rs' x groups fs hx hfs, hne => by
    have hrs : rs' ≠ [] := by
      intro hrs
      have hempty := hne x mem_cons_self
      rw [hx.isEmpty.mpr hrs] at hempty
      cases hempty
    obtain ⟨p', t', hsettle, hJ⟩ := h.settle hI
    rw [out_feed_cons, Stage.out_bind_of_ok out_wait_direct, Stage.out_bind_of_ok (out_settle_direct hsettle),
      flatten_cons, ← append_assoc]
    rcases h.write (h.settled hJ) hx hrs with ⟨w', t'', hwrite, hI'⟩ | ⟨e, t'', hwrite, hF⟩
    · rw [Stage.out_bind_of_ok (out_write_direct hwrite)]
      exact feed h x.taken hI' hfs fun y hy => hne y (mem_cons_of_mem x hy)
    · rw [Stage.out_bind_of_error (out_write_direct hwrite)]
      exact Or.inr ⟨e, w, p', x.taken, t'', rs ++ rs', rfl, prefix_append _ _, hF⟩

/-- **The end of the payload**: the last batch is accepted and settled, or it is rejected. -/
theorem rest (h : Upkeep s f I J F) (hI : I rs w p t) (hb : b.Carries f s rs') (taken : Nat) :
    (∃ w' p' t', (finale (direct τ) (.rest b)).out ⟨w, p, taken⟩ t = ((.ok (), ⟨w', p', taken⟩), t') ∧
      J (rs ++ rs') w' p' t') ∨
    ∃ e t', (finale (direct τ) (.rest b)).out ⟨w, p, taken⟩ t = ((.error e, ⟨w, p, taken⟩), t') ∧
      F (rs ++ rs') w p t' := by
  have hlast {rs : List ρ} {w : ChannelWriter κ} {t : τ} (hI : I rs w p t) :
      ∃ p' t', (do Insert.wait (direct τ); Insert.settle (direct τ) : Stage (ChannelWriter κ) τ Unit).out
        ⟨w, p, taken⟩ t = ((.ok (), ⟨w, p', taken⟩), t') ∧ J rs w p' t' := by
    obtain ⟨p', t', hsettle, hJ⟩ := h.settle hI
    rw [Stage.out_bind_of_ok out_wait_direct, out_settle_direct hsettle]
    exact ⟨p', t', rfl, hJ⟩
  rw [out_rest]
  by_cases hrs : rs' = []
  · subst hrs
    obtain ⟨p', t', hout, hJ⟩ := hlast hI
    rw [if_pos (hb.isEmpty.mpr rfl), hout, append_nil]
    exact Or.inl ⟨w, p', t', rfl, hJ⟩
  rw [if_neg (hrs ∘ hb.isEmpty.mp)]
  rcases h.write hI hb hrs with ⟨w', t', hwrite, hI'⟩ | ⟨e, t', hwrite, hF⟩
  · obtain ⟨p', t'', hout, hJ⟩ := hlast hI'
    rw [Stage.out_bind_of_ok (out_write_direct hwrite), hout]
    exact Or.inl ⟨w', p', t'', rfl, hJ⟩
  · rw [Stage.out_bind_of_error (out_write_direct hwrite)]
    exact Or.inr ⟨e, t', rfl, hF⟩

/-- **All stages of a sequential insert**: all batches are accepted and settled, or one is rejected, or there is a
record that cannot be written. -/
theorem drive (h : Upkeep s f I J F) (hI : I [] w p t) (threshold : Nat) (records : List ρ) (taken : Nat) :
    let out := (Insert.drive (direct τ) (cutRecords s f threshold records)).out ⟨w, p, taken⟩ t
    (∃ w' p' taken' t', out = ((.ok (), ⟨w', p', taken'⟩), t') ∧ J records w' p' t') ∨
    ∃ e w' p' taken' t', out = ((.error e, ⟨w', p', taken'⟩), t') ∧
      ((∃ rs, rs <+: records ∧ F rs w' p' t') ∨
        (∃ r ∈ records, ∃ cause, encodeLine f s r = .error cause) ∧ ∃ rs, I rs w' p' t') := by
  intro out
  have hout : out = _ := out_drive (cutRecords s f threshold records)
  have hne : ∀ x ∈ (cutRecords s f threshold records).filled, x.batch.isEmpty = false :=
    fun x hx => isEmpty_filled s f threshold records hx
  have hfilled := carries_filled s f threshold records
  have hending := carries_ending s f threshold records
  generalize cutRecords s f threshold records = cut at hout hne hfilled hending
  rcases hending with ⟨groups, last, b, hending, hgroups, hb, hrecords⟩ | ⟨e, hending, hcause⟩
  · rw [hending] at hout
    rcases h.feed taken hI hgroups hne with
      ⟨w', p', taken', t', hfeed, hI'⟩ | ⟨e, w', p', taken', t', rs, hfeed, hprefix, hF⟩
    · rw [Stage.out_bind_of_ok hfeed, Stage.out_bind_of_ok (out_reach _)] at hout
      rw [nil_append] at hI'
      rcases h.rest hI' hb cut.taken with ⟨w'', p'', t'', hrest, hJ⟩ | ⟨e, t'', hrest, hF⟩
      · rw [hrecords] at hJ
        exact Or.inl ⟨w'', p'', _, t'', hout.trans hrest, hJ⟩
      · rw [hrecords] at hF
        exact Or.inr ⟨e, w', p', _, t'', hout.trans hrest, Or.inl ⟨records, prefix_rfl, hF⟩⟩
    · rw [Stage.out_bind_of_error hfeed] at hout
      rw [nil_append] at hprefix
      refine Or.inr ⟨e, w', p', taken', t', hout, Or.inl ⟨rs, hprefix.trans ?_, hF⟩⟩
      rw [← hrecords]
      exact prefix_append _ _
  · obtain ⟨groups, hgroups, hprefix⟩ := hfilled
    rw [hending] at hout
    rcases h.feed taken hI hgroups hne with
      ⟨w', p', taken', t', hfeed, hI'⟩ | ⟨e', w', p', taken', t', rs, hfeed, hprefix', hF⟩
    · rw [Stage.out_bind_of_ok hfeed, Stage.out_bind_of_ok (out_reach _)] at hout
      exact Or.inr ⟨.serialization e, w', p', cut.taken, t', hout, Or.inr ⟨hcause, _, hI'⟩⟩
    · rw [Stage.out_bind_of_error hfeed] at hout
      rw [nil_append] at hprefix'
      exact Or.inr ⟨e', w', p', taken', t', hout, Or.inl ⟨rs, hprefix'.trans hprefix, hF⟩⟩

end Insert.Upkeep

/-! ## Wherever an insert stops -/

/-- A property `I` of the batches that have been accepted is kept while an insert is under way, whether it settles or
fails to. When a batch is rejected, `F` holds, with that batch included. -/
structure Insert.Follows (I : List Batch → ChannelWriter κ → Policy → τ → Prop)
    (F : List Batch → BulkError → ChannelWriter κ → Policy → τ → Prop) : Prop where
  settle {bs : List Batch} {w : ChannelWriter κ} {p : Policy} {t : τ} : I bs w p t →
    I bs w ((p.settle w.progress).out t).1.2 ((p.settle w.progress).out t).2
  write {bs : List Batch} {w : ChannelWriter κ} {p : Policy} {t : τ} {b : Batch} : I bs w p t → b.isEmpty = false →
    (∃ w' t', (w.write b).out t = ((.written, w'), t') ∧ I (bs ++ [b]) w' p t') ∨
      ∃ e t', (w.write b).out t = ((.failed e, w), t') ∧ F (bs ++ [b]) e w p t'

/-- Of the batches `all`, the first ones have been accepted, or the last one of these has been rejected. An insert that
has not failed has got through all of them. -/
inductive Insert.Halts (I : List Batch → ChannelWriter κ → Policy → τ → Prop)
    (F : List Batch → BulkError → ChannelWriter κ → Policy → τ → Prop) (all : List Batch) :
    (Except BulkError Unit × Job (ChannelWriter κ)) × τ → Prop
  | accepted {bs : List Batch} {r : Except BulkError Unit} {w : ChannelWriter κ} {p : Policy} {n : Nat} {t : τ} :
      bs <+: all → (r = .ok () → bs = all) → I bs w p t → Halts I F all ((r, ⟨w, p, n⟩), t)
  | rejected {bs : List Batch} {e : BulkError} {w : ChannelWriter κ} {p : Policy} {n : Nat} {t : τ} :
      bs <+: all → F bs e w p t → Halts I F all ((.error e, ⟨w, p, n⟩), t)

namespace Insert.Follows

variable {I : List Batch → ChannelWriter κ → Policy → τ → Prop}
  {F : List Batch → BulkError → ChannelWriter κ → Policy → τ → Prop}

/-- A batch that is written is accepted, and then the insert goes on, or it is rejected. -/
theorem write_bind (h : Follows I F) {bs all : List Batch} {w : ChannelWriter κ} {p : Policy} {n : Nat} {t : τ} {b : Batch}
    {f : Unit → Stage (ChannelWriter κ) τ Unit} (hI : I bs w p t) (hb : b.isEmpty = false) (hall : bs ++ [b] <+: all)
    (hf : ∀ w' t', I (bs ++ [b]) w' p t' → Halts I F all ((f ()).out ⟨w', p, n⟩ t')) :
    Halts I F all ((Insert.write (direct τ) b >>= f).out ⟨w, p, n⟩ t) := by
  rcases h.write hI hb with ⟨w', t', hwrite, haccepted⟩ | ⟨e, t', hwrite, hrejected⟩
  · rw [Stage.out_bind_of_ok (out_write_direct hwrite)]
    exact hf w' t' haccepted
  · rw [Stage.out_bind_of_error (out_write_direct hwrite)]
    exact .rejected hall hrejected

/-- What has been accepted is settled, and then the insert goes on, or it stops. -/
theorem settle_bind (h : Follows I F) {bs all : List Batch} {w : ChannelWriter κ} {p : Policy} {n : Nat} {t : τ}
    {f : Unit → Stage (ChannelWriter κ) τ Unit} (hI : I bs w p t) (hall : bs <+: all)
    (hf : ∀ p' t', I bs w p' t' → Halts I F all ((f ()).out ⟨w, p', n⟩ t')) :
    Halts I F all ((do Insert.wait (direct τ); Insert.settle (direct τ) >>= f).out ⟨w, p, n⟩ t) := by
  have hsettled := h.settle hI
  rw [Stage.out_bind_of_ok out_wait_direct]
  rcases hsettle : (p.settle w.progress).out t with ⟨⟨e | _, p'⟩, t'⟩
  · rw [Stage.out_bind_of_error (out_settle_direct hsettle)]
    rw [hsettle] at hsettled
    exact .accepted hall nofun hsettled
  · rw [Stage.out_bind_of_ok (out_settle_direct hsettle)]
    rw [hsettle] at hsettled
    exact hf p' t' hsettled

/-- **The batches that were filled**, up to the place where the insert stops. -/
theorem feed (h : Follows I F) : ∀ {fs : List Filled} {bs : List Batch} {w : ChannelWriter κ} {p : Policy} {t : τ} (n : Nat),
    I bs w p t → (∀ x ∈ fs, x.batch.isEmpty = false) →
      Halts I F (bs ++ fs.map Filled.batch) ((Insert.feed (direct τ) fs).out ⟨w, p, n⟩ t)
  | [], bs, w, p, t, n, hI, _ => by
    rw [map_nil, append_nil]
    exact .accepted prefix_rfl (fun _ => rfl) hI
  | x :: fs, bs, w, p, t, n, hI, hne => by
    rw [out_feed_cons]
    refine h.settle_bind hI (prefix_append _ _) fun p' t' hI => ?_
    rw [map_cons, append_cons]
    refine h.write_bind hI (hne x mem_cons_self) (prefix_append _ _) fun w' t'' hI => ?_
    exact feed h x.taken hI fun y hy => hne y (mem_cons_of_mem x hy)

/-- Behind the last batch, what has been accepted is settled. -/
theorem settle_last (h : Follows I F) {bs : List Batch} {w : ChannelWriter κ} {p : Policy} {n : Nat} {t : τ}
    (hI : I bs w p t) : Halts I F bs
      ((do Insert.wait (direct τ); Insert.settle (direct τ) : Stage (ChannelWriter κ) τ Unit).out ⟨w, p, n⟩ t) := by
  have hsettled := h.settle hI
  rw [Stage.out_bind_of_ok out_wait_direct]
  rcases hsettle : (p.settle w.progress).out t with ⟨⟨r, p'⟩, t'⟩
  rw [out_settle_direct hsettle]
  rw [hsettle] at hsettled
  exact .accepted prefix_rfl (fun _ => rfl) hsettled

/-- The stages behind the last batch that was filled, up to the place where the insert stops. -/
theorem finale (h : Follows I F) {bs : List Batch} {w : ChannelWriter κ} {p : Policy} {n : Nat} {t : τ} (hI : I bs w p t)
    (ending : Ending) :
    Halts I F (bs ++ Cut.batches ⟨[], ending, n⟩) ((Insert.finale (direct τ) ending).out ⟨w, p, n⟩ t) := by
  cases ending with
  | failed e => exact .accepted (prefix_append _ _) nofun hI
  | rest b =>
    have hbatches : Cut.batches ⟨[], .rest b, n⟩ = if b.isEmpty then [] else [b] := rfl
    rw [out_rest, hbatches]
    by_cases hb : b.isEmpty = true
    · rw [if_pos hb, if_pos hb, append_nil]
      exact h.settle_last hI
    · rw [if_neg hb, if_neg hb]
      exact h.write_bind hI (Bool.eq_false_iff.mpr hb) prefix_rfl fun w' t' hI => h.settle_last hI

/-- **All stages of a sequential insert**, up to the place where it stops. -/
theorem drive (h : Follows I F) (c : Cut) (hne : ∀ x ∈ c.filled, x.batch.isEmpty = false) {w : ChannelWriter κ}
    {p : Policy} {t : τ} (hI : I [] w p t) (n : Nat) :
    Halts I F c.batches ((Insert.drive (direct τ) c).out ⟨w, p, n⟩ t) := by
  have hbatches : c.batches = c.filled.map Filled.batch ++ Cut.batches ⟨[], c.ending, c.taken⟩ := rfl
  have hfeed := h.feed n hI hne
  rw [out_drive, hbatches, Stage.out_bind]
  generalize (Insert.feed (direct τ) c.filled).out ⟨w, p, n⟩ t = fed at hfeed
  cases hfeed with
  | @accepted _ r _ _ _ _ hbs hok hI =>
    cases r with
    | error e => exact .accepted (hbs.trans (prefix_append _ _)) nofun hI
    | ok _ =>
      rw [hok rfl, nil_append] at hI
      exact h.finale hI c.ending
  | rejected hbs hF => exact .rejected (hbs.trans (prefix_append _ _)) hF

end Insert.Follows

end BulkLoad
