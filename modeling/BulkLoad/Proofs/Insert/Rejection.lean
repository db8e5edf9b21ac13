import BulkLoad.Proofs.Batch.Partition
import BulkLoad.Proofs.Insert.Pipelining
import BulkLoad.Proofs.Insert.Sequential

/-!
# Rejected batches are reported

A writer takes the answer to a batch for a rejection when the statement was refused or, for a strict writer, when rows
were skipped (`SendResult.rejection?`). To speak about the answers, a target is wrapped with a record of them
(`Answering`). A writer whose batches have all been accepted counts exactly these (`Accepts`), one more batch is
accepted or refused (`Accepts.write`), and an insert ends with a refusal as soon as there is one (`Reported`,
`reported_of_halts`, `reported_insertAll`).

`rejected_batch_reported`: an insert reports the first rejected batch with the totals of the batches before it,
whatever else fails. There is one exception: a pipelined insert that meets a record it cannot write, while the answer to
the batch before is still due, reports the record.
-/

namespace BulkLoad

open List

/-! ## Answers -/

namespace SendResult

/-- Why a writer takes the answer to a batch for a rejection, if it does. -/
def rejection? (strict : Bool) (b : Batch) : SendResult → Option DriverError
  | .acked a => if b.records ≤ a.rows ∨ strict = false then none else some (ChannelWriter.skippedRows b a)
  | .refused e => some e
  | .crashed => none

/-- The number of rows that an answer acknowledges. -/
def rows : SendResult → Nat
  | .acked a => a.rows
  | _ => 0

end SendResult

/-- What a writer makes of an answer: the batch is written, unless the answer is a rejection. -/
theorem ChannelWriter.judge_of_answered {κ : Type} {w : ChannelWriter κ} {b : Batch} {a : SendResult}
    (h : a ≠ .crashed) : w.judge b a =
      match a.rejection? w.strict b with
      | none => (.written, w.accept b a.rows)
      | some source => (.failed (w.rejected b source), w) := by
  cases a with
  | acked a =>
    simp only [judge, SendResult.rejection?]
    split <;> rfl
  | refused e => rfl
  | crashed => exact absurd rfl h

/-- The totals of batches, with the rows that were acknowledged for them. -/
def totals (answered : List (Batch × SendResult)) : Progress :=
  answered.foldl (fun p x => p.record x.1 x.2.rows) {}

theorem totals_concat (answered : List (Batch × SendResult)) (b : Batch) (a : SendResult) :
    totals (answered ++ [(b, a)]) = (totals answered).record b a.rows := by
  simp [totals]

/-- A target and the answers that its channels have given to statements, in their order. -/
structure Answering (τ : Type) where
  target : τ
  answers : List SendResult := []

namespace Answering

variable {τ κ α : Type} [Target τ κ]

/-- Runs an operation of the target. -/
def lift (x : Act τ α) : Act (Answering τ) α := fun t =>
  let e := x t.target
  ⟨e.value, { t with target := e.state }, e.log⟩

/-- Sends a statement and records the answer. -/
def listen (x : Act τ SendResult) : Act (Answering τ) SendResult := fun t =>
  let e := x t.target
  ⟨e.value, ⟨e.state, t.answers ++ [e.value]⟩, e.log⟩

instance : Target (Answering τ) κ where
  format t := Target.format t.target
  autocommit t := Target.autocommit t.target
  setAutocommit on := lift (Target.setAutocommit on)
  commit := lift Target.commit
  rollback := lift Target.rollback
  openChannel := lift Target.openChannel
  send channel header payload := listen (Target.send channel header payload)
  closeChannel channel := lift (Target.closeChannel channel)

/-- Transaction control gets no answers to statements. -/
theorem controlled (answers : List SendResult) : Controlled fun t : Answering τ => t.answers = answers where
  setAutocommit _ _ h := h
  commit h := h
  rollback h := h

end Answering

/-- Recording the answers of a target changes nothing in what it does. -/
theorem Steady.answering {τ κ : Type} [Target τ κ] {P : τ → Prop} (hP : Steady P) :
    Steady fun t : Answering τ => P t.target where
  setAutocommit on _ ht := hP.setAutocommit on ht
  commit ht := hP.commit ht
  rollback ht := hP.rollback ht
  openChannel ht := hP.openChannel ht
  send channel header payload _ ht := hP.send channel header payload ht
  closeChannel channel _ ht := hP.closeChannel channel ht
  answers channel header payload _ ht := hP.answers channel header payload ht

/-! ## Writers -/

section Writers

variable {τ κ : Type} [Target τ κ] {P : τ → Prop} {strict : Bool} {bs : List Batch} {b : Batch} {w : ChannelWriter κ}
  {t t' : Answering τ}

/-- The writer has sent the batches, and has counted all of them as written. -/
structure Accepts (strict : Bool) (bs : List Batch) (w : ChannelWriter κ) (t : Answering τ) : Prop where
  checks : w.strict = strict
  answered : t.answers.length = bs.length
  noneRejected : ∀ x ∈ bs.zip t.answers, x.2.rejection? strict x.1 = none
  progress : w.progress = totals (bs.zip t.answers)

/-- The batch `b` has been rejected behind the batches `bs`, which were accepted, and `e` reports that. -/
structure Refusal (strict : Bool) (bs : List Batch) (b : Batch) (e : BulkError) (answers : List SendResult)
    (a : SendResult) : Prop where
  answered : answers.length = bs.length
  noneRejected : ∀ x ∈ bs.zip answers, x.2.rejection? strict x.1 = none
  reported : ∃ source, a.rejection? strict b = some source ∧
    e = .databaseWrite b.seq (totals (bs.zip answers)) source

omit [Target τ κ] in
theorem Accepts.of_answers (h : Accepts strict bs w t) (heq : t'.answers = t.answers) : Accepts strict bs w t' := by
  obtain ⟨hstrict, hlength, hnone, hprogress⟩ := h
  refine ⟨hstrict, ?_, ?_, ?_⟩ <;> rw [heq] <;> assumption

/-- One more batch is accepted, or it is rejected. -/
theorem Accepts.write (hP : Steady P) (h : Accepts strict bs w t) (ht : P t.target) (hb : b.isEmpty = false) :
    (∃ w' t', (w.write b).out t = ((.written, w'), t') ∧ Accepts strict (bs ++ [b]) w' t' ∧ P t'.target) ∨
    ∃ e t' a, (w.write b).out t = ((.failed e, w), t') ∧ t'.answers = t.answers ++ [a] ∧
      Refusal strict bs b e t.answers a := by
  have hkeep := hP.send w.channel w.header b.bytes ht
  have hanswers := hP.answers w.channel w.header b.bytes ht
  have hsend : (Target.send w.channel w.header b.bytes).out t =
      (((Target.send w.channel w.header b.bytes).out t.target).1,
        ⟨((Target.send w.channel w.header b.bytes).out t.target).2,
          t.answers ++ [((Target.send w.channel w.header b.bytes).out t.target).1]⟩) := rfl
  rw [ChannelWriter.out_write_judge hb, hsend]
  generalize (Target.send w.channel w.header b.bytes).out t.target = answered at hkeep hanswers
  obtain ⟨a, u⟩ := answered
  rw [ChannelWriter.judge_of_answered hanswers, h.checks]
  cases hrejects : a.rejection? strict b with
  | none =>
    refine Or.inl ⟨_, _, rfl, ⟨h.checks, by simp [h.answered], ?_, ?_⟩, hkeep⟩
    · rw [zip_append h.answered.symm]
      intro x hx
      rcases mem_append.mp hx with hx | hx
      · exact h.noneRejected x hx
      · simp only [zip_cons_cons, zip_nil_right, mem_singleton] at hx
        rw [hx]
        exact hrejects
    · rw [zip_append h.answered.symm]
      exact (congrArg (·.record b a.rows) h.progress).trans (totals_concat _ b a).symm
  | some source =>
    refine Or.inr ⟨_, _, a, rfl, rfl, h.answered, h.noneRejected, source, hrejects, ?_⟩
    rw [ChannelWriter.rejected, h.progress]

end Writers

/-! ## Inserts -/

namespace Insert

/-! ### What has been reported -/

section Reports

variable {τ : Type} {strict : Bool} {t t' : Answering τ} {all : List Batch} {r : Except BulkError Unit}

/-- Of the batches `all`, some have been sent: they were accepted, or the last of them was rejected, and the result
reports it. -/
inductive Reported (strict : Bool) (all : List Batch) : Except BulkError Unit → Answering τ → Prop
  | accepted {bs : List Batch} {r : Except BulkError Unit} {t : Answering τ} : bs <+: all →
      t.answers.length = bs.length → (∀ x ∈ bs.zip t.answers, x.2.rejection? strict x.1 = none) → Reported strict all r t
  | rejected {bs : List Batch} {b : Batch} {e : BulkError} {answers : List SendResult} {a : SendResult}
      {t : Answering τ} : bs ++ [b] <+: all → t.answers = answers ++ [a] → Refusal strict bs b e answers a →
      Reported strict all (.error e) t

theorem Reported.of_accepts {κ : Type} {bs : List Batch} {w : ChannelWriter κ} (h : Accepts strict bs w t)
    (hbs : bs <+: all) (r : Except BulkError Unit) : Reported strict all r t :=
  .accepted hbs h.answered h.noneRejected

theorem Reported.of_answers (h : Reported strict all r t) (heq : t'.answers = t.answers) : Reported strict all r t' := by
  cases h with
  | accepted hbs hlength hnone => exact .accepted hbs (by rw [heq]; exact hlength) (by rw [heq]; exact hnone)
  | rejected hbs hanswers hrefusal => exact .rejected hbs (heq.trans hanswers) hrefusal

/-- There are no more answers than batches. -/
theorem Reported.length_le (h : Reported strict all r t) : t.answers.length ≤ all.length := by
  cases h with
  | accepted hbs hlength _ => rw [hlength]; exact hbs.length_le
  | rejected hbs hanswers hrefusal =>
    have hle := hbs.length_le
    simp only [hanswers, length_append, length_cons, length_nil, hrefusal.answered] at hle ⊢
    exact hle

/-- **The first rejection is the result.** -/
theorem Reported.result (h : Reported strict all r t) {i : Nat} {b : Batch} {a : SendResult} {source : DriverError}
    (hsent : (all.zip t.answers)[i]? = some (b, a)) (hrejects : a.rejection? strict b = some source) :
    r = .error (.databaseWrite b.seq (totals ((all.zip t.answers).take i)) source) := by
  -- What is known of a batch that was accepted contradicts the rejection.
  have hnot {bs : List Batch} {answers : List SendResult} (hbs : bs <+: all) (hanswers : answers <+: t.answers)
      (hlength : answers.length = bs.length) (hnone : ∀ x ∈ bs.zip answers, x.2.rejection? strict x.1 = none) :
      bs.length ≤ i := by
    refine Nat.le_of_not_lt fun hlt => ?_
    obtain ⟨hb, ha⟩ := getElem?_zip_eq_some.mp hsent
    have hb' : bs[i]? = some b := by
      obtain ⟨rest, hrest⟩ := hbs
      rw [← hrest, getElem?_append_left hlt] at hb
      exact hb
    have ha' : answers[i]? = some a := by
      obtain ⟨rest, hrest⟩ := hanswers
      rw [← hrest, getElem?_append_left (by omega)] at ha
      exact ha
    have hmem : (b, a) ∈ bs.zip answers := mem_of_getElem? (getElem?_zip_eq_some.mpr ⟨hb', ha'⟩)
    have hnull := hnone _ hmem
    rw [hrejects] at hnull
    cases hnull
  cases h with
  | accepted hbs hlength hnone =>
    have hle := hnot hbs (prefix_refl _) hlength hnone
    have ha := (getElem?_zip_eq_some.mp hsent).2
    have hlt := (List.getElem?_eq_some_iff.mp ha).1
    omega
  | @rejected bs b' e answers a' _ hbs hanswers hrefusal =>
    obtain ⟨hlength, hnone, source', hrejects', rfl⟩ := hrefusal
    obtain ⟨rest, rfl⟩ := hbs
    have hbs : bs <+: bs ++ [b'] ++ rest := by simp
    have hle := hnot hbs (by simp [hanswers]) hlength hnone
    have hlt := (List.getElem?_eq_some_iff.mp (getElem?_zip_eq_some.mp hsent).2).1
    have hi : i = bs.length := by
      simp only [hanswers, length_append, length_cons, length_nil] at hlt
      omega
    subst hi
    have hzip : (bs ++ [b'] ++ rest).zip t.answers = bs.zip answers ++ [(b', a')] := by
      rw [hanswers, append_assoc, zip_append hlength.symm]
      simp
    have hpair : ((bs.zip answers) ++ [(b', a')])[bs.length]? = some (b', a') := by
      rw [getElem?_append_right (by simp [hlength])]
      simp [hlength]
    rw [hzip] at hsent ⊢
    rw [hpair] at hsent
    cases hsent
    rw [hrejects] at hrejects'
    cases hrejects'
    rw [take_append_of_le_length (by simp [hlength]), take_of_length_le (by simp [hlength])]

end Reports

/-! ### Stages -/

section Stages

variable {τ κ : Type} [Target τ κ] {P : τ → Prop} {strict : Bool} {bs : List Batch} {w : ChannelWriter κ}
  {pol : Policy} {t : Answering τ}

/-- Settling gets no answers. -/
theorem answers_settle (pol : Policy) (progress : Progress) (t : Answering τ) :
    ((pol.settle progress).out t).2.answers = t.answers :=
  (Answering.controlled t.answers).settle pol progress rfl

/-- An insert goes on as long as its batches are accepted, and stops with a refusal. -/
theorem follows_reported (hP : Steady P) :
    Follows (κ := κ) (fun bs w _ t => Accepts strict bs w t ∧ P t.target) fun bs e _ _ t =>
      ∃ init b answers a, bs = init ++ [b] ∧ t.answers = answers ++ [a] ∧ Refusal strict init b e answers a where
  settle h := ⟨h.1.of_answers (answers_settle _ _ _), hP.answering.settle _ _ h.2⟩
  write {bs _ _ t b} h hb := by
    rcases h.1.write hP h.2 hb with ⟨w', t', hwrite, haccepts, ht'⟩ | ⟨e, t', a, hwrite, hlast, hrefusal⟩
    · exact Or.inl ⟨w', t', hwrite, haccepts, ht'⟩
    · exact Or.inr ⟨e, t', hwrite, bs, b, t.answers, a, rfl, hlast, hrefusal⟩

omit [Target τ κ] in
/-- **Wherever a sequential insert stops, it reports the first rejection.** -/
theorem reported_of_halts {all : List Batch} {d : (Except BulkError Unit × Job (ChannelWriter κ)) × Answering τ}
    (h : Halts (fun bs w _ t => Accepts strict bs w t ∧ P t.target) (fun bs e _ _ t =>
      ∃ init b answers a, bs = init ++ [b] ∧ t.answers = answers ++ [a] ∧ Refusal strict init b e answers a) all d) :
    Reported strict all d.1.1 d.2 := by
  cases h with
  | accepted hbs _ hI => exact .of_accepts hI.1 hbs _
  | rejected hbs hF =>
    obtain ⟨init, b, answers, a, rfl, hlast, hrefusal⟩ := hF
    exact .rejected hbs hlast hrefusal

/-! ### A pipelined insert that meets a record it cannot write -/

theorem feed_append {ω : Type} {ops : Writer ω τ} (fs gs : List Filled) :
    feed ops (fs ++ gs) = (do feed ops fs; feed ops gs : Stage ω τ Unit) := by
  induction fs with
  | nil => simp [feed]
  | cons f fs ih => simp [feed, ih]

/-- When each of the batches that were filled got an answer, a pipelined insert has handed all of them over: the answer
to the last one may still be due. -/
theorem feed_piped_of_answered (hP : Steady P) (h : Accepts strict [] w t) (ht : P t.target) {fs : List Filled}
    (hne : ∀ x ∈ fs, x.batch.isEmpty = false) (n m : Nat)
    (hanswers : fs.length ≤ ((feed (direct (Answering τ)) fs).out ⟨w, pol, n⟩ t).2.answers.length) :
    ∃ j t', (feed (piped (Answering τ)) fs).out ⟨Pipelined.spawn (direct (Answering τ)) w, pol, m⟩ t =
      ((.ok (), j), t') := by
  rcases eq_nil_or_concat' fs with rfl | ⟨init, f, rfl⟩
  · exact ⟨_, _, rfl⟩
  rw [feed_append] at hanswers ⊢
  have hhalts := (follows_reported hP).feed (p := pol) n ⟨h, ht⟩ fun x hx => hne x (mem_append_left [f] hx)
  have hreported := reported_of_halts hhalts
  rcases hfeed : (feed (direct (Answering τ)) init).out ⟨w, pol, n⟩ t with ⟨⟨e | _, w₁, pol₁, n₁⟩, t₁⟩
  · rw [hfeed] at hreported
    rw [Stage.out_bind_of_error hfeed] at hanswers
    have hle := hreported.length_le
    simp only [nil_append, length_map, length_append, length_cons, length_nil] at hanswers hle
    omega
  · -- The batches before the last one have been accepted by both inserts.
    obtain ⟨h₁, ht₁⟩ : Accepts strict ([] ++ init.map Filled.batch) w₁ t₁ ∧ P t₁.target := by
      rw [hfeed] at hhalts
      cases hhalts with
      | accepted _ hall hI => exact hall rfl ▸ hI
    obtain ⟨owed, ⟨hresult, howes, hpolicy, htarget, _⟩, _⟩ :=
      abreast_feed hP.answering init pol n m ht Pipelined.Owes.nothing
    rw [Stage.out_bind_of_ok hfeed] at hanswers
    rw [hfeed] at hresult howes hpolicy htarget
    rcases hq : (feed (piped (Answering τ)) init).out ⟨Pipelined.spawn (direct (Answering τ)) w, pol, m⟩ t with
      ⟨⟨_ | _, p, polq, nq⟩, tq⟩
    · rw [hq] at hresult
      cases hresult
    rw [hq] at hresult howes hpolicy htarget
    simp only at hresult howes hpolicy htarget
    subst hpolicy htarget
    cases hresult
    rw [Stage.out_bind_of_ok hq, out_feed_cons, Stage.out_bind_of_ok (out_wait_piped howes)]
    rw [out_feed_cons, Stage.out_bind_of_ok out_wait_direct] at hanswers
    have hkeep := hP.answering.settle polq w₁.progress ht₁
    have hsame := answers_settle polq w₁.progress tq
    rcases hsettle : (polq.settle w₁.progress).out tq with ⟨⟨r, pol'⟩, t'⟩
    obtain ⟨hd, hq'⟩ := out_settle_both (n := f.taken) (m := f.taken) hsettle
    rw [hsettle] at hkeep hsame
    simp only at hsame
    rcases r with e | _
    · -- Had the policy failed to settle, the last batch would have got no answer.
      have hlength : t'.answers.length = init.length := by
        rw [hsame, h₁.answered, nil_append, length_map]
      rw [Stage.out_bind_of_error hd, length_append, length_cons, length_nil] at hanswers
      simp only [hlength] at hanswers
      omega
    · obtain ⟨r, w', p', t'', _, hwrite, _⟩ :=
        out_write_both hP.answering f.batch Pipelined.Owes.nothing hkeep pol' f.taken f.taken
      rw [Stage.out_bind_of_ok hq', Stage.out_bind_of_ok hwrite]
      exact ⟨_, _, rfl⟩

/-- A record that cannot be written gets no answer. -/
theorem answers_drive_of_failed {cut : Cut} {e : SerializationError} (hending : cut.ending = .failed e) (n : Nat) :
    ((drive (direct (Answering τ)) cut).out ⟨w, pol, n⟩ t).2.answers =
      ((feed (direct (Answering τ)) cut.filled).out ⟨w, pol, n⟩ t).2.answers := by
  rw [out_drive, hending]
  rcases hfeed : (feed (direct (Answering τ)) cut.filled).out ⟨w, pol, n⟩ t with ⟨⟨e' | _, j⟩, t'⟩
  · rw [Stage.out_bind_of_error hfeed]
  · rw [Stage.out_bind_of_ok hfeed, Stage.out_bind_of_ok (out_reach cut.taken)]
    rfl

/-- A pipelined insert whose filled batches all got an answer ends with the record that cannot be written. -/
theorem drive_piped_of_answered (hP : Steady P) (h : Accepts strict [] w t) (ht : P t.target) (cut : Cut)
    (hne : ∀ x ∈ cut.filled, x.batch.isEmpty = false) {e : SerializationError} (hending : cut.ending = .failed e)
    (n m : Nat)
    (hanswers : cut.filled.length ≤ ((drive (direct (Answering τ)) cut).out ⟨w, pol, n⟩ t).2.answers.length) :
    ∃ j t', (drive (piped (Answering τ)) cut).out ⟨Pipelined.spawn (direct (Answering τ)) w, pol, m⟩ t =
      ((.error (.serialization e), j), t') := by
  rw [answers_drive_of_failed hending] at hanswers
  obtain ⟨j, t', hfeed⟩ := feed_piped_of_answered hP h ht hne n m hanswers
  rw [out_drive, hending, Stage.out_bind_of_ok hfeed, Stage.out_bind_of_ok (out_reach cut.taken)]
  exact ⟨_, _, rfl⟩

/-! ### The end of the insert -/

/-- Ending an insert gets no answers. -/
theorem answers_finish (x : (Except BulkError Unit × Job (ChannelWriter κ)) × Answering τ) :
    (finish (direct (Answering τ)) x).2.answers = x.2.answers := by
  obtain ⟨⟨r, w, pol, n⟩, t⟩ := x
  have hclose : ((w.close).out t).2.answers = t.answers := by
    unfold ChannelWriter.close
    split <;> rfl
  rw [finish_direct]
  exact (Answering.controlled t.answers).close _ _ hclose

end Stages

end Insert

/-! ## The result of an insert -/

section All

variable {ρ τ κ : Type} [Target τ κ] {P : τ → Prop} {t : Answering τ}

/-- An insert has not sent anything, or its channel is open and its policy acquired. -/
theorem insertAll_started (hP : Steady P) (s : Schema ρ) (o : Options) (records : List ρ) (ht : P t.target)
    (hstart : t.answers = []) : ((insertAll s o records).out t).2.answers = [] ∨
    ∃ channel p t', (insertAll s o records).out t = Insert.load s o (Target.format t) records channel p t' ∧
      Accepts o.errorOnMissingRow [] (Insert.writer s o (Target.format t) channel) t' ∧ P t'.target := by
  rw [out_insertAll]
  have hkeep := hP.answering.openChannel ht
  have hopen : ((@Target.openChannel (Answering τ) κ _).out t).2.answers = [] := hstart
  rcases hout : (@Target.openChannel (Answering τ) κ _).out t with ⟨e | channel, t₁⟩
  · rw [hout] at hopen
    exact Or.inl hopen
  rw [hout] at hopen hkeep
  have hkeep' := hP.answering.acquire o hkeep
  have hacquire := (Answering.controlled (τ := τ) []).acquire o hopen
  simp only
  rcases hout' : (Policy.acquire o).out t₁ with ⟨e | p, t₂⟩
  · rw [hout'] at hacquire
    exact Or.inl hacquire
  · rw [hout'] at hacquire hkeep'
    exact Or.inr ⟨channel, p, t₂, rfl, ⟨rfl, by rw [hacquire]; rfl, by simp, rfl⟩, hkeep'⟩

/-- **A sequential insert reports the first rejection.** -/
theorem reported_insertAll (hP : Steady P) (s : Schema ρ) {o : Options} (hsequential : o.concurrent = false)
    (records : List ρ) (ht : P t.target) (hstart : t.answers = []) :
    ∃ r, Insert.Reported o.errorOnMissingRow (Insert.cut s o (Target.format t) records).batches r
        ((insertAll s o records).out t).2 ∧
      ∀ e, r = .error e → ((insertAll s o records).out t).1.result = .error e := by
  rcases insertAll_started hP s o records ht hstart with hnone | ⟨channel, p, t', hload, haccepts, ht'⟩
  · exact ⟨.ok (), .accepted nil_prefix (by rw [hnone]; rfl) (by simp [hnone]), nofun⟩
  · have hreported := Insert.reported_of_halts ((Insert.follows_reported hP).drive (p := p)
      (Insert.cut s o (Target.format t) records) (fun x hx => isEmpty_filled s _ _ records hx) ⟨haccepts, ht'⟩ 0)
    rw [hload, Insert.load_of_sequential s hsequential, Insert.out_run]
    generalize (Insert.drive _ _).out _ t' = driven at hreported ⊢
    obtain ⟨⟨r, ⟨w, pol, n⟩⟩, t''⟩ := driven
    refine ⟨r, hreported.of_answers (Insert.answers_finish _), ?_⟩
    rintro e rfl
    rw [Insert.finish_direct]
    rfl

/-- A pipelined insert that meets a record it cannot write reports the record, when all batches before it got an
answer. -/
theorem serialization_of_answered (hP : Steady P) (s : Schema ρ) {o : Options} (hpiped : o.concurrent = true)
    (records : List ρ) (ht : P t.target) (hstart : t.answers = []) {e : SerializationError}
    (hending : (Insert.cut s o (Target.format t) records).ending = .failed e)
    (hsome : ((insertAll s o records).out t).2.answers ≠ [])
    (hanswers : (Insert.cut s o (Target.format t) records).filled.length ≤
      ((insertAll s o records).out t).2.answers.length) :
    ((insertAll s o records).out t).1.result = .error (.serialization e) := by
  rcases insertAll_started hP s o records ht hstart with hnone | ⟨channel, p, t', hload, haccepts, ht'⟩
  · exact absurd hnone hsome
  have hpipe : Insert.load s o (Target.format t) records channel p t' =
      (Insert.run s.table (piped (Answering τ)) (Pipelined.spawn (direct (Answering τ))
        (Insert.writer s o (Target.format t) channel)) p (Insert.cut s o (Target.format t) records)).out t' := by
    unfold Insert.load
    rw [hpiped, if_pos rfl]
  rw [hload, hpipe] at hanswers ⊢
  -- The sequential insert leaves the same answers.
  obtain ⟨hstate, -⟩ := Insert.sameEffect_run hP.answering s.table (Insert.writer s o (Target.format t) channel) p
    (Insert.cut s o (Target.format t) records) ht'
  rw [hstate, Insert.out_run, Insert.answers_finish] at hanswers
  obtain ⟨j, t'', hdrive⟩ := Insert.drive_piped_of_answered hP haccepts ht'
    (Insert.cut s o (Target.format t) records) (fun x hx => isEmpty_filled s _ _ records hx) hending 0 0 hanswers
  rw [Insert.out_run, hdrive]
  rfl

/-- A record that cannot be written overtakes the answer to the batch at place `i`: the insert is pipelined, the batch is
the last one that was filled before the record, and its answer is still due. -/
def Insert.Overtakes (o : Options) (cut : Cut) (i : Nat) (e : SerializationError) : Prop :=
  o.concurrent = true ∧ cut.filled.length = i + 1 ∧ cut.ending = .failed e

/-- **An insert reports the rejected batch**, with its number and the totals of the batches before it, whatever later
records, the end of the channel and the end of the transaction do: unless a record that cannot be written overtakes the
answer, and then the insert reports the record. -/
theorem rejected_batch_reported (hP : Steady P) (s : Schema ρ) (o : Options) (records : List ρ) (ht : P t.target)
    (hstart : t.answers = []) {i : Nat} {b : Batch} {a : SendResult} {source : DriverError} :
    let cut := Insert.cut s o (Target.format t) records
    let insert := insertAll s o records t
    let sent := cut.batches.zip insert.state.answers
    sent[i]? = some (b, a) → a.rejection? o.errorOnMissingRow b = some source →
      insert.value.result = .error (.databaseWrite (i + 1) (totals (sent.take i)) source) ∧
          (∀ e, ¬ Insert.Overtakes o cut i e) ∨
        ∃ e, insert.value.result = .error (.serialization e) ∧ Insert.Overtakes o cut i e := by
  intro cut insert sent hsent hrejects
  -- The sequential insert leaves the same answers and reports the rejection.
  obtain ⟨hstate, hresult⟩ := sameEffect_insertAll hP.answering s o records ht
  obtain ⟨r, hreported, hr⟩ := reported_insertAll hP s (o := { o with concurrent := false }) rfl records ht hstart
  change Insert.Reported o.errorOnMissingRow cut.batches r _ at hreported
  have hsame : ((insertAll s { o with concurrent := false } records).out t).2.answers = insert.state.answers := by
    rcases o with ⟨_, _, _, _ | _, _⟩
    · rfl
    · exact (congrArg Answering.answers hstate).symm
  have hseq : b.seq = i + 1 := seq_batches s _ _ records (getElem?_zip_eq_some.mp hsent).1
  have hsequential : ((insertAll s { o with concurrent := false } records).out t).1.result =
      .error (.databaseWrite (i + 1) (totals (sent.take i)) source) := by
    change (cut.batches.zip insert.state.answers)[i]? = some (b, a) at hsent
    rw [← hsame] at hsent
    have hfirst := hreported.result hsent hrejects
    rw [hsame, hseq] at hfirst
    exact hr _ hfirst
  have hi : i < insert.state.answers.length := (List.getElem?_eq_some_iff.mp (getElem?_zip_eq_some.mp hsent).2).1
  by_cases hpiped : o.concurrent = true
  · have heq : ({ o with concurrent := true } : Options) = o := by rw [← hpiped]
    rw [heq, hsequential] at hresult
    by_cases hovertakes : ∃ e, Insert.Overtakes o cut i e
    · obtain ⟨e, hovertakes⟩ := hovertakes
      refine Or.inr ⟨e, ?_, hovertakes⟩
      refine serialization_of_answered hP s hpiped records ht hstart hovertakes.2.2 ?_ ?_
      · exact List.ne_nil_of_length_pos (Nat.zero_lt_of_lt hi)
      · exact hovertakes.2.1 ▸ hi
    · refine Or.inl ⟨?_, fun e he => hovertakes ⟨e, he⟩⟩
      rcases hresult with heq | ⟨e, se, hending, ⟨f, progress, source', hlast, rfl⟩, he, _⟩
      · exact heq.symm
      · -- The batch that the record hides is the last one that was filled.
        rw [getLast?_eq_getElem?] at hlast
        have hlength : cut.filled.length - 1 < cut.filled.length := (List.getElem?_eq_some_iff.mp hlast).1
        have hfseq : f.batch.seq = cut.filled.length - 1 + 1 := seq_filled s _ _ records hlast
        obtain ⟨heq, -⟩ := BulkError.databaseWrite.inj (Except.error.inj he)
        exact absurd ⟨se, hpiped, by omega, hending⟩ hovertakes
  · refine Or.inl ⟨?_, fun e he => hpiped he.1⟩
    have heq : ({ o with concurrent := false } : Options) = o := by rw [← Bool.eq_false_iff.mpr hpiped]
    rw [heq] at hsequential
    exact hsequential

end All

/-- A full disk. -/
def diskFull : DriverError := { kind := .other, message := "disk full" }

/-- A target that skips the row of the second statement, and fails to close its channel and to roll back. -/
def skipping : Answering Scripted where
  target := {
    script := {
      closeFault := some diskFull
      failingRollbacks := [1]
      sends := [.ack none none, .ack (some 0) (some 1)] } }

/-- A target that refuses the first statement. -/
def full : Answering Scripted where
  target := { script := { sends := [.refuse diskFull] } }

/-- The second of three batches lacks a row. -/
theorem rejected_batch_reported_skipping :
    let records := [some 10, some 11, some 12, none]
    let o : Options := { batchSize := some 1, errorOnMissingRow := true, concurrent := true }
    let b : Batch := ⟨2, 1, [0x31, 0x31, 0x0A]⟩
    let a : SendResult := .acked ⟨0, 1⟩
    let source := ChannelWriter.skippedRows b ⟨0, 1⟩
    let cut := Insert.cut numberSchema o .copy records
    let insert := insertAll numberSchema o records skipping
    let sent := cut.batches.zip insert.state.answers
    SendScript.crash ∉ skipping.target.script.sends ∧ skipping.answers = [] ∧ sent[1]? = some (b, a) ∧
      a.rejection? o.errorOnMissingRow b = some source ∧
      (insert.value.result = .error (.databaseWrite 2 (totals (sent.take 1)) source) ∧
          (∀ e, ¬ Insert.Overtakes o cut 1 e) ∨
        ∃ e, insert.value.result = .error (.serialization e) ∧ Insert.Overtakes o cut 1 e) := by
  intro records o b a source cut insert sent
  have hsent : sent[1]? = some (b, a) := by decide +kernel
  have hrejects : a.rejection? o.errorOnMissingRow b = some source := by decide +kernel
  exact ⟨by decide, rfl, hsent, hrejects,
    rejected_batch_reported Scripted.steady_scripted numberSchema o records (by decide) rfl hsent hrejects⟩

/-- A record that cannot be written overtakes the answer to the first batch, which is refused: the insert does not
report the batch. -/
theorem not_rejected_batch_reported :
    let o : Options := { batchSize := some 1, concurrent := true }
    let insert := insertAll numberSchema o [some 10, none] full
    insert.state.answers = [.refused diskFull] ∧
      insert.value.result = .error (.serialization ⟨2, 0, "id", .rejected "no id"⟩) ∧
      insert.value.result ≠ .error (.databaseWrite 1 {} diskFull) := by
  intro o insert
  have hresult : insert.value.result = .error (.serialization ⟨2, 0, "id", .rejected "no id"⟩) := by decide +kernel
  refine ⟨by decide +kernel, hresult, ?_⟩
  rw [hresult]
  nofun

end BulkLoad
