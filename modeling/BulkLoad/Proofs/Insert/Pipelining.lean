import BulkLoad.Proofs.Insert.Steady

/-!
# Pipelined inserts

A pipelined insert makes the calls of the sequential one, in the same order. It runs behind by at most one answer: the
pipelined writer still owes the answer to a batch (`Pipelined.Owes`) that the sequential insert already has. When that
answer is a failure, the sequential insert has ended, and the pipelined one ends without a further call as soon as it
waits (`Insert.out_feed_of_failure`). `Insert.Abreast` relates the two through the batches that were filled
(`Insert.abreast_feed`), and `Insert.Agree` behind the end of the payload (`Insert.agree_drive`).

The two results differ in one case only: the last batch that was filled is rejected and a record behind it cannot be
written. The sequential insert then reports the batch, and the pipelined one the record (`Insert.Masked`).
-/

namespace BulkLoad

/-! ## What a pipelined writer owes -/

namespace Pipelined

variable {ω τ : Type} {inner : Writer ω τ} {w : ω} {p : Pipelined ω} {r : Except BulkError Unit}

/-- The pipelined writer has `w` in the background and answers `r` to whoever waits next. -/
inductive Owes (inner : Writer ω τ) (w : ω) : Except BulkError Unit → Pipelined ω → Prop
  | nothing : Owes inner w (.ok ()) (spawn inner w)
  | acknowledgement (seq records : Nat) (progress : Progress) :
      Owes inner w (.ok ()) ⟨.running w, some ⟨seq, records, .done (inner.progress w)⟩, progress⟩
  | failure (seq records : Nat) (e : BulkError) :
      Owes inner w (.error e) ⟨.running w, some ⟨seq, records, .failed e⟩, inner.progress w⟩

theorem Owes.out_wait (h : Owes inner w r p) (t : τ) : (wait p).out t = ((r, spawn inner w), t) := by
  cases h <;> rfl

theorem Owes.out_close (h : Owes inner w r p) (t : τ) : (close inner p).out t =
    ((r.bind fun _ => ((inner.close w).out t).1.1, ⟨.stopped, none, inner.progress w⟩), ((inner.close w).out t).2) := by
  unfold close
  rw [Act.out_bind, h.out_wait]
  rfl

/-- A failure that is owed is answered to the next batch, which is not passed on. -/
theorem Owes.out_write_of_failure {e : BulkError} (h : Owes inner w (.error e) p) (b : Batch) (t : τ) :
    ((Pipelined.ops inner).write b p).out t = ((.failed e, spawn inner w), t) := by
  show (Pipelined.write inner b p).out t = _
  unfold Pipelined.write
  rw [Act.out_bind, h.out_wait]
  rfl

theorem out_submit_spawn (b : Batch) (t : τ) : (submit inner b (spawn inner w)).out t =
    ((.written, (spawn inner w).receive inner b ((inner.write b w).out t).1.1 ((inner.write b w).out t).1.2),
      ((inner.write b w).out t).2) := rfl

variable {κ : Type} [Target τ κ] {P : τ → Prop} {t : τ} {w : ChannelWriter κ} {p : Pipelined (ChannelWriter κ)}

/-- A batch is passed on with the call that the channel writer makes, and the answer to it is owed. -/
theorem Owes.write (hP : Steady P) (b : Batch) (h : Owes (direct τ) w (.ok ()) p) (ht : P t) :
    ∃ attempt w' p' t', (w.write b).out t = ((attempt, w'), t') ∧
      ((piped τ).write b p).out t = ((.written, p'), t') ∧
      Owes (direct τ) w' attempt.toExcept p' ∧ P t' ∧
      ∀ e, attempt.toExcept = .error e → ∃ source, e = w'.rejected b source := by
  have hpiped : ((piped τ).write b p).out t =
      (if b.isEmpty then pure (.written, spawn (direct τ) w)
        else submit (direct τ) b (spawn (direct τ) w) : Act τ _).out t := by
    show (Pipelined.write (direct τ) b p).out t = _
    unfold Pipelined.write
    rw [Act.out_bind, h.out_wait]
  rw [hpiped]
  by_cases hb : b.isEmpty = true
  · rw [ChannelWriter.out_write, if_pos hb, if_pos hb]
    exact ⟨.written, w, _, t, rfl, rfl, Owes.nothing, ht, fun e he => by cases he⟩
  rw [if_neg hb]
  obtain ⟨t', ht', ⟨w', hw⟩ | ⟨source, hw⟩⟩ := hP.write b w ht
  · refine ⟨.written, w', _, t', hw, ?_, Owes.acknowledgement b.seq b.records w.progress, ht', fun e he => by cases he⟩
    rw [out_submit_spawn, show ((direct τ).write b w).out t = _ from hw]
    rfl
  · refine ⟨.failed (w.rejected b source), w, _, t', hw, ?_, Owes.failure b.seq b.records _, ht', ?_⟩
    · rw [out_submit_spawn, show ((direct τ).write b w).out t = _ from hw]
      rfl
    · intro e he
      cases he
      exact ⟨source, rfl⟩

end Pipelined

/-! ## Two inserts side by side -/

namespace Insert

open Pipelined (Owes spawn)

variable {τ κ : Type} [Target τ κ] {P : τ → Prop} {t : τ} {w : ChannelWriter κ} {p : Pipelined (ChannelWriter κ)}
  {pol : Policy} {n m : Nat}

/-- A sequential and a pipelined insert are abreast: they have made the same calls, and the answer `r` that the
pipelined writer owes makes up for the difference of their results. -/
structure Abreast (P : τ → Prop) (r : Except BulkError Unit) (d : (Except BulkError Unit × Job (ChannelWriter κ)) × τ)
    (q : (Except BulkError Unit × Job (Pipelined (ChannelWriter κ))) × τ) : Prop where
  result : d.1.1 = q.1.1.bind fun _ => r
  owes : Owes (direct τ) d.1.2.writer r q.1.2.writer
  policy : q.1.2.policy = d.1.2.policy
  target : q.2 = d.2
  keeps : P d.2

/-- The failure is about the last batch of those that were filled. -/
def Rejects (fs : List Filled) (e : BulkError) : Prop :=
  ∃ f progress source, fs.getLast? = some f ∧ e = .databaseWrite f.batch.seq progress source

theorem Rejects.cons {fs : List Filled} {e : BulkError} (f : Filled) (h : Rejects fs e) : Rejects (f :: fs) e := by
  obtain ⟨g, progress, source, hlast, he⟩ := h
  refine ⟨g, progress, source, ?_, he⟩
  rw [List.getLast?_cons, hlast]
  rfl

/-! ### Stages of the two -/

theorem out_wait_piped {r : Except BulkError Unit} (h : Owes (direct τ) w r p) :
    (wait (piped τ)).out ⟨p, pol, n⟩ t = ((r, ⟨spawn (direct τ) w, pol, n⟩), t) :=
  out_wait (h.out_wait t)

/-- Both inserts settle with the same calls, when nothing is owed. -/
theorem out_settle_both {r : Except BulkError Unit} {pol' : Policy} {t' : τ}
    (h : (pol.settle w.progress).out t = ((r, pol'), t')) :
    (settle (direct τ)).out ⟨w, pol, n⟩ t = ((r, ⟨w, pol', n⟩), t') ∧
      (settle (piped τ)).out ⟨spawn (direct τ) w, pol, m⟩ t = ((r, ⟨spawn (direct τ) w, pol', m⟩), t') :=
  ⟨out_settle_direct h, out_settle h⟩

/-- Both inserts write a batch with the same call; the pipelined one owes the answer. -/
theorem out_write_both (hP : Steady P) (b : Batch) (h : Owes (direct τ) w (.ok ()) p) (ht : P t) (pol : Policy)
    (n m : Nat) :
    ∃ r w' p' t', (write (direct τ) b).out ⟨w, pol, n⟩ t = ((r, ⟨w', pol, n⟩), t') ∧
      (write (piped τ) b).out ⟨p, pol, m⟩ t = ((.ok (), ⟨p', pol, m⟩), t') ∧
      Owes (direct τ) w' r p' ∧ P t' ∧
      ∀ e, r = .error e → ∃ progress source, e = .databaseWrite b.seq progress source := by
  obtain ⟨attempt, w', p', t', hd, hq, howes, ht', hrejected⟩ := h.write hP b ht
  refine ⟨attempt.toExcept, w', p', t', ?_, ?_, howes, ht', ?_⟩
  · exact out_write_direct hd
  · exact out_write (j := ⟨p, pol, m⟩) hq
  · intro e he
    obtain ⟨source, rfl⟩ := hrejected e he
    exact ⟨_, source, rfl⟩

/-- Both inserts flush the last batch with the same call; the pipelined one owes the answer. -/
theorem out_flush_both (hP : Steady P) (b : Batch) (h : Owes (direct τ) w (.ok ()) p) (ht : P t) (pol : Policy)
    (n m : Nat) :
    ∃ r w' p' t', (flush (direct τ) b).out ⟨w, pol, n⟩ t = ((r, ⟨w', pol, n⟩), t') ∧
      (flush (piped τ) b).out ⟨p, pol, m⟩ t = ((.ok (), ⟨p', pol, m⟩), t') ∧
      Owes (direct τ) w' r p' ∧ P t' := by
  by_cases hb : b.isEmpty = true
  · refine ⟨.ok (), w, p, t, ?_, ?_, h, ht⟩
    · rw [out_flush, if_pos hb]
    · rw [out_flush, if_pos hb]
  · obtain ⟨r, w', p', t', hd, hq, howes, ht', _⟩ := out_write_both hP b h ht pol n m
    refine ⟨r, w', p', t', ?_, ?_, howes, ht'⟩
    · rw [out_flush, if_neg hb, hd]
    · rw [out_flush, if_neg hb, hq]

/-- An insert that owes a failure ends with it at the next batch, without a further call. -/
theorem out_feed_of_failure {e : BulkError} (h : Owes (direct τ) w (.error e) p) (f : Filled) (fs : List Filled) :
    (feed (piped τ) (f :: fs)).out ⟨p, pol, n⟩ t =
      ((.error e, ⟨spawn (direct τ) w, pol, f.taken⟩), t) := by
  rw [out_feed_cons]
  exact Stage.out_bind_of_error (out_wait_piped h)

/-- The batches leave the two inserts abreast. A failure that is still owed then is about the last of the batches. -/
theorem abreast_feed (hP : Steady P) : ∀ (fs : List Filled) (pol : Policy) (n m : Nat) {w : ChannelWriter κ}
    {p : Pipelined (ChannelWriter κ)} {t : τ}, P t → Owes (direct τ) w (.ok ()) p →
    ∃ r, Abreast P r ((feed (direct τ) fs).out ⟨w, pol, n⟩ t) ((feed (piped τ) fs).out ⟨p, pol, m⟩ t) ∧
      ∀ e, r = .error e → Rejects fs e
  | [], _, _, _, _, _, _, ht, h => ⟨.ok (), ⟨rfl, h, rfl, rfl, ht⟩, fun e he => by cases he⟩
  | f :: fs, pol, _, _, w, p, t, ht, h => by
    rw [out_feed_cons, out_feed_cons, Stage.out_bind_of_ok out_wait_direct, Stage.out_bind_of_ok (out_wait_piped h)]
    have hkeep := hP.settle pol w.progress ht
    rcases hsettle : (pol.settle w.progress).out t with ⟨⟨r, pol'⟩, t'⟩
    obtain ⟨hd, hq⟩ := out_settle_both (n := f.taken) (m := f.taken) hsettle
    rw [hsettle] at hkeep
    rcases r with e | _
    · rw [Stage.out_bind_of_error hd, Stage.out_bind_of_error hq]
      exact ⟨.ok (), ⟨rfl, Owes.nothing, rfl, rfl, hkeep⟩, fun e he => by cases he⟩
    rw [Stage.out_bind_of_ok hd, Stage.out_bind_of_ok hq]
    obtain ⟨r, w', p', t'', hd, hq, howes, ht'', hrejected⟩ :=
      out_write_both hP f.batch Owes.nothing hkeep pol' f.taken f.taken
    rcases r with e | _
    · rw [Stage.out_bind_of_error hd, Stage.out_bind_of_ok hq]
      cases fs with
      | nil =>
        obtain ⟨progress, source, he⟩ := hrejected e rfl
        refine ⟨.error e, ⟨rfl, howes, rfl, rfl, ht''⟩, fun e' he' => ?_⟩
        cases he'
        exact ⟨f, progress, source, rfl, he⟩
      | cons g gs =>
        rw [out_feed_of_failure howes]
        exact ⟨.ok (), ⟨rfl, Owes.nothing, rfl, rfl, ht''⟩, fun e he => by cases he⟩
    · rw [Stage.out_bind_of_ok hd, Stage.out_bind_of_ok hq]
      obtain ⟨r, habreast, hlast⟩ := abreast_feed hP fs pol' f.taken f.taken ht'' howes
      exact ⟨r, habreast, fun e he => (hlast e he).cons f⟩

/-! ### The end of the payload -/

/-- The results of the two inserts, when the last batch that was filled is rejected and a record behind it cannot be
written: the sequential insert reports the batch, the pipelined one the record. -/
def Masked {α : Type} (c : Cut) (d q : Except BulkError α) : Prop :=
  ∃ e se, c.ending = .failed se ∧ Rejects c.filled e ∧ d = .error e ∧ q = .error (.serialization se)

/-- The two inserts behind their last stage: they have made the same calls, and have the same results unless one failure
hides another. When they succeed, nothing is owed. -/
structure Agree (c : Cut) (d : (Except BulkError Unit × Job (ChannelWriter κ)) × τ)
    (q : (Except BulkError Unit × Job (Pipelined (ChannelWriter κ))) × τ) : Prop where
  result : d.1.1 = q.1.1 ∨ Masked c d.1.1 q.1.1
  owes : ∃ r, Owes (direct τ) d.1.2.writer r q.1.2.writer ∧ (q.1.1 = .ok () → r = .ok ())
  policy : q.1.2.policy = d.1.2.policy
  target : q.2 = d.2

/-- The same result, without anything owed. -/
theorem Agree.of_eq {c : Cut} {r : Except BulkError Unit} :
    Agree c ((r, ⟨w, pol, n⟩), t) ((r, ⟨spawn (direct τ) w, pol, m⟩), t) :=
  ⟨Or.inl rfl, ⟨.ok (), Owes.nothing, fun _ => rfl⟩, rfl, rfl⟩

/-- Inserts that are abreast finish together. -/
theorem agree_rest (hP : Steady P) {c : Cut} (b : Batch) (h : Owes (direct τ) w (.ok ()) p) (ht : P t) :
    Agree c ((finale (direct τ) (.rest b)).out ⟨w, pol, n⟩ t) ((finale (piped τ) (.rest b)).out ⟨p, pol, m⟩ t) := by
  obtain ⟨r, w', p', t', hd, hq, howes, ht'⟩ := out_flush_both hP b h ht pol n m
  unfold finale
  rw [Stage.out_bind_of_ok hq]
  rcases r with e | _
  · rw [Stage.out_bind_of_error hd, Stage.out_bind_of_error (out_wait_piped howes)]
    exact Agree.of_eq
  · rw [Stage.out_bind_of_ok hd, Stage.out_bind_of_ok out_wait_direct, Stage.out_bind_of_ok (out_wait_piped howes)]
    rcases hsettle : (pol.settle w'.progress).out t' with ⟨⟨r, pol'⟩, t''⟩
    obtain ⟨hd, hq⟩ := out_settle_both (n := n) (m := m) hsettle
    rw [hd, hq]
    exact Agree.of_eq

/-- An insert that owes a failure ends with it instead of the last batch, without a further call. -/
theorem out_rest_of_failure {e : BulkError} (b : Batch) (h : Owes (direct τ) w (.error e) p) :
    (finale (piped τ) (.rest b)).out ⟨p, pol, n⟩ t = ((.error e, ⟨spawn (direct τ) w, pol, n⟩), t) := by
  rw [out_rest]
  by_cases hb : b.isEmpty = true
  · rw [if_pos hb, Stage.out_bind_of_error (out_wait_piped h)]
  · rw [if_neg hb]
    exact Stage.out_bind_of_error (out_write (j := ⟨p, pol, n⟩) (h.out_write_of_failure b t))

/-- **The two inserts agree when all batches have been driven through their writers.** -/
theorem agree_drive (hP : Steady P) (c : Cut) (ht : P t) (h : Owes (direct τ) w (.ok ()) p) :
    Agree c ((drive (direct τ) c).out ⟨w, pol, n⟩ t) ((drive (piped τ) c).out ⟨p, pol, m⟩ t) := by
  rw [out_drive, out_drive]
  obtain ⟨r, ⟨hresult, howes, hpolicy, htarget, hkeep⟩, hlast⟩ :=
    abreast_feed hP c.filled pol n m ht h
  rcases hd : (feed (direct τ) c.filled).out ⟨w, pol, n⟩ t with ⟨⟨rd, wd, pd, nd⟩, td⟩
  rcases hq : (feed (piped τ) c.filled).out ⟨p, pol, m⟩ t with ⟨⟨rq, wq, pq, nq⟩, tq⟩
  rw [hd, hq] at hresult howes hpolicy htarget
  rw [hd] at hkeep
  simp only at hresult howes hpolicy htarget hkeep
  subst hresult hpolicy htarget
  rcases rq with e | _
  · -- Both have failed before the end of the payload.
    rw [Stage.out_bind_of_error hd, Stage.out_bind_of_error hq]
    exact ⟨Or.inl rfl, ⟨r, howes, nofun⟩, rfl, rfl⟩
  rcases r with e | _
  · -- The pipelined insert goes on to the end of the payload, where it meets the failure or another one.
    rw [Stage.out_bind_of_error hd, Stage.out_bind_of_ok hq, Stage.out_bind_of_ok (out_reach c.taken)]
    cases hending : c.ending with
    | failed se => exact ⟨Or.inr ⟨e, se, hending, hlast e rfl, rfl, rfl⟩, ⟨_, howes, nofun⟩, rfl, rfl⟩
    | rest b =>
      rw [out_rest_of_failure b howes]
      exact Agree.of_eq
  · rw [Stage.out_bind_of_ok hd, Stage.out_bind_of_ok hq, Stage.out_bind_of_ok (out_reach c.taken),
      Stage.out_bind_of_ok (out_reach c.taken)]
    cases hending : c.ending with
    | failed se => exact ⟨Or.inl rfl, ⟨_, howes, nofun⟩, rfl, rfl⟩
    | rest b => exact agree_rest hP b howes hkeep

/-! ## The end of the insert -/

theorem finish_piped {owed : Except BulkError Unit} (h : Owes (direct τ) w owed p) (r : Except BulkError Unit)
    (pol : Policy) (n : Nat) (t : τ) : finish (piped τ) ((r, ⟨p, pol, n⟩), t) =
      conclude r (owed.bind fun _ => ((w.close).out t).1.1) w.progress pol n ((w.close).out t).2 := by
  have hclose : ((piped τ).close p).out t = _ := h.out_close t
  unfold finish
  rw [hclose]
  rfl

/-- Inserts that agree are ended with the same calls. -/
theorem agree_finish {c : Cut} {d : (Except BulkError Unit × Job (ChannelWriter κ)) × τ}
    {q : (Except BulkError Unit × Job (Pipelined (ChannelWriter κ))) × τ} (h : Agree c d q) :
    (finish (piped τ) q).2 = (finish (direct τ) d).2 ∧
      ((finish (direct τ) d).1.result = (finish (piped τ) q).1.result ∨
        Masked c (finish (direct τ) d).1.result (finish (piped τ) q).1.result) := by
  obtain ⟨⟨rd, w, pol, nd⟩, t⟩ := d
  obtain ⟨⟨rq, p, polq, nq⟩, tq⟩ := q
  obtain ⟨hresult, ⟨owed, howes, hok⟩, hpolicy, htarget⟩ := h
  simp only at hresult howes hok hpolicy htarget
  subst hpolicy htarget
  rw [finish_direct, finish_piped howes]
  rcases hresult with rfl | ⟨e, se, hending, hlast, rfl, rfl⟩
  · rcases rd with e | _
    · exact ⟨rfl, Or.inl rfl⟩
    · rw [hok rfl]
      exact ⟨rfl, Or.inl rfl⟩
  · exact ⟨rfl, Or.inr ⟨e, se, hending, hlast, rfl, rfl⟩⟩

/-- Two inserts leave the same target, and have the same result unless one failure hides another. -/
def SameEffect (c : Cut) (d q : InsertReport × τ) : Prop :=
  q.2 = d.2 ∧ (d.1.result = q.1.result ∨ Masked c d.1.result q.1.result)

theorem sameEffect_run (hP : Steady P) (table : String) (w : ChannelWriter κ) (pol : Policy) (c : Cut) (ht : P t) :
    SameEffect c ((run table (direct τ) w pol c).out t) ((run table (piped τ) (spawn (direct τ) w) pol c).out t) := by
  rw [out_run, out_run]
  exact agree_finish (agree_drive hP c ht Owes.nothing)

end Insert

section All

variable {ρ τ κ : Type} [Target τ κ] {P : τ → Prop} {t : τ}

/-- **Pipelining an insert changes no call.** The target is left in the same state, and the results are the same unless
one failure hides another. -/
theorem sameEffect_insertAll (hP : Steady P) (s : Schema ρ) (o : Options) (records : List ρ) (ht : P t) :
    Insert.SameEffect (Insert.cut s o (Target.format t) records)
      ((insertAll s { o with concurrent := false } records).out t)
      ((insertAll s { o with concurrent := true } records).out t) := by
  rw [out_insertAll, out_insertAll]
  have hopen := hP.openChannel ht
  generalize (@Target.openChannel τ κ _).out t = opened at hopen ⊢
  obtain ⟨e | channel, t₁⟩ := opened
  · exact ⟨rfl, Or.inl rfl⟩
  have hacquire := hP.acquire o hopen
  dsimp only
  have hmode (concurrent : Bool) : Policy.acquire { o with concurrent := concurrent } = (Policy.acquire o : Act τ _) :=
    rfl
  rw [hmode false, hmode true]
  generalize (Policy.acquire o).out t₁ = acquired at hacquire ⊢
  obtain ⟨e | p, t₂⟩ := acquired
  · exact ⟨rfl, Or.inl rfl⟩
  · exact Insert.sameEffect_run hP s.table _ p _ hacquire

/-- An insert has the effect of the sequential one, whether it is pipelined or not. -/
theorem sameEffect_of_sequential (hP : Steady P) (s : Schema ρ) (o : Options) (records : List ρ) (ht : P t) :
    Insert.SameEffect (Insert.cut s o (Target.format t) records)
      ((insertAll s { o with concurrent := false } records).out t) ((insertAll s o records).out t) := by
  have hsame := sameEffect_insertAll hP s o records ht
  cases hmode : o.concurrent with
  | false =>
    have ho : { o with concurrent := false } = o := by rw [← hmode]
    rw [ho]
    exact ⟨rfl, Or.inl rfl⟩
  | true =>
    have ho : { o with concurrent := true } = o := by rw [← hmode]
    rw [ho] at hsame
    exact hsame

/-- **Pipelined and sequential inserts have the same effect.** As long as no channel breaks down, whatever else fails,
the target gets the same calls in the same order and is left in the same autocommit mode, and either both inserts
succeed with the same totals or both fail. -/
theorem calls_pipelined_eq_sequential (hP : Steady P) (s : Schema ρ) (o : Options) (records : List ρ) {t : Traced τ}
    (ht : P t.target) :
    let piped := insertAll s { o with concurrent := true } records t
    let sequential := insertAll s { o with concurrent := false } records t
    piped.state.calls = sequential.state.calls ∧
      Target.autocommit piped.state = Target.autocommit sequential.state ∧
      ((∃ progress, piped.value.result = .ok progress ∧ sequential.value.result = .ok progress) ∨
        ∃ e e', piped.value.result = .error e ∧ sequential.value.result = .error e') := by
  intro piped sequential
  obtain ⟨hstate, hresult⟩ := sameEffect_insertAll hP.traced s o records ht
  change piped.state = sequential.state at hstate
  change sequential.value.result = piped.value.result ∨
    Insert.Masked _ sequential.value.result piped.value.result at hresult
  refine ⟨congrArg Traced.calls hstate, congrArg Target.autocommit hstate, ?_⟩
  rcases hresult with heq | ⟨e, se, _, _, hs, hp⟩
  · rw [heq]
    cases piped.value.result with
    | error e => exact Or.inr ⟨e, e, rfl, rfl⟩
    | ok progress => exact Or.inl ⟨progress, rfl, rfl⟩
  · exact Or.inr ⟨_, e, hp, hs⟩

end All

/-! ## A target that refuses some calls -/

/-- A table with one column of integers; a record without a number cannot be written. -/
def numberSchema : Schema (Option Int64) where
  table := "t"
  columns := [⟨"id", fun r => match r with
    | some i => .ok (.int i)
    | none => .error (.rejected "no id")⟩]
  faultless := by decide +kernel

/-- A target that refuses the second statement, the second commit and the first rollback. -/
def refusing : Traced Scripted where
  target := {
    script := {
      failingCommits := [2]
      failingRollbacks := [1]
      sends := [.ack none none, .refuse { kind := .other, message := "disk full" }] } }

theorem calls_pipelined_eq_sequential_refusing :
    SendScript.crash ∉ refusing.target.script.sends ∧
      let records := [some 10, some 11, none]
      let o : Options := { batchSize := some 1, errorOnMissingRow := true }
      let piped := insertAll numberSchema { o with concurrent := true } records refusing
      let sequential := insertAll numberSchema { o with concurrent := false } records refusing
      piped.state.calls = sequential.state.calls ∧
        Target.autocommit piped.state = Target.autocommit sequential.state ∧
        ((∃ progress, piped.value.result = .ok progress ∧ sequential.value.result = .ok progress) ∨
          ∃ e e', piped.value.result = .error e ∧ sequential.value.result = .error e') :=
  ⟨by decide, calls_pipelined_eq_sequential Scripted.steady_scripted numberSchema _ _ (by decide)⟩

end BulkLoad
