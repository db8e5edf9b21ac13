import BulkLoad.Insert

/-!
# Outcomes of inserts

The outcome of a stage of an insert is what it comes to, the job it leaves and the state of the target, without its
lines in the log (`Stage.out`). A stage that fails ends the stages behind it (`Stage.out_bind`), and there is one
equation for each stage: `out_reach`, `out_wait`, `out_write`, `out_settle`, `out_feed_cons`, `out_flush`, and
`out_drive` with the stages behind the last batch that was filled in `finale` (`out_rest`). The whole insert is
`out_run`, with its end in `finish`, and `out_insertAll`.
-/

namespace BulkLoad

/-! ## Writers -/

section Operations

variable (τ : Type) {κ : Type} [Target τ κ]

/-- The operations of the writer of a sequential insert. -/
abbrev direct : Writer (ChannelWriter κ) τ := ChannelWriter.ops

/-- The operations of the writer of a pipelined insert. -/
abbrev piped : Writer (Pipelined (ChannelWriter κ)) τ := Pipelined.ops ChannelWriter.ops

end Operations

namespace ChannelWriter

variable {τ κ : Type} [Target τ κ]

theorem out_write (b : Batch) (w : ChannelWriter κ) (t : τ) : (write b w).out t =
    if b.isEmpty then ((.written, w), t)
    else match (Target.send w.channel w.header b.bytes).out t with
      | (.crashed, t') => ((.crashed, w), t')
      | (.refused e, t') => ((.failed (w.rejected b e), w), t')
      | (.acked a, t') =>
        if b.records ≤ a.rows ∨ w.strict = false then ((.written, w.accept b a.rows), t')
        else ((.failed (w.rejected b (skippedRows b a)), w), t') := by
  unfold write
  split
  · rfl
  rw [Act.out_bind, Act.out_note, Act.out_bind]
  rcases (Target.send w.channel w.header b.bytes).out t with ⟨a | e | _, t'⟩
  · by_cases hrows : b.records ≤ a.rows
    · simp [hrows]
    · cases hstrict : w.strict <;> simp [hrows, -bind_pure_comp]
  · rfl
  · rfl

/-- A batch with records is sent and its answer judged. -/
theorem out_write_judge {b : Batch} (hb : b.isEmpty = false) (w : ChannelWriter κ) (t : τ) : (w.write b).out t =
    (w.judge b ((Target.send w.channel w.header b.bytes).out t).1,
      ((Target.send w.channel w.header b.bytes).out t).2) := by
  rw [out_write, if_neg (by simp [hb])]
  rcases (Target.send w.channel w.header b.bytes).out t with ⟨a | e | _, t'⟩
  · simp only [judge]
    split <;> rfl
  · rfl
  · rfl

/-- A writer that is still open closes its channel. -/
theorem out_close {w : ChannelWriter κ} {t t' : τ} (hopen : w.closed = false)
    (h : (Target.closeChannel w.channel).out t = (.ok (), t')) :
    (w.close).out t = ((.ok (), { w with closed := true }), t') := by
  unfold close
  rw [hopen, if_neg Bool.false_ne_true, Act.out_bind, h]
  rfl

theorem channelClose_of_close {w : ChannelWriter κ} {t : τ} {e : BulkError} (h : (w.close.out t).1.1 = .error e) :
    ∃ source, e = .channelClose source := by
  unfold close at h
  split at h
  · cases h
  · rw [Act.out_bind] at h
    revert h
    rcases (Target.closeChannel w.channel).out t with ⟨source | _, t'⟩
    · rintro ⟨⟩
      exact ⟨source, rfl⟩
    · exact nofun

end ChannelWriter

/-! ## Policies -/

/-- The mode of a policy when it is acquired. -/
def Options.policyMode (o : Options) : PolicyMode :=
  if o.longTransaction then .longTransaction o.commitOnClose
  else if o.errorOnMissingRow then .perBatch 0
  else .autocommit

/-- Whether a long transaction is committed in the end, for the mode of one. -/
def PolicyMode.long? : PolicyMode → Option Bool
  | .longTransaction commitOnClose => some commitOnClose
  | _ => none

namespace Policy

variable {τ κ : Type} [Target τ κ] {p : Policy}

theorem out_settle_autocommit (h : p.mode = .autocommit) (progress : Progress) (t : τ) :
    (p.settle progress).out t = ((.ok (), p.observe progress), t) := by
  simp only [settle, observe, h]
  rfl

theorem out_settle_perBatch {k : Nat} (h : p.mode = .perBatch k) (progress : Progress) (t : τ) :
    (p.settle progress).out t =
      if progress.batches = k then ((.ok (), p.observe progress), t)
      else match (Target.commit : Act τ _).out t with
        | (.error e, t') => ((.error (.transaction e), p.observe progress), t')
        | (.ok (), t') => ((.ok (), { p.observe progress with mode := .perBatch progress.batches }), t') := by
  simp only [settle, observe, h]
  split
  · rfl
  · rw [Act.out_bind, Act.out_note, Act.out_bind]
    rcases (Target.commit : Act τ _).out t with ⟨_ | _, t'⟩ <;> rfl

theorem out_close_autocommit (h : p.mode = .autocommit) (outcome : Outcome) (t : τ) :
    (p.close outcome).out t = (switchTo p.previous).out t := by
  obtain ⟨mode, previous, batches⟩ := p
  cases h
  cases outcome <;> rfl

theorem out_close_perBatch {k : Nat} (h : p.mode = .perBatch k) (t : τ) : (p.close .failure).out t =
    match (Target.rollback : Act τ _).out t with
    | (.ok (), t') => (switchTo p.previous).out t'
    | (.error e, t') =>
      (((switchTo p.previous).out t').1.bind fun _ => .error (.transaction e), ((switchTo p.previous).out t').2) := by
  obtain ⟨mode, previous, batches⟩ := p
  cases h
  rw [close_eq]
  unfold conclude closeEach
  simp only [Act.out_bind, Act.out_note]
  rcases (Target.rollback : Act τ _).out t with ⟨_ | _, t'⟩ <;> rfl

/-- With a transaction for each batch, an insert that succeeds only gives the connection its mode back. -/
theorem out_close_success (h : p.mode.long? = none) (t : τ) :
    (p.close .success).out t = (switchTo p.previous).out t := by
  obtain ⟨mode, previous, batches⟩ := p
  cases mode with
  | autocommit => rfl
  | perBatch k => rfl
  | longTransaction commitOnClose => cases h

/-- A long transaction that is not to be committed is left open. -/
theorem out_close_open (h : p.mode = .longTransaction false) (t : τ) : (p.close .success).out t = (.ok (), t) := by
  obtain ⟨mode, previous, batches⟩ := p
  cases h
  rfl

theorem out_close_commit (h : p.mode = .longTransaction true) (t : τ) : (p.close .success).out t =
    match (Target.commit : Act τ _).out t with
    | (.ok (), t') => p.restoreLong.out t'
    | (.error e, t') =>
      let t'' := ((Target.rollback : Act τ _).out t').2
      ((p.restoreLong.out t'').1.bind fun _ => .error (.transaction e), (p.restoreLong.out t'').2) := by
  rw [close_eq]
  unfold conclude closeLong
  rw [h]
  simp only [if_true, Act.out_bind, Act.out_note]
  rcases (Target.commit : Act τ _).out t with ⟨e | _, t'⟩
  · simp only [Act.out_bind]
    rcases (Target.rollback : Act τ _).out t' with ⟨_ | _, t''⟩ <;> rfl
  · rfl

theorem out_close_failure {commitOnClose : Bool} (h : p.mode = .longTransaction commitOnClose) (t : τ) :
    (p.close .failure).out t =
      match (Target.rollback : Act τ _).out t with
      | (.ok (), t') => p.restoreLong.out t'
      | (.error e, t') => (.error (.transaction e), t') := by
  rw [close_eq]
  unfold conclude closeLong
  rw [h]
  simp only [Act.out_bind, Act.out_note]
  rcases (Target.rollback : Act τ _).out t with ⟨_ | _, t'⟩ <;> rfl

/-- Settling fails with a transaction error only. -/
theorem transaction_of_settle {progress : Progress} {t : τ} {e : BulkError}
    (h : ((p.settle progress).out t).1.1 = .error e) : ∃ source, e = .transaction source := by
  cases hmode : p.mode with
  | autocommit => rw [out_settle_autocommit hmode] at h; cases h
  | perBatch k =>
    rw [out_settle_perBatch hmode] at h
    split at h
    · cases h
    · revert h
      rcases (Target.commit : Act τ _).out t with ⟨source | _, t'⟩
      · rintro ⟨⟩
        exact ⟨source, rfl⟩
      · exact nofun
  | longTransaction commitOnClose =>
    have hsettle : (p.settle progress).out t = ((.ok (), p.observe progress), t) := by
      simp only [Act.out, settle_of_long hmode]
    rw [hsettle] at h
    cases h

theorem transaction_of_switch {on : Bool} {t : τ} {e : BulkError} (h : ((switch on).out t).1 = .error e) :
    ∃ source, e = .transaction source := by
  unfold switch at h
  rw [Act.out_bind] at h
  revert h
  rcases (Target.setAutocommit on : Act τ _).out t with ⟨source | _, t'⟩
  · rintro ⟨⟩
    exact ⟨source, rfl⟩
  · exact nofun

theorem transaction_of_switchTo {on : Bool} {t : τ} {e : BulkError} (h : ((switchTo on).out t).1 = .error e) :
    ∃ source, e = .transaction source := by
  unfold switchTo at h
  rw [Act.out_bind, Act.out_ask] at h
  simp only at h
  split at h
  · cases h
  · exact transaction_of_switch h

/-- Acquiring a policy fails with a transaction error only. -/
theorem transaction_of_acquire {o : Options} {t : τ} {e : BulkError} (h : ((acquire o).out t).1 = .error e) :
    ∃ source, e = .transaction source := by
  unfold acquire at h
  split at h
  · unfold beginLong at h
    rw [Act.out_bind, Act.out_ask, Act.out_bind] at h
    cases hs : ((switchTo false).out t).1 with
    | error e' =>
      simp only [hs] at h
      cases h
      exact transaction_of_switchTo hs
    | ok _ =>
      simp only [hs] at h
      cases h
  · unfold beginEach at h
    rw [Act.out_bind, Act.out_ask, Act.out_bind] at h
    cases hs : ((switchTo true).out t).1 with
    | error e' =>
      simp only [hs] at h
      cases h
      exact transaction_of_switchTo hs
    | ok _ =>
      simp only [hs] at h
      split at h
      · rw [Act.out_bind] at h
        cases hoff : ((switch false).out ((switchTo true).out t).2).1 with
        | error e' =>
          simp only [hoff] at h
          cases h
          exact transaction_of_switch hoff
        | ok _ =>
          simp only [hoff] at h
          cases h
      · cases h

theorem out_acquire_long {o : Options} (h : o.longTransaction = true) (t : τ) : (acquire o).out t =
    (((switchTo false).out t).1.map fun _ => { mode := .longTransaction o.commitOnClose, previous := Target.autocommit t },
      ((switchTo false).out t).2) := by
  unfold acquire beginLong
  rw [if_pos h]
  rfl

theorem out_acquire_each {o : Options} (h : o.longTransaction = false) (t : τ) : (acquire o).out t =
    match (switchTo true).out t with
    | (.error e, t') => (.error e, t')
    | (.ok (), t') =>
      if o.errorOnMissingRow then
        (((switch false).out t').1.map fun _ => { mode := .perBatch 0, previous := Target.autocommit t },
          ((switch false).out t').2)
      else (.ok { mode := .autocommit, previous := Target.autocommit t }, t') := by
  unfold acquire beginEach
  rw [if_neg (by simp [h]), Act.out_bind, Act.out_ask, Act.out_bind]
  rcases (switchTo true).out t with ⟨e | _, t'⟩
  · rfl
  · simp only
    split <;> rfl

/-- **An acquired policy** is as the options ask for, remembers the mode that it has found, and has not been closed. -/
theorem eq_of_acquire {o : Options} {t t' : τ} (h : (acquire o).out t = (.ok p, t')) :
    p = { mode := o.policyMode, previous := Target.autocommit t } := by
  unfold Options.policyMode
  cases hlong : o.longTransaction with
  | true =>
    rw [out_acquire_long hlong] at h
    cases hs : ((switchTo false).out t).1 with
    | error e => rw [hs] at h; cases h
    | ok _ => rw [hs] at h; cases h; rfl
  | false =>
    rw [out_acquire_each hlong] at h
    rcases hs : (switchTo true).out t with ⟨e | _, t₁⟩
    · rw [hs] at h
      cases h
    · rw [hs] at h
      cases hchecked : o.errorOnMissingRow with
      | false =>
        simp only [hchecked, Bool.false_eq_true, if_false] at h
        cases h
        rfl
      | true =>
        simp only [hchecked, if_true] at h
        cases hoff : ((switch false).out t₁).1 with
        | error e => rw [hoff] at h; cases h
        | ok _ => rw [hoff] at h; cases h; rfl

/-- A policy remembers the mode that it has found, and is of the kind that the options ask for. -/
theorem acquired_of_acquire {o : Options} {t t' : τ} (h : (acquire o).out t = (.ok p, t')) :
    p.previous = Target.autocommit t ∧
      p.mode.long? = if o.longTransaction then some o.commitOnClose else none := by
  rw [eq_of_acquire h]
  refine ⟨rfl, ?_⟩
  unfold Options.policyMode
  split
  · rfl
  · split <;> rfl

theorem transaction_of_restoreLong {t : τ} {e : BulkError} (h : (p.restoreLong.out t).1 = .error e) :
    ∃ source, e = .transaction source := by
  unfold restoreLong at h
  split at h
  · exact transaction_of_switch h
  · cases h

/-- Of a failing operation and a transaction error behind it, the first counts. -/
theorem transaction_of_bind {r : Except BulkError Unit} {source : DriverError} {e : BulkError}
    (h : (r.bind fun _ => (Except.error (.transaction source) : Except BulkError Unit)) = .error e)
    (hr : ∀ e, r = .error e → ∃ source, e = .transaction source) : ∃ source, e = .transaction source := by
  cases r with
  | error e' =>
    cases h
    exact hr e rfl
  | ok _ =>
    cases h
    exact ⟨source, rfl⟩

theorem transaction_of_closeEach {outcome : Outcome} {t : τ} {e : BulkError}
    (h : ((p.closeEach outcome).out t).1 = .error e) : ∃ source, e = .transaction source := by
  unfold closeEach at h
  rw [Act.out_bind, Act.out_note] at h
  simp only at h
  split at h
  · rw [Act.out_bind, Act.out_note, Act.out_bind] at h
    revert h
    rcases (Target.rollback : Act τ _).out t with ⟨source | _, t'⟩
    · exact fun h => transaction_of_bind h fun _ => transaction_of_switchTo
    · exact transaction_of_switchTo
  · exact transaction_of_switchTo h

theorem transaction_of_closeLong {commitOnClose : Bool} {outcome : Outcome} {t : τ} {e : BulkError}
    (h : ((p.closeLong commitOnClose outcome).out t).1 = .error e) : ∃ source, e = .transaction source := by
  cases outcome with
  | failure =>
    unfold closeLong at h
    rw [Act.out_bind, Act.out_note, Act.out_bind] at h
    revert h
    rcases (Target.rollback : Act τ _).out t with ⟨source | _, t'⟩
    · rintro ⟨⟩
      exact ⟨source, rfl⟩
    · exact transaction_of_restoreLong
  | success =>
    cases commitOnClose with
    | false => cases h
    | true =>
      unfold closeLong at h
      rw [if_pos rfl, Act.out_bind, Act.out_note, Act.out_bind] at h
      revert h
      rcases (Target.commit : Act τ _).out t with ⟨source | _, t'⟩
      · simp only [Act.out_bind]
        rcases (Target.rollback : Act τ _).out t' with ⟨_ | _, t''⟩
        · exact fun h => transaction_of_bind h fun _ => transaction_of_restoreLong
        · exact fun h => transaction_of_bind h fun _ => transaction_of_restoreLong
      · exact transaction_of_restoreLong

/-- Closing a policy fails with a transaction error only. -/
theorem transaction_of_close {outcome : Outcome} {t : τ} {e : BulkError}
    (h : ((p.close outcome).out t).1 = .error e) : ∃ source, e = .transaction source := by
  rw [close_eq] at h
  unfold conclude at h
  split at h
  · exact transaction_of_closeLong h
  · exact transaction_of_closeEach h

end Policy

/-! ## Stages -/

namespace Stage

variable {ω τ α β : Type}

/-- What a stage comes to, the job it leaves and the state of the target. -/
def out (x : Stage ω τ α) (j : Job ω) (t : τ) : (Except BulkError α × Job ω) × τ := Act.out (x.run.run j) t

/-- A stage that fails ends the stages behind it. -/
theorem out_bind (x : Stage ω τ α) (f : α → Stage ω τ β) (j : Job ω) (t : τ) :
    (x >>= f).out j t =
      match x.out j t with
      | ((.ok a, j'), t') => (f a).out j' t'
      | ((.error e, j'), t') => ((.error e, j'), t') := by
  have hbind : (x >>= f).out j t =
      Act.out (ExceptT.bindCont f (x.out j t).1.1 (x.out j t).1.2) (x.out j t).2 := rfl
  rw [hbind]
  rcases x.out j t with ⟨⟨_ | _, _⟩, _⟩ <;> rfl

theorem out_bind_of_ok {x : Stage ω τ α} {f : α → Stage ω τ β} {j j' : Job ω} {t t' : τ} {a : α}
    (h : x.out j t = ((.ok a, j'), t')) : (x >>= f).out j t = (f a).out j' t' := by
  rw [out_bind, h]

theorem out_bind_of_error {x : Stage ω τ α} {f : α → Stage ω τ β} {j j' : Job ω} {t t' : τ} {e : BulkError}
    (h : x.out j t = ((.error e, j'), t')) : (x >>= f).out j t = ((.error e, j'), t') := by
  rw [out_bind, h]

end Stage

namespace Insert

section Stages

variable {ω τ κ : Type} [Target τ κ] {ops : Writer ω τ} {j : Job ω} {t : τ}

@[simp] theorem out_reach (n : Nat) : (reach n : Stage ω τ Unit).out j t = ((.ok (), { j with taken := n }), t) := rfl

/-- Waiting comes to what the writer answers. -/
theorem out_wait {r : Except BulkError Unit} {w : ω} {t' : τ} (h : (ops.wait j.writer).out t = ((r, w), t')) :
    (wait ops).out j t = ((r, { j with writer := w }), t') := by
  show ((((ops.wait j.writer).out t).1.1, { j with writer := ((ops.wait j.writer).out t).1.2 }),
    ((ops.wait j.writer).out t).2) = _
  rw [h]

/-- Writing comes to what the writer answers. -/
theorem out_write {b : Batch} {attempt : Attempt} {w : ω} {t' : τ}
    (h : (ops.write b j.writer).out t = ((attempt, w), t')) :
    (write ops b).out j t = ((attempt.toExcept, { j with writer := w }), t') := by
  show ((((ops.write b j.writer).out t).1.1.toExcept, { j with writer := ((ops.write b j.writer).out t).1.2 }),
    ((ops.write b j.writer).out t).2) = _
  rw [h]

/-- Settling comes to what the policy answers. -/
theorem out_settle {r : Except BulkError Unit} {p : Policy} {t' : τ}
    (h : (j.policy.settle (ops.progress j.writer)).out t = ((r, p), t')) :
    (settle ops).out j t = ((r, { j with policy := p }), t') := by
  show ((((j.policy.settle (ops.progress j.writer)).out t).1.1,
    { j with policy := ((j.policy.settle (ops.progress j.writer)).out t).1.2 }),
    ((j.policy.settle (ops.progress j.writer)).out t).2) = _
  rw [h]

section Direct

variable {w w' : ChannelWriter κ} {p p' : Policy} {n : Nat} {t' : τ}

/-- The writer of a sequential insert has nothing to wait for. -/
theorem out_wait_direct : (wait (direct τ)).out ⟨w, p, n⟩ t = ((.ok (), ⟨w, p, n⟩), t) := rfl

theorem out_settle_direct {r : Except BulkError Unit} (h : (p.settle w.progress).out t = ((r, p'), t')) :
    (settle (direct τ)).out ⟨w, p, n⟩ t = ((r, ⟨w, p', n⟩), t') :=
  out_settle h

theorem out_write_direct {b : Batch} {attempt : Attempt} (h : (w.write b).out t = ((attempt, w'), t')) :
    (write (direct τ) b).out ⟨w, p, n⟩ t = ((attempt.toExcept, ⟨w', p, n⟩), t') :=
  out_write (j := ⟨w, p, n⟩) h

end Direct

theorem out_feed_cons (f : Filled) (fs : List Filled) : (feed ops (f :: fs)).out j t =
    (do wait ops; settle ops; write ops f.batch; feed ops fs : Stage ω τ Unit).out { j with taken := f.taken } t := rfl

theorem out_flush (b : Batch) : (flush ops b).out j t =
    if b.isEmpty then ((.ok (), j), t) else (write ops b).out j t := by
  unfold flush
  split <;> rfl

/-- The stages behind the last batch that was filled. -/
def finale (ops : Writer ω τ) : Ending → Stage ω τ Unit
  | .failed e => throw (.serialization e)
  | .rest b => do
    flush ops b
    wait ops
    settle ops

theorem out_rest (b : Batch) : (finale ops (.rest b)).out j t =
    if b.isEmpty then (do wait ops; settle ops : Stage ω τ Unit).out j t
    else (do write ops b; wait ops; settle ops : Stage ω τ Unit).out j t := by
  show (do flush ops b; wait ops; settle ops : Stage ω τ Unit).out j t = _
  unfold flush
  split <;> rfl

theorem out_drive (c : Cut) : (drive ops c).out j t =
    (do feed ops c.filled; reach c.taken; finale ops c.ending : Stage ω τ Unit).out j t := by
  unfold drive
  cases c.ending <;> rfl

end Stages

/-! ## Inserts -/

section Ending

variable {ω τ κ : Type} [Target τ κ]

/-- Of two failures the first counts. -/
@[simp] theorem out_preferFirst (what : String) (a b : Except BulkError Unit) (t : τ) :
    (preferFirst what a b).out t = (a.bind fun _ => b, t) := by
  rcases a with _ | _ <;> rcases b with _ | _ <;> rfl

/-- The end of an insert whose writer has been closed: the policy is closed with the outcome so far. -/
def conclude (driven closed : Except BulkError Unit) (progress : Progress) (p : Policy) (taken : Nat) (t : τ) :
    InsertReport × τ :=
  let written := driven.bind fun _ => closed
  let settled := ((p.observe progress).close (outcome written)).out t
  (⟨(written.bind fun _ => settled.1).map fun _ => progress, taken⟩, settled.2)

/-- An insert whose stages have all succeeded fails with the writer or with a transaction error. -/
theorem error_of_conclude {closed : Except BulkError Unit} {progress : Progress} {p : Policy} {taken : Nat} {t : τ}
    {e : BulkError} (h : (conclude (.ok ()) closed progress p taken t).1.result = .error e) :
    (∃ source, e = .transaction source) ∨ closed = .error e := by
  unfold conclude at h
  cases closed with
  | error e' =>
    cases h
    exact Or.inr rfl
  | ok _ =>
    change Except.map _ (((p.observe progress).close .success).out t).1 = .error e at h
    cases hs : (((p.observe progress).close .success).out t).1 with
    | error e' =>
      rw [hs] at h
      cases h
      exact Or.inl (Policy.transaction_of_close hs)
    | ok _ =>
      rw [hs] at h
      cases h

/-- The end of an insert: the writer is closed, then the policy. -/
def finish (ops : Writer ω τ) (driven : (Except BulkError Unit × Job ω) × τ) : InsertReport × τ :=
  let closed := (ops.close driven.1.2.writer).out driven.2
  conclude driven.1.1 closed.1.1 (ops.progress closed.1.2) driven.1.2.policy driven.1.2.taken closed.2

theorem out_run (table : String) (ops : Writer ω τ) (w : ω) (p : Policy) (c : Cut) (t : τ) :
    (run table ops w p c).out t = finish ops ((drive ops c).out { writer := w, policy := p } t) := by
  have hdrive : Act.out (drive ops c { writer := w, policy := p }) t =
      (drive ops c).out { writer := w, policy := p } t := rfl
  unfold run finish conclude
  simp only [Act.out_bind, out_preferFirst, hdrive]
  generalize (drive ops c).out { writer := w, policy := p } t = driven
  generalize (ops.close driven.1.2.writer).out driven.2 = closed
  generalize (driven.1.1.bind fun _ => closed.1.1) = written
  generalize ((driven.1.2.policy.observe (ops.progress closed.1.2)).close (outcome written)).out closed.2 = settled
  rcases (written.bind fun _ => settled.1) with _ | _ <;> rfl

theorem finish_direct (r : Except BulkError Unit) (w : ChannelWriter κ) (pol : Policy) (n : Nat) (t : τ) :
    finish (direct τ) ((r, ⟨w, pol, n⟩), t) =
      conclude r ((w.close).out t).1.1 w.progress pol n ((w.close).out t).2 := by
  have hprogress : ((w.close).out t).1.2.progress = w.progress := by
    unfold ChannelWriter.close
    split <;> rfl
  unfold finish
  show conclude r _ ((w.close).out t).1.2.progress pol n _ = _
  rw [hprogress]
  rfl

end Ending

end Insert

section All

variable {ρ τ κ : Type} [Target τ κ]

/-- The writer of an insert, when its channel is open. -/
def Insert.writer (s : Schema ρ) (o : Options) (f : Format) (channel : κ) : ChannelWriter κ :=
  { channel := channel, header := statement f s, strict := o.errorOnMissingRow }

/-- The batches of an insert. -/
def Insert.cut (s : Schema ρ) (o : Options) (f : Format) (records : List ρ) : Cut :=
  cutRecords s f (o.effectiveBatchSize f) records

/-- The part of an insert behind the acquisition of its policy. -/
def Insert.load (s : Schema ρ) (o : Options) (f : Format) (records : List ρ) (channel : κ) (p : Policy) (t : τ) :
    InsertReport × τ :=
  let ops : Writer (ChannelWriter κ) τ := ChannelWriter.ops
  let w := Insert.writer s o f channel
  let c := Insert.cut s o f records
  if o.concurrent then (Insert.run s.table (Pipelined.ops ops) (Pipelined.spawn ops w) p c).out t
  else (Insert.run s.table ops w p c).out t

theorem Insert.load_of_sequential (s : Schema ρ) {o : Options} (ho : o.concurrent = false) (f : Format)
    (records : List ρ) (channel : κ) (p : Policy) (t : τ) : Insert.load s o f records channel p t =
      (Insert.run s.table (direct τ) (Insert.writer s o f channel) p (Insert.cut s o f records)).out t := by
  unfold Insert.load
  rw [ho, if_neg Bool.false_ne_true]

theorem out_insertAll (s : Schema ρ) (o : Options) (records : List ρ) (t : τ) :
    (insertAll s o records).out t =
      match (Target.openChannel : Act τ (Except DriverError κ)).out t with
      | (.error e, t₁) => (⟨.error (.channelAcquisition e), 0⟩, t₁)
      | (.ok channel, t₁) =>
        match (Policy.acquire o).out t₁ with
        | (.error e, t₂) => (⟨.error e, 0⟩, ((Insert.writer s o (Target.format t) channel).close.out t₂).2)
        | (.ok p, t₂) => Insert.load s o (Target.format t) records channel p t₂ := by
  unfold insertAll insertWith
  simp only [Act.out_bind, Act.out_note, Act.out_ask]
  rcases (Target.openChannel : Act τ (Except DriverError κ)).out t with ⟨_ | channel, t₁⟩
  · rfl
  simp only [Act.out_bind]
  rcases (Policy.acquire o).out t₁ with ⟨_ | p, t₂⟩
  · simp only [Act.out_bind, Insert.writer]
    generalize Act.out (ChannelWriter.close _) t₂ = closed
    rcases closed with ⟨⟨_ | _, _⟩, _⟩ <;> rfl
  · rcases o with ⟨_, _, _, _ | _, _⟩ <;> rfl

end All

end BulkLoad
