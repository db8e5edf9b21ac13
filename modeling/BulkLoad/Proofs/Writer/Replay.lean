import BulkLoad.Writer.Handoff

/-!
# Calls on a pipelined writer

What calls on a pipelined writer return when they are made one after the other (`replay`). Each call first waits for the
answer to the batch before, and what it does then depends on that answer, the worker and the totals only
(`replay_congr`).

- `answered_replay`: the answer to a batch is taken by the call after the one that passed it on, and that call fails if
  the answer is a failure;
- `lost_replay`: once the inner writer has broken down, no batch is accepted any more.
-/

namespace BulkLoad

open List

variable {ω τ : Type} {inner : Writer ω τ} {p p' : Pipelined ω} {t t' : τ} {b : Batch} {w w' : ω} {e : BulkError}

/-! ## What a call does -/

namespace Pipelined

/-- The writer once it has waited. -/
def settled (p : Pipelined ω) : Pipelined ω :=
  { p with pending := none, progress := p.answer?.elim p.progress (Reply.totals p.progress) }

theorem answer?_settled (p : Pipelined ω) : p.settled.answer? = none := rfl

theorem out_wait_answer (p : Pipelined ω) (t : τ) : p.wait.out t = ((waitedFor p.answer?, p.settled), t) := by
  obtain ⟨worker, pending, progress⟩ := p
  cases pending with
  | none => rfl
  | some batch =>
    obtain ⟨seq, records, reply⟩ := batch
    cases reply <;> rfl

end Pipelined

namespace WriterCall

open Pipelined (settled out_wait_answer)

theorem out_run_wait (inner : Writer ω τ) (p : Pipelined ω) (t : τ) :
    (wait.run inner p).out t = ((waitedFor p.answer?, p.settled), t) := out_wait_answer p t

theorem out_run_write (inner : Writer ω τ) (p : Pipelined ω) (b : Batch) (t : τ) : ((write b).run inner p).out t =
    match waitedFor p.answer? with
    | .error e => ((.error e, p.settled), t)
    | .ok () => if b.isEmpty then ((.ok (), p.settled), t)
      else (((p.settled.submit inner b).out t).1.map Attempt.toExcept id, ((p.settled.submit inner b).out t).2) := by
  simp only [run, Pipelined.write, Act.out_bind, out_wait_answer]
  cases waitedFor p.answer? with
  | error e => rfl
  | ok u =>
    simp only
    split <;> rfl

theorem out_run_write_of_error (h : waitedFor p.answer? = .error e) (b : Batch) :
    ((write b).run inner p).out t = ((.error e, p.settled), t) := by
  rw [out_run_write, h]

theorem out_run_write_of_empty (h : waitedFor p.answer? = .ok ()) (hb : b.isEmpty = true) :
    ((write b).run inner p).out t = ((.ok (), p.settled), t) := by
  rw [out_run_write, h]
  simp only [hb, if_true]

theorem out_run_write_of_running (h : waitedFor p.answer? = .ok ()) (hb : b.isEmpty = false)
    (hw : p.worker = .running w) {attempt : Attempt} (hwrite : (inner.write b w).out t = ((attempt, w'), t')) :
    ((write b).run inner p).out t = ((.ok (), p.settled.receive inner b attempt w'), t') := by
  have hsubmit : (p.settled.submit inner b).out t = ((.written, p.settled.receive inner b attempt w'), t') := by
    unfold Pipelined.submit
    rw [show p.settled.worker = .running w from hw]
    simp only [Act.out_bind, Act.out_inBackground, hwrite]
    rfl
  rw [out_run_write, h]
  simp only [hb, hsubmit]
  rfl

theorem out_run_write_of_not_running (h : waitedFor p.answer? = .ok ()) (hb : b.isEmpty = false)
    (hw : ∀ w, p.worker ≠ .running w) : ((write b).run inner p).out t = ((.error .workerLost, p.settled), t) := by
  have hsubmit : (p.settled.submit inner b).out t = ((.failed .workerLost, p.settled), t) := by
    unfold Pipelined.submit
    split
    · next w hrunning => exact absurd hrunning (hw w)
    · rfl
  rw [out_run_write, h]
  simp only [hb, hsubmit]
  rfl

theorem out_run_close_of_running (hw : p.worker = .running w) : (close.run inner p).out t =
    (((waitedFor p.answer?).bind fun _ => ((inner.close w).out t).1.1, { p.settled with worker := .stopped }),
      ((inner.close w).out t).2) := by
  simp only [run, Pipelined.close, Act.out_bind, out_wait_answer]
  rw [show p.settled.worker = .running w from hw]
  rfl

theorem out_run_close_of_crashed (hw : p.worker = .crashed) : (close.run inner p).out t =
    (((waitedFor p.answer?).bind fun _ => .error .workerLost, { p.settled with worker := .stopped }), t) := by
  simp only [run, Pipelined.close, Act.out_bind, out_wait_answer]
  rw [show p.settled.worker = .crashed from hw]
  rfl

theorem out_run_close_of_stopped (hw : p.worker = .stopped) :
    (close.run inner p).out t = ((waitedFor p.answer?, p.settled), t) := by
  simp only [run, Pipelined.close, Act.out_bind, out_wait_answer]
  rw [show p.settled.worker = .stopped from hw]
  rfl

end WriterCall

/-! ## What a sequence of calls depends on -/

theorem run_congr (hworker : p'.worker = p.worker) (hanswer : p'.answer? = p.answer?)
    (hprogress : p'.settled.progress = p.settled.progress) (q : WriterCall) (t : τ) :
    (q.run inner p').out t = (q.run inner p).out t := by
  have hsettled : p'.settled = p.settled := by
    show Pipelined.mk p'.worker none p'.settled.progress = Pipelined.mk p.worker none p.settled.progress
    rw [hworker, hprogress]
  cases q with
  | wait => rw [WriterCall.out_run_wait, WriterCall.out_run_wait, hanswer, hsettled]
  | write b => rw [WriterCall.out_run_write, WriterCall.out_run_write, hanswer, hsettled]
  | close =>
    cases hw : p.worker with
    | running w =>
      rw [WriterCall.out_run_close_of_running hw, WriterCall.out_run_close_of_running (hworker.trans hw), hanswer,
        hsettled]
    | crashed =>
      rw [WriterCall.out_run_close_of_crashed hw, WriterCall.out_run_close_of_crashed (hworker.trans hw), hanswer,
        hsettled]
    | stopped =>
      rw [WriterCall.out_run_close_of_stopped hw, WriterCall.out_run_close_of_stopped (hworker.trans hw), hanswer,
        hsettled]

/-- **Only the worker, the answer that is due and the totals after it count.** -/
theorem replay_congr (hworker : p'.worker = p.worker) (hanswer : p'.answer? = p.answer?)
    (hprogress : p'.settled.progress = p.settled.progress) (t : τ) :
    ∀ qs : List WriterCall, replay inner p' t qs = replay inner p t qs
  | [] => rfl
  | q :: qs => by
    rw [replay, replay, hanswer, run_congr hworker hanswer hprogress]

/-! ## Answers -/

/-- Each answer is taken by the call after the one that passed its batch on, and a failure is raised by that call. When
the first of the calls is made, an answer is `due` or not. -/
def Answered : Bool → List Exchange → Prop
  | _, [] => True
  | due, e :: es => e.answer.isSome = due ∧ (∀ err, waitedFor e.answer = .error err → e.result = .error err) ∧
      Answered e.passed?.isSome es

theorem Answered.mono : ∀ {es es' : List Exchange} {due : Bool}, Answered due es' → es <+: es' → Answered due es
  | [], _, _, _, _ => trivial
  | e :: es, es', due, h, hprefix => by
    obtain ⟨rest, rfl⟩ := hprefix
    exact ⟨h.1, h.2.1, h.2.2.mono (prefix_append es rest)⟩

/-- A call raises the failure that it takes, and the next answer is due when it has passed a batch on. -/
theorem answers_run (inner : Writer ω τ) (p : Pipelined ω) (t : τ) (q : WriterCall) :
    let out := (q.run inner p).out t
    (∀ err, waitedFor p.answer? = .error err → out.1.1 = .error err) ∧
      out.1.2.answer?.isSome = (Exchange.mk q p.answer? out.1.1).passed?.isSome := by
  intro out
  cases q with
  | wait =>
    rw [show out = _ from WriterCall.out_run_wait inner p t]
    exact ⟨fun err herr => herr, rfl⟩
  | close =>
    cases hw : p.worker with
    | running w =>
      rw [show out = _ from WriterCall.out_run_close_of_running hw]
      exact ⟨fun err herr => (by simp only [herr]; rfl), rfl⟩
    | crashed =>
      rw [show out = _ from WriterCall.out_run_close_of_crashed hw]
      exact ⟨fun err herr => (by simp only [herr]; rfl), rfl⟩
    | stopped =>
      rw [show out = _ from WriterCall.out_run_close_of_stopped hw]
      exact ⟨fun err herr => herr, rfl⟩
  | write b =>
    cases hwaited : waitedFor p.answer? with
    | error e =>
      rw [show out = _ from WriterCall.out_run_write_of_error hwaited b]
      exact ⟨fun err herr => herr, rfl⟩
    | ok u =>
      refine ⟨fun err herr => (nomatch herr), ?_⟩
      by_cases hb : b.isEmpty = true
      · rw [show out = _ from WriterCall.out_run_write_of_empty hwaited hb]
        simp [Exchange.passed?, hb, Pipelined.answer?_settled]
      rw [Bool.not_eq_true] at hb
      cases hw : p.worker with
      | running w =>
        rcases hwrite : (inner.write b w).out t with ⟨⟨attempt, w'⟩, t'⟩
        rw [show out = _ from WriterCall.out_run_write_of_running hwaited hb hw hwrite]
        simp only [Exchange.passed?, hb]
        cases attempt <;> rfl
      | crashed =>
        rw [show out = _ from WriterCall.out_run_write_of_not_running hwaited hb (by rw [hw]; exact nofun)]
        rfl
      | stopped =>
        rw [show out = _ from WriterCall.out_run_write_of_not_running hwaited hb (by rw [hw]; exact nofun)]
        rfl

/-- **Each answer is taken by the next call**, which raises it if it is a failure. -/
theorem answered_replay (inner : Writer ω τ) : ∀ (qs : List WriterCall) (p : Pipelined ω) (t : τ),
    Answered p.answer?.isSome (replay inner p t qs)
  | [], _, _ => trivial
  | q :: qs, p, t => by
    obtain ⟨hraises, hdue⟩ := answers_run inner p t q
    refine ⟨rfl, hraises, ?_⟩
    rw [← hdue]
    exact answered_replay inner qs _ _

/-! ## Lost workers -/

/-- The call accepts no batch with records. -/
def Exchange.Refuses (e : Exchange) : Prop := ∀ b, e.call = .write b → b.isEmpty = false → e.result = .error .workerLost

namespace Pipelined

/-- There is no inner writer any more, and no answer of it is due but that it is lost. -/
structure Gone (p : Pipelined ω) : Prop where
  worker : ∀ w, p.worker ≠ .running w
  answer : p.answer? = none ∨ p.answer? = some .lost

/-- An inner writer that did not answer is gone. -/
def Sound (p : Pipelined ω) : Prop := p.answer? = some .lost → p.Gone

theorem Gone.run (inner : Writer ω τ) (h : p.Gone) (q : WriterCall) (t : τ) :
    ((q.run inner p).out t).1.2.Gone ∧ (Exchange.mk q p.answer? ((q.run inner p).out t).1.1).Refuses := by
  have hsettled : p.settled.Gone := ⟨h.worker, Or.inl rfl⟩
  cases q with
  | wait => exact ⟨by rw [WriterCall.out_run_wait]; exact hsettled, nofun⟩
  | close =>
    cases hw : p.worker with
    | running w => exact absurd hw (h.worker w)
    | crashed => exact ⟨by rw [WriterCall.out_run_close_of_crashed hw]; exact ⟨nofun, Or.inl rfl⟩, nofun⟩
    | stopped => exact ⟨by rw [WriterCall.out_run_close_of_stopped hw]; exact hsettled, nofun⟩
  | write b =>
    rcases h.answer with ha | ha
    · have hwaited : waitedFor p.answer? = .ok () := by rw [ha]; rfl
      by_cases hb : b.isEmpty = true
      · rw [WriterCall.out_run_write_of_empty hwaited hb]
        refine ⟨hsettled, fun b' hb' hfull => ?_⟩
        cases hb'
        rw [hb] at hfull
        cases hfull
      · rw [WriterCall.out_run_write_of_not_running hwaited (Bool.eq_false_iff.mpr hb) h.worker]
        exact ⟨hsettled, fun _ _ _ => rfl⟩
    · have hwaited : waitedFor p.answer? = .error .workerLost := by rw [ha]; rfl
      rw [WriterCall.out_run_write_of_error hwaited]
      exact ⟨hsettled, fun _ _ _ => rfl⟩

theorem sound_spawn (inner : Writer ω τ) (w : ω) : (spawn inner w).Sound := nofun

/-- After a call an answer is lost only if the inner writer is gone. -/
theorem sound_run (inner : Writer ω τ) (p : Pipelined ω) (q : WriterCall) (t : τ) : ((q.run inner p).out t).1.2.Sound := by
  have hsettled : p.settled.Sound := nofun
  cases q with
  | wait => rw [WriterCall.out_run_wait]; exact hsettled
  | close =>
    cases hw : p.worker with
    | running w => rw [WriterCall.out_run_close_of_running hw]; exact nofun
    | crashed => rw [WriterCall.out_run_close_of_crashed hw]; exact nofun
    | stopped => rw [WriterCall.out_run_close_of_stopped hw]; exact hsettled
  | write b =>
    cases hwaited : waitedFor p.answer? with
    | error e => rw [WriterCall.out_run_write_of_error hwaited]; exact hsettled
    | ok u =>
      by_cases hb : b.isEmpty = true
      · rw [WriterCall.out_run_write_of_empty hwaited hb]
        exact hsettled
      rw [Bool.not_eq_true] at hb
      by_cases hw : ∃ w, p.worker = .running w
      · obtain ⟨w, hw⟩ := hw
        rcases hwrite : (inner.write b w).out t with ⟨⟨attempt, w'⟩, t'⟩
        rw [WriterCall.out_run_write_of_running hwaited hb hw hwrite]
        -- The answer is lost only if the inner writer has broken down on the batch.
        cases attempt with
        | written => exact nofun
        | failed e => exact nofun
        | crashed => exact fun _ => ⟨nofun, Or.inr rfl⟩
      · rw [WriterCall.out_run_write_of_not_running hwaited hb (not_exists.mp hw)]
        exact hsettled

end Pipelined

theorem refuses_replay (inner : Writer ω τ) : ∀ (qs : List WriterCall) {p : Pipelined ω} (t : τ), p.Gone →
    ∀ e ∈ replay inner p t qs, e.Refuses
  | [], _, _, _ => forall_mem_nil _
  | q :: qs, _, t, h => by
    obtain ⟨hgone, hrefuses⟩ := h.run inner q t
    exact forall_mem_cons.mpr ⟨hrefuses, refuses_replay inner qs _ hgone⟩

/-- **Once the inner writer is found to be lost, every batch is refused.** -/
theorem lost_replay (inner : Writer ω τ) : ∀ (qs : List WriterCall) {p : Pipelined ω} (t : τ), p.Sound →
    (replay inner p t qs).Pairwise fun e e' => e.answer = some .lost → e'.Refuses
  | [], _, _, _ => Pairwise.nil
  | q :: qs, p, t, h =>
    Pairwise.cons (fun e' he' hlost => refuses_replay inner qs _ ((h hlost).run inner q t).1 e' he')
      (lost_replay inner qs _ (Pipelined.sound_run inner p q t))

end BulkLoad
