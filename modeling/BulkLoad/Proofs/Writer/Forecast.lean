import BulkLoad.Proofs.Writer.Replay
import BulkLoad.Proofs.Writer.Slot

/-!
# What the calls will return

At each moment one can tell what the calls to come will return (`Handoff.forecast`): the worker finishes the batch that
it has (`Handoff.ahead`), and the calls are then made one after the other (`replay`). No step of either thread changes
the forecast (`Handoff.Sound.forecast_step`). A step of the worker does what has been foreseen, a call that begins or
waits changes nothing, and a call that returns is the first of those foreseen (`Handoff.forecast_complete`).
-/

namespace BulkLoad

open List

variable {ω τ : Type} {inner : Writer ω τ}

namespace Handoff

variable {s s' : Handoff ω τ}

/-! ## The worker ahead -/

/-- The inner writer after an attempt. -/
def attempted (attempt : Attempt) (w : ω) : Worker ω :=
  match attempt with
  | .crashed => .crashed
  | _ => .running w

/-- The inner writer, the answer under way and the target, once the worker has written the batch that it holds. -/
structure Ahead (ω τ : Type) where
  worker : Worker ω
  answer : Option Reply
  target : τ

/-- What will have become of the batch under way. -/
def ahead (inner : Writer ω τ) (s : Handoff ω τ) : Ahead ω τ :=
  match s.worker with
  | .ready w => ⟨.running w, s.slot, s.target⟩
  | .holding w b =>
    let out := (inner.write b w).out s.target
    ⟨attempted out.1.1 out.1.2, some (out.1.1.reply (inner.progress out.1.2)), out.2⟩
  | .replying w r => ⟨.running w, some r, s.target⟩
  | .unwinding | .crashed => ⟨.crashed, some .lost, s.target⟩
  | .finished w => ⟨.running w, none, s.target⟩

/-- A pipelined writer of which an answer may be due. -/
def owing (worker : Worker ω) (a : Option Reply) (progress : Progress) : Pipelined ω :=
  ⟨worker, a.map (⟨0, 0, ·⟩), progress⟩

/-- The writer that the next call meets, where an answer may be due. -/
def facing (inner : Writer ω τ) (s : Handoff ω τ) (a : Option Reply) : Pipelined ω :=
  owing (if s.closed then .stopped else (s.ahead inner).worker) a s.progress

/-- The calls that have returned, followed by those that will return: what they give if they are made one after the
other from here on. -/
def forecast (inner : Writer ω τ) (s : Handoff ω τ) : List Exchange :=
  let ahead := s.ahead inner
  s.returned ++ match s.phase with
    | .idle => replay inner (s.facing inner (if s.pending.isSome then ahead.answer else none)) ahead.target s.todo
    | .receiving q => replay inner (s.facing inner ahead.answer) ahead.target (q :: s.todo)
    | .waited q a => replay inner (s.facing inner a) ahead.target (q :: s.todo)
    | .offering b a => replay inner (s.facing inner a) ahead.target (.write b :: s.todo)
    | .handed b a => ⟨.write b, a, .ok ()⟩ :: replay inner (s.facing inner ahead.answer) ahead.target s.todo
    | .joining a => replay inner (owing ahead.worker a s.progress) ahead.target (.close :: s.todo)

theorem forecast_start (inner : Writer ω τ) (w : ω) (t : τ) (calls : List WriterCall) :
    (start inner w t calls).forecast inner = replay inner (.spawn inner w) t calls := rfl

theorem answer?_owing (worker : Worker ω) (a : Option Reply) (progress : Progress) :
    (owing worker a progress).answer? = a := by
  cases a <;> rfl

theorem settled_owing {a : Option Reply} (h : s.Counts a) (worker : Worker ω) :
    (owing worker a s.progress).settled = owing worker none s.progress := by
  cases a with
  | none => rfl
  | some r => exact congrArg (Pipelined.mk worker none) (h r rfl)

theorem answer?_facing (s : Handoff ω τ) (a : Option Reply) : (s.facing inner a).answer? = a := answer?_owing _ a _

theorem settled_facing {a : Option Reply} (h : s.Counts a) : (s.facing inner a).settled = s.facing inner none :=
  settled_owing h _

theorem facing_of_closed (h : s.closed = true) (a : Option Reply) :
    s.facing inner a = owing .stopped a s.progress := by
  rw [facing, h, if_pos rfl]

theorem facing_of_open (h : s.closed = false) (a : Option Reply) :
    s.facing inner a = owing (s.ahead inner).worker a s.progress := by
  rw [facing, h, if_neg Bool.false_ne_true]

/-- The worker does what it has been foreseen to do. -/
theorem Sound.ahead_works (h : s.Sound) (hstep : Works inner s s') : s'.ahead inner = s.ahead inner := by
  cases hstep with
  | @write w w' b attempt t hworker hwrite =>
    simp only [ahead, hworker, hwrite]
    cases attempt <;> rfl
  | reply hworker _ => simp only [ahead, hworker]
  | leave hworker hclosed =>
    have hslot := (h.unloaded_of_closed hclosed).slot_eq
    simp only [ahead, hworker, hslot]
  | unwind hworker => simp only [ahead, hworker]

theorem Sound.forecast_works (h : s.Sound) (hstep : Works inner s s') : s'.forecast inner = s.forecast inner := by
  have hahead := h.ahead_works hstep
  unfold forecast facing
  rw [hahead]
  cases hstep <;> rfl

/-- A call that returns is the next one that has been foreseen. -/
theorem forecast_complete {q : WriterCall} {p : Pipelined ω} {t : τ} {result : Except BulkError Unit}
    (hpending : s.pending = none)
    (hrun : (q.run inner p).out t = ((result, s.facing inner none), (s.ahead inner).target)) :
    (s.complete q p.answer? result).forecast inner = s.returned ++ replay inner p t (q :: s.todo) := by
  rw [replay, hrun]
  simp only [forecast, complete, hpending, Option.isSome_none, Bool.false_eq_true, if_false, append_assoc]
  rfl

/-- A call that has waited returns what it does from there on. -/
theorem forecast_returns {q : WriterCall} {a : Option Reply} {result : Except BulkError Unit}
    (hphase : s.phase = .waited q a ∨ ∃ b, q = .write b ∧ s.phase = .offering b a) (hpending : s.pending = none)
    (hrun : (q.run inner (s.facing inner a)).out (s.ahead inner).target =
      ((result, s.facing inner none), (s.ahead inner).target)) :
    (s.complete q a result).forecast inner = s.forecast inner := by
  have hcomplete := forecast_complete hpending hrun
  rw [answer?_facing] at hcomplete
  rw [hcomplete]
  rcases hphase with hphase | ⟨b, rfl, hphase⟩
  · simp only [forecast, hphase]
  · simp only [forecast, hphase]

theorem Sound.forecast_produces (h : s.Sound) (hstep : Produces inner s s') :
    s'.forecast inner = s.forecast inner := by
  cases hstep with
  | call hphase htodo hpending =>
    simp only [forecast, hphase, htodo, hpending, Option.isSome_none, Bool.false_eq_true, if_false]
    rfl
  | expect hphase htodo hpending =>
    simp only [forecast, hphase, htodo, hpending, Option.isSome_some, if_true]
    rfl
  | @receive q r hphase hslot =>
    simp only [Sound, hphase] at h
    have hloaded := h.2.1
    cases hworker : s.worker with
    | ready w =>
      simp only [forecast, facing, ahead, hphase, hworker, hslot]
      congr 1
      refine replay_congr ?_ ?_ ?_ _ _
      · rfl
      · rfl
      · cases r <;> rfl
    | _ => simp [hworker, WorkerLoop.Loaded, hslot] at hloaded
  | disconnect hphase hslot hgone =>
    simp only [Sound, hphase] at h
    have hloaded := h.2.1
    cases hworker : s.worker with
    | unwinding => simp only [forecast, facing, ahead, hphase, hworker]
    | crashed => simp only [forecast, facing, ahead, hphase, hworker]
    | finished w => rw [hworker] at hloaded; cases hloaded
    | _ => rw [hworker] at hgone; cases hgone
  | acknowledged hphase =>
    simp only [Sound, hphase] at h
    refine forecast_returns (Or.inl hphase) h.1 ?_
    rw [WriterCall.out_run_wait, answer?_facing, settled_facing h.2.2]
  | refuse hphase hwaited =>
    simp only [Sound, hphase] at h
    refine forecast_returns (Or.inl hphase) h.1 ?_
    rw [WriterCall.out_run_write_of_error (by rw [answer?_facing]; exact hwaited), settled_facing h.2.2]
  | skip hphase hwaited hempty =>
    simp only [Sound, hphase] at h
    refine forecast_returns (Or.inl hphase) h.1 ?_
    rw [WriterCall.out_run_write_of_empty (by rw [answer?_facing]; exact hwaited) hempty, settled_facing h.2.2]
  | writeClosed hphase hwaited hfull hclosed =>
    simp only [Sound, hphase] at h
    refine forecast_returns (Or.inl hphase) h.1 ?_
    rw [WriterCall.out_run_write_of_not_running (by rw [answer?_facing]; exact hwaited) hfull
      (by rw [facing_of_closed hclosed]; rintro _ ⟨⟩), settled_facing h.2.2]
  | offer hphase _ _ _ =>
    simp only [forecast, hphase]
    rfl
  | @rendezvous b a w hphase hworker =>
    -- The call will return, and leave the batch with the worker.
    simp only [Sound, hphase] at h
    obtain ⟨_, _, hcounts, hopen, hwaited, hfull⟩ := h
    rcases hwrite : (inner.write b w).out s.target with ⟨⟨attempt, w'⟩, t⟩
    have hrun : ((WriterCall.write b).run inner (owing (.running w) a s.progress)).out s.target = _ :=
      WriterCall.out_run_write_of_running (by rw [answer?_owing]; exact hwaited) hfull rfl hwrite
    rw [settled_owing hcounts] at hrun
    simp only [forecast, facing, ahead, hphase, hworker, hopen, hwrite, Bool.false_eq_true, if_false]
    rw [replay, hrun, answer?_owing]
    congr 2
    refine replay_congr ?_ ?_ ?_ _ _
    all_goals cases attempt <;> rfl
  | @unheard b a hphase hgone =>
    simp only [Sound, hphase] at h
    obtain ⟨hpending, hunloaded, hcounts, hopen, hwaited, hfull⟩ := h
    have hcrashed : (s.ahead inner).worker = .crashed := by
      rw [hopen] at hunloaded
      unfold ahead
      cases hworker : s.worker with
      | crashed => rfl
      | unwinding => rfl
      | finished w => rw [hworker] at hunloaded; cases hunloaded.2
      | _ => rw [hworker] at hgone; cases hgone
    refine forecast_returns (Or.inr ⟨b, rfl, hphase⟩) hpending ?_
    rw [WriterCall.out_run_write_of_not_running (by rw [answer?_facing]; exact hwaited) hfull
      (by rw [facing_of_open hopen, hcrashed]; rintro _ ⟨⟩), settled_facing hcounts]
  | pass hphase =>
    simp only [forecast, complete, hphase, Option.isSome_some, if_true, append_assoc]
    rfl
  | letGo hphase hopen =>
    simp only [forecast, hphase, facing_of_open hopen]
    rfl
  | closeAgain hphase hclosed =>
    simp only [Sound, hphase] at h
    refine forecast_returns (Or.inl hphase) h.1 ?_
    rw [WriterCall.out_run_close_of_stopped (by rw [facing_of_closed hclosed]; rfl), answer?_facing,
      settled_facing h.2.2]
  | @join a w hphase hworker =>
    simp only [Sound, hphase] at h
    obtain ⟨hpending, _, hcounts, hclosed⟩ := h
    have hrun : (WriterCall.close.run inner (owing (.running w) a s.progress)).out s.target = _ :=
      WriterCall.out_run_close_of_running rfl
    rw [answer?_owing, settled_owing hcounts] at hrun
    let after : Handoff ω τ := { s with target := ((inner.close w).out s.target).2 }
    have hafter : after.facing inner none = owing .stopped none s.progress :=
      facing_of_closed (s := after) hclosed none
    have hahead : (after.ahead inner).target = ((inner.close w).out s.target).2 := by simp only [after, ahead, hworker]
    have hcomplete : (after.complete .close (owing (.running w) a s.progress).answer? _).forecast inner = _ :=
      forecast_complete hpending (hrun.trans (by rw [hafter, hahead]; rfl))
    rw [answer?_owing] at hcomplete
    simp only [forecast, hphase, ahead, hworker]
    exact hcomplete
  | @joinCrashed a hphase hworker =>
    simp only [Sound, hphase] at h
    obtain ⟨hpending, _, hcounts, hclosed⟩ := h
    have hrun : (WriterCall.close.run inner (owing .crashed a s.progress)).out s.target = _ :=
      WriterCall.out_run_close_of_crashed rfl
    rw [answer?_owing, settled_owing hcounts] at hrun
    have hcomplete : (s.complete .close (owing .crashed a s.progress).answer? _).forecast inner = _ :=
      forecast_complete hpending (hrun.trans (by rw [facing_of_closed hclosed, ahead, hworker]; rfl))
    rw [answer?_owing] at hcomplete
    simp only [forecast, hphase, ahead, hworker]
    exact hcomplete

/-- **No step changes what the calls return.** -/
theorem Sound.forecast_step (h : s.Sound) (hstep : Step inner s s') : s'.forecast inner = s.forecast inner :=
  hstep.elim h.forecast_produces h.forecast_works

end Handoff

end BulkLoad
