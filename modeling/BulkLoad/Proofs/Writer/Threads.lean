import BulkLoad.Proofs.Insert.InStep
import BulkLoad.Proofs.Insert.Steady
import BulkLoad.Proofs.Writer.Replay
import BulkLoad.Threads

/-!
# Two threads in step with one

A pipelined writer with a worker in a thread of its own stays in step with one whose inner writer works at once
(`inStep_remote`). While a batch is under way, the worker still has to take up to three steps, which lead to the answer
that the other writer already has (`Threads.Underway`). Otherwise the worker rests (`Threads.Idle`), so that a call of the
producer runs alone (`Threads.out_call`).

`Threads.Shows` relates the threads to a target with a journal: each call of the journal has begun and ended before the
next one.
-/

namespace BulkLoad

open List

/-- The beginnings and ends of the calls in a journal. -/
def Journaled.marks {τ : Type} (t : Journaled τ) : List Mark := t.made.flatMap Made.marks

/-- Keeping a journal changes nothing in what a target does. -/
theorem Steady.journaled {τ κ : Type} [Target τ κ] {P : τ → Prop} (hP : Steady P) :
    Steady fun t : Journaled τ => P t.target where
  setAutocommit on _ ht := hP.setAutocommit on ht
  commit ht := hP.commit ht
  rollback ht := hP.rollback ht
  openChannel ht := hP.openChannel ht
  send channel header payload _ ht := hP.send channel header payload ht
  closeChannel channel _ ht := hP.closeChannel channel ht
  answers channel header payload _ ht := hP.answers channel header payload ht

namespace Threads

variable {κ τ α : Type} [Target τ κ] {P : τ → Prop} {s : Threads κ τ} {t : Journaled τ} {l : Option (ChannelWriter κ)}
  {w : ChannelWriter κ} {b : Batch} {r : Reply} {n : Nat}

/-! ## A worker at rest -/

omit [Target τ κ] in
/-- The threads show what the journal tells: no calls overlap. -/
structure Shows (s : Threads κ τ) (t : Journaled τ) : Prop where
  target : s.target = t.target
  marks : s.marks = t.marks

/-- The worker cannot take a step, whatever the target is like. -/
def Idle (s : Threads κ τ) : Prop := s.worker = none ∨ ∃ w, s.worker = some (.ready w) ∧ s.released = false

theorem Idle.work (h : s.Idle) : s.work = s := by
  unfold Threads.work
  rcases h with hworker | ⟨w, hworker, hheld⟩
  · rw [hworker]
  · rw [hworker]
    simp [hheld]

theorem Idle.works (h : s.Idle) : ∀ n, s.works n = s
  | 0 => rfl
  | n + 1 => by rw [Threads.works, h.work, h.works n]

theorem Idle.out_pause (h : s.Idle) : pause.out s = ((), { s with schedule := s.schedule.tail }) := by
  show ((), { s.works (s.schedule.headD 0) with schedule := s.schedule.tail }) = _
  rw [h.works]

/-- **A call of the producer runs alone while the worker is at rest.** -/
theorem Idle.out_call (h : s.Idle) (hs : s.Shows t) (c : TargetCall) (answer : α → Answer) (x : Act τ α) :
    (call c answer x).out s = (((Journaled.record c answer x).out t).1,
      { s with
        target := ((Journaled.record c answer x).out t).2.target
        marks := ((Journaled.record c answer x).out t).2.marks
        schedule := s.schedule.tail.tail }) := by
  have hmarks : ((Journaled.record c answer x).out t).2.marks =
      t.marks ++ [.begins c] ++ [.ends (answer (x.out t.target).1)] := by
    rw [Journaled.out_record, Journaled.marks, flatMap_append, append_assoc]
    rfl
  -- The worker cannot take a step after the call has begun either.
  have hbegun : Idle { s with marks := s.marks ++ [.begins c], schedule := s.schedule.tail } := h
  refine (Act.out_bind_of h.out_pause _).trans ((Act.out_bind_of rfl _).trans ((Act.out_bind_of hbegun.out_pause _).trans ?_))
  rw [hmarks, Journaled.out_record, ← hs.target, ← hs.marks]
  rfl

/-- The worker rests with the writer `l`, if there is a worker. -/
structure Rests (P : τ → Prop) (l : Option (ChannelWriter κ)) (s : Threads κ τ) (t : Journaled τ) : Prop where
  worker : s.worker = l.map .ready
  free : l.isSome = true → s.released = false ∧ s.sending = false ∧ s.slot = none
  shows : s.Shows t
  keeps : P t.target

omit [Target τ κ] in
theorem Rests.idle (h : Rests P l s t) : s.Idle := by
  cases l with
  | none => exact Or.inl h.worker
  | some w => exact Or.inr ⟨w, h.worker, (h.free rfl).1⟩

theorem agree_call {c : TargetCall} {answer : α → Answer} {x : Act τ α} (hx : ∀ {t}, P t → P (x.out t).2) :
    Act.Agree (Rests P l) (call c answer x) (Journaled.record c answer x) := by
  intro s t h
  rw [h.idle.out_call h.shows]
  exact ⟨rfl, h.worker, h.free, ⟨rfl, rfl⟩, hx h.keeps⟩

/-- **Transaction control agrees** while the worker rests. -/
theorem sameControl_rests (hP : Controlled P) (l : Option (ChannelWriter κ)) : SameControl (Rests P l) where
  mode _ _ h := congrArg Target.autocommit h.shows.target
  setAutocommit on := agree_call (hP.setAutocommit on)
  commit := agree_call hP.commit
  rollback := agree_call hP.rollback

/-- Operations that agree while the worker rests are put together to such. -/
theorem compatible_rests (hP : Controlled P) (l : Option (ChannelWriter κ)) :
    Compatible fun {α} (x : Act (Threads κ τ) α) (x' : Act (Journaled τ) α) => Act.Agree (Rests P l) x x' :=
  compatible_agree (sameControl_rests hP l).mode

theorem agree_write (hP : Steady P) (b : Batch) (w : ChannelWriter κ) : Act.Agree (Rests P l) (w.write b) (w.write b) := by
  have h := compatible_rests hP.controlled l
  unfold ChannelWriter.write
  split
  · exact h.pure _
  refine h.bind (h.note _) fun _ => h.bind (agree_call (hP.send w.channel w.header b.bytes)) fun r => ?_
  rcases r with a | e | _
  · simp only
    split
    · exact h.pure _
    · split
      · exact h.pure _
      · exact h.bind (h.note _) fun _ => h.pure _
  · exact h.pure _
  · exact h.pure _

theorem agree_close (hP : Steady P) (w : ChannelWriter κ) : Act.Agree (Rests P l) w.close w.close := by
  have h := compatible_rests hP.controlled l
  unfold ChannelWriter.close
  split
  · exact h.pure _
  · exact h.bind (agree_call (hP.closeChannel w.channel)) fun _ => h.pure _

/-- **A channel writer stays in step with itself** where there is no worker. -/
theorem inStep_direct (hP : Steady P) :
    Insert.InStep (fun w w' s t => w = w' ∧ Rests P none s t) (fun w w' s t => w = w' ∧ Rests P none s t) (Rests P none)
      (direct (Threads κ τ)) (direct (Journaled τ)) where
  near h := h
  progress h := congrArg ChannelWriter.progress h.1
  wait h := ⟨rfl, h⟩
  write b _ _ _ _ h := by
    obtain ⟨rfl, h⟩ := h
    obtain ⟨hvalue, hrests⟩ := agree_write hP b _ _ _ h
    exact ⟨congrArg Prod.fst hvalue, congrArg Prod.snd hvalue, hrests⟩
  close h := by
    obtain ⟨rfl, h⟩ := h
    obtain ⟨hvalue, hrests⟩ := agree_close hP _ _ _ h
    exact ⟨congrArg Prod.fst hvalue, congrArg (ChannelWriter.progress ∘ Prod.snd) hvalue, hrests⟩
  quiet w w' := by
    have h := sameControl_rests hP.controlled (none : Option (ChannelWriter κ))
    exact
      { mode := fun s t hs => h.mode s t hs.2
        setAutocommit := fun on s t hs => ⟨(h.setAutocommit on s t hs.2).1, hs.1, (h.setAutocommit on s t hs.2).2⟩
        commit := fun s t hs => ⟨(h.commit s t hs.2).1, hs.1, (h.commit s t hs.2).2⟩
        rollback := fun s t hs => ⟨(h.rollback s t hs.2).1, hs.1, (h.rollback s t hs.2).2⟩ }
  done := sameControl_rests hP.controlled none

/-! ## A batch under way -/

/-- The writer `v` sends the batch `b`, and the worker is about to give the answer `r` then, with the writer `w`. The
journals `u` and `t` are those before and after the call. -/
structure Sends (v : ChannelWriter κ) (b : Batch) (u : Journaled τ) (w : ChannelWriter κ) (r : Reply) (t : Journaled τ) :
    Prop where
  filled : b.isEmpty = false
  written : ∃ attempt, (v.write b).out u = ((attempt, w), t) ∧ WorkerLoop.after (direct τ) attempt w = .replying w r

/-- The worker has `n` steps to take until it has left the answer `r`, and then it rests with the writer `w`. The
journal is ahead: it has the call already that the worker makes. -/
inductive Underway (w : ChannelWriter κ) (r : Reply) (t : Journaled τ) : Nat → Threads κ τ → Prop
  | answered {s : Threads κ τ} (worker : s.worker = some (.ready w)) (slot : s.slot = some r)
      (free : s.released = false ∧ s.sending = false) (shows : s.Shows t) : Underway w r t 0 s
  | replying {s : Threads κ τ} (worker : s.worker = some (.replying w r)) (slot : s.slot = none)
      (free : s.released = false ∧ s.sending = false) (shows : s.Shows t) : Underway w r t 1 s
  | sending {s : Threads κ τ} {v : ChannelWriter κ} {b : Batch} {u : Journaled τ} (sends : Sends v b u w r t)
      (worker : s.worker = some (.holding v b)) (slot : s.slot = none) (busy : s.released = false ∧ s.sending = true)
      (target : s.target = u.target) (marks : s.marks = u.marks ++ [.begins (.send v.header b.bytes)]) :
      Underway w r t 2 s
  | holding {s : Threads κ τ} {v : ChannelWriter κ} {b : Batch} {u : Journaled τ} (sends : Sends v b u w r t)
      (worker : s.worker = some (.holding v b)) (slot : s.slot = none) (free : s.released = false ∧ s.sending = false)
      (shows : s.Shows u) : Underway w r t 3 s

namespace Underway

theorem idle (h : Underway w r t 0 s) : s.Idle := by
  cases h with
  | answered worker _ free _ => exact Or.inr ⟨w, worker, free.1⟩

/-- **A step of the worker** brings the answer closer. -/
theorem work (h : Underway w r t (n + 1) s) : Underway w r t n s.work := by
  cases h with
  | replying worker slot free shows =>
    have hwork : s.work = { s with worker := some (.ready w), slot := some r } := by simp [Threads.work, worker, slot]
    rw [hwork]
    exact .answered rfl rfl free ⟨shows.target, shows.marks⟩
  | @sending _ v b u sends worker slot busy target marks =>
    -- What the worker does now is what the other writer has done already.
    obtain ⟨filled, attempt, hwritten, hafter⟩ := sends
    have hout : (Target.send v.channel v.header b.bytes).out u = _ := Journaled.out_record _ _ _ _
    rw [ChannelWriter.out_write_judge filled, hout, ← target] at hwritten
    obtain ⟨hjudged, rfl⟩ := Prod.mk.inj hwritten
    have hwork : s.work = { s with
        target := ((Target.send v.channel v.header b.bytes).out s.target).2
        marks := s.marks ++ [.ends (.sent ((Target.send v.channel v.header b.bytes).out s.target).1)]
        worker := some (.replying w r)
        sending := false } := by
      rw [← hafter]
      simp only [Threads.work, worker, filled, busy.2, hjudged]
      rfl
    rw [hwork]
    refine .replying rfl slot ⟨busy.1, rfl⟩ ⟨rfl, ?_⟩
    simp [Journaled.marks, marks, Made.marks]
  | @holding _ v b u sends worker slot free shows =>
    have hwork : s.work = { s with marks := s.marks ++ [.begins (.send v.header b.bytes)], sending := true } := by
      simp [Threads.work, worker, sends.filled, free.2]
    rw [hwork]
    exact .sending sends worker slot ⟨free.1, rfl⟩ shows.target (congrArg (· ++ _) shows.marks)

theorem le_three (h : Underway w r t n s) : n ≤ 3 := by
  cases h <;> decide

/-- There is no answer to take as long as the worker has steps to take. -/
theorem not_answered (h : Underway w r t (n + 1) s) : Remote.answered s = false := by
  cases h with
  | replying worker slot _ _ | sending _ worker slot _ _ _ | holding _ worker slot _ _ =>
    simp [Remote.answered, worker, slot, WorkerLoop.holdsSlot]

theorem answered_zero (h : Underway w r t 0 s) : Remote.answered s = true := by
  cases h with
  | answered _ slot _ _ => simp [Remote.answered, slot]

/-- Whatever the worker does before it is awaited, the batch stays under way or is answered. -/
theorem works : ∀ (k : Nat) {n : Nat} {s : Threads κ τ}, Underway w r t n s → ∃ m, Underway w r t m (s.works k)
  | 0, n, _, h => ⟨n, h⟩
  | k + 1, 0, _, h => ⟨0, by rw [h.idle.works]; exact h⟩
  | k + 1, _ + 1, _, h => works k h.work

/-- The worker gets to its answer when it is awaited. -/
theorem worksUntil (h : Underway w r t n s) {m : Nat} (hn : n ≤ m) :
    Underway w r t 0 (s.worksUntil Remote.answered m) := by
  induction m generalizing n s with
  | zero =>
    obtain rfl := Nat.le_zero.mp hn
    exact h
  | succ m ih =>
    cases n with
    | zero =>
      rw [Threads.worksUntil, if_pos h.answered_zero]
      exact h
    | succ n =>
      rw [Threads.worksUntil, if_neg (by simp [h.not_answered])]
      exact ih h.work (Nat.le_of_succ_le_succ hn)

theorem reschedule (h : Underway w r t n s) (schedule : List Nat) : Underway w r t n { s with schedule := schedule } := by
  cases h with
  | answered worker slot free shows => exact .answered worker slot free ⟨shows.target, shows.marks⟩
  | replying worker slot free shows => exact .replying worker slot free ⟨shows.target, shows.marks⟩
  | sending sends worker slot busy target marks => exact .sending sends worker slot busy target marks
  | holding sends worker slot free shows => exact .holding sends worker slot free ⟨shows.target, shows.marks⟩

/-- **The producer that waits for an answer gets it**, and finds the worker at rest. -/
theorem out_await (h : Underway w r t n s) (keeps : P t.target) :
    ∃ s', Remote.await.out s = (r, s') ∧ Rests P (some w) s' t := by
  obtain ⟨m, hpaused⟩ := h.works (s.schedule.headD 0)
  have hanswered := (hpaused.reschedule s.schedule.tail).worksUntil (Nat.le_succ_of_le hpaused.le_three)
  have hout : Remote.await.out s = Remote.take
      ({ s.works (s.schedule.headD 0) with schedule := s.schedule.tail }.worksUntil Remote.answered 4) := rfl
  rw [hout]
  generalize Threads.worksUntil Remote.answered 4 { s.works (s.schedule.headD 0) with schedule := s.schedule.tail } = s'
    at hanswered
  cases hanswered with
  | answered worker slot free shows =>
    refine ⟨_, congrArg (·, _) (congrArg (Option.getD · .lost) slot), worker, fun _ => ⟨free.1, free.2, rfl⟩, ?_, keeps⟩
    exact ⟨shows.target, shows.marks⟩

end Underway

/-! ## Handing over and ending -/

omit [Target τ κ] in
theorem Rests.out_released (h : Rests P (some w) s t) : (Act.ask released).out s = (false, s) := by
  rw [Act.out_ask, (h.free rfl).1]

/-- **A worker at rest takes a batch** that is held out to it. -/
theorem Rests.out_pass (h : Rests P (some w) s t) (b : Batch) : (Remote.pass b).out s =
    (true, { s with worker := some (.holding w b), schedule := s.schedule.tail }) := by
  have hworker : s.worker = some (.ready w) := h.worker
  have hheard : Remote.heard { s with schedule := s.schedule.tail } = true := by simp [Remote.heard, hworker]
  have hblock : (block Remote.heard).out s = ((), { s with schedule := s.schedule.tail }) := by
    unfold block
    rw [Act.out_bind_of h.idle.out_pause, Act.out_step, Threads.worksUntil, if_pos hheard]
  unfold Remote.pass
  rw [Act.out_bind_of hblock, Act.out_step]
  simp [Remote.offer, hworker]

/-- The producer has let go of the channel, and the worker ends or has ended. -/
structure Retires (w : ChannelWriter κ) (t : Journaled τ) (s : Threads κ τ) : Prop where
  worker : s.worker = some (.ready w) ∨ s.worker = some (.finished w)
  released : s.released = true
  shows : s.Shows t

namespace Retires

theorem work (h : Retires w t s) : Retires w t s.work ∧ s.work.worker = some (.finished w) := by
  obtain ⟨worker, released, shows⟩ := h
  rcases worker with worker | worker
  · have hwork : s.work = { s with worker := some (.finished w) } := by simp [Threads.work, worker, released]
    rw [hwork]
    exact ⟨⟨Or.inr rfl, released, ⟨shows.target, shows.marks⟩⟩, rfl⟩
  · have hwork : s.work = s := by simp [Threads.work, worker]
    rw [hwork]
    exact ⟨⟨Or.inr worker, released, shows⟩, worker⟩

theorem works : ∀ (n : Nat) {s : Threads κ τ}, Retires w t s → Retires w t (s.works n)
  | 0, _, h => h
  | n + 1, _, h => works n h.work.1

omit [Target τ κ] in
theorem reschedule (h : Retires w t s) (schedule : List Nat) : Retires w t { s with schedule := schedule } :=
  ⟨h.worker, h.released, h.shows.target, h.shows.marks⟩

/-- The worker gets to its end when it is awaited. -/
theorem worksUntil (h : Retires w t s) : ∃ s', s.worksUntil Remote.ended 4 = s' ∧ s'.worker = some (.finished w) ∧
    s'.Shows t := by
  rcases h.worker with worker | worker
  · have hnot : Remote.ended s = false := by simp [Remote.ended, worker]
    have hended : Remote.ended s.work = true := by simp [Remote.ended, h.work.2]
    refine ⟨s.work, ?_, h.work.2, h.work.1.shows⟩
    rw [Threads.worksUntil, if_neg (by simp [hnot]), Threads.worksUntil, if_pos hended]
  · have hended : Remote.ended s = true := by simp [Remote.ended, worker]
    exact ⟨s, by rw [Threads.worksUntil, if_pos hended], worker, h.shows⟩

end Retires

/-- **A worker at rest ends when it is let go**, and the producer gets the inner writer back. -/
theorem Rests.out_retire (h : Rests P (some w) s t) :
    ∃ s', Remote.retire.out s = (some w, s') ∧ Rests P none s' t := by
  have hretires : Retires w t { s with schedule := s.schedule.tail, released := true } :=
    ⟨Or.inl h.worker, rfl, h.shows.target, h.shows.marks⟩
  obtain ⟨s', hs', worker, shows⟩ := ((hretires.works (s.schedule.tail.headD 0)).reschedule s.schedule.tail.tail).worksUntil
  have hout : Remote.retire.out s = Remote.join s' := by
    unfold Remote.retire
    rw [Act.out_bind_of h.idle.out_pause, ← hs']
    rfl
  rw [hout, Remote.join, worker]
  exact ⟨_, rfl, rfl, nofun, ⟨shows.target, shows.marks⟩, h.keeps⟩

end Threads

/-! ## The two writers -/

namespace Remote

open Threads

variable {κ τ : Type} [Target τ κ] {P : τ → Prop} {h : Remote} {p : Pipelined (ChannelWriter κ)} {s : Threads κ τ}
  {t : Journaled τ}

omit [Target τ κ] in
/-- No batch is under way, and the worker rests with the writer that the other side has in the background. -/
inductive Quiet (P : τ → Prop) : Remote → Pipelined (ChannelWriter κ) → Threads κ τ → Journaled τ → Prop
  | resting {w : ChannelWriter κ} {progress : Progress} {s : Threads κ τ} {t : Journaled τ} (rests : Rests P (some w) s t) :
      Quiet P ⟨none, progress⟩ ⟨.running w, none, progress⟩ s t

/-- No batch is under way, or the worker is on its way to the answer that the other side has. -/
inductive Near (P : τ → Prop) : Remote → Pipelined (ChannelWriter κ) → Threads κ τ → Journaled τ → Prop
  | quiet {h : Remote} {p : Pipelined (ChannelWriter κ)} {s : Threads κ τ} {t : Journaled τ} (quiet : Quiet P h p s t) :
      Near P h p s t
  | underway {n : Nat} {w : ChannelWriter κ} {r : Reply} {k : Ticket} {progress : Progress} {s : Threads κ τ}
      {t : Journaled τ} (under : Underway w r t n s) (keeps : P t.target) :
      Near P ⟨some k, progress⟩ ⟨.running w, some ⟨k.seq, k.records, r⟩, progress⟩ s t

theorem Near.progress (hnear : Near P h p s t) : h.progress = p.progress := by
  cases hnear with
  | quiet hquiet => cases hquiet; rfl
  | underway _ _ => rfl

/-- When the worker has been started, both writers are quiet. -/
theorem near_spawn (hrests : Rests (κ := κ) P none s t) (w : ChannelWriter κ) :
    Near P ((spawn w).out s).1 (Pipelined.spawn (direct (Journaled τ)) w) ((spawn w).out s).2 t :=
  .quiet (.resting ⟨rfl, fun _ => ⟨rfl, rfl, rfl⟩, ⟨hrests.shows.target, hrests.shows.marks⟩, hrests.keeps⟩)

/-- Both writers wait for the same answer. -/
theorem Near.out_wait (hnear : Near P h p s t) : ∃ h' s', h.wait.out s = ((waitedFor p.answer?, h'), s') ∧
    Quiet P h' p.settled s' t := by
  cases hnear with
  | quiet hquiet =>
    cases hquiet with
    | resting rests => exact ⟨_, s, rfl, .resting rests⟩
  | @underway n w r k progress _ _ under keeps =>
    obtain ⟨s', hawait, hrests⟩ := under.out_await keeps
    exact ⟨⟨none, r.totals progress⟩, s', Act.out_bind_of hawait _, .resting hrests⟩

/-- **Both writers pass the next batch on.** The other side has the answer at once. -/
theorem Quiet.submit (hP : Steady P) {b : Batch} (hb : b.isEmpty = false) (hquiet : Quiet P h p s t) :
    let out := (h.submit b).out s
    let out' := (p.submit (direct (Journaled τ)) b).out t
    out.1.1 = out'.1.1 ∧ Near P out.1.2 out'.1.2 out.2 out'.2 := by
  cases hquiet with
  | @resting w progress _ _ rests =>
    obtain ⟨released, sending, slot⟩ := rests.free rfl
    have hsubmit : ((Remote.mk none progress).submit b).out s = ((.written, ⟨some ⟨b.seq, b.records⟩, progress⟩),
        { s with worker := some (.holding w b), schedule := s.schedule.tail }) := by
      unfold Remote.submit
      rw [Act.out_bind_of rests.out_released, if_neg Bool.false_ne_true]
      exact Act.out_bind_of (rests.out_pass b) _
    rw [hsubmit]
    obtain ⟨t', keeps, hwritten⟩ := hP.journaled.write b w rests.keeps
    have under {w' : ChannelWriter κ} {r : Reply} (hsends : Sends w b t w' r t') :
        Underway w' r t' 3 { s with worker := some (.holding w b), schedule := s.schedule.tail } :=
      .holding hsends rfl slot ⟨released, sending⟩ ⟨rests.shows.target, rests.shows.marks⟩
    have hpiped : ((Pipelined.mk (.running w) none progress).submit (direct (Journaled τ)) b).out t =
        ((.written, (Pipelined.mk (.running w) none progress).receive (direct (Journaled τ)) b
          ((w.write b).out t).1.1 ((w.write b).out t).1.2), ((w.write b).out t).2) := rfl
    rw [hpiped]
    rcases hwritten with ⟨w', hw⟩ | ⟨source, hw⟩
    · have hunder := under ⟨hb, _, hw, rfl⟩
      rw [hw]
      exact ⟨rfl, .underway hunder keeps⟩
    · have hunder := under ⟨hb, _, hw, rfl⟩
      rw [hw]
      exact ⟨rfl, .underway hunder keeps⟩

/-- **Both writers write in step.** -/
theorem Near.write (hP : Steady P) (b : Batch) (hnear : Near P h p s t) :
    let out := (h.write b).out s
    let out' := ((piped (Journaled τ)).write b p).out t
    out.1.1 = out'.1.1 ∧ Near P out.1.2 out'.1.2 out.2 out'.2 := by
  obtain ⟨h', s', hwait, hquiet⟩ := hnear.out_wait
  have hpiped : ((piped (Journaled τ)).write b p).out t = _ := Act.out_bind_of (Pipelined.out_wait_answer p t) _
  have hremote : (h.write b).out s = _ := Act.out_bind_of hwait _
  rw [hpiped, hremote]
  cases waitedFor p.answer? with
  | error e => exact ⟨rfl, .quiet hquiet⟩
  | ok _ =>
    cases hb : b.isEmpty with
    | true => exact ⟨rfl, .quiet hquiet⟩
    | false => exact hquiet.submit hP hb

/-- Both writers are closed in step, with the same call. -/
theorem Near.close (hP : Steady P) (hnear : Near P h p s t) :
    let out := h.close.out s
    let out' := ((piped (Journaled τ)).close p).out t
    out.1.1 = out'.1.1 ∧ out.1.2.progress = out'.1.2.progress ∧ Rests P none out.2 out'.2 := by
  obtain ⟨h', s', hwait, hquiet⟩ := hnear.out_wait
  generalize hp : p.settled = p' at hquiet
  cases hquiet with
  | @resting w progress _ _ rests =>
    have hpiped : ((piped (Journaled τ)).close p).out t =
        (((waitedFor p.answer?).bind fun _ => (w.close.out t).1.1, ⟨.stopped, none, progress⟩), (w.close.out t).2) := by
      refine (Act.out_bind_of (Pipelined.out_wait_answer p t) _).trans ?_
      simp only [hp]
      rfl
    obtain ⟨s'', hretire, hended⟩ := rests.out_retire
    have hremote : h.close.out s =
        (((waitedFor p.answer?).bind fun _ => (w.close.out s'').1.1, ⟨none, progress⟩), (w.close.out s'').2) := by
      refine (Act.out_bind_of hwait _).trans ?_
      simp only
      rw [Act.out_bind_of rests.out_released, if_neg Bool.false_ne_true]
      exact Act.out_bind_of hretire _
    obtain ⟨hvalue, hdone⟩ := agree_close hP w s'' t hended
    rw [hpiped, hremote]
    have hresult (closed : Except BulkError Unit × ChannelWriter κ) (heq : closed = (w.close.out t).1) :
        ((waitedFor p.answer?).bind fun _ => closed.1) = (waitedFor p.answer?).bind fun _ => (w.close.out t).1.1 := by
      rw [heq]
    exact ⟨hresult _ hvalue, rfl, hdone⟩

/-- **A writer with a worker in a thread of its own stays in step** with one that has the answers at once, however the
threads interleave. -/
theorem inStep_remote (hP : Steady P) :
    Insert.InStep (Near P) (Quiet P) (Rests P none) (Remote.ops : Writer Remote (Threads κ τ)) (piped (Journaled τ)) where
  near := .quiet
  progress := Near.progress
  wait {h p s t} hnear := by
    obtain ⟨h', s', hwait, hquiet⟩ := hnear.out_wait
    have hpiped : ((piped (Journaled τ)).wait p).out t = _ := Pipelined.out_wait_answer p t
    have hthreads : ((ops : Writer Remote (Threads κ τ)).wait h).out s = _ := hwait
    rw [hpiped, hthreads]
    exact ⟨rfl, hquiet⟩
  write b _ _ _ _ hnear := hnear.write hP b
  close hnear := hnear.close hP
  quiet h p := by
    have agree {α : Type} {x : Act (Threads κ τ) α} {x' : Act (Journaled τ) α}
        (hx : ∀ w : ChannelWriter κ, Act.Agree (Rests P (some w)) x x') : Act.Agree (Quiet P h p) x x' := by
      intro s t hquiet
      cases hquiet with
      | @resting w _ _ _ rests => exact ⟨(hx w s t rests).1, .resting (hx w s t rests).2⟩
    have h w := sameControl_rests (κ := κ) hP.controlled (some w)
    exact
      { mode := fun s t hquiet => by cases hquiet with | @resting w _ _ _ rests => exact (h w).mode s t rests
        setAutocommit := fun on => agree fun w => (h w).setAutocommit on
        commit := agree fun w => (h w).commit
        rollback := agree fun w => (h w).rollback }
  done := sameControl_rests hP.controlled none

end Remote

end BulkLoad
