import BulkLoad.Proofs.Writer.Forecast
import BulkLoad.Scripted
import Mathlib.Logic.Relation
import Mathlib.Order.WellFounded

/-!
# The single-slot hand-off

However the threads of a pipelined writer interleave, the worker takes the batches in the order of the calls, and each
answer is taken by the next call (`Handoff.Recorded`). What the calls return is the same in every run, namely what they
return one after the other (`replay`), since no step changes what they will have returned in the end.

- `Handoff.orderly_of_steps`: what holds in every state that steps lead to;
- `Handoff.wellFounded_step`: no run goes on forever.
-/

namespace BulkLoad

open List

variable {ω τ : Type} {inner : Writer ω τ}

namespace Handoff

variable {s s' : Handoff ω τ}

/-! ## Batches and their answers -/

/-- The answer under way: in the slot, with the worker, or never to come. -/
def owed? (s : Handoff ω τ) : Option Reply :=
  match s.worker with
  | .ready _ => s.slot
  | .replying _ r => some r
  | .unwinding | .crashed => if s.due then some .lost else none
  | .holding _ _ | .finished _ => none

/-- The worker takes the batches that calls pass on, and the inner writer gets what the worker takes; the answers are
those that calls have taken, followed by the one under way. -/
structure Recorded (s : Handoff ω τ) : Prop where
  passed : s.taken = s.returned.filterMap Exchange.passed? ++ s.phase.handed?.toList
  got : s.taken = s.written.map Prod.fst ++ s.worker.held?.toList
  answered : s.written.map Prod.snd =
    s.returned.filterMap Exchange.answer ++ s.phase.answer?.toList ++ s.owed?.toList

theorem recorded_start (inner : Writer ω τ) (w : ω) (t : τ) (calls : List WriterCall) :
    (start inner w t calls).Recorded := ⟨rfl, rfl, rfl⟩

/-- A call that has passed nothing on returns. -/
theorem Recorded.complete (h : s.Recorded) {q : WriterCall} {a : Option Reply} {result : Except BulkError Unit}
    (hpending : s.pending = none) (hdue : s.due = false) (hanswer : s.phase.answer? = a)
    (hpassed : (Exchange.mk q a result).passed? = none) : (s.complete q a result).Recorded := by
  obtain ⟨htaken, hgot, hanswered⟩ := h
  have hhanded : s.phase.handed? = none := by
    cases hphase : s.phase with
    | handed b a => rw [due, hphase] at hdue; cases hdue
    | _ => rfl
  have howed : (s.complete q a result).owed? = s.owed? := by
    have hafter : (s.complete q a result).due = false := by
      show s.pending.isSome = false
      rw [hpending]
      rfl
    unfold owed?
    rw [hafter, hdue]
    rfl
  refine ⟨?_, hgot, ?_⟩
  · rw [hhanded] at htaken
    simpa [Handoff.complete, Phase.handed?, filterMap_append, hpassed] using htaken
  · rw [howed]
    rw [hanswer] at hanswered
    cases a <;> simpa [Handoff.complete, Phase.answer?, filterMap_append] using hanswered

theorem Recorded.produces (h : s.Recorded) (hs : s.Sound) (hstep : Produces inner s s') : s'.Recorded := by
  have ⟨htaken, hgot, hanswered⟩ := h
  cases hstep with
  | call hphase htodo hpending =>
    refine ⟨by simpa [hphase, Phase.handed?] using htaken, hgot, ?_⟩
    simpa [hphase, Phase.answer?, owed?, due, hpending] using hanswered
  | expect hphase htodo hpending =>
    refine ⟨by simpa [hphase, Phase.handed?] using htaken, hgot, ?_⟩
    simpa [hphase, Phase.answer?, owed?, due, hpending] using hanswered
  | @receive q r hphase hslot =>
    simp only [Sound, hphase] at hs
    have hloaded := hs.2.1
    refine ⟨by simpa [hphase, Phase.handed?] using htaken, hgot, ?_⟩
    cases hworker : s.worker with
    | ready w => simpa [hphase, Phase.answer?, owed?, hworker, hslot] using hanswered
    | _ => simp [hworker, WorkerLoop.Loaded, hslot] at hloaded
  | @disconnect q hphase hslot hgone =>
    simp only [Sound, hphase] at hs
    have hloaded := hs.2.1
    refine ⟨by simpa [hphase, Phase.handed?] using htaken, hgot, ?_⟩
    cases hworker : s.worker with
    | unwinding => simpa [hphase, Phase.answer?, owed?, due, hworker] using hanswered
    | crashed => simpa [hphase, Phase.answer?, owed?, due, hworker] using hanswered
    | finished w => rw [hworker] at hloaded; cases hloaded
    | _ => rw [hworker] at hgone; cases hgone
  | acknowledged hphase =>
    simp only [Sound, hphase] at hs
    exact h.complete hs.1 (by rw [due, hphase]) (by rw [hphase]; rfl) rfl
  | refuse hphase hwaited =>
    simp only [Sound, hphase] at hs
    exact h.complete hs.1 (by rw [due, hphase]) (by rw [hphase]; rfl) rfl
  | skip hphase hwaited hempty =>
    simp only [Sound, hphase] at hs
    exact h.complete hs.1 (by rw [due, hphase]) (by rw [hphase]; rfl) (if_pos hempty)
  | writeClosed hphase _ _ _ =>
    simp only [Sound, hphase] at hs
    exact h.complete hs.1 (by rw [due, hphase]) (by rw [hphase]; rfl) rfl
  | offer hphase _ _ _ =>
    refine ⟨by simpa [hphase, Phase.handed?] using htaken, hgot, ?_⟩
    simpa [hphase, Phase.answer?, owed?, due] using hanswered
  | @rendezvous b a w hphase hworker =>
    simp only [Sound, hphase] at hs
    have hslot := hs.2.1.slot_eq
    refine ⟨by simpa [hphase, Phase.handed?] using htaken, ?_, ?_⟩
    · simpa [hworker, WorkerLoop.held?] using hgot
    · simpa [hphase, Phase.answer?, owed?, hworker, hslot] using hanswered
  | unheard hphase _ =>
    simp only [Sound, hphase] at hs
    exact h.complete hs.1 (by rw [due, hphase]) (by rw [hphase]; rfl) rfl
  | @pass b a hphase =>
    simp only [Sound, hphase] at hs
    have hfull := hs.2.2.2.2.2
    refine ⟨?_, hgot, ?_⟩
    · simpa [hphase, Phase.handed?, Handoff.complete, Exchange.passed?, hfull] using htaken
    · cases a <;> simpa [hphase, Phase.answer?, Handoff.complete, owed?, due] using hanswered
  | letGo hphase _ =>
    refine ⟨by simpa [hphase, Phase.handed?] using htaken, hgot, ?_⟩
    simpa [hphase, Phase.answer?, owed?, due] using hanswered
  | closeAgain hphase _ =>
    simp only [Sound, hphase] at hs
    exact h.complete hs.1 (by rw [due, hphase]) (by rw [hphase]; rfl) rfl
  | @join a w hphase _ =>
    simp only [Sound, hphase] at hs
    have hcomplete :
        (s.complete .close a ((waitedFor a).bind fun _ => ((inner.close w).out s.target).1.1)).Recorded :=
      h.complete hs.1 (by rw [due, hphase]) (by rw [hphase]; rfl) rfl
    exact ⟨hcomplete.passed, hcomplete.got, hcomplete.answered⟩
  | joinCrashed hphase _ =>
    simp only [Sound, hphase] at hs
    exact h.complete hs.1 (by rw [due, hphase]) (by rw [hphase]; rfl) rfl

theorem Recorded.works (h : s.Recorded) (hs : s.Sound) (hstep : Works inner s s') : s'.Recorded := by
  obtain ⟨htaken, hgot, hanswered⟩ := h
  cases hstep with
  | @write w w' b attempt t hworker hwrite =>
    have hdue : s.due = true := by
      rw [← Bool.not_eq_false]
      intro hdue
      have hunloaded := hs.unloaded_of_due hdue
      rw [hworker] at hunloaded
      exact hunloaded
    simp only [owed?, hworker, Option.toList_none, append_nil] at hanswered
    refine ⟨htaken, ?_, ?_⟩
    · cases attempt <;> simpa [WorkerLoop.after, WorkerLoop.held?, hworker] using hgot
    · -- The answer that is due now is that to the batch just written.
      have howed : owed? { s with
          worker := .after inner attempt w'
          target := t
          written := s.written ++ [(b, attempt.reply (inner.progress w'))] } =
            some (attempt.reply (inner.progress w')) := by
        cases attempt with
        | written => rfl
        | failed e => rfl
        | crashed => exact if_pos hdue
      rw [howed]
      simp [hanswered]
  | @reply w r hworker hslot =>
    refine ⟨htaken, by simpa [hworker, WorkerLoop.held?] using hgot, ?_⟩
    simpa [owed?, hworker] using hanswered
  | leave hworker hclosed =>
    have hslot := (hs.unloaded_of_closed hclosed).slot_eq
    refine ⟨htaken, by simpa [hworker, WorkerLoop.held?] using hgot, ?_⟩
    simpa [owed?, hworker, hslot] using hanswered
  | unwind hworker =>
    refine ⟨htaken, by simpa [hworker, WorkerLoop.held?] using hgot, ?_⟩
    simp only [owed?, hworker] at hanswered
    exact hanswered

/-! ## Progress -/

/-- **Some step is possible as long as a call has not returned.** -/
theorem Sound.progresses (h : s.Sound) : s.phase = .idle ∧ s.todo = [] ∨ ∃ s', Step inner s s' := by
  cases hphase : s.phase with
  | idle =>
    cases htodo : s.todo with
    | nil => exact Or.inl ⟨rfl, rfl⟩
    | cons q qs =>
      cases hpending : s.pending with
      | none => exact Or.inr ⟨_, Or.inl (.call hphase htodo hpending)⟩
      | some k => exact Or.inr ⟨_, Or.inl (.expect hphase htodo hpending)⟩
  | receiving q =>
    simp only [Sound, hphase] at h
    have hloaded := h.2.1
    cases hworker : s.worker with
    | ready w =>
      rw [hworker] at hloaded
      obtain ⟨r, hslot⟩ := Option.isSome_iff_exists.mp hloaded
      exact Or.inr ⟨_, Or.inl (.receive hphase hslot)⟩
    | holding w b => exact Or.inr ⟨_, Or.inr (.write hworker rfl)⟩
    | replying w r =>
      rw [hworker] at hloaded
      exact Or.inr ⟨_, Or.inr (.reply hworker hloaded)⟩
    | unwinding => exact Or.inr ⟨_, Or.inr (.unwind hworker)⟩
    | crashed =>
      rw [hworker] at hloaded
      exact Or.inr ⟨_, Or.inl (.disconnect hphase hloaded (by rw [hworker]; rfl))⟩
    | finished w => rw [hworker] at hloaded; cases hloaded
  | waited q a =>
    cases q with
    | wait => exact Or.inr ⟨_, Or.inl (.acknowledged hphase)⟩
    | close =>
      cases hclosed : s.closed with
      | true => exact Or.inr ⟨_, Or.inl (.closeAgain hphase hclosed)⟩
      | false => exact Or.inr ⟨_, Or.inl (.letGo hphase hclosed)⟩
    | write b =>
      cases hwaited : waitedFor a with
      | error e => exact Or.inr ⟨_, Or.inl (.refuse hphase hwaited)⟩
      | ok u =>
        cases hempty : b.isEmpty with
        | true => exact Or.inr ⟨_, Or.inl (.skip hphase hwaited hempty)⟩
        | false =>
          cases hclosed : s.closed with
          | true => exact Or.inr ⟨_, Or.inl (.writeClosed hphase hwaited hempty hclosed)⟩
          | false => exact Or.inr ⟨_, Or.inl (.offer hphase hwaited hempty hclosed)⟩
  | offering b a =>
    simp only [Sound, hphase] at h
    obtain ⟨_, hunloaded, _, hopen, _⟩ := h
    rw [hopen] at hunloaded
    cases hworker : s.worker with
    | ready w => exact Or.inr ⟨_, Or.inl (.rendezvous hphase hworker)⟩
    | unwinding => exact Or.inr ⟨_, Or.inr (.unwind hworker)⟩
    | crashed => exact Or.inr ⟨_, Or.inl (.unheard hphase (by rw [hworker]; rfl))⟩
    | finished w => rw [hworker] at hunloaded; cases hunloaded.2
    | _ => rw [hworker] at hunloaded; cases hunloaded
  | handed b a => exact Or.inr ⟨_, Or.inl (.pass hphase)⟩
  | joining a =>
    simp only [Sound, hphase] at h
    obtain ⟨_, hunloaded, _, hclosed⟩ := h
    cases hworker : s.worker with
    | ready w => exact Or.inr ⟨_, Or.inr (.leave hworker hclosed)⟩
    | unwinding => exact Or.inr ⟨_, Or.inr (.unwind hworker)⟩
    | crashed => exact Or.inr ⟨_, Or.inl (.joinCrashed hphase hworker)⟩
    | finished w => exact Or.inr ⟨_, Or.inl (.join hphase hworker)⟩
    | _ => rw [hworker] at hunloaded; cases hunloaded

end Handoff

/-- A bound on the steps that are left of the call. -/
def Phase.fuel : Phase → Nat
  | idle => 0
  | receiving _ => 7
  | waited _ _ => 6
  | offering _ _ => 5
  | handed _ _ | joining _ => 1

/-- A bound on the steps that the worker can take before it has to wait. -/
def WorkerLoop.fuel : WorkerLoop ω → Nat
  | holding _ _ => 3
  | replying _ _ => 2
  | ready _ | unwinding => 1
  | crashed | finished _ => 0

namespace Handoff

variable {s s' : Handoff ω τ} {w : ω} {t : τ} {calls : List WriterCall}

/-- A bound on the steps that are left. -/
def fuel (s : Handoff ω τ) : Nat := 8 * s.todo.length + s.phase.fuel + s.worker.fuel

theorem fuel_lt_of_step (hstep : Step inner s s') : s'.fuel < s.fuel := by
  rcases hstep with hstep | hstep
  · cases hstep with
    | call hphase htodo _ => simp only [fuel, hphase, htodo, Phase.fuel, length_cons]; omega
    | expect hphase htodo _ => simp only [fuel, hphase, htodo, Phase.fuel, length_cons]; omega
    | rendezvous hphase hworker => simp only [fuel, hphase, hworker, Phase.fuel, WorkerLoop.fuel]; omega
    | receive hphase | disconnect hphase | acknowledged hphase | refuse hphase | skip hphase | writeClosed hphase
    | offer hphase | unheard hphase | pass hphase | letGo hphase | closeAgain hphase | join hphase
    | joinCrashed hphase => simp only [fuel, complete, hphase, Phase.fuel]; omega
  · cases hstep with
    | @write _ _ _ attempt _ hworker _ =>
      simp only [fuel, hworker]
      cases attempt <;> simp only [WorkerLoop.after, WorkerLoop.fuel] <;> omega
    | reply hworker | leave hworker | unwind hworker =>
      simp only [fuel, hworker, WorkerLoop.fuel]
      omega

/-- **No run goes on forever.** -/
theorem wellFounded_step (inner : Writer ω τ) : WellFounded fun s' s : Handoff ω τ => Step inner s s' :=
  Subrelation.wf fuel_lt_of_step (measure fuel).wf

/-! ## Every interleaving -/

/-- Steps of both sides, in any order. -/
abbrev Steps (inner : Writer ω τ) : Handoff ω τ → Handoff ω τ → Prop := Relation.ReflTransGen (Step inner)

/-- What holds in every run of the two threads. -/
structure Orderly (inner : Writer ω τ) (w : ω) (t : τ) (calls : List WriterCall) (s : Handoff ω τ) : Prop where
  /-- The worker and the slot never hold more than one batch or answer, -/
  single : s.worker.load + s.slot.toList.length ≤ 1
  /-- and exactly one if a write is pending and the worker is alive. -/
  pending : s.pending.isSome → s.worker.holdsSlot = true → s.worker.load + s.slot.toList.length = 1
  /-- The worker never has to wait before it answers. -/
  room : ∀ w r, s.worker = .replying w r → s.slot = none
  /-- The worker takes the batches with records of the calls that succeed, in their order and each once. -/
  passed : s.taken = s.returned.filterMap Exchange.passed? ++ s.phase.handed?.toList
  /-- The inner writer gets what the worker takes, in the same order. -/
  got : s.taken = s.written.map Prod.fst ++ s.worker.held?.toList
  /-- What becomes of these batches is told to the calls in the same order, each once. -/
  answered : s.written.map Prod.snd =
    s.returned.filterMap Exchange.answer ++ s.phase.answer?.toList ++ s.owed?.toList
  /-- It is told to the call after the one that has passed the batch on, and that call fails if the batch has. -/
  raised : Answered false s.returned
  /-- A call that finds the inner writer lost is the last one that could have passed a batch on. -/
  lost : s.returned.Pairwise fun e e' => e.answer = some .lost → e'.Refuses
  /-- The calls return what they do one after the other. -/
  agrees : s.returned <+: replay inner (.spawn inner w) t calls
  /-- Either all calls have returned or a step is possible, -/
  progresses : s.phase = .idle ∧ s.todo = [] ∧ s.returned = replay inner (.spawn inner w) t calls ∨ ∃ s', Step inner s s'
  /-- and steps come to an end. -/
  ends : Acc (fun s' s => Step inner s s') s

/-- What every step keeps. -/
structure Kept (inner : Writer ω τ) (w : ω) (t : τ) (calls : List WriterCall) (s : Handoff ω τ) : Prop where
  sound : s.Sound
  recorded : s.Recorded
  forecast : s.forecast inner = replay inner (.spawn inner w) t calls

theorem Kept.step (h : s.Kept inner w t calls) (hstep : Step inner s s') : s'.Kept inner w t calls where
  sound := h.sound.step hstep
  recorded := hstep.elim (h.recorded.produces h.sound) (h.recorded.works h.sound)
  forecast := (h.sound.forecast_step hstep).trans h.forecast

theorem Kept.steps (h : s.Kept inner w t calls) (hsteps : Steps inner s s') : s'.Kept inner w t calls := by
  induction hsteps with
  | refl => exact h
  | tail _ hstep ih => exact ih.step hstep

theorem kept_start (inner : Writer ω τ) (w : ω) (t : τ) (calls : List WriterCall) :
    (start inner w t calls).Kept inner w t calls :=
  ⟨sound_start inner w t calls, recorded_start inner w t calls, forecast_start inner w t calls⟩

theorem Kept.agrees (h : s.Kept inner w t calls) : s.returned <+: replay inner (.spawn inner w) t calls := by
  rw [← h.forecast]
  exact prefix_append _ _

/-- **The hand-off is orderly, however the threads interleave.** -/
theorem orderly_of_steps (h : Steps inner (start inner w t calls) s) : s.Orderly inner w t calls := by
  have hkept := (kept_start inner w t calls).steps h
  have hload := hkept.sound.load_add_slot
  have hprefix := hkept.agrees
  refine ⟨?_, ?_, ?_, hkept.recorded.passed, hkept.recorded.got, hkept.recorded.answered, ?_, ?_, hprefix, ?_, ?_⟩
  · rw [hload]
    split <;> omega
  · intro hpending halive
    rw [hload, if_pos ⟨hkept.sound.due_of_pending hpending, halive⟩]
  · intro w r hworker
    rw [hworker] at hload
    cases hslot : s.slot with
    | none => rfl
    | some r' =>
      rw [hslot] at hload
      split at hload <;> cases hload
  · exact (answered_replay inner calls (.spawn inner w) t).mono hprefix
  · exact (lost_replay inner calls t (Pipelined.sound_spawn inner w)).sublist hprefix.sublist
  · rcases hkept.sound.progresses with ⟨hphase, htodo⟩ | hstep
    · have hforecast := hkept.forecast
      simp only [forecast, hphase, htodo, replay, append_nil] at hforecast
      exact Or.inl ⟨hphase, htodo, hforecast⟩
    · exact Or.inr hstep
  · exact (wellFounded_step inner).apply s

/-! ## A writer that breaks down -/

/-- A batch of one record. -/
def oneRecord (seq : Nat) : Batch := ⟨seq, 1, [49, 10]⟩

/-- A target that refuses the first statement and breaks down at the second one. -/
def brittle : Scripted := { script := { sends := [.refuse { kind := .other, message := "refused" }, .crash] } }

/-- A writer that sends to such a target. -/
def brittleWriter : ChannelWriter Unit := { channel := (), header := "COPY t (id) FROM STDIN" }

/-- The first batch fails, which the second call tells. The third call passes on the batch on which the inner writer
breaks down, which the fourth one tells. -/
theorem orderly_of_steps_brittle :
    let calls := [.write (oneRecord 1), .write (oneRecord 2), .write (oneRecord 3), .wait, .write (oneRecord 4), .close]
    ∃ s, Steps ChannelWriter.ops (start ChannelWriter.ops brittleWriter brittle calls) s ∧
      s.returned.map Exchange.result = [.ok (), .error (.databaseWrite 1 {} { kind := .other, message := "refused" }),
        .ok (), .error .workerLost, .error .workerLost, .error .workerLost] ∧
      s.taken = [oneRecord 1, oneRecord 3] ∧ s.Orderly ChannelWriter.ops brittleWriter brittle calls := by
  intro calls
  have h : Steps ChannelWriter.ops (start ChannelWriter.ops brittleWriter brittle calls) _ := .refl
  replace h := h.tail (Or.inl (.call rfl rfl rfl))
  replace h := h.tail (Or.inl (.offer rfl rfl rfl rfl))
  replace h := h.tail (Or.inl (.rendezvous rfl rfl))
  replace h := h.tail (Or.inl (.pass rfl))
  replace h := h.tail (Or.inl (.expect rfl rfl rfl))
  replace h := h.tail (Or.inr (.write rfl rfl))
  replace h := h.tail (Or.inr (.reply rfl rfl))
  replace h := h.tail (Or.inl (.receive rfl rfl))
  replace h := h.tail (Or.inl (.refuse rfl rfl))
  replace h := h.tail (Or.inl (.call rfl rfl rfl))
  replace h := h.tail (Or.inl (.offer rfl rfl rfl rfl))
  replace h := h.tail (Or.inl (.rendezvous rfl rfl))
  replace h := h.tail (Or.inr (.write rfl rfl))
  replace h := h.tail (Or.inl (.pass rfl))
  replace h := h.tail (Or.inl (.expect rfl rfl rfl))
  replace h := h.tail (Or.inl (.disconnect rfl rfl rfl))
  replace h := h.tail (Or.inl (.acknowledged rfl))
  replace h := h.tail (Or.inl (.call rfl rfl rfl))
  replace h := h.tail (Or.inl (.offer rfl rfl rfl rfl))
  replace h := h.tail (Or.inr (.unwind rfl))
  replace h := h.tail (Or.inl (.unheard rfl rfl))
  replace h := h.tail (Or.inl (.call rfl rfl rfl))
  replace h := h.tail (Or.inl (.letGo rfl rfl))
  replace h := h.tail (Or.inl (.joinCrashed rfl rfl))
  exact ⟨_, h, rfl, rfl, orderly_of_steps h⟩

end Handoff

end BulkLoad
