import BulkLoad.Writer.Handoff

/-!
# What is under way between the threads

Between the threads of a pipelined writer at most one batch is under way: the worker has it, or its answer lies in the
slot. Where the producer is tells whether an answer is due (`Handoff.due`), and a batch is under way exactly when one
is, unless the inner writer has broken down (`Handoff.Sound`). Every step of either thread keeps this
(`Handoff.Sound.step`), so that the worker and the slot hold one batch or answer, or none (`Handoff.Sound.load_add_slot`).
-/

namespace BulkLoad

open List

variable {ω τ : Type} {inner : Writer ω τ}

/-! ## What is under way -/

namespace Phase

/-- The answer that the call has taken. -/
def answer? : Phase → Option Reply
  | waited _ a | offering _ a | handed _ a | joining a => a
  | idle | receiving _ => none

/-- The batch that the call has passed on, though it has not returned yet. -/
def handed? : Phase → Option Batch
  | handed b _ => some b
  | _ => none

end Phase

namespace WorkerLoop

/-- The batch that the worker has taken but not written. -/
def held? : WorkerLoop ω → Option Batch
  | holding _ b => some b
  | _ => none

/-- The number of batches that the worker has taken but not answered. -/
def load : WorkerLoop ω → Nat
  | holding _ _ | replying _ _ => 1
  | _ => 0

/-- A batch is under way: the worker has it, or its answer is in the slot, unless the inner writer has broken down. -/
def Loaded : WorkerLoop ω → Option Reply → Prop
  | ready _, slot => slot.isSome
  | finished _, _ => False
  | _, slot => slot = none

/-- Nothing is under way. Only a worker that has been let go ends. -/
def Unloaded (closed : Bool) : WorkerLoop ω → Option Reply → Prop
  | ready _, slot | unwinding, slot | crashed, slot => slot = none
  | finished _, slot => slot = none ∧ closed = true
  | holding _ _, _ | replying _ _, _ => False

variable {closed : Bool} {l : WorkerLoop ω} {slot : Option Reply}

theorem Unloaded.slot_eq (h : l.Unloaded closed slot) : slot = none := by
  cases l with
  | finished w => exact h.1
  | holding w b => cases h
  | replying w r => cases h
  | _ => exact h

theorem Unloaded.close (h : l.Unloaded closed slot) : l.Unloaded true slot := by
  cases l with
  | finished w => exact ⟨h.1, rfl⟩
  | _ => exact h

end WorkerLoop

namespace Handoff

variable {s s' : Handoff ω τ}

/-- The answer that a call has taken is part of the totals. -/
def Counts (a : Option Reply) (s : Handoff ω τ) : Prop := ∀ r, a = some r → r.totals s.progress = s.progress

/-- The batch may be passed on: it has records, and the batch before has not failed. -/
def Passes (b : Batch) (a : Option Reply) : Prop := waitedFor a = .ok () ∧ b.isEmpty = false

/-- A batch is under way when an answer is due: between two calls if the writer has a batch pending, and within a call
that waits for the answer or has just passed the batch on. Otherwise nothing is. -/
def Sound (s : Handoff ω τ) : Prop :=
  match s.phase with
  | .idle => if s.pending.isSome then s.worker.Loaded s.slot ∧ s.closed = false else s.worker.Unloaded s.closed s.slot
  | .receiving _ => s.pending = none ∧ s.worker.Loaded s.slot ∧ s.closed = false
  | .waited _ a => s.pending = none ∧ s.worker.Unloaded s.closed s.slot ∧ s.Counts a
  | .offering b a => s.pending = none ∧ s.worker.Unloaded s.closed s.slot ∧ s.Counts a ∧ s.closed = false ∧ Passes b a
  | .handed b a => s.pending = none ∧ s.worker.Loaded s.slot ∧ s.closed = false ∧ s.Counts a ∧ Passes b a
  | .joining a => s.pending = none ∧ s.worker.Unloaded s.closed s.slot ∧ s.Counts a ∧ s.closed = true

theorem sound_start (inner : Writer ω τ) (w : ω) (t : τ) (calls : List WriterCall) :
    (start inner w t calls).Sound := rfl

/-- Between two calls nothing need be under way. -/
theorem sound_idle (hphase : s.phase = .idle) (hpending : s.pending = none)
    (hworker : s.worker.Unloaded s.closed s.slot) : s.Sound := by
  simp only [Sound, hphase, hpending, Option.isSome_none, Bool.false_eq_true, if_false]
  exact hworker

theorem Sound.produces (h : s.Sound) (hstep : Produces inner s s') : s'.Sound := by
  cases hstep with
  | call hphase htodo hpending =>
    simp only [Sound, hphase, hpending, Option.isSome_none, Bool.false_eq_true, if_false] at h ⊢
    exact ⟨trivial, h, nofun⟩
  | expect hphase htodo hpending =>
    simp only [Sound, hphase, hpending, Option.isSome_some, if_true] at h ⊢
    exact ⟨trivial, h⟩
  | @receive q r hphase hslot =>
    simp only [Sound, hphase] at h ⊢
    refine ⟨h.1, ?_, ?_⟩
    · -- Only a worker that is ready has left its answer.
      have hloaded := h.2.1
      cases hworker : s.worker with
      | ready w => rfl
      | _ => simp [hworker, WorkerLoop.Loaded, hslot] at hloaded
    · intro r' hr'
      cases hr'
      cases r <;> rfl
  | disconnect hphase hslot hgone =>
    simp only [Sound, hphase] at h ⊢
    refine ⟨h.1, ?_, ?_⟩
    · have hloaded := h.2.1
      cases hworker : s.worker with
      | unwinding => exact hslot
      | crashed => exact hslot
      | finished w => rw [hworker] at hloaded; cases hloaded
      | _ => rw [hworker] at hgone; cases hgone
    · intro r hr
      cases hr
      rfl
  | acknowledged hphase =>
    simp only [Sound, hphase] at h
    exact sound_idle rfl h.1 h.2.1
  | refuse hphase _ =>
    simp only [Sound, hphase] at h
    exact sound_idle rfl h.1 h.2.1
  | skip hphase _ _ =>
    simp only [Sound, hphase] at h
    exact sound_idle rfl h.1 h.2.1
  | writeClosed hphase _ _ _ =>
    simp only [Sound, hphase] at h
    exact sound_idle rfl h.1 h.2.1
  | offer hphase hwaited hfull hopen =>
    simp only [Sound, hphase] at h ⊢
    exact ⟨h.1, h.2.1, h.2.2, hopen, hwaited, hfull⟩
  | rendezvous hphase hworker =>
    simp only [Sound, hphase] at h ⊢
    exact ⟨h.1, h.2.1.slot_eq, h.2.2.2.1, h.2.2.1, h.2.2.2.2⟩
  | unheard hphase _ =>
    simp only [Sound, hphase] at h
    exact sound_idle rfl h.1 h.2.1
  | pass hphase =>
    simp only [Sound, hphase] at h
    simp only [Sound, complete, Option.isSome_some, if_true]
    exact ⟨h.2.1, h.2.2.1⟩
  | letGo hphase hopen =>
    simp only [Sound, hphase] at h ⊢
    exact ⟨h.1, h.2.1.close, h.2.2, trivial⟩
  | closeAgain hphase _ =>
    simp only [Sound, hphase] at h
    exact sound_idle rfl h.1 h.2.1
  | join hphase _ =>
    simp only [Sound, hphase] at h
    exact sound_idle rfl h.1 h.2.1
  | joinCrashed hphase _ =>
    simp only [Sound, hphase] at h
    exact sound_idle rfl h.1 h.2.1

/-- The worker may change as long as a batch that is under way stays so, and none comes from nowhere. -/
theorem Sound.of_worker (h : s.Sound) {l : WorkerLoop ω} {slot : Option Reply} {t : τ} {written : List (Batch × Reply)}
    (hloaded : s.worker.Loaded s.slot → s.closed = false → l.Loaded slot)
    (hunloaded : s.worker.Unloaded s.closed s.slot → l.Unloaded s.closed slot) :
    Sound { s with worker := l, slot := slot, target := t, written := written } := by
  unfold Sound at h ⊢
  simp only at h ⊢
  split at h
  · split at h
    · next hpending => exact (if_pos hpending).symm ▸ ⟨hloaded h.1 h.2, h.2⟩
    · next hpending => exact (if_neg hpending).symm ▸ hunloaded h
  · exact ⟨h.1, hloaded h.2.1 h.2.2, h.2.2⟩
  · exact ⟨h.1, hunloaded h.2.1, h.2.2⟩
  · exact ⟨h.1, hunloaded h.2.1, h.2.2⟩
  · exact ⟨h.1, hloaded h.2.1 h.2.2.1, h.2.2⟩
  · exact ⟨h.1, hunloaded h.2.1, h.2.2⟩

theorem Sound.works (h : s.Sound) (hstep : Works inner s s') : s'.Sound := by
  cases hstep with
  | @write w w' b attempt t hworker hwrite =>
    refine h.of_worker (fun hloaded _ => ?_) fun hunloaded => ?_
    · rw [hworker] at hloaded
      cases attempt <;> exact hloaded
    · rw [hworker] at hunloaded
      cases hunloaded
  | reply hworker hslot =>
    refine h.of_worker (fun _ _ => rfl) fun hunloaded => ?_
    rw [hworker] at hunloaded
    exact hunloaded.elim
  | leave hworker hclosed =>
    refine h.of_worker (fun _ hopen => ?_) fun hunloaded => ⟨hunloaded.slot_eq, hclosed⟩
    rw [hclosed] at hopen
    cases hopen
  | unwind hworker =>
    refine h.of_worker (fun hloaded _ => ?_) fun hunloaded => hunloaded.slot_eq
    rw [hworker] at hloaded
    exact hloaded

/-- **Every step keeps at most one batch under way.** -/
theorem Sound.step (h : s.Sound) (hstep : Step inner s s') : s'.Sound :=
  hstep.elim h.produces h.works

/-- Is the answer to a batch due? -/
def due (s : Handoff ω τ) : Bool :=
  match s.phase with
  | .idle => s.pending.isSome
  | .receiving _ | .handed _ _ => true
  | .waited _ _ | .offering _ _ | .joining _ => false

/-- When an answer is due, a batch is under way. -/
theorem Sound.loaded_of_due (h : s.Sound) (hdue : s.due = true) : s.worker.Loaded s.slot ∧ s.closed = false := by
  unfold Sound at h
  unfold due at hdue
  split at h
  · next hphase =>
    rw [hphase] at hdue
    rw [if_pos hdue] at h
    exact h
  · exact h.2
  · next hphase => rw [hphase] at hdue; cases hdue
  · next hphase => rw [hphase] at hdue; cases hdue
  · exact ⟨h.2.1, h.2.2.1⟩
  · next hphase => rw [hphase] at hdue; cases hdue

/-- When no answer is due, nothing is under way. -/
theorem Sound.unloaded_of_due (h : s.Sound) (hdue : s.due = false) : s.worker.Unloaded s.closed s.slot := by
  unfold Sound at h
  unfold due at hdue
  split at h
  · next hphase =>
    rw [hphase] at hdue
    rw [if_neg (Bool.eq_false_iff.mp hdue)] at h
    exact h
  · next hphase => rw [hphase] at hdue; cases hdue
  · exact h.2.1
  · exact h.2.1
  · next hphase => rw [hphase] at hdue; cases hdue
  · exact h.2.1

theorem Sound.due_of_pending (h : s.Sound) (hpending : s.pending.isSome) : s.due = true := by
  unfold Sound at h
  unfold due
  split at h
  · next hphase => rw [hphase]; exact hpending
  all_goals
    rw [h.1] at hpending
    cases hpending

/-- Once the channel has been let go, nothing is under way. -/
theorem Sound.unloaded_of_closed (h : s.Sound) (hclosed : s.closed = true) : s.worker.Unloaded s.closed s.slot := by
  refine h.unloaded_of_due (Bool.eq_false_iff.mpr fun hdue => ?_)
  rw [(h.loaded_of_due hdue).2] at hclosed
  cases hclosed

/-- **One batch is under way while an answer is due and the worker is alive**, and otherwise none is. -/
theorem Sound.load_add_slot (h : s.Sound) : s.worker.load + s.slot.toList.length =
    if s.due = true ∧ s.worker.holdsSlot = true then 1 else 0 := by
  cases hdue : s.due with
  | true =>
    have hloaded := (h.loaded_of_due hdue).1
    cases hworker : s.worker with
    | ready w =>
      rw [hworker] at hloaded
      obtain ⟨r, hr⟩ := Option.isSome_iff_exists.mp hloaded
      rw [hr]
      rfl
    | finished w => rw [hworker] at hloaded; cases hloaded
    | _ =>
      rw [hworker] at hloaded
      rw [show s.slot = none from hloaded]
      rfl
  | false =>
    have hunloaded := h.unloaded_of_due hdue
    rw [hunloaded.slot_eq]
    cases hworker : s.worker with
    | holding w b => rw [hworker] at hunloaded; cases hunloaded
    | replying w r => rw [hworker] at hunloaded; cases hunloaded
    | _ => rfl

end Handoff

end BulkLoad
