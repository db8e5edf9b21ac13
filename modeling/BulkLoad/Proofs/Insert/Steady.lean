import BulkLoad.Database.Basic
import BulkLoad.Journal
import BulkLoad.Proofs.Insert.Outcome
import BulkLoad.Proofs.Policy.Compatible
import BulkLoad.Scripted

/-!
# Steady targets and their calls

A property of the states of a target is steady when every call keeps it and no channel breaks down under it (`Steady`).
Whatever a policy or a channel writer does then keeps the property as well (`Steady.settle`, `Steady.acquire`,
`Steady.write`). For a policy it is enough that the calls for transaction control keep the property (`Controlled`). A
connection to a database is steady by itself (`steady_client`), and a scripted target is as long as its script has no
crash (`steady_scripted`).

To speak about the calls that a target gets, it is wrapped with a record of them (`Traced`). Recording does not change
what the target does, so that a steady property stays steady (`Steady.traced`).
-/

namespace BulkLoad

/-- A property of the states of a target that every call keeps, and under which no channel breaks down. -/
structure Steady {τ κ : Type} [Target τ κ] (P : τ → Prop) : Prop where
  setAutocommit : ∀ (on : Bool) {t : τ}, P t → P ((Target.setAutocommit on).out t).2
  commit : ∀ {t : τ}, P t → P ((Target.commit).out t).2
  rollback : ∀ {t : τ}, P t → P ((Target.rollback).out t).2
  openChannel : ∀ {t : τ}, P t → P ((@Target.openChannel τ κ _).out t).2
  send : ∀ (channel : κ) (header : String) (payload : Bytes) {t : τ}, P t →
    P ((Target.send channel header payload).out t).2
  closeChannel : ∀ (channel : κ) {t : τ}, P t → P ((Target.closeChannel channel).out t).2
  answers : ∀ (channel : κ) (header : String) (payload : Bytes) {t : τ}, P t →
    ((Target.send channel header payload).out t).1 ≠ .crashed

/-! ## What policies keep -/

/-- A property of the states of a target that the calls for transaction control keep. -/
structure Controlled {τ κ : Type} [Target τ κ] (P : τ → Prop) : Prop where
  setAutocommit : ∀ (on : Bool) {t : τ}, P t → P ((Target.setAutocommit on).out t).2
  commit : ∀ {t : τ}, P t → P ((Target.commit).out t).2
  rollback : ∀ {t : τ}, P t → P ((Target.rollback).out t).2

namespace Controlled

variable {τ κ : Type} [Target τ κ] {P : τ → Prop} {t : τ}

/-- A property that is kept by operations is kept when they are put together. -/
theorem compatible (P : τ → Prop) :
    Compatible fun {α} (x : Act τ α) (_ : Act τ α) => ∀ {t : τ}, P t → P (x.out t).2 where
  pure _ _ ht := ht
  note _ _ ht := ht
  mode ht := ht
  bind hx hf _ ht := hf _ (hx ht)

theorem settle (hP : Controlled P) (p : Policy) (progress : Progress) (ht : P t) : P ((p.settle progress).out t).2 :=
  (compatible P).settle hP.commit p progress ht

theorem acquire (hP : Controlled P) (o : Options) (ht : P t) : P ((Policy.acquire o).out t).2 :=
  (compatible P).acquire hP.setAutocommit o ht

theorem close (hP : Controlled P) (p : Policy) (outcome : Outcome) (ht : P t) : P ((p.close outcome).out t).2 :=
  (compatible P).close hP.setAutocommit hP.commit hP.rollback p outcome ht

end Controlled

namespace Steady

variable {τ κ : Type} [Target τ κ] {P : τ → Prop} {t : τ}

theorem controlled (hP : Steady P) : Controlled P where
  setAutocommit := hP.setAutocommit
  commit := hP.commit
  rollback := hP.rollback

theorem settle (hP : Steady P) (p : Policy) (progress : Progress) (ht : P t) : P ((p.settle progress).out t).2 :=
  hP.controlled.settle p progress ht

theorem acquire (hP : Steady P) (o : Options) (ht : P t) : P ((Policy.acquire o).out t).2 :=
  hP.controlled.acquire o ht

/-- A batch is written or refused, in which case the writer stays as it is; the writer does not break down. -/
theorem write (hP : Steady P) (b : Batch) (w : ChannelWriter κ) (ht : P t) :
    ∃ t', P t' ∧ ((∃ w', (w.write b).out t = ((.written, w'), t')) ∨
      ∃ source, (w.write b).out t = ((.failed (w.rejected b source), w), t')) := by
  by_cases hb : b.isEmpty = true
  · exact ⟨t, ht, Or.inl ⟨w, by rw [ChannelWriter.out_write, if_pos hb]⟩⟩
  have hs := hP.send w.channel w.header b.bytes ht
  have hne := hP.answers w.channel w.header b.bytes ht
  rw [ChannelWriter.out_write, if_neg hb]
  revert hs hne
  rcases (Target.send w.channel w.header b.bytes).out t with ⟨a | e | _, t'⟩
  · intro hs _
    refine ⟨t', hs, ?_⟩
    simp only
    split
    · exact Or.inl ⟨_, rfl⟩
    · exact Or.inr ⟨_, rfl⟩
  · intro hs _
    exact ⟨t', hs, Or.inr ⟨e, rfl⟩⟩
  · intro _ hne
    exact absurd rfl hne

end Steady

/-- A connection to a database answers every statement. -/
theorem steady_client : Steady fun _ : Client => True where
  setAutocommit _ _ _ := trivial
  commit _ := trivial
  rollback _ := trivial
  openChannel _ := trivial
  send _ _ _ _ _ := trivial
  closeChannel _ _ _ := trivial
  answers channel header payload c _ := by
    show Client.sendResult (Database.send channel header payload c.database).value ≠ .crashed
    cases (Database.send channel header payload c.database).value <;> exact nofun

/-! ## Scripts without a crash -/

namespace Scripted

variable {t : Scripted}

theorem script_control {name : String} {call : Call} {isKind : Call → Bool} {failing : List Nat}
    {run : Scripted → Scripted} (hrun : ∀ t, (run t).script = t.script) (t : Scripted) :
    (t.control name call isKind failing run).state.script = t.script := by
  unfold control
  simp only
  split
  · rfl
  · exact hrun _

theorem steady_scripted : Steady fun t : Scripted => SendScript.crash ∉ t.script.sends where
  setAutocommit on t ht := by
    show _ ∉ (t.control "set_autocommit" _ _ _ _).state.script.sends
    rw [script_control]
    · exact ht
    · exact fun _ => rfl
  commit {t} ht := by
    show _ ∉ (t.control "commit" _ _ _ _).state.script.sends
    rw [script_control]
    · exact ht
    · exact fun _ => rfl
  rollback {t} ht := by
    show _ ∉ (t.control "rollback" _ _ _ _).state.script.sends
    rw [script_control]
    · exact ht
    · exact fun _ => rfl
  openChannel {t} ht := by
    show _ ∉ (openChannel t).state.script.sends
    unfold openChannel
    split <;> exact ht
  send _ _ _ _ ht := ht
  closeChannel _ t ht := by
    show _ ∉ (closeChannel t).state.script.sends
    unfold closeChannel
    split <;> exact ht
  answers _ _ payload t ht := by
    show sendResult ((t.script.sends[t.sent.length]?).getD (.ack none none)) payload ≠ .crashed
    cases h : t.script.sends[t.sent.length]? with
    | none => exact nofun
    | some script =>
      cases script with
      | ack _ _ => exact nofun
      | refuse _ => exact nofun
      | crash => exact absurd (List.mem_of_getElem? h) ht

end Scripted

/-! ## Recording the calls -/

/-- A target and the calls it has got so far, in their order. -/
structure Traced (τ : Type) where
  target : τ
  calls : List TargetCall := []

namespace Traced

variable {τ κ α : Type} [Target τ κ]

/-- Records a call and passes it on. -/
def record (call : TargetCall) (x : Act τ α) : Act (Traced τ) α := fun t =>
  let e := x t.target
  ⟨e.value, ⟨e.state, t.calls ++ [call]⟩, e.log⟩

instance : Target (Traced τ) κ where
  format t := Target.format t.target
  autocommit t := Target.autocommit t.target
  setAutocommit on := record (.setAutocommit on) (Target.setAutocommit on)
  commit := record .commit Target.commit
  rollback := record .rollback Target.rollback
  openChannel := record .openChannel Target.openChannel
  send channel header payload := record (.send header payload) (Target.send channel header payload)
  closeChannel channel := record .closeChannel (Target.closeChannel channel)

end Traced

/-- Recording the calls of a target changes nothing in what it does. -/
theorem Steady.traced {τ κ : Type} [Target τ κ] {P : τ → Prop} (hP : Steady P) :
    Steady fun t : Traced τ => P t.target where
  setAutocommit on _ ht := hP.setAutocommit on ht
  commit ht := hP.commit ht
  rollback ht := hP.rollback ht
  openChannel ht := hP.openChannel ht
  send channel header payload _ ht := hP.send channel header payload ht
  closeChannel channel _ ht := hP.closeChannel channel ht
  answers channel header payload _ ht := hP.answers channel header payload ht

end BulkLoad
