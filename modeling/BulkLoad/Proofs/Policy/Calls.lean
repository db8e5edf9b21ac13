import BulkLoad.Journal
import BulkLoad.Proofs.Insert.Outcome
import BulkLoad.Proofs.Policy.Compatible

/-!
# The calls of policies

A policy adds calls of certain kinds only to a journal (`Journaled.Only`): it is acquired with switches of the mode
(`only_acquire`), it settles with commits (`only_settle`), and it is closed with calls for transaction control
(`only_close`).

While a policy is in use it stays of the kind that the options ask for, and is not closed (`mode_of_acquire`,
`kind_settle`).
-/

namespace BulkLoad

open List

/-! ## Kinds -/

/-- Does the call control the transaction of the connection? -/
def TargetCall.isControl : TargetCall → Bool
  | .setAutocommit _ | .commit | .rollback => true
  | .openChannel | .send _ _ | .closeChannel => false

/-- Does the call switch the mode of the connection? -/
def TargetCall.isSwitch : TargetCall → Bool
  | .setAutocommit _ => true
  | _ => false

theorem TargetCall.ne_rollback_of_isSwitch {c : TargetCall} (h : c.isSwitch = true) : c ≠ .rollback := by
  rintro rfl
  cases h

/-- The mode of a policy, whatever it has committed so far. -/
def PolicyMode.kind : PolicyMode → PolicyMode
  | .perBatch _ => .perBatch 0
  | mode => mode

@[simp] theorem PolicyMode.kind_eq_autocommit {mode : PolicyMode} : mode.kind = .autocommit ↔ mode = .autocommit := by
  cases mode <;> simp [kind]

@[simp] theorem PolicyMode.kind_eq_longTransaction {mode : PolicyMode} {commitOnClose : Bool} :
    mode.kind = .longTransaction commitOnClose ↔ mode = .longTransaction commitOnClose := by
  cases mode <;> simp [kind]

theorem Options.kind_policyMode (o : Options) : o.policyMode.kind = o.policyMode := by
  unfold policyMode
  split
  · rfl
  · split <;> rfl

namespace Journaled

variable {τ κ α β : Type} [Target τ κ] {ok : TargetCall → Prop} {t : Journaled τ}

omit [Target τ κ] in
/-- A call that is passed on is the next one of the journal. -/
theorem out_record (call : TargetCall) (answer : α → Answer) (x : Act τ α) (t : Journaled τ) :
    (record call answer x).out t =
      ((x.out t.target).1, ⟨(x.out t.target).2, t.made ++ [⟨call, answer (x.out t.target).1⟩]⟩) := rfl

/-- The operation adds only calls of the given kind. -/
def Only (ok : TargetCall → Prop) (x : Act (Journaled τ) α) : Prop :=
  ∀ t, ∃ ms, (x.out t).2.made = t.made ++ ms ∧ ∀ m ∈ ms, ok m.call

theorem only_pure (a : α) : Only ok (pure a : Act (Journaled τ) α) := fun _ => ⟨[], (append_nil _).symm, forall_mem_nil _⟩

theorem only_note (line : LogLine) : Only ok (Act.note line : Act (Journaled τ) Unit) := fun _ =>
  ⟨[], (append_nil _).symm, forall_mem_nil _⟩

theorem only_ask (f : Journaled τ → α) : Only ok (Act.ask f) := fun _ => ⟨[], (append_nil _).symm, forall_mem_nil _⟩

theorem only_record {call : TargetCall} (h : ok call) (answer : α → Answer) (x : Act τ α) :
    Only ok (record call answer x) := by
  intro t
  refine ⟨[⟨call, answer (x.out t.target).1⟩], rfl, fun m hm => ?_⟩
  rw [mem_singleton.mp hm]
  exact h

theorem only_setAutocommit {on : Bool} (h : ok (.setAutocommit on)) :
    Only ok (Target.setAutocommit on : Act (Journaled τ) _) := only_record h _ _

theorem only_commit (h : ok .commit) : Only ok (Target.commit : Act (Journaled τ) _) := only_record h _ _

theorem only_rollback (h : ok .rollback) : Only ok (Target.rollback : Act (Journaled τ) _) := only_record h _ _

theorem Only.bind {x : Act (Journaled τ) α} {f : α → Act (Journaled τ) β} (hx : Only ok x) (hf : ∀ a, Only ok (f a)) :
    Only ok (x >>= f) := by
  intro t
  obtain ⟨ms, hmade, hms⟩ := hx t
  obtain ⟨ms', hmade', hms'⟩ := hf (x.out t).1 (x.out t).2
  refine ⟨ms ++ ms', ?_, fun m hm => (mem_append.mp hm).elim (hms m) (hms' m)⟩
  rw [Act.out_bind, hmade', hmade, append_assoc]

end Journaled

/-! ## Calls of policies -/

namespace Policy

open Journaled

variable {τ κ : Type} [Target τ κ] {p : Policy}

theorem compatible_only (ok : TargetCall → Prop) :
    Compatible fun {α} (x : Act (Journaled τ) α) (_ : Act (Journaled τ) α) => Only ok x where
  pure := only_pure
  note := only_note
  mode := only_ask _
  bind := Only.bind

/-- **A policy is acquired with switches of the mode only.** -/
theorem only_acquire (o : Options) : Only (fun c => c.isSwitch) (acquire o : Act (Journaled τ) _) :=
  (compatible_only fun c => c.isSwitch).acquire (fun _ => only_setAutocommit rfl) o

theorem only_switchTo (on : Bool) : Only (fun c => c.isSwitch) (switchTo on : Act (Journaled τ) _) :=
  (compatible_only fun c => c.isSwitch).switchTo (fun _ => only_setAutocommit rfl) on

/-- **A policy settles with commits only.** -/
theorem only_settle (p : Policy) (progress : Progress) :
    Only (fun c => c = .commit) (p.settle progress : Act (Journaled τ) _) :=
  (compatible_only fun c => c = .commit).settle (only_commit rfl) p progress

/-- **A policy is closed with transaction control only.** -/
theorem only_close (p : Policy) (outcome : Outcome) :
    Only (fun c => c.isControl) (p.close outcome : Act (Journaled τ) _) :=
  (compatible_only fun c => c.isControl).close (fun _ => only_setAutocommit rfl) (only_commit rfl) (only_rollback rfl) p outcome

/-! ## The kinds of policies in use -/

variable {o : Options} {t t' : τ}

/-- A policy remembers the mode that it has found, and is as the options ask for. -/
theorem mode_of_acquire (h : (acquire o).out t = (.ok p, t')) :
    p.previous = Target.autocommit t ∧ p.mode = o.policyMode := by
  rw [eq_of_acquire h]
  exact ⟨rfl, rfl⟩

/-- Settling changes neither the kind of a policy nor the mode that it remembers, and does not close it. -/
theorem kind_settle (p : Policy) (progress : Progress) (t : τ) :
    ((p.settle progress).out t).1.2.mode.kind = p.mode.kind ∧
      ((p.settle progress).out t).1.2.previous = p.previous ∧
      ((p.settle progress).out t).1.2.settled = p.settled := by
  cases hmode : p.mode with
  | autocommit =>
    rw [out_settle_autocommit hmode]
    exact ⟨congrArg PolicyMode.kind hmode, rfl, rfl⟩
  | perBatch k =>
    rw [out_settle_perBatch hmode]
    split
    · exact ⟨congrArg PolicyMode.kind hmode, rfl, rfl⟩
    · rcases (Target.commit : Act τ _).out t with ⟨e | _, t'⟩
      · exact ⟨congrArg PolicyMode.kind hmode, rfl, rfl⟩
      · exact ⟨rfl, rfl, rfl⟩
  | longTransaction commitOnClose =>
    simp only [Act.out, settle_of_long hmode]
    exact ⟨congrArg PolicyMode.kind hmode, rfl, rfl⟩

end Policy

end BulkLoad
