import BulkLoad.Policy

/-!
# Policies piece by piece

What is true of the calls for transaction control, and is kept when operations are put together, is true of policies: of
acquiring one (`Compatible.acquire`), settling (`Compatible.settle`) and closing it (`Compatible.close`). The statements
are about operations on two targets, which may be one and the same.
-/

namespace BulkLoad

/-- A relation between operations on two targets that is kept when operations are put together. The targets look the
same to an operation that asks for the mode. -/
structure Compatible {σ σ' κ κ' : Type} [Target σ κ] [Target σ' κ'] (C : ∀ {α : Type}, Act σ α → Act σ' α → Prop) :
    Prop where
  pure : ∀ {α : Type} (a : α), C (pure a) (pure a)
  note : ∀ line : LogLine, C (Act.note line) (Act.note line)
  mode : C (Act.ask Target.autocommit) (Act.ask Target.autocommit)
  bind : ∀ {α β : Type} {x : Act σ α} {x' : Act σ' α} {f : α → Act σ β} {f' : α → Act σ' β},
    C x x' → (∀ a, C (f a) (f' a)) → C (x >>= f) (x' >>= f')

namespace Compatible

variable {σ σ' κ κ' : Type} [Target σ κ] [Target σ' κ'] {C : ∀ {α : Type}, Act σ α → Act σ' α → Prop}

section Switches

variable (h : Compatible C) (hswitch : ∀ on, C (Target.setAutocommit on) (Target.setAutocommit on))

include h hswitch

theorem switch (on : Bool) : C (Policy.switch on) (Policy.switch on) := h.bind (hswitch on) fun _ => h.pure _

theorem switchTo (on : Bool) : C (Policy.switchTo on) (Policy.switchTo on) := by
  refine h.bind h.mode fun mode => ?_
  split
  · exact h.pure _
  · exact h.switch hswitch on

/-- **Acquiring a policy** is put together from switches of the mode. -/
theorem acquire (o : Options) : C (Policy.acquire o) (Policy.acquire o) := by
  unfold Policy.acquire
  split
  · exact h.bind h.mode fun _ => h.bind (h.switchTo hswitch false) fun _ => h.pure _
  · refine h.bind h.mode fun _ => h.bind (h.switchTo hswitch true) fun r => ?_
    split
    · exact h.pure _
    · split
      · exact h.bind (h.switch hswitch false) fun _ => h.pure _
      · exact h.pure _

theorem restoreLong (p : Policy) : C p.restoreLong p.restoreLong := by
  unfold Policy.restoreLong
  split
  · exact h.switch hswitch true
  · exact h.pure _

/-- **Closing a policy** is put together from transaction control. -/
theorem close (hcommit : C Target.commit Target.commit) (hrollback : C Target.rollback Target.rollback) (p : Policy)
    (outcome : Outcome) : C (p.close outcome) (p.close outcome) := by
  rw [Policy.close_eq, Policy.close_eq]
  unfold Policy.conclude
  split
  · unfold Policy.closeLong
    split
    · refine h.bind (h.note _) fun _ => h.bind hrollback fun r => ?_
      split
      · exact h.pure _
      · exact h.restoreLong hswitch p
    · split
      · refine h.bind (h.note _) fun _ => h.bind hcommit fun r => ?_
        split
        · exact h.restoreLong hswitch p
        · refine h.bind hrollback fun rb => ?_
          split
          · exact h.bind (h.note _) fun _ => h.bind (h.restoreLong hswitch p) fun _ => h.pure _
          · exact h.bind (h.restoreLong hswitch p) fun _ => h.pure _
      · exact h.bind (h.note _) fun _ => h.pure _
  · unfold Policy.closeEach
    refine h.bind (h.note _) fun _ => ?_
    split
    · refine h.bind (h.note _) fun _ => h.bind hrollback fun r => ?_
      split
      · exact h.switchTo hswitch p.previous
      · exact h.bind (h.switchTo hswitch p.previous) fun _ => h.pure _
    · exact h.switchTo hswitch p.previous

end Switches

/-- **Settling** is a commit at most. -/
theorem settle (h : Compatible C) (hcommit : C Target.commit Target.commit) (p : Policy) (progress : Progress) :
    C (p.settle progress) (p.settle progress) := by
  unfold Policy.settle
  simp only
  split
  · split
    · exact h.pure _
    · refine h.bind (h.note _) fun _ => h.bind hcommit fun r => ?_
      split <;> exact h.pure _
  · exact h.pure _

end Compatible

end BulkLoad
