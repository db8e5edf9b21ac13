import BulkLoad.Proofs.Policy.Calls
import BulkLoad.Scripted

/-!
# What follows a failed rollback

A policy is acquired, used for a while (`Policy.Use`) and then closed or dropped (`Policy.End`), which is its life
(`Policy.live`). Only its end can roll back, and it does so at most once. When that fails, the policy commits nothing any
more, but two of its four ends give the connection its old mode back nevertheless (`Policy.after_finish`). Where this
switches autocommit on, the database commits what should have been rolled back.

`calls_after_failed_rollback`: what a policy calls after a rollback that has failed.
-/

namespace BulkLoad

open List

/-! ## The life of a policy -/

namespace Policy

/-- What is done with a policy before its end. -/
inductive Use
  | observe (progress : Progress)
  | settle (progress : Progress)

/-- How a policy ends. -/
inductive End
  | closed (outcome : Outcome)
  /-- It is given up without being closed. -/
  | dropped
deriving DecidableEq

section Life

variable {τ κ : Type} [Target τ κ]

/-- Uses a policy once. Whether it can settle makes no difference for what comes next. -/
def use (p : Policy) : Use → Act τ Policy
  | .observe progress => pure (p.observe progress)
  | .settle progress => do
    let (_, p) ← p.settle progress
    pure p

/-- Uses a policy for a while. -/
def uses (p : Policy) : List Use → Act τ Policy
  | [] => pure p
  | u :: us => do
    let p ← p.use u
    p.uses us

/-- Ends a policy. -/
def finish (p : Policy) : End → Act τ Unit
  | .closed outcome => do
    let _ ← p.close outcome
    pure ()
  | .dropped => p.drop

/-- The life of a policy. There is none if it cannot be acquired. -/
def live (o : Options) (us : List Use) (ending : End) : Act τ Unit := do
  match ← acquire o with
  | .error _ => pure ()
  | .ok p =>
    let p ← p.uses us
    p.finish ending

end Life

end Policy

/-- The connection changes its mode only when it is switched. -/
structure KeepsMode (τ : Type) {κ : Type} [Target τ κ] : Prop where
  switched : ∀ {on : Bool} {t t' : τ}, (Target.setAutocommit on).out t = (.ok (), t') → Target.autocommit t' = on
  commit : ∀ t : τ, Target.autocommit ((Target.commit).out t).2 = Target.autocommit t
  rollback : ∀ t : τ, Target.autocommit ((Target.rollback).out t).2 = Target.autocommit t

theorem KeepsMode.journaled {τ κ : Type} [Target τ κ] (h : KeepsMode τ) : KeepsMode (Journaled τ) where
  switched hout := by
    have hanswer := congrArg Prod.fst hout
    have htarget := congrArg (fun out => out.2.target) hout
    exact h.switched (Prod.ext hanswer htarget)
  commit t := h.commit t.target
  rollback t := h.rollback t.target

/-! ## Failed rollbacks in a journal -/

section Splits

variable {xs ys pre post : List Made} {a b : Answer}

/-- A rollback is not among the calls that are none. -/
theorem split_of_append (h : xs ++ ys = pre ++ ⟨.rollback, b⟩ :: post) (hxs : ∀ m ∈ xs, m.call ≠ .rollback) :
    ∃ pre', pre = xs ++ pre' ∧ ys = pre' ++ ⟨.rollback, b⟩ :: post := by
  rcases append_eq_append_iff.mp h with ⟨mid, hpre, hys⟩ | ⟨mid, hxs', hpost⟩
  · exact ⟨mid, hpre, hys⟩
  · cases mid with
    | nil => exact ⟨[], by simpa using hxs'.symm, by simpa using hpost.symm⟩
    | cons m mid =>
      obtain ⟨rfl, -⟩ := cons.inj hpost
      exact absurd rfl (hxs ⟨.rollback, b⟩ (by simp [hxs']))

theorem not_rolledBack (hxs : ∀ m ∈ xs, m.call ≠ .rollback) : xs ≠ pre ++ ⟨.rollback, b⟩ :: post := by
  rintro rfl
  exact hxs ⟨.rollback, b⟩ (by simp) rfl

/-- Behind a rollback there is no other one. -/
theorem split_of_rollback (h : ⟨.rollback, a⟩ :: ys = pre ++ ⟨.rollback, b⟩ :: post)
    (hys : ∀ m ∈ ys, m.call ≠ .rollback) : a = b ∧ post = ys := by
  cases pre with
  | nil =>
    obtain ⟨hm, rfl⟩ := cons.inj h
    exact ⟨(Made.mk.inj hm).2, rfl⟩
  | cons m pre => exact absurd (cons.inj h).2 (not_rolledBack hys)

end Splits

namespace Policy

open Journaled

variable {τ κ : Type} [Target τ κ] {p : Policy}

/-! ## The end of a policy -/

theorem made_switchTo (on : Bool) (t : Journaled τ) : ((switchTo on).out t).2.made = t.made ++
    if Target.autocommit t = on then [] else [⟨.setAutocommit on, .of ((Target.setAutocommit on).out t.target).1⟩] := by
  unfold switchTo
  rw [Act.out_bind, Act.out_ask]
  by_cases hmode : Target.autocommit t = on
  · simp only [if_pos hmode, append_nil]
    rfl
  · simp only [if_neg hmode]
    rfl

theorem made_restoreLong (p : Policy) (t : Journaled τ) : (p.restoreLong.out t).2.made = t.made ++
    if p.previous then [⟨.setAutocommit true, .of ((Target.setAutocommit true).out t.target).1⟩] else [] := by
  unfold restoreLong
  split
  · rfl
  · exact (append_nil _).symm

/-- The end at which a policy gives the connection its mode back although the rollback has failed. -/
def restoringEnd : PolicyMode → Option End
  | .autocommit => none
  | .perBatch _ => some (.closed .failure)
  | .longTransaction _ => some (.closed .success)

/-- What a policy that ends on a connection calls after a failed rollback: nothing, or a switch to the old mode. -/
structure Follows (p : Policy) (last : End) (t : Journaled τ) (post : List Made) : Prop where
  calls : post = [] ∨ ∃ a, post = [⟨.setAutocommit p.previous, a⟩]
  restores : post ≠ [] → restoringEnd p.mode = some last
  /-- A policy with a transaction for each batch has switched autocommit off. -/
  exactly : KeepsMode τ → (p.mode.kind = .perBatch 0 → Target.autocommit t = false) →
    (post ≠ [] ↔ p.previous = true ∧ restoringEnd p.mode = some last)

variable {last : End} {t t' : Journaled τ} {pre post : List Made} {a b : Answer}

theorem follows_nil (h : restoringEnd p.mode ≠ some last) : p.Follows last t [] :=
  ⟨Or.inl rfl, absurd rfl, fun _ _ => ⟨absurd rfl, fun hr => absurd hr.2 h⟩⟩

theorem made_rollback (t : Journaled τ) : ((Target.rollback).out t).2.made =
    t.made ++ [⟨.rollback, .of ((Target.rollback).out t).1⟩] := rfl

/-- Giving a policy up rolls back, unless it has been closed or leaves commits to the database. -/
theorem made_drop (p : Policy) (t : Journaled τ) : (p.drop.out t).2.made = t.made ++
    if p.settled = true ∨ p.mode = .autocommit then [] else [⟨.rollback, .of ((Target.rollback).out t).1⟩] := by
  have habandon (what : String) : ((abandon what).out t).2.made =
      t.made ++ [⟨.rollback, .of ((Target.rollback).out t).1⟩] := by
    rw [← made_rollback]
    unfold abandon
    rw [Act.out_bind, Act.out_note, Act.out_bind]
    rcases (Target.rollback).out t with ⟨_ | _, t'⟩ <;> rfl
  by_cases hsettled : p.settled = true
  · rw [drop_of_settled hsettled, if_pos (Or.inl hsettled)]
    exact (append_nil _).symm
  unfold drop
  rw [if_neg hsettled]
  cases p.mode with
  | autocommit =>
    rw [if_pos (Or.inr rfl)]
    exact (append_nil _).symm
  | perBatch k =>
    rw [if_neg (by simp [hsettled])]
    exact habandon _
  | longTransaction commitOnClose =>
    rw [if_neg (by simp [hsettled])]
    exact habandon _

/-- A policy with a transaction for each batch that has failed rolls back and switches to the old mode. -/
theorem follows_perBatch {k : Nat} (hmode : p.mode = .perBatch k)
    (h : ((p.close .failure).out t).2.made = t.made ++ (pre ++ ⟨.rollback, b⟩ :: post)) :
    p.Follows (.closed .failure) t post := by
  obtain ⟨u, hu⟩ : ∃ u, u = ((Target.rollback).out t).2 := ⟨_, rfl⟩
  have hclose : ((p.close .failure).out t).2 = ((switchTo p.previous).out u).2 := by
    rw [out_close_perBatch hmode, hu]
    rcases (Target.rollback).out t with ⟨_ | _, t'⟩ <;> rfl
  have hauto : KeepsMode τ → Target.autocommit u = Target.autocommit t := fun hkeeps => hu ▸ hkeeps.rollback t.target
  rw [hclose, made_switchTo, hu, made_rollback, append_assoc, ← hu] at h
  obtain ⟨-, hpost⟩ := split_of_rollback (append_cancel_left h) (by split <;> simp)
  have hend : restoringEnd p.mode = some (.closed .failure) := by rw [hmode]; rfl
  refine ⟨?_, fun _ => hend, fun hkeeps hoff => ?_⟩
  · rw [hpost]
    split
    · exact Or.inl rfl
    · exact Or.inr ⟨_, rfl⟩
  · rw [hauto hkeeps, hoff (by rw [hmode]; rfl)] at hpost
    rw [hpost, hend]
    cases p.previous <;> simp

/-- A long transaction whose commit fails rolls back, and switches to the old mode in any case. -/
theorem follows_long (hmode : p.mode = .longTransaction true)
    (h : ((p.close .success).out t).2.made = t.made ++ (pre ++ ⟨.rollback, b⟩ :: post)) :
    p.Follows (.closed .success) t post := by
  rw [out_close_commit hmode] at h
  have hcommit : ((Target.commit).out t).2.made = t.made ++ [⟨.commit, .of ((Target.commit).out t.target).1⟩] := rfl
  rcases hout : (Target.commit).out t with ⟨e | _, u⟩
  · rw [hout] at h hcommit
    simp only at h hcommit
    rw [made_restoreLong, made_rollback, hcommit, append_assoc, append_assoc] at h
    obtain ⟨_, -, h⟩ := split_of_append (append_cancel_left h) (by simp)
    obtain ⟨-, hpost⟩ := split_of_rollback h (by split <;> simp)
    have hend : restoringEnd p.mode = some (.closed .success) := by rw [hmode]; rfl
    refine ⟨?_, fun _ => hend, fun _ _ => ?_⟩
    · rw [hpost]
      cases hprevious : p.previous with
      | true => exact Or.inr ⟨_, rfl⟩
      | false => exact Or.inl rfl
    · rw [hpost, hend]
      cases p.previous <;> simp
  · rw [hout] at h hcommit
    simp only at h hcommit
    rw [made_restoreLong, hcommit, append_assoc] at h
    exact absurd (append_cancel_left h) (not_rolledBack (by split <;> simp))

/-- **After a failed rollback a policy can only switch to the old mode.** -/
theorem after_finish {e : DriverError}
    (h : ((p.finish last).out t).2.made = t.made ++ (pre ++ ⟨.rollback, .failed e⟩ :: post)) :
    p.Follows last t post := by
  have hswitchTo (u : Journaled τ) : ((switchTo p.previous).out u).2.made ≠
      u.made ++ (pre ++ ⟨.rollback, .failed e⟩ :: post) := by
    obtain ⟨ms, hmade, hms⟩ := only_switchTo p.previous u
    rw [hmade]
    exact fun h => not_rolledBack (fun m hm => TargetCall.ne_rollback_of_isSwitch (hms m hm)) (append_cancel_left h)
  cases last with
  | dropped =>
    change (p.drop.out t).2.made = _ at h
    rw [made_drop] at h
    split at h
    · exact absurd (append_cancel_left h) (not_rolledBack (forall_mem_nil _))
    · obtain ⟨-, rfl⟩ := split_of_rollback (append_cancel_left h) (forall_mem_nil _)
      exact follows_nil (by cases p.mode <;> nofun)
  | closed outcome =>
    change ((p.close outcome).out t).2.made = _ at h
    cases hmode : p.mode with
    | autocommit =>
      rw [out_close_autocommit hmode] at h
      exact absurd h (hswitchTo t)
    | perBatch k =>
      cases outcome with
      | success =>
        rw [out_close_success (by rw [hmode]; rfl)] at h
        exact absurd h (hswitchTo t)
      | failure => exact follows_perBatch hmode h
    | longTransaction commitOnClose =>
      cases outcome with
      | failure =>
        rw [out_close_failure hmode] at h
        have hroll := made_rollback t
        rcases hout : (Target.rollback).out t with ⟨e' | _, u⟩
        · rw [hout] at h hroll
          simp only at h hroll
          rw [hroll] at h
          obtain ⟨-, rfl⟩ := split_of_rollback (append_cancel_left h) (forall_mem_nil _)
          exact follows_nil (by rw [hmode]; nofun)
        · rw [hout] at h hroll
          simp only at h hroll
          rw [made_restoreLong, hroll, append_assoc] at h
          obtain ⟨hanswer, -⟩ := split_of_rollback (append_cancel_left h) (by split <;> simp)
          cases hanswer
      | success =>
        cases commitOnClose with
        | false =>
          rw [out_close_open hmode] at h
          exact absurd (append_cancel_left ((append_nil _).trans h)) (not_rolledBack (forall_mem_nil _))
        | true => exact follows_long hmode h

/-! ## Whole lives -/

theorem only_finish (p : Policy) (last : End) : Only (fun c => c.isControl) (p.finish last : Act (Journaled τ) _) := by
  cases last with
  | closed outcome => exact (only_close p outcome).bind fun _ => only_pure _
  | dropped =>
    intro t
    refine ⟨_, made_drop p t, ?_⟩
    split
    · exact forall_mem_nil _
    · intro m hm
      rw [mem_singleton.mp hm]
      rfl

theorem switched_of_switch (hkeeps : KeepsMode τ) {on : Bool} {r : Unit} {t t' : τ}
    (h : (switch on).out t = (.ok r, t')) : Target.autocommit t' = on := by
  have hswitch : (switch on).out t = (((Target.setAutocommit on).out t).1.mapError .transaction,
    ((Target.setAutocommit on).out t).2) := rfl
  rw [hswitch] at h
  rcases hout : (Target.setAutocommit on).out t with ⟨e | _, u⟩
  · rw [hout] at h
    cases h
  · rw [hout] at h
    cases h
    exact hkeeps.switched hout

theorem switched_of_switchTo (hkeeps : KeepsMode τ) {on : Bool} {r : Unit} {t t' : τ}
    (h : (switchTo on).out t = (.ok r, t')) : Target.autocommit t' = on := by
  unfold switchTo at h
  rw [Act.out_bind, Act.out_ask] at h
  by_cases hmode : Target.autocommit t = on
  · simp only [if_pos hmode] at h
    cases h
    exact hmode
  · simp only [if_neg hmode] at h
    exact switched_of_switch hkeeps h

/-- When a policy has been acquired, autocommit is on if the database is to commit every statement, and off otherwise. -/
theorem autocommit_of_acquire (hkeeps : KeepsMode τ) {o : Options} {t t' : τ} (h : (acquire o).out t = (.ok p, t')) :
    Target.autocommit t' = decide (p.mode = .autocommit) := by
  cases hlong : o.longTransaction with
  | true =>
    rw [out_acquire_long hlong] at h
    rcases hoff : (switchTo false).out t with ⟨e | _, t₁⟩
    · rw [hoff] at h
      cases h
    · rw [hoff] at h
      cases h
      exact switched_of_switchTo hkeeps hoff
  | false =>
    rw [out_acquire_each hlong] at h
    rcases hon : (switchTo true).out t with ⟨e | _, t₁⟩
    · rw [hon] at h
      cases h
    rw [hon] at h
    cases hchecked : o.errorOnMissingRow with
    | false =>
      simp only [hchecked, Bool.false_eq_true, if_false] at h
      cases h
      exact switched_of_switchTo hkeeps hon
    | true =>
      simp only [hchecked, if_true] at h
      rcases hoff : (switch false).out t₁ with ⟨e | _, t₂⟩
      · rw [hoff] at h
        cases h
      · rw [hoff] at h
        cases h
        exact switched_of_switch hkeeps hoff

/-- With a transaction for each batch, autocommit is off as soon as the policy has been acquired. -/
theorem off_of_acquire (hkeeps : KeepsMode τ) {o : Options} {t t' : τ} (h : (acquire o).out t = (.ok p, t'))
    (hmode : p.mode = .perBatch 0) : Target.autocommit t' = false := by
  rw [autocommit_of_acquire hkeeps h, hmode]
  rfl

theorem autocommit_settle (hkeeps : KeepsMode τ) (p : Policy) (progress : Progress) (t : τ) :
    Target.autocommit ((p.settle progress).out t).2 = Target.autocommit t := by
  cases hmode : p.mode with
  | autocommit => rw [out_settle_autocommit hmode]
  | perBatch k =>
    have hcommit := hkeeps.commit t
    rw [out_settle_perBatch hmode]
    split
    · rfl
    · rcases hout : (Target.commit).out t with ⟨e | _, t'⟩
      · rw [hout] at hcommit
        exact hcommit
      · rw [hout] at hcommit
        exact hcommit
  | longTransaction commitOnClose => simp only [Act.out, settle_of_long hmode]

/-- What stays as it is while a policy is used, and what is called. -/
structure Kept (p p' : Policy) (t t' : Journaled τ) : Prop where
  kind : p'.mode.kind = p.mode.kind
  previous : p'.previous = p.previous
  settled : p'.settled = p.settled
  made : ∃ ms, t'.made = t.made ++ ms ∧ ∀ m ∈ ms, m.call = .commit
  mode : KeepsMode τ → Target.autocommit t' = Target.autocommit t

theorem kept_use (p : Policy) (u : Use) (t : Journaled τ) : Kept p ((p.use u).out t).1 t ((p.use u).out t).2 := by
  cases u with
  | observe progress => exact ⟨rfl, rfl, rfl, ⟨[], (append_nil _).symm, forall_mem_nil _⟩, fun _ => rfl⟩
  | settle progress =>
    obtain ⟨hkind, hprevious, hsettled⟩ := kind_settle p progress t
    refine ⟨hkind, hprevious, hsettled, only_settle p progress t, fun hkeeps => ?_⟩
    exact autocommit_settle hkeeps.journaled p progress t

/-- **While a policy is used, it only commits.** -/
theorem kept_uses : ∀ (us : List Use) (p : Policy) (t : Journaled τ),
    Kept p ((p.uses us).out t).1 t ((p.uses us).out t).2
  | [], p, t => ⟨rfl, rfl, rfl, ⟨[], (append_nil _).symm, forall_mem_nil _⟩, fun _ => rfl⟩
  | u :: us, p, t => by
    have hfirst := kept_use p u t
    have hrest := kept_uses us ((p.use u).out t).1 ((p.use u).out t).2
    obtain ⟨ms, hmade, hms⟩ := hfirst.made
    obtain ⟨ms', hmade', hms'⟩ := hrest.made
    refine ⟨hrest.kind.trans hfirst.kind, hrest.previous.trans hfirst.previous,
      hrest.settled.trans hfirst.settled, ⟨ms ++ ms', ?_, ?_⟩,
      fun hkeeps => (hrest.mode hkeeps).trans (hfirst.mode hkeeps)⟩
    · rw [← append_assoc, ← hmade]
      exact hmade'
    · exact fun m hm => (mem_append.mp hm).elim (hms m) (hms' m)

theorem restoringEnd_kind (mode : PolicyMode) : restoringEnd mode.kind = restoringEnd mode := by cases mode <;> rfl

end Policy

open Policy Journaled in
/-- **After a rollback that has failed a policy never commits**, but it may switch to the mode that the connection was in
before. It does so at the end of a policy with a transaction for each batch that has failed, and at the end of a long
transaction whose commit has failed, and on a connection that was in autocommit before this switches autocommit on. -/
theorem calls_after_failed_rollback {τ κ : Type} [Target τ κ] (o : Options) (us : List Use) (last : End) (t : τ)
    {pre post : List Made} {e : DriverError}
    (h : ((live o us last).out (Journaled.mk t [])).2.made = pre ++ ⟨.rollback, .failed e⟩ :: post) :
    (post = [] ∨ ∃ a, post = [⟨.setAutocommit (Target.autocommit t), a⟩]) ∧
      (post ≠ [] → restoringEnd o.policyMode = some last) ∧
      (KeepsMode τ → (post ≠ [] ↔ Target.autocommit t = true ∧ restoringEnd o.policyMode = some last)) := by
  obtain ⟨acquiring, hmade, hacquiring⟩ := only_acquire o (Journaled.mk t [])
  rw [nil_append] at hmade
  unfold live at h
  rw [Act.out_bind] at h
  rcases hacquire : (acquire o).out (Journaled.mk t []) with ⟨_ | p, t₁⟩
  · -- A policy that cannot be acquired rolls nothing back.
    rw [hacquire] at h hmade
    exact absurd (hmade.symm.trans h) (not_rolledBack fun m hm => TargetCall.ne_rollback_of_isSwitch (hacquiring m hm))
  rw [hacquire] at h hmade
  obtain rfl : t₁.made = acquiring := hmade
  obtain ⟨hprevious, hmode⟩ := mode_of_acquire hacquire
  obtain ⟨hkind, hprevious', -, ⟨commits, hmade', hcommits⟩, hkept⟩ := kept_uses us p t₁
  change ((((p.uses us).out t₁).1.finish last).out ((p.uses us).out t₁).2).2.made = _ at h
  generalize (p.uses us).out t₁ = used at *
  obtain ⟨ending, hmade'', -⟩ := only_finish used.1 last used.2
  -- The calls before the end of the policy are no rollbacks.
  obtain ⟨pre', -, rfl⟩ : ∃ pre', pre = t₁.made ++ commits ++ pre' ∧ ending = pre' ++ ⟨.rollback, .failed e⟩ :: post := by
    rw [hmade'', hmade'] at h
    refine split_of_append h fun m hm => ?_
    rcases mem_append.mp hm with hm | hm
    · exact TargetCall.ne_rollback_of_isSwitch (hacquiring m hm)
    · rw [hcommits m hm]
      nofun
  obtain ⟨hcalls, hrestores, hexactly⟩ := after_finish hmade''
  have hend : restoringEnd used.1.mode = restoringEnd o.policyMode := by
    rw [← restoringEnd_kind, hkind, restoringEnd_kind, hmode]
  rw [hend] at hrestores hexactly
  rw [hprevious', hprevious] at hcalls hexactly
  refine ⟨hcalls, hrestores, fun hkeeps => hexactly hkeeps fun hperBatch => ?_⟩
  rw [hkept hkeeps]
  refine off_of_acquire hkeeps.journaled hacquire ?_
  rw [hkind, hmode, o.kind_policyMode] at hperBatch
  rw [hmode]
  exact hperBatch

/-! ## A target that refuses to roll back -/

namespace Scripted

/-- Other calls than switches leave the mode as it is. -/
theorem autocommit_control (name : String) (call : Call) (isKind : Call → Bool) (failing : List Nat) (t : Scripted) :
    (t.control name call isKind failing id).state.autocommit = t.autocommit := by
  unfold control
  simp only
  split <;> rfl

theorem keepsMode : KeepsMode Scripted where
  switched {on t t'} hout := by
    change ((setAutocommit on t).value, (setAutocommit on t).state) = _ at hout
    unfold setAutocommit control at hout
    simp only at hout
    split at hout
    · cases hout
    · cases hout
      rfl
  commit t := autocommit_control "commit" .commit (· == .commit) t.script.failingCommits t
  rollback t := autocommit_control "rollback" .rollback (· == .rollback) t.script.failingRollbacks t

end Scripted

/-- A target that refuses the first commit and the first rollback. -/
def stubborn : Scripted := { script := { failingCommits := [1], failingRollbacks := [1] } }

open Policy in
/-- A long transaction that cannot be committed and cannot be rolled back switches autocommit on. -/
theorem calls_after_failed_rollback_stubborn :
    let o : Options := { longTransaction := true, commitOnClose := true }
    let us : List Use := [.observe { batches := 1 }, .settle { batches := 2 }]
    let pre : List Made :=
      [⟨.setAutocommit false, .done⟩, ⟨.commit, .failed (Scripted.refusal "commit" 1)⟩]
    let post : List Made := [⟨.setAutocommit true, .done⟩]
    ((live o us (.closed .success)).out (Journaled.mk stubborn [])).2.made =
        pre ++ ⟨.rollback, .failed (Scripted.refusal "rollback" 1)⟩ :: post ∧
      (post = [] ∨ ∃ a, post = [⟨.setAutocommit stubborn.autocommit, a⟩]) ∧
      (post ≠ [] → restoringEnd o.policyMode = some (.closed .success)) ∧
      (post ≠ [] ↔ stubborn.autocommit = true ∧ restoringEnd o.policyMode = some (.closed .success)) := by
  intro o us pre post
  have hmade : ((live o us (.closed .success)).out (Journaled.mk stubborn [])).2.made =
      pre ++ ⟨.rollback, .failed (Scripted.refusal "rollback" 1)⟩ :: post := by decide +kernel
  obtain ⟨hcalls, hrestores, hexactly⟩ := calls_after_failed_rollback o us (.closed .success) stubborn hmade
  exact ⟨hmade, hcalls, hrestores, hexactly Scripted.keepsMode⟩

open Policy in
/-- The end of a policy with a transaction for each batch that has failed switches autocommit on behind a rollback that
has failed. So it is wrong that nothing is published any more. -/
theorem not_silent_after_failed_rollback :
    ¬ ∀ (o : Options) (us : List Use) (last : End) (t : Scripted) (pre post : List Made) (e : DriverError),
      ((live o us last).out (Journaled.mk t [])).2.made = pre ++ ⟨.rollback, .failed e⟩ :: post →
        ∀ m ∈ post, m.call ≠ .commit ∧ m.call ≠ .setAutocommit true := by
  intro h
  have hmade : ((live { errorOnMissingRow := true } [] (.closed .failure)).out (Journaled.mk stubborn [])).2.made =
      [⟨.setAutocommit false, .done⟩] ++ ⟨.rollback, .failed (Scripted.refusal "rollback" 1)⟩ ::
        [⟨.setAutocommit true, .done⟩] := by decide +kernel
  exact (h _ _ _ _ _ _ _ hmade _ List.mem_cons_self).2 rfl

end BulkLoad
