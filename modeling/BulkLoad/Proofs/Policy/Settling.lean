import BulkLoad.Proofs.Policy.Rollback

/-!
# How often policies settle

While a policy is used, only one with a transaction for each batch calls anything: one commit for each settling, unless
the number of batches is the one that was committed last (`Policy.Settles`, `Policy.settled_uses`). When it ends, it
commits or rolls back once, or not at all; only a long transaction whose commit fails does both (`Policy.Ends`,
`Policy.ends_finish`). Closing gives the connection its mode back (`Policy.autocommit_close`).

`policies_settle_once`: all commits and rollbacks in the life of a policy, and the mode in which it leaves the connection.
-/

namespace BulkLoad

open List

/-! ## Commits and rollbacks -/

/-- Does the call end the transaction of the connection? -/
def TargetCall.settles : TargetCall → Bool
  | .commit | .rollback => true
  | .openChannel | .send _ _ | .closeChannel | .setAutocommit _ => false

/-- The commits and rollbacks among calls, in order. -/
def settlements (ms : List Made) : List Made := ms.filter fun m => m.call.settles

theorem settlements_append (ms ms' : List Made) : settlements (ms ++ ms') = settlements ms ++ settlements ms' :=
  filter_append ..

/-- Switches of the mode neither commit nor roll back. -/
theorem settlements_of_switches {ms : List Made} (h : ∀ m ∈ ms, m.call.isSwitch = true) : settlements ms = [] := by
  refine filter_eq_nil_iff.mpr fun m hm => ?_
  have hswitch := h m hm
  cases hcall : m.call <;> rw [hcall] at hswitch <;> cases hswitch
  exact nofun

namespace Policy

open Journaled

/-- What is called when a policy of a mode is used once, and the mode behind that. A commit that fails leaves the batches
to the next settling. -/
inductive Settles : PolicyMode → Use → List Made → PolicyMode → Prop
  | observed {mode : PolicyMode} {progress : Progress} : Settles mode (.observe progress) [] mode
  | nothing {mode : PolicyMode} {progress : Progress} : mode.kind ≠ .perBatch 0 → Settles mode (.settle progress) [] mode
  | again {progress : Progress} : Settles (.perBatch progress.batches) (.settle progress) [] (.perBatch progress.batches)
  | committed {k : Nat} {progress : Progress} : progress.batches ≠ k →
      Settles (.perBatch k) (.settle progress) [⟨.commit, .done⟩] (.perBatch progress.batches)
  | refused {k : Nat} {progress : Progress} {e : DriverError} : progress.batches ≠ k →
      Settles (.perBatch k) (.settle progress) [⟨.commit, .failed e⟩] (.perBatch k)

/-- What is called when a policy is used for a while. -/
inductive SettlesAll : PolicyMode → List Use → List Made → PolicyMode → Prop
  | nil {mode : PolicyMode} : SettlesAll mode [] [] mode
  | cons {mode mode' mode'' : PolicyMode} {u : Use} {us : List Use} {ms ms' : List Made} : Settles mode u ms mode' →
      SettlesAll mode' us ms' mode'' → SettlesAll mode (u :: us) (ms ++ ms') mode''

/-- The commits and rollbacks at the end of a policy of a mode. -/
inductive Ends : PolicyMode → End → List Made → Prop
  | plain {last : End} : Ends .autocommit last []
  | perBatch {k : Nat} : Ends (.perBatch k) (.closed .success) []
  | leftOpen : Ends (.longTransaction false) (.closed .success) []
  | committed : Ends (.longTransaction true) (.closed .success) [⟨.commit, .done⟩]
  | refused {e : DriverError} {a : Answer} :
      Ends (.longTransaction true) (.closed .success) [⟨.commit, .failed e⟩, ⟨.rollback, a⟩]
  | rolledBack {mode : PolicyMode} {last : End} {a : Answer} : mode ≠ .autocommit → last ≠ .closed .success →
      Ends mode last [⟨.rollback, a⟩]

variable {τ κ : Type} [Target τ κ] {p : Policy}

/-! ## Use -/

/-- A policy keeps its kind, and calls nothing unless it has a transaction for each batch. -/
theorem SettlesAll.kind {mode mode' : PolicyMode} {us : List Use} {ms : List Made} (h : SettlesAll mode us ms mode') :
    mode'.kind = mode.kind ∧ (mode.kind ≠ .perBatch 0 → ms = []) := by
  induction h with
  | nil => exact ⟨rfl, fun _ => rfl⟩
  | @cons mode mode' mode'' u us ms ms' hfirst _ ih =>
    have hkind : mode'.kind = mode.kind ∧ (mode.kind ≠ .perBatch 0 → ms = []) := by
      cases hfirst with
      | observed | nothing | again => exact ⟨rfl, fun _ => rfl⟩
      | committed | refused => exact ⟨rfl, fun hne => absurd rfl hne⟩
    refine ⟨ih.1.trans hkind.1, fun hne => ?_⟩
    rw [hkind.2 hne, ih.2 (hkind.1 ▸ hne)]
    rfl

/-- **A policy settles with one commit for each number of batches** that is not the last committed one. -/
theorem settles_use (p : Policy) (u : Use) (t : Journaled τ) : ∃ ms, ((p.use u).out t).2.made = t.made ++ ms ∧
    Settles p.mode u ms ((p.use u).out t).1.mode := by
  cases u with
  | observe progress => exact ⟨[], (append_nil _).symm, .observed⟩
  | settle progress =>
    have huse : (p.use (.settle progress)).out t = (((p.settle progress).out t).1.2, ((p.settle progress).out t).2) := rfl
    rw [huse]
    cases hmode : p.mode with
    | autocommit =>
      rw [out_settle_autocommit hmode]
      refine ⟨[], (append_nil _).symm, ?_⟩
      rw [show (p.observe progress).mode = .autocommit from hmode]
      exact .nothing (by rintro ⟨⟩)
    | longTransaction commitOnClose =>
      simp only [Act.out, settle_of_long hmode]
      refine ⟨[], (append_nil _).symm, ?_⟩
      rw [show (p.observe progress).mode = .longTransaction commitOnClose from hmode]
      exact .nothing (by rintro ⟨⟩)
    | perBatch k =>
      rw [out_settle_perBatch hmode]
      by_cases hsame : progress.batches = k
      · rw [if_pos hsame, ← hsame]
        refine ⟨[], (append_nil _).symm, ?_⟩
        rw [show (p.observe progress).mode = .perBatch progress.batches from hsame ▸ hmode]
        exact .again
      · rw [if_neg hsame]
        have hcommit : (Target.commit : Act (Journaled τ) _).out t = _ := out_record .commit .of Target.commit t
        rw [hcommit]
        rcases (Target.commit : Act τ _).out t.target with ⟨e | _, u⟩
        · refine ⟨_, rfl, ?_⟩
          rw [show (p.observe progress).mode = .perBatch k from hmode]
          exact .refused hsame
        · exact ⟨_, rfl, .committed hsame⟩

/-- **What a policy calls while it is used.** -/
theorem settled_uses : ∀ (us : List Use) (p : Policy) (t : Journaled τ), ∃ ms,
    ((p.uses us).out t).2.made = t.made ++ ms ∧ SettlesAll p.mode us ms ((p.uses us).out t).1.mode
  | [], _, _ => ⟨[], (append_nil _).symm, .nil⟩
  | u :: us, p, t => by
    obtain ⟨ms, hmade, hfirst⟩ := settles_use p u t
    obtain ⟨ms', hmade', hrest⟩ := settled_uses us ((p.use u).out t).1 ((p.use u).out t).2
    refine ⟨ms ++ ms', ?_, .cons hfirst hrest⟩
    rw [← append_assoc, ← hmade]
    exact hmade'

/-! ## The end -/

theorem only_restoreLong (p : Policy) : Only (fun c => c.isSwitch) (p.restoreLong : Act (Journaled τ) _) :=
  (compatible_only fun c => c.isSwitch).restoreLong (fun _ => only_setAutocommit rfl) p

/-- What a policy calls when it ends. -/
def Closes (p : Policy) (last : End) (t t' : Journaled τ) : Prop :=
  ∃ ms, t'.made = t.made ++ ms ∧ Ends p.mode last (settlements ms)

/-- Switches of the mode behind calls do not count. -/
theorem closes_of_only {α : Type} {x : Act (Journaled τ) α} {last : End} {t t' : Journaled τ} {ms : List Made}
    (hx : Only (fun c => c.isSwitch) x) (hmade : t'.made = t.made ++ ms) (h : Ends p.mode last (settlements ms)) :
    p.Closes last t (x.out t').2 := by
  obtain ⟨ms', hmade', hswitches⟩ := hx t'
  refine ⟨ms ++ ms', by rw [hmade', hmade, append_assoc], ?_⟩
  rwa [settlements_append, settlements_of_switches hswitches, append_nil]

theorem closes_success_long (hmode : p.mode = .longTransaction true) (t : Journaled τ) :
    p.Closes (.closed .success) t ((p.close .success).out t).2 := by
  have hcommit : (Target.commit : Act (Journaled τ) _).out t = _ := out_record .commit .of Target.commit t
  rw [out_close_commit hmode, hcommit]
  rcases (Target.commit : Act τ _).out t.target with ⟨e | _, u⟩
  · refine closes_of_only (only_restoreLong p) ((made_rollback _).trans (append_assoc ..)) ?_
    rw [hmode]
    exact .refused
  · refine closes_of_only (only_restoreLong p) rfl ?_
    rw [hmode]
    exact .committed

theorem closes_failure (hmode : p.mode ≠ .autocommit) (t : Journaled τ) :
    p.Closes (.closed .failure) t ((p.close .failure).out t).2 := by
  have hends (a : Answer) : Ends p.mode (.closed .failure) (settlements [⟨.rollback, a⟩]) := .rolledBack hmode nofun
  have hrollback : (Target.rollback : Act (Journaled τ) _).out t = _ := out_record .rollback .of Target.rollback t
  cases hp : p.mode with
  | autocommit => exact absurd hp hmode
  | perBatch k =>
    rw [out_close_perBatch hp, hrollback]
    rcases (Target.rollback : Act τ _).out t.target with ⟨e | _, u⟩
    · exact closes_of_only (only_switchTo p.previous) rfl (hends _)
    · exact closes_of_only (only_switchTo p.previous) rfl (hends _)
  | longTransaction commitOnClose =>
    rw [out_close_failure hp, hrollback]
    rcases (Target.rollback : Act τ _).out t.target with ⟨e | _, u⟩
    · exact ⟨_, rfl, hends _⟩
    · exact closes_of_only (only_restoreLong p) rfl (hends _)

/-- **A policy that has not been closed commits or rolls back once when it ends**, or not at all, unless the commit of a
long transaction fails. -/
theorem ends_finish (hopen : p.settled = false) (last : End) (t : Journaled τ) :
    p.Closes last t ((p.finish last).out t).2 := by
  have hplain (h : ∀ last, Ends p.mode last []) : p.Closes last t ((switchTo p.previous).out t).2 :=
    closes_of_only (only_switchTo p.previous) (append_nil _).symm (h last)
  cases last with
  | dropped =>
    refine ⟨_, made_drop p t, ?_⟩
    simp only [hopen, Bool.false_eq_true, false_or]
    split
    · next hmode =>
      rw [hmode]
      exact .plain
    · next hmode => exact .rolledBack hmode nofun
  | closed outcome =>
    show p.Closes _ t ((p.close outcome).out t).2
    by_cases hmode : p.mode = .autocommit
    · rw [out_close_autocommit hmode]
      exact hplain fun last => by rw [hmode]; exact .plain
    cases outcome with
    | failure => exact closes_failure hmode t
    | success =>
      cases hp : p.mode with
      | autocommit => exact absurd hp hmode
      | perBatch k =>
        rw [out_close_success (by rw [hp]; rfl)]
        refine closes_of_only (only_switchTo p.previous) (append_nil _).symm ?_
        rw [hp]
        exact .perBatch
      | longTransaction commitOnClose =>
        cases commitOnClose with
        | true => exact closes_success_long hp t
        | false =>
          rw [out_close_open hp]
          refine ⟨[], (append_nil _).symm, ?_⟩
          rw [hp]
          exact .leftOpen

/-! ## The mode of the connection -/

/-- No rollback and no switch of the mode has failed. -/
def Restored (ms : List Made) : Prop := ∀ m ∈ ms, m.call.isSwitch = true ∨ m.call = .rollback → m.answer = .done

section Modes

variable (hkeeps : KeepsMode τ) {t : Journaled τ}

include hkeeps

theorem autocommit_switch {on : Bool} (h : Restored ((switch on).out t).2.made) :
    Target.autocommit ((switch on).out t).2 = on := by
  have hswitch : (switch on).out t =
      (((Target.setAutocommit on).out t).1.mapError .transaction, ((Target.setAutocommit on).out t).2) := rfl
  rw [hswitch] at h ⊢
  have hdone := h ⟨.setAutocommit on, .of ((Target.setAutocommit on).out t.target).1⟩ (mem_append_right _ mem_cons_self)
    (Or.inl rfl)
  rcases hout : (Target.setAutocommit on : Act τ _).out t.target with ⟨e | _, u⟩
  · rw [hout] at hdone
    cases hdone
  · show Target.autocommit ((Target.setAutocommit on : Act τ _).out t.target).2 = on
    rw [hout]
    exact hkeeps.switched hout

theorem autocommit_switchTo {on : Bool} (h : Restored ((switchTo on).out t).2.made) :
    Target.autocommit ((switchTo on).out t).2 = on := by
  unfold switchTo at h ⊢
  rw [Act.out_bind, Act.out_ask] at h ⊢
  by_cases hmode : Target.autocommit t = on
  · simp only [if_pos hmode]
    exact hmode
  · simp only [if_neg hmode] at h ⊢
    exact autocommit_switch hkeeps h

/-- A long transaction has switched autocommit off, so that only a connection that was in autocommit gets its mode back. -/
theorem autocommit_restoreLong (hoff : Target.autocommit t = false) (h : Restored (p.restoreLong.out t).2.made) :
    Target.autocommit (p.restoreLong.out t).2 = p.previous := by
  unfold restoreLong at h ⊢
  split at h
  · next hprevious =>
    rw [if_pos hprevious, hprevious]
    exact autocommit_switch hkeeps h
  · next hprevious =>
    rw [if_neg hprevious, Bool.eq_false_iff.mpr hprevious]
    exact hoff

/-- **Closing a policy gives the connection its mode back**, unless a long transaction is left open. -/
theorem autocommit_close {outcome : Outcome} (hmode : Target.autocommit t = decide (p.mode = .autocommit))
    (h : Restored ((p.close outcome).out t).2.made) : Target.autocommit ((p.close outcome).out t).2 =
      if p.mode = .longTransaction false ∧ outcome = .success then false else p.previous := by
  have hoff : p.mode ≠ .autocommit → Target.autocommit t = false := fun hne => by rw [hmode, decide_eq_false hne]
  have hrollback : Target.autocommit ((Target.rollback).out t).2 = Target.autocommit t := hkeeps.journaled.rollback t
  cases hp : p.mode with
  | autocommit =>
    rw [if_neg nofun]
    rw [out_close_autocommit hp] at h ⊢
    exact autocommit_switchTo hkeeps h
  | perBatch k =>
    rw [if_neg nofun]
    cases outcome with
    | success =>
      rw [out_close_success (by rw [hp]; rfl)] at h ⊢
      exact autocommit_switchTo hkeeps h
    | failure =>
      rw [out_close_perBatch hp] at h ⊢
      rcases hout : (Target.rollback : Act (Journaled τ) _).out t with ⟨e | _, u⟩
      · rw [hout] at h
        exact autocommit_switchTo hkeeps h
      · rw [hout] at h
        exact autocommit_switchTo hkeeps h
  | longTransaction commitOnClose =>
    have hoff := hoff (by rw [hp]; nofun)
    cases outcome with
    | failure =>
      rw [if_neg nofun]
      have hmade := made_rollback t
      rw [out_close_failure hp] at h ⊢
      rcases hout : (Target.rollback : Act (Journaled τ) _).out t with ⟨e | _, u⟩
      · -- The rollback is in the journal with its failure.
        rw [hout] at h hmade
        have hdone := h ⟨.rollback, .failed e⟩ (hmade ▸ mem_append_right _ mem_cons_self) (Or.inr rfl)
        cases hdone
      · rw [hout] at h hrollback
        exact autocommit_restoreLong hkeeps (hrollback.trans hoff) h
    | success =>
      cases commitOnClose with
      | false =>
        rw [if_pos ⟨rfl, rfl⟩, out_close_open hp]
        exact hoff
      | true =>
        rw [if_neg nofun]
        have hcommit : Target.autocommit ((Target.commit).out t).2 = Target.autocommit t := hkeeps.journaled.commit t
        rw [out_close_commit hp] at h ⊢
        rcases hout : (Target.commit : Act (Journaled τ) _).out t with ⟨e | _, u⟩
        · rw [hout] at h hcommit
          exact autocommit_restoreLong hkeeps ((hkeeps.journaled.rollback u).trans (hcommit.trans hoff)) h
        · rw [hout] at h hcommit
          exact autocommit_restoreLong hkeeps (hcommit.trans hoff) h

end Modes

end Policy

open Policy Journaled in
/-- **Policies settle exactly once.** Acquiring a policy neither commits nor rolls back. While it is used, only a policy
with a transaction for each batch calls anything: one commit for each settling, unless the number of batches is the last
committed one. In the end a policy rolls back exactly once if it is closed after a failure or dropped, and else a long
transaction that is to be committed commits once and rolls back only if that fails; a policy that leaves commits to the
database calls neither. When it is closed, and no rollback and no switch of the mode has failed, the connection has its
mode back, unless a long transaction is left open. -/
theorem policies_settle_once {τ κ : Type} [Target τ κ] (o : Options) (us : List Use) (last : End) (t : τ) {p : Policy}
    {t₁ : Journaled τ} (hacquire : (acquire o).out (Journaled.mk t []) = (.ok p, t₁)) :
    let used := (p.uses us).out t₁
    let final := ((used.1.finish last).out used.2).2
    (∃ settling ending mode, used.2.made = t₁.made ++ settling ∧ final.made = used.2.made ++ ending ∧
      settlements t₁.made = [] ∧ SettlesAll o.policyMode us settling mode ∧
      (o.policyMode ≠ .perBatch 0 → settling = []) ∧ mode.kind = o.policyMode ∧ Ends mode last (settlements ending)) ∧
    (KeepsMode τ → ∀ outcome, last = .closed outcome → Restored final.made → Target.autocommit final =
      if o.policyMode = .longTransaction false ∧ outcome = .success then false else Target.autocommit t) := by
  intro used final
  obtain ⟨hprevious, hmode⟩ := mode_of_acquire hacquire
  have hkept := kept_uses us p t₁
  have hopen : used.1.settled = false := hkept.settled.trans (by rw [eq_of_acquire hacquire])
  obtain ⟨acquiring, hmade, hacquiring⟩ := only_acquire o (Journaled.mk t [])
  rw [hacquire, nil_append] at hmade
  obtain ⟨settling, hmade', hsettles⟩ := settled_uses us p t₁
  obtain ⟨ending, hmade'', hends⟩ := ends_finish hopen last used.2
  obtain ⟨hkind, hnothing⟩ := hsettles.kind
  rw [hmode] at hsettles hnothing hkind
  rw [o.kind_policyMode] at hkind hnothing
  refine ⟨⟨settling, ending, _, hmade', hmade'', ?_, hsettles, hnothing, hkind, hends⟩, ?_⟩
  · rw [hmade]
    exact settlements_of_switches hacquiring
  rintro hkeeps outcome rfl hrestored
  -- The mode is still the one that the policy was acquired with.
  have hauto : Target.autocommit used.2 = decide (used.1.mode = .autocommit) := by
    have hplain : used.1.mode = .autocommit ↔ p.mode = .autocommit := by
      rw [← @PolicyMode.kind_eq_autocommit used.1.mode, hkept.kind, PolicyMode.kind_eq_autocommit]
    rw [hkept.mode hkeeps, autocommit_of_acquire hkeeps.journaled hacquire, decide_eq_decide, hplain]
  have hleft : used.1.mode = .longTransaction false ↔ o.policyMode = .longTransaction false := by
    rw [← @PolicyMode.kind_eq_longTransaction used.1.mode, hkind]
  have hclose := autocommit_close hkeeps hauto hrestored
  have hback : used.1.previous = Target.autocommit t := hkept.previous.trans hprevious
  simp only [hleft, hback] at hclose
  exact hclose

/-- A target out of autocommit that refuses the first commit. -/
def hesitant : Scripted := { script := { failingCommits := [1] }, autocommit := false }

open Policy in
/-- The batch whose commit fails is committed by the settling behind it, and the number of batches is then committed once.
The rollback at the end is for the batch that was only observed. -/
theorem policies_settle_once_hesitant :
    let o : Options := { errorOnMissingRow := true }
    let us : List Use := [.settle {}, .settle { batches := 1 }, .settle { batches := 1 }, .settle { batches := 1 },
      .observe { batches := 2 }]
    let p : Policy := { mode := .perBatch 0, previous := false }
    let t₁ := ((acquire o).out (Journaled.mk hesitant [])).2
    let used := (p.uses us).out t₁
    let final := ((used.1.finish (.closed .failure)).out used.2).2
    (acquire o).out (Journaled.mk hesitant []) = (.ok p, t₁) ∧ settlements final.made =
        [⟨.commit, .failed (Scripted.refusal "commit" 1)⟩, ⟨.commit, .done⟩, ⟨.rollback, .done⟩] ∧
      Target.autocommit final = false := by
  intro o us p t₁
  have hacquire : (acquire o).out (Journaled.mk hesitant []) = (.ok p, t₁) := rfl
  obtain ⟨-, hmode⟩ := policies_settle_once o us (.closed .failure) hesitant hacquire
  refine ⟨hacquire, by decide +kernel, (hmode Scripted.keepsMode .failure rfl ?_).trans (if_neg (by decide))⟩
  unfold Restored
  decide +kernel

end BulkLoad
