import BulkLoad.Proofs.Policy.Calls

/-!
# Inserts in step

Two inserts on different targets with different writers come to the same when their writers stay in step
(`Insert.InStep`): each operation of the one writer answers what that of the other one answers, and leaves writers and
targets that belong together. Transaction control has to agree only while nothing is under way, since an insert waits
before it settles, and when the writers have been closed.

The stages of the two inserts then go together (`Insert.Together`), one after the other (`together_feed`,
`together_drive`), and so do the inserts (`agree_run`).
-/

namespace BulkLoad

/-- On related states both operations answer the same, and they leave related states. -/
def Act.Agree {σ σ' α : Type} (R : σ → σ' → Prop) (x : Act σ α) (x' : Act σ' α) : Prop :=
  ∀ s s', R s s' → (x.out s).1 = (x'.out s').1 ∧ R (x.out s).2 (x'.out s').2

/-- Operations that agree are put together to operations that agree. -/
theorem compatible_agree {σ σ' κ κ' : Type} [Target σ κ] [Target σ' κ'] {R : σ → σ' → Prop}
    (hmode : ∀ s s', R s s' → Target.autocommit s = Target.autocommit s') :
    Compatible fun {α} (x : Act σ α) (x' : Act σ' α) => Act.Agree R x x' where
  pure _ _ _ h := ⟨rfl, h⟩
  note _ _ _ h := ⟨rfl, h⟩
  mode _ _ h := ⟨hmode _ _ h, h⟩
  bind {α β x x' f f'} hx hf s s' h := by
    obtain ⟨hvalue, hstate⟩ := hx s s' h
    rw [Act.out_bind, Act.out_bind, ← hvalue]
    exact hf _ _ _ hstate

/-- Transaction control agrees on related states. -/
structure SameControl {σ σ' κ κ' : Type} [Target σ κ] [Target σ' κ'] (R : σ → σ' → Prop) : Prop where
  mode : ∀ s s', R s s' → Target.autocommit s = Target.autocommit s'
  setAutocommit : ∀ on, Act.Agree R (Target.setAutocommit on) (Target.setAutocommit on)
  commit : Act.Agree R Target.commit Target.commit
  rollback : Act.Agree R Target.rollback Target.rollback

namespace Insert

section InStep

variable {ω ω' σ σ' κ κ' : Type} [Target σ κ] [Target σ' κ']

/-- Writers that stay in step: they are near each other after each operation, and quiet once they have waited. When they
have been closed, the targets are done. -/
structure InStep (Near Quiet : ω → ω' → σ → σ' → Prop) (Done : σ → σ' → Prop) (ops : Writer ω σ) (ops' : Writer ω' σ') :
    Prop where
  near : ∀ {w w' s s'}, Quiet w w' s s' → Near w w' s s'
  progress : ∀ {w w' s s'}, Near w w' s s' → ops.progress w = ops'.progress w'
  wait : ∀ {w w' s s'}, Near w w' s s' →
    let out := (ops.wait w).out s
    let out' := (ops'.wait w').out s'
    out.1.1 = out'.1.1 ∧ Quiet out.1.2 out'.1.2 out.2 out'.2
  write : ∀ (b : Batch) {w w' s s'}, Near w w' s s' →
    let out := (ops.write b w).out s
    let out' := (ops'.write b w').out s'
    out.1.1 = out'.1.1 ∧ Near out.1.2 out'.1.2 out.2 out'.2
  close : ∀ {w w' s s'}, Near w w' s s' →
    let out := (ops.close w).out s
    let out' := (ops'.close w').out s'
    out.1.1 = out'.1.1 ∧ ops.progress out.1.2 = ops'.progress out'.1.2 ∧ Done out.2 out'.2
  quiet : ∀ w w', SameControl (Quiet w w')
  done : SameControl Done

/-- Two stages go together: they come to the same, with jobs that differ in their writers only. -/
structure Together (Near : ω → ω' → σ → σ' → Prop) (x : (Except BulkError Unit × Job ω) × σ)
    (x' : (Except BulkError Unit × Job ω') × σ') : Prop where
  result : x.1.1 = x'.1.1
  policy : x.1.2.policy = x'.1.2.policy
  taken : x.1.2.taken = x'.1.2.taken
  near : Near x.1.2.writer x'.1.2.writer x.2 x'.2

variable {Near Quiet : ω → ω' → σ → σ' → Prop} {Done : σ → σ' → Prop} {ops : Writer ω σ} {ops' : Writer ω' σ'}
  {j : Job ω} {j' : Job ω'} {s : σ} {s' : σ'}

omit [Target σ κ] [Target σ' κ'] in
/-- Stages behind stages that go together go together. -/
theorem Together.bind {x : Stage ω σ Unit} {x' : Stage ω' σ' Unit} {f : Unit → Stage ω σ Unit}
    {f' : Unit → Stage ω' σ' Unit} (h : Together Quiet (x.out j s) (x'.out j' s'))
    (hnear : ∀ {w w' s s'}, Quiet w w' s s' → Near w w' s s')
    (hf : ∀ {j j' s s'}, Together Quiet ((.ok (), j), s) ((.ok (), j'), s') →
      Together Near ((f ()).out j s) ((f' ()).out j' s')) :
    Together Near ((x >>= f).out j s) ((x' >>= f').out j' s') := by
  rw [Stage.out_bind, Stage.out_bind]
  revert h
  rcases x.out j s with ⟨⟨e | _, j₁⟩, s₁⟩ <;> rcases x'.out j' s' with ⟨⟨e' | _, j₁'⟩, s₁'⟩
  · exact fun h => ⟨h.result, h.policy, h.taken, hnear h.near⟩
  · exact fun h => nomatch h.result
  · exact fun h => nomatch h.result
  · exact fun h => hf h

variable (hin : InStep Near Quiet Done ops ops')

include hin

theorem together_wait (h : Together Near ((.ok (), j), s) ((.ok (), j'), s')) :
    Together Quiet ((wait ops).out j s) ((wait ops').out j' s') := by
  obtain ⟨hresult, hquiet⟩ := hin.wait h.near
  rw [out_wait rfl, out_wait rfl]
  exact ⟨hresult, h.policy, h.taken, hquiet⟩

theorem together_write (b : Batch) (h : Together Near ((.ok (), j), s) ((.ok (), j'), s')) :
    Together Near ((write ops b).out j s) ((write ops' b).out j' s') := by
  obtain ⟨hresult, hnear⟩ := hin.write b h.near
  rw [out_write rfl, out_write rfl]
  exact ⟨congrArg Attempt.toExcept hresult, h.policy, h.taken, hnear⟩

theorem together_settle (h : Together Quiet ((.ok (), j), s) ((.ok (), j'), s')) :
    Together Quiet ((settle ops).out j s) ((settle ops').out j' s') := by
  have hcontrol := hin.quiet j.writer j'.writer
  obtain ⟨hvalue, hquiet⟩ :=
    (compatible_agree hcontrol.mode).settle hcontrol.commit j.policy (ops.progress j.writer) s s' h.near
  have hpolicy : j.policy = j'.policy := h.policy
  have hprogress := hin.progress (hin.near h.near)
  rw [hpolicy, hprogress] at hvalue hquiet
  rw [out_settle rfl, out_settle rfl, hpolicy, hprogress]
  exact ⟨congrArg Prod.fst hvalue, congrArg Prod.snd hvalue, h.taken, hquiet⟩

/-- **The batches that were filled** are written together. -/
theorem together_feed : ∀ (fs : List Filled) {j : Job ω} {j' : Job ω'} {s : σ} {s' : σ'},
    Together Near ((.ok (), j), s) ((.ok (), j'), s') → Together Near ((feed ops fs).out j s) ((feed ops' fs).out j' s')
  | [], _, _, _, _, h => h
  | f :: fs, j, j', s, s', h => by
    rw [out_feed_cons, out_feed_cons]
    have htaken : Together Near ((.ok (), { j with taken := f.taken }), s) ((.ok (), { j' with taken := f.taken }), s') :=
      ⟨rfl, h.policy, rfl, h.near⟩
    refine (together_wait hin htaken).bind hin.near fun h => ?_
    refine (together_settle hin h).bind hin.near fun h => ?_
    refine (together_write hin f.batch ⟨rfl, h.policy, h.taken, hin.near h.near⟩).bind id fun h => ?_
    exact together_feed fs h

/-- The stages behind the last batch that was filled go together. -/
theorem together_finale (ending : Ending) (h : Together Near ((.ok (), j), s) ((.ok (), j'), s')) :
    Together Near ((finale ops ending).out j s) ((finale ops' ending).out j' s') := by
  have hlast {j : Job ω} {j' : Job ω'} {s : σ} {s' : σ'} (h : Together Near ((.ok (), j), s) ((.ok (), j'), s')) :
      Together Near ((do wait ops; settle ops : Stage ω σ Unit).out j s)
        ((do wait ops'; settle ops' : Stage ω' σ' Unit).out j' s') :=
    (together_wait hin h).bind hin.near fun h =>
      have h' := together_settle hin h
      ⟨h'.result, h'.policy, h'.taken, hin.near h'.near⟩
  cases ending with
  | failed e => exact ⟨rfl, h.policy, h.taken, h.near⟩
  | rest b =>
    rw [out_rest, out_rest]
    split
    · exact hlast h
    · exact (together_write hin b h).bind id hlast

/-- **All stages** of the two inserts go together. -/
theorem together_drive (c : Cut) (h : Together Near ((.ok (), j), s) ((.ok (), j'), s')) :
    Together Near ((drive ops c).out j s) ((drive ops' c).out j' s') := by
  rw [out_drive, out_drive]
  refine (together_feed hin c.filled h).bind id fun h => ?_
  rw [Stage.out_bind_of_ok (out_reach c.taken), Stage.out_bind_of_ok (out_reach c.taken)]
  exact together_finale hin c.ending ⟨rfl, h.policy, rfl, h.near⟩

/-- **Inserts whose writers stay in step agree**, and leave targets that are done. -/
theorem agree_run (table : String) {w : ω} {w' : ω'} (p : Policy) (c : Cut) (h : Near w w' s s') :
    ((run table ops w p c).out s).1 = ((run table ops' w' p c).out s').1 ∧
      Done ((run table ops w p c).out s).2 ((run table ops' w' p c).out s').2 := by
  rw [out_run, out_run]
  have hstart : Together Near ((.ok (), ⟨w, p, 0⟩), s) ((.ok (), ⟨w', p, 0⟩), s') := ⟨rfl, rfl, rfl, h⟩
  obtain ⟨hresult, hpolicy, htaken, hnear⟩ := together_drive hin c hstart
  generalize (drive ops c).out ⟨w, p, 0⟩ s = driven at *
  generalize (drive ops' c).out ⟨w', p, 0⟩ s' = driven' at *
  obtain ⟨hclosed, hprogress, hdone⟩ := hin.close hnear
  unfold finish conclude
  simp only [hresult, hpolicy, htaken, hclosed, hprogress]
  have hcontrol := hin.done
  obtain ⟨hvalue, hended⟩ := (compatible_agree hcontrol.mode).close hcontrol.setAutocommit hcontrol.commit
    hcontrol.rollback _ _ _ _ hdone
  exact ⟨by rw [hvalue], hended⟩

end InStep

end Insert

end BulkLoad
