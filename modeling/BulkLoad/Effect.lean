import BulkLoad.Log.Line

/-!
# Operations on a target

An operation on a state is a function from the state to an `Effect`: the value it answers, the state it leaves and the
lines it logs. The lines are never read back, so the value and the state do not depend on them.

- `Act.bind_value`, `Act.bind_state`, `Act.bind_log`: what one operation after another answers, leaves and logs;
- `Act.out_bind`: the outcome of one operation after another, where the lines do not matter.
-/

namespace BulkLoad

/-- What an operation answers, the state it leaves and the lines it logs. -/
structure Effect (σ α : Type) where
  value : α
  state : σ
  log : List LogLine := []

/-- An operation on a state. -/
def Act (σ α : Type) := σ → Effect σ α

namespace Act

variable {σ α β : Type}

instance : Monad (Act σ) where
  pure a := fun s => ⟨a, s, []⟩
  bind x f := fun s =>
    let e := x s
    let e' := f e.value e.state
    ⟨e'.value, e'.state, e.log ++ e'.log⟩

theorem bind_value (x : Act σ α) (f : α → Act σ β) (s : σ) :
    ((x >>= f) s).value = (f (x s).value (x s).state).value := rfl

theorem bind_state (x : Act σ α) (f : α → Act σ β) (s : σ) :
    ((x >>= f) s).state = (f (x s).value (x s).state).state := rfl

theorem bind_log (x : Act σ α) (f : α → Act σ β) (s : σ) :
    ((x >>= f) s).log = (x s).log ++ (f (x s).value (x s).state).log := rfl

instance : LawfulMonad (Act σ) :=
  LawfulMonad.mk' (Act σ)
    (fun x => by funext s; show Effect.mk (x s).value (x s).state ((x s).log ++ []) = x s; simp)
    (fun _ _ => rfl)
    (fun x f g => by
      funext s
      simp only [bind, List.append_assoc])

/-- Looks at the state. -/
def ask (f : σ → α) : Act σ α := fun s => ⟨f s, s, []⟩

/-- Replaces the state and answers a value. -/
def step (f : σ → α × σ) : Act σ α := fun s => ⟨(f s).1, (f s).2, []⟩

/-- Logs a line. -/
def note (line : LogLine) : Act σ Unit := fun s => ⟨(), s, [line]⟩

/-- Runs an operation in the background: only its log lines show the difference. -/
def inBackground (x : Act σ α) : Act σ α := fun s =>
  let e := x s
  ⟨e.value, e.state, e.log.map fun l => { l with inBackground := true }⟩

/-! ## Outcomes -/

/-- What an operation answers and the state it leaves. -/
def out (x : Act σ α) (s : σ) : α × σ := ((x s).value, (x s).state)

@[simp] theorem out_pure (a : α) (s : σ) : out (pure a) s = (a, s) := rfl

@[simp] theorem out_bind (x : Act σ α) (f : α → Act σ β) (s : σ) :
    (x >>= f).out s = (f (x.out s).1).out (x.out s).2 := rfl

theorem out_bind_of {x : Act σ α} {a : α} {s s' : σ} (h : x.out s = (a, s')) (f : α → Act σ β) :
    (x >>= f).out s = (f a).out s' := by
  rw [out_bind, h]

@[simp] theorem out_ask (f : σ → α) (s : σ) : (ask f).out s = (f s, s) := rfl

@[simp] theorem out_step (f : σ → α × σ) (s : σ) : (step f).out s = f s := rfl

@[simp] theorem out_note (line : LogLine) (s : σ) : (note line).out s = ((), s) := rfl

@[simp] theorem out_inBackground (x : Act σ α) (s : σ) : x.inBackground.out s = x.out s := rfl

end Act

end BulkLoad
