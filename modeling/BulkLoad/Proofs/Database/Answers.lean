import BulkLoad.Proofs.Database.Client

/-!
# Answers of a database

What a database answers to operations, one after the other (`Database.Op.answer`, `Database.answers`).

What the operations of a connection can do is said once: `Database.commit_cases`, `Database.setAutocommit_cases`, and
`Database.send_cases` for a database whose channels belong to its connections, as those of reachable databases do
(`Database.Reachable.owned`).
-/

namespace BulkLoad

open List

namespace Database

/-! ## Answers -/

/-- What is answered to an operation. -/
inductive Answer
  | done (r : Except DriverError Unit)
  | connected (n : Nat)
  | opened (r : Except DriverError Nat)
  | sent (r : Except DriverError Ack)

/-- The rows that a statement has skipped, if the answer is to a statement that has run. -/
def Answer.skipped : Answer → Nat
  | .sent (.ok a) => a.warnings
  | _ => 0

/-- The answer to an operation. -/
def Op.answer (d : Database) : Op → Answer
  | .createTable t => .done (Database.createTable t d).value
  | .connect format allowsBulk => .connected (Database.connect format allowsBulk d).value
  | .openChannel n => .opened (Database.openChannel n d).value
  | .closeChannel channel => .done (Database.closeChannel channel d).value
  | .setAutocommit n on => .done (Database.setAutocommit n on d).value
  | .commit n => .done (Database.commit n d).value
  | .rollback n => .done (Database.rollback n d).value
  | .send channel header payload => .sent (Database.send channel header payload d).value

/-- The answers to operations, one after the other. -/
def answers (d : Database) : List Op → List Answer
  | [] => []
  | op :: ops => op.answer d :: answers (op.apply d) ops

theorem answers_append : ∀ (ops ops' : List Op) (d : Database),
    d.answers (ops ++ ops') = d.answers ops ++ (ops.foldl Op.apply d).answers ops'
  | [], _, _ => rfl
  | op :: ops, ops', d => by
    rw [cons_append, answers, answers, foldl_cons, answers_append ops ops', cons_append]

/-! ## What operations do -/

variable {d d' : Database} {n : Nat}

/-- The channels belong to connections that have been opened. -/
def Owned (d : Database) : Prop :=
  ∀ (channel : Nat) (ch : Channel), d.channels[channel]? = some ch → ch.connection < d.connections.length

/-- A change leaves the channels and the number of connections alone. -/
theorem Change.frame (h : Change n d d') : d'.channels = d.channels ∧
    d'.connections.length = d.connections.length := by
  obtain ⟨C, S, rfl, _⟩ := h.exists_put
  exact ⟨channels_put, length_connections_put⟩

theorem Owned.changes (h : d.Owned) (hchanges : Changes n d d') : d'.Owned := by
  induction hchanges with
  | refl => exact h
  | tail _ hchange ih =>
    obtain ⟨hchannels, hlength⟩ := hchange.frame
    intro channel ch hch
    rw [hchannels] at hch
    rw [hlength]
    exact ih channel ch hch

theorem Owned.apply (h : d.Owned) (op : Op) : (op.apply d).Owned := by
  cases op with
  | createTable t =>
    show (Act.out (Database.createTable t) d).2.Owned
    rw [out_createTable]
    cases d.catalog.create t <;> exact h
  | connect format allowsBulk =>
    intro channel ch hch
    have hlt := h channel ch hch
    show ch.connection < (d.connections ++ [_]).length
    rw [length_append]
    omega
  | openChannel m =>
    show (Act.out (Database.openChannel m) d).2.Owned
    rw [out_openChannel]
    split
    · next hbulk =>
      intro channel ch hch
      change (d.channels ++ [_])[channel]? = some ch at hch
      rw [getElem?_append] at hch
      split at hch
      · exact h channel ch hch
      · rw [mem_singleton.mp (mem_of_getElem? hch)]
        exact lt_length_of_allowsBulk hbulk
    · exact h
  | closeChannel channel =>
    intro channel' ch hch
    change (d.channels.modify channel _)[channel']? = some ch at hch
    rw [getElem?_modify] at hch
    obtain ⟨ch', hch', rfl⟩ := Option.map_eq_some_iff.mp hch
    have hlt := h channel' ch' hch'
    split <;> exact hlt
  | setAutocommit m on => exact h.changes (changes_setAutocommit m d on)
  | commit m => exact h.changes (.single (.commit (n := m)))
  | rollback m => exact h.changes (.single (.rollback (n := m)))
  | send channel header payload =>
    rcases changes_send d channel header payload with hsame | ⟨m, _, hchanges⟩
    · show (Act.out (Database.send channel header payload) d).2.Owned
      rw [hsame]
      exact h
    · exact h.changes hchanges

theorem Reachable.owned (h : d.Reachable) : d.Owned := by
  induction h with
  | initial => exact nofun
  | step op _ ih => exact ih.apply op

/-- **What switching the mode does**: unless there is something to commit, no more than the mode changes. Otherwise what
is staged is published, or the switch fails with the commit. -/
theorem setAutocommit_cases (d : Database) (n : Nat) (on : Bool) :
    ((on && !(d.session n).autocommit && (d.session n).inTransaction) = false ∧ Act.out (setAutocommit n on) d =
      (.ok (), d.put n d.catalog { d.session n with autocommit := on })) ∨
    (on = true ∧ (d.session n).autocommit = false) ∧
      ((d.catalog.conflict? (d.session n).staged = none ∧ Act.out (setAutocommit n on) d =
        (.ok (), d.put n (d.catalog.publishAll (d.session n).staged)
          { (d.session n).discard with autocommit := true })) ∨
      ∃ e, Act.out (setAutocommit n on) d = (.error e, d.put n d.catalog (d.session n).discard)) := by
  have hmode (d : Database) : Act.out (setMode n on) d =
      ((), d.put n d.catalog { d.session n with autocommit := on }) := rfl
  unfold Database.setAutocommit
  rw [Act.out_bind, Act.out_ask]
  simp only
  split
  · next hbusy =>
    simp only [Bool.and_eq_true, Bool.not_eq_true'] at hbusy
    obtain ⟨⟨rfl, hoff⟩, hopen⟩ := hbusy
    refine Or.inr ⟨⟨rfl, hoff⟩, ?_⟩
    -- A connection with something staged has been opened.
    have hlt : n < d.connections.length := by
      apply Decidable.byContradiction
      intro hle
      rw [session_of_le (Nat.le_of_not_lt hle)] at hopen
      cases hopen
    rw [Act.out_bind]
    rcases commit_cases d n with ⟨hnone, hcommit⟩ | ⟨e, hcommit⟩
    · refine Or.inl ⟨hnone, ?_⟩
      rw [hcommit]
      simp only [Act.out_bind, hmode, Act.out_pure, put_put, catalog_put, session_put, hlt, and_self, if_true]
    · exact Or.inr ⟨e, by rw [hcommit]; rfl⟩
  · next hidle =>
    refine Or.inl ⟨Bool.eq_false_iff.mpr hidle, ?_⟩
    rw [Act.out_bind, hmode]
    rfl

/-- A channel that is not open refuses every statement. -/
theorem out_send_of_not_open {channel : Nat} (header : String) (payload : Bytes)
    (h : ¬ ∃ n, d.channels[channel]? = some ⟨n, false⟩) :
    Act.out (send channel header payload) d = (.error { kind := .other, message := "channel is closed" }, d) := by
  unfold Database.send
  rw [Act.out_bind, Act.out_ask]
  cases hch : d.channels[channel]? with
  | none => rfl
  | some ch =>
    obtain ⟨n, closed⟩ := ch
    cases closed with
    | true => rfl
    | false => exact absurd ⟨n, hch⟩ h

/-- What is run in a session: it is refused, and nothing has changed. Or it is staged there or, under autocommit, it is
committed. -/
theorem runStatement_cases (hlt : n < d.connections.length) (header : String) (payload : Bytes) :
    (∃ e, Act.out (runStatement n header payload) d = (.error e, d)) ∨
    ∃ dest a S, Destination.read? (d.connection n).format header = some dest ∧
      (d.catalog.load (d.session n) (d.connection n).format dest payload).value = .ok a ∧
      (d.catalog.load (d.session n) (d.connection n).format dest payload).state = S ∧
      (((d.session n).autocommit = false ∧ Act.out (runStatement n header payload) d = (.ok a, d.put n d.catalog S)) ∨
      (d.session n).autocommit = true ∧
        ((d.catalog.conflict? S.staged = none ∧ Act.out (runStatement n header payload) d =
          (.ok a, d.put n (d.catalog.publishAll S.staged) S.discard)) ∨
        ∃ e, Act.out (runStatement n header payload) d = (.error e, d.put n d.catalog S.discard))) := by
  cases hread : Destination.read? (d.connection n).format header with
  | none =>
    refine Or.inl ⟨{ kind := .other, message := s!"syntax error in bulk statement: {header}" }, ?_⟩
    unfold Database.runStatement
    rw [Act.out_bind, Act.out_ask]
    simp only [hread]
    rfl
  | some dest =>
    have hload : Act.out (load n dest payload) d =
        ((d.catalog.load (d.session n) (d.connection n).format dest payload).value.mapError
            (·.report (d.connection n).format),
          d.put n d.catalog (d.catalog.load (d.session n) (d.connection n).format dest payload).state) := rfl
    rw [out_runStatement payload hread, hload]
    cases hvalue : (d.catalog.load (d.session n) (d.connection n).format dest payload).value with
    | error e =>
      rw [Catalog.state_load_of_error hvalue, put_self]
      exact Or.inl ⟨_, rfl⟩
    | ok a =>
      generalize hstate : (d.catalog.load (d.session n) (d.connection n).format dest payload).state = S
      refine Or.inr ⟨dest, a, S, rfl, hvalue, hstate, ?_⟩
      have hsession : (d.put n d.catalog S).session n = S := by
        rw [session_put, if_pos ⟨rfl, hlt⟩]
      cases hmode : (d.session n).autocommit with
      | false => exact Or.inl ⟨rfl, rfl⟩
      | true =>
        refine Or.inr ⟨rfl, ?_⟩
        have hack : (Except.ok a : Except Catalog.LoadError Ack).mapError (·.report (d.connection n).format) = .ok a := rfl
        have hcommit := commit_cases (d.put n d.catalog S) n
        rw [hsession, catalog_put, put_put, put_put] at hcommit
        rcases hcommit with ⟨hnone, hcommit⟩ | ⟨e, hcommit⟩
        · refine Or.inl ⟨hnone, ?_⟩
          simp only [hack, if_true, hcommit]
          rfl
        · refine Or.inr ⟨e, ?_⟩
          simp only [hack, if_true, hcommit]
          rfl

/-- **What a statement that is sent does**: it is refused, and nothing has changed. Or it has been run in the session of
the connection that the channel belongs to; then it is staged there or, under autocommit, it is committed. -/
theorem send_cases (hd : d.Owned) (channel : Nat) (header : String) (payload : Bytes) :
    (∃ e, Act.out (send channel header payload) d = (.error e, d)) ∨
    ∃ n dest a S, d.channels[channel]? = some ⟨n, false⟩ ∧ n < d.connections.length ∧
      Destination.read? (d.connection n).format header = some dest ∧
      (d.catalog.load (d.session n) (d.connection n).format dest payload).value = .ok a ∧
      (d.catalog.load (d.session n) (d.connection n).format dest payload).state = S ∧
      (((d.session n).autocommit = false ∧ Act.out (send channel header payload) d = (.ok a, d.put n d.catalog S)) ∨
      (d.session n).autocommit = true ∧
        ((d.catalog.conflict? S.staged = none ∧ Act.out (send channel header payload) d =
          (.ok a, d.put n (d.catalog.publishAll S.staged) S.discard)) ∨
        ∃ e, Act.out (send channel header payload) d = (.error e, d.put n d.catalog S.discard))) := by
  by_cases hopen : ∃ n, d.channels[channel]? = some ⟨n, false⟩
  · obtain ⟨n, hch⟩ := hopen
    have hlt : n < d.connections.length := hd channel _ hch
    rw [out_send_of_open header payload hch]
    rcases runStatement_cases hlt header payload with herror | ⟨dest, a, S, hran⟩
    · exact Or.inl herror
    · exact Or.inr ⟨n, dest, a, S, hch, hlt, hran⟩
  · exact Or.inl ⟨_, out_send_of_not_open header payload hopen⟩

end Database

end BulkLoad
