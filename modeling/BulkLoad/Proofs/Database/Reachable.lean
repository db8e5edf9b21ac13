import BulkLoad.Database.Basic
import BulkLoad.Proofs.Database.Staging
import Mathlib.Logic.Relation

/-!
# Reachable databases

A database is reachable when any operations of any connections, in any order, lead to it from the empty one
(`Database.Reachable`). In such a database the staged entries of a session have at most as many keys as rows, and a
session in autocommit is clean (`Session.Kept`, `Database.Reachable.kept`); so a session that is not in a transaction is
clean, whatever its mode (`Session.Kept.clean`).

The operations of a connection consist of few changes (`Database.Change`): `changes_setAutocommit`,
`changes_runStatement`, `changes_send`. A change concerns no more than the catalog and the session of the connection
(`Database.put`, `Database.Change.exists_put`).
-/

namespace BulkLoad

open List

/-! ## Sessions that are kept -/

/-- The staged entries have at most one key for each row, and under autocommit there is nothing in them. -/
structure Session.Kept (s : Session) : Prop where
  keys : ∀ e ∈ s.staged, e.2.keys.length ≤ e.2.rows.length
  autocommit : s.autocommit = true → s.Clean

namespace Session

variable {s : Session}

theorem kept_discard (s : Session) : s.discard.Kept := ⟨forall_mem_nil _, fun _ => clean_discard s⟩

theorem kept_initial : Session.Kept {} := kept_discard {}

/-- A session without staged rows is clean. -/
theorem Kept.clean (h : s.Kept) (ht : s.inTransaction = false) : s.Clean := by
  intro e he
  have hcount : s.stagedCount = 0 := by
    unfold inTransaction at ht
    exact Decidable.not_not.mp (decide_eq_false_iff_not.mp ht)
  have hrows : e.2.rows = [] := flatMap_eq_nil_iff.mp (length_eq_zero_iff.mp hcount) e he
  have hkeys : e.2.keys = [] := by
    have hle := h.keys e he
    rw [hrows] at hle
    exact length_eq_zero_iff.mp (Nat.le_zero.mp hle)
  obtain ⟨name, rows, keys⟩ := e
  simp only at hrows hkeys
  rw [hrows, hkeys]

theorem mem_stageIn {table : String} {rows : Rows} : ∀ {staged : List (String × Rows)} {e : String × Rows},
    e ∈ stageIn table rows staged → e ∈ staged ∨ e = (table, rows) ∨
      ∃ r, (table, r) ∈ staged ∧ e = (table, r.append rows)
  | [], e, h => Or.inr (Or.inl (mem_singleton.mp h))
  | (t, r) :: rest, e, h => by
    rw [stageIn] at h
    split at h
    · next ht =>
      rcases mem_cons.mp h with he | he
      · exact Or.inr (Or.inr ⟨r, by rw [ht]; exact mem_cons_self .., by rw [he, ht]⟩)
      · exact Or.inl (mem_cons_of_mem _ he)
    · rcases mem_cons.mp h with rfl | he
      · exact Or.inl (mem_cons_self ..)
      · rcases mem_stageIn he with hm | hm | ⟨r', hr', hm⟩
        · exact Or.inl (mem_cons_of_mem _ hm)
        · exact Or.inr (Or.inl hm)
        · exact Or.inr (Or.inr ⟨r', mem_cons_of_mem _ hr', hm⟩)

theorem Kept.stage (h : s.Kept) (hmode : s.autocommit = false) {rows : Rows}
    (hrows : rows.keys.length ≤ rows.rows.length) (table : String) : (s.stage table rows).Kept := by
  refine ⟨?_, fun hon => ?_⟩
  · intro e he
    rcases mem_stageIn he with he | rfl | ⟨r, hr, rfl⟩
    · exact h.keys e he
    · exact hrows
    · have hr := h.keys _ hr
      simp only [Rows.append, length_append] at hr ⊢
      omega
  · rw [show (s.stage table rows).autocommit = s.autocommit from rfl, hmode] at hon
    cases hon

end Session

/-- A session that is not in autocommit is kept by a statement. -/
theorem Session.Kept.load {s : Session} (h : s.Kept) (hmode : s.autocommit = false) (c : Catalog) (f : Format)
    (d : Destination) (payload : Bytes) : (c.load s f d payload).state.Kept := by
  rcases Catalog.state_load c s f d payload with hstate | ⟨t, ps, raws, _, hstate⟩
  · rw [hstate]
    exact h
  · rw [hstate]
    refine h.stage hmode ?_ _
    -- Each accepted row adds at most one key.
    refine Catalog.accepted_scan (P := fun A => A.keys.length ≤ A.rows.length) ?_ raws 1 (Nat.le_refl _)
    intro A line raw row key _ hA
    have hkey : key.toList.length ≤ 1 := by cases key <;> simp
    simp only [Rows.push, length_append, length_cons, length_nil]
    omega

/-! ## Databases -/

namespace Database

variable {d : Database}

/-- Replacing the session of a connection leaves the other connections alone. -/
theorem connection_setSession (d : Database) (n m : Nat) (s : Session) : (d.setSession n s).connection m =
    if n = m ∧ m < d.connections.length then { d.connection m with session := s } else d.connection m := by
  unfold connection setSession
  rw [getD_eq_getElem?_getD, getD_eq_getElem?_getD, getElem?_modify]
  by_cases hn : n = m
  · subst hn
    by_cases hlt : n < d.connections.length
    · simp only [getElem?_eq_getElem hlt, hlt, and_self, if_true]
      rfl
    · simp only [getElem?_eq_none (Nat.le_of_not_lt hlt), hlt, and_false, if_false]
      rfl
  · simp only [hn, false_and, if_false]
    cases d.connections[m]? <;> rfl

theorem session_setSession (d : Database) (n m : Nat) (s : Session) : (d.setSession n s).session m =
    if n = m ∧ m < d.connections.length then s else d.session m := by
  unfold session
  rw [connection_setSession]
  split <;> rfl

theorem session_of_le {n : Nat} (h : d.connections.length ≤ n) : d.session n = {} := by
  unfold session connection
  rw [getD_eq_getElem?_getD, getElem?_eq_none h]
  rfl

/-! ### Another catalog and another session -/

/-- The database with another catalog and another session of a connection. -/
def put (d : Database) (n : Nat) (C : Catalog) (S : Session) : Database := { d.setSession n S with catalog := C }

section

variable {n : Nat} {C C' : Catalog} {S S' : Session}

@[simp] theorem catalog_put : (d.put n C S).catalog = C := rfl

@[simp] theorem channels_put : (d.put n C S).channels = d.channels := rfl

@[simp] theorem length_connections_put : (d.put n C S).connections.length = d.connections.length := length_modify ..

theorem connection_put (d : Database) (n : Nat) (C : Catalog) (S : Session) (m : Nat) :
    (d.put n C S).connection m =
      if n = m ∧ m < d.connections.length then { d.connection m with session := S } else d.connection m :=
  connection_setSession d n m S

theorem session_put (d : Database) (n : Nat) (C : Catalog) (S : Session) (m : Nat) : (d.put n C S).session m =
    if n = m ∧ m < d.connections.length then S else d.session m :=
  session_setSession d n m S

@[simp] theorem format_put (m : Nat) : ((d.put n C S).connection m).format = (d.connection m).format := by
  rw [connection_put]
  split <;> rfl

@[simp] theorem put_put : (d.put n C S).put n C' S' = d.put n C' S' := by
  simp only [put, setSession, modify_modify_eq]
  rfl

/-- A session that is put in its own place. -/
theorem put_self (d : Database) (n : Nat) : d.put n d.catalog (d.session n) = d := by
  have hsame : (d.connections.modify n fun c => { c with session := d.session n }) = d.connections := by
    apply ext_getElem?
    intro m
    rw [getElem?_modify]
    cases hm : d.connections[m]? with
    | none => rfl
    | some c =>
      by_cases hn : n = m
      · subst hn
        simp [session, connection, getD_eq_getElem?_getD, hm]
      · simp [hn]
  unfold put setSession
  rw [hsame]

end

theorem out_commit (d : Database) (n : Nat) : Act.out (commit n) d =
    match d.catalog.conflict? (d.session n).staged with
    | some k => (.error k.report, d.put n d.catalog (d.session n).discard)
    | none => (.ok (), d.put n (d.catalog.publishAll (d.session n).staged) (d.session n).discard) := by
  show ((commit n d).value, (commit n d).state) = _
  unfold Database.commit Catalog.commit
  simp only
  cases d.catalog.conflict? (d.session n).staged <;> rfl

/-- **What a commit does**: it publishes what is staged, or it fails; nothing is staged afterwards. -/
theorem commit_cases (d : Database) (n : Nat) :
    (d.catalog.conflict? (d.session n).staged = none ∧ Act.out (commit n) d =
      (.ok (), d.put n (d.catalog.publishAll (d.session n).staged) (d.session n).discard)) ∨
    ∃ e, Act.out (commit n) d = (.error e, d.put n d.catalog (d.session n).discard) := by
  rw [out_commit]
  cases d.catalog.conflict? (d.session n).staged with
  | none => exact Or.inl ⟨rfl, rfl⟩
  | some k => exact Or.inr ⟨_, rfl⟩

/-! ### Kept sessions -/

/-- All sessions are kept. -/
def Kept (d : Database) : Prop := ∀ n, (d.session n).Kept

theorem Kept.setSession (h : d.Kept) (n : Nat) {s : Session} (hs : s.Kept) : (d.setSession n s).Kept := by
  intro m
  rw [session_setSession]
  split
  · exact hs
  · exact h m

/-- What matters is the connections. -/
theorem Kept.of_connections (h : d.Kept) {d' : Database} (heq : d'.connections = d.connections) : d'.Kept := by
  intro m
  have hm := h m
  unfold session connection at hm ⊢
  rw [heq]
  exact hm

/-- A session that is replaced by one without staged rows need not have been kept. -/
theorem kept_setSession {n : Nat} (h : ∀ m, m ≠ n → (d.session m).Kept) {s : Session} (hs : s.Kept) :
    (d.setSession n s).Kept := by
  intro m
  rw [session_setSession]
  by_cases hm : m = n
  · subst hm
    by_cases hlt : m < d.connections.length
    · rw [if_pos ⟨rfl, hlt⟩]
      exact hs
    · rw [if_neg (fun hc => hlt hc.2), session_of_le (Nat.le_of_not_lt hlt)]
      exact Session.kept_initial
  · rw [if_neg (fun hc => hm hc.1.symm)]
    exact h m hm

/-- What a commit does to the connections. -/
theorem connections_commit (d : Database) (n : Nat) :
    (commit n d).state.connections = (d.setSession n (d.session n).discard).connections := by
  show (Act.out (commit n) d).2.connections = _
  obtain ⟨_, hcommit⟩ | ⟨e, hcommit⟩ := commit_cases d n
  · rw [hcommit, put]
  · rw [hcommit, put]

theorem kept_commit {n : Nat} (h : ∀ m, m ≠ n → (d.session m).Kept) : (commit n d).state.Kept :=
  (kept_setSession h (Session.kept_discard _)).of_connections (connections_commit d n)

/-- After a commit nothing is staged, also when it fails. -/
theorem staged_commit (d : Database) (n : Nat) : ((commit n d).state.session n).staged = [] := by
  have hsession : (commit n d).state.session n = (d.setSession n (d.session n).discard).session n := by
    unfold session connection
    rw [connections_commit]
    rfl
  rw [hsession, session_setSession]
  by_cases hlt : n < d.connections.length
  · rw [if_pos ⟨rfl, hlt⟩]
    rfl
  · rw [if_neg (fun hc => hlt hc.2), session_of_le (Nat.le_of_not_lt hlt)]

theorem Kept.rollback (h : d.Kept) (n : Nat) : (rollback n d).state.Kept := h.setSession n (Session.kept_discard _)

/-- A connection that is opened gets the next number. -/
theorem connection_connect (d : Database) (f : Format) (allowsBulk : Bool) (m : Nat) :
    (connect f allowsBulk d).state.connection m =
      if m = d.connections.length then { format := f, allowsBulk := allowsBulk } else d.connection m := by
  unfold connection
  simp only [Database.connect, getD_eq_getElem?_getD]
  by_cases hlt : m < d.connections.length
  · rw [getElem?_append_left hlt, if_neg (Nat.ne_of_lt hlt)]
  · rw [getElem?_append_right (Nat.le_of_not_lt hlt), getElem?_eq_none (Nat.le_of_not_lt hlt)]
    split
    · next hm => simp [hm]
    · next hm => rw [getElem?_eq_none (by simp only [length_singleton]; omega)]

/-- A connection that has just been opened has the session of one that is not there. -/
theorem session_connect (d : Database) (f : Format) (allowsBulk : Bool) (m : Nat) :
    (connect f allowsBulk d).state.session m = d.session m := by
  rw [session, connection_connect]
  split
  · next hm => rw [session_of_le (Nat.le_of_eq hm.symm)]
  · rfl

theorem Kept.connect (h : d.Kept) (f : Format) (allowsBulk : Bool) : (connect f allowsBulk d).state.Kept := by
  intro m
  rw [session_connect]
  exact h m

theorem Kept.setMode (h : d.Kept) (n : Nat) (on : Bool) (hclean : on = true → (d.session n).Clean) :
    (setMode n on d).state.Kept :=
  h.setSession n ⟨(h n).keys, hclean⟩

/-- Switching autocommit on commits what is staged, so that nothing is left behind. -/
theorem Kept.setAutocommit (h : d.Kept) (n : Nat) (on : Bool) : (setAutocommit n on d).state.Kept := by
  show (Act.out (Database.setAutocommit n on) d).2.Kept
  unfold Database.setAutocommit
  rw [Act.out_bind, Act.out_ask]
  simp only
  split
  · have hc : (Act.out (commit n) d).2.Kept := kept_commit fun m _ => h m
    have hstaged : ((Act.out (commit n) d).2.session n).staged = [] := staged_commit d n
    rw [Act.out_bind]
    generalize Act.out (commit n) d = committed at hc hstaged ⊢
    obtain ⟨_ | _, d'⟩ := committed
    · exact hc
    · refine hc.setMode n on fun _ => ?_
      unfold Session.Clean
      rw [hstaged]
      exact forall_mem_nil _
  · next hstay =>
    refine h.setMode n on fun hon => ?_
    cases hmode : (d.session n).autocommit with
    | true => exact (h n).autocommit hmode
    | false =>
      apply (h n).clean
      rw [hon, hmode] at hstay
      simpa using hstay

theorem Kept.runStatement (h : d.Kept) (n : Nat) (header : String) (payload : Bytes) :
    (Act.out (runStatement n header payload) d).2.Kept := by
  unfold Database.runStatement
  rw [Act.out_bind, Act.out_ask]
  simp only
  split
  · exact h
  next dest _ =>
  rw [Act.out_bind]
  cases hmode : (d.session n).autocommit with
  | false =>
    have hload : (Act.out (load n dest payload) d).2.Kept := h.setSession n ((h n).load hmode _ _ _ _)
    generalize Act.out (load n dest payload) d = loaded at hload ⊢
    obtain ⟨_ | ack, d'⟩ := loaded
    · exact hload
    · rw [show (d.connection n).session.autocommit = false from hmode]
      exact hload
  | true =>
    have hothers : ∀ m, m ≠ n → ((Act.out (load n dest payload) d).2.session m).Kept := by
      intro m hm
      show ((d.setSession n _).session m).Kept
      rw [session_setSession, if_neg (fun hc => hm hc.1.symm)]
      exact h m
    cases hvalue : (Act.out (load n dest payload) d).1 with
    | error e =>
      have hfailed : ∃ e', (d.catalog.load (d.session n) (d.connection n).format dest payload).value = .error e' := by
        change Except.mapError _ (d.catalog.load (d.session n) (d.connection n).format dest payload).value = _ at hvalue
        cases hv : (d.catalog.load (d.session n) (d.connection n).format dest payload).value with
        | error e' => exact ⟨e', rfl⟩
        | ok ack => rw [hv] at hvalue; cases hvalue
      obtain ⟨e', he'⟩ := hfailed
      show (d.setSession n (d.catalog.load (d.session n) (d.connection n).format dest payload).state).Kept
      rw [Catalog.state_load_of_error he']
      exact h.setSession n (h n)
    | ok ack =>
      rw [show (d.connection n).session.autocommit = true from hmode]
      exact kept_commit hothers

theorem Kept.send (h : d.Kept) (channel : Nat) (header : String) (payload : Bytes) :
    (Act.out (send channel header payload) d).2.Kept := by
  unfold Database.send
  rw [Act.out_bind, Act.out_ask]
  simp only
  split
  · exact h
  split
  · exact h
  · exact h.runStatement _ header payload

/-! ## Tables and channels -/

theorem out_createTable (t : TableDef) (d : Database) : Act.out (createTable t) d =
    match d.catalog.create t with
    | .error e => (.error { kind := .other, message := e.message }, d)
    | .ok c => (.ok (), { d with catalog := c }) := by
  show ((createTable t d).value, (createTable t d).state) = _
  unfold createTable
  cases d.catalog.create t <;> rfl

theorem out_openChannel (n : Nat) (d : Database) : Act.out (openChannel n) d =
    if (d.connection n).allowsBulk then
      (.ok d.channels.length, { d with channels := d.channels ++ [{ connection := n }] })
    else (.error (bulkDisabled (d.connection n).format), d) := by
  show ((openChannel n d).value, (openChannel n d).state) = _
  unfold openChannel
  simp only
  split <;> rfl

/-- A connection that may open bulk channels has been opened. -/
theorem lt_length_of_allowsBulk {n : Nat} (h : (d.connection n).allowsBulk = true) :
    n < d.connections.length := by
  apply Decidable.byContradiction
  intro hlt
  unfold connection at h
  rw [getD_eq_getElem?_getD, getElem?_eq_none (Nat.le_of_not_lt hlt)] at h
  cases h

/-! ## Changes -/

/-- A change that an operation of connection `n` consists of: the session switches its mode, publishes what it has
staged, gives it up or runs a statement. -/
inductive Change (n : Nat) : Database → Database → Prop
  | mode {d : Database} (on : Bool) : Change n d (Database.setMode n on d).state
  | commit {d : Database} : Change n d (Database.commit n d).state
  | rollback {d : Database} : Change n d (Database.rollback n d).state
  | load {d : Database} (dest : Destination) (payload : Bytes) : Change n d (Database.load n dest payload d).state

/-- Changes of connection `n`, one after the other. -/
abbrev Changes (n : Nat) : Database → Database → Prop := Relation.ReflTransGen (Change n)

/-- **What a change does**: it replaces the session of its connection, and the catalog at most by the one with what the
session has staged. -/
theorem Change.exists_put {n : Nat} {d' : Database} (h : Change n d d') :
    ∃ C S, d' = d.put n C S ∧ (C = d.catalog ∨ C = d.catalog.publishAll (d.session n).staged) := by
  cases h with
  | mode on => exact ⟨_, _, rfl, Or.inl rfl⟩
  | rollback => exact ⟨_, _, rfl, Or.inl rfl⟩
  | load dest payload => exact ⟨_, _, rfl, Or.inl rfl⟩
  | commit =>
    obtain ⟨_, hcommit⟩ | ⟨e, hcommit⟩ := commit_cases d n
    · exact ⟨_, _, congrArg Prod.snd hcommit, Or.inr rfl⟩
    · exact ⟨_, _, congrArg Prod.snd hcommit, Or.inl rfl⟩

/-- Switching autocommit commits what is staged and switches the mode, or one of both. -/
theorem changes_setAutocommit (n : Nat) (d : Database) (on : Bool) :
    Changes n d (Act.out (setAutocommit n on) d).2 := by
  unfold Database.setAutocommit
  rw [Act.out_bind, Act.out_ask]
  simp only
  split
  · have hcommit : Changes n d (Act.out (Database.commit n) d).2 := .single .commit
    rw [Act.out_bind]
    generalize Act.out (Database.commit n) d = committed at hcommit ⊢
    obtain ⟨_ | _, d'⟩ := committed
    · exact hcommit
    · exact hcommit.tail (.mode on)
  · exact .single (.mode on)

/-- A statement is run, and committed if the session is in autocommit. -/
theorem changes_runStatement (n : Nat) (d : Database) (header : String) (payload : Bytes) :
    Changes n d (Act.out (runStatement n header payload) d).2 := by
  unfold Database.runStatement
  rw [Act.out_bind, Act.out_ask]
  simp only
  split
  · exact .refl
  next dest _ =>
  have hload : Changes n d (Act.out (Database.load n dest payload) d).2 := .single (.load dest payload)
  rw [Act.out_bind]
  generalize Act.out (Database.load n dest payload) d = loaded at hload ⊢
  obtain ⟨_ | ack, d'⟩ := loaded
  · exact hload
  · cases hmode : (d.connection n).session.autocommit with
    | false =>
      simp only
      exact hload
    | true =>
      simp only
      exact hload.tail .commit

/-- The connection that a channel belongs to. -/
def owner? (d : Database) (channel : Nat) : Option Nat := d.channels[channel]?.map Channel.connection

/-- What is sent through a channel runs on its connection, or not at all. -/
theorem changes_send (d : Database) (channel : Nat) (header : String) (payload : Bytes) :
    (Act.out (send channel header payload) d).2 = d ∨
      ∃ n, d.owner? channel = some n ∧ Changes n d (Act.out (send channel header payload) d).2 := by
  unfold Database.send
  rw [Act.out_bind, Act.out_ask]
  simp only
  split
  · exact Or.inl rfl
  next ch hch =>
  split
  · exact Or.inl rfl
  · exact Or.inr ⟨ch.connection, by rw [owner?, hch, Option.map_some], changes_runStatement _ d header payload⟩

/-! ## Histories -/

/-- An operation on a database or one of its connections. -/
inductive Op
  | createTable (t : TableDef)
  | connect (format : Format) (allowsBulk : Bool)
  | openChannel (connection : Nat)
  | closeChannel (channel : Nat)
  | setAutocommit (connection : Nat) (on : Bool)
  | commit (connection : Nat)
  | rollback (connection : Nat)
  | send (channel : Nat) (header : String) (payload : Bytes)

/-- The database after an operation. -/
def Op.apply (d : Database) : Op → Database
  | .createTable t => (Database.createTable t d).state
  | .connect format allowsBulk => (Database.connect format allowsBulk d).state
  | .openChannel n => (Database.openChannel n d).state
  | .closeChannel channel => (Database.closeChannel channel d).state
  | .setAutocommit n on => (Database.setAutocommit n on d).state
  | .commit n => (Database.commit n d).state
  | .rollback n => (Database.rollback n d).state
  | .send channel header payload => (Database.send channel header payload d).state

/-- The databases that operations lead to from the empty one. -/
inductive Reachable : Database → Prop
  | initial : Reachable {}
  | step {d : Database} (op : Op) : Reachable d → Reachable (op.apply d)

theorem Kept.apply (h : d.Kept) (op : Op) : (op.apply d).Kept := by
  cases op with
  | createTable t =>
    show (Act.out (Database.createTable t) d).2.Kept
    rw [out_createTable]
    cases d.catalog.create t with
    | error e => exact h
    | ok C => exact h.of_connections rfl
  | connect format allowsBulk => exact h.connect format allowsBulk
  | openChannel n =>
    show (Act.out (Database.openChannel n) d).2.Kept
    rw [out_openChannel]
    split
    · exact h.of_connections rfl
    · exact h
  | closeChannel channel => exact h.of_connections rfl
  | setAutocommit n on => exact h.setAutocommit n on
  | commit n => exact kept_commit fun m _ => h m
  | rollback n => exact h.rollback n
  | send channel header payload => exact h.send channel header payload

/-- **All sessions of a reachable database are kept.** -/
theorem Reachable.kept (h : d.Reachable) : d.Kept := by
  induction h with
  | initial => exact fun _ => Session.kept_initial
  | step op _ ih => exact ih.apply op

end Database

end BulkLoad
