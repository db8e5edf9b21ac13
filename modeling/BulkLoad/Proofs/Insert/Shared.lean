import BulkLoad.Proofs.Database.Elsewhere
import BulkLoad.Proofs.Insert.Steady

/-!
# Inserts among others

To speak about an insert while other connections work, a client is wrapped with a schedule of their operations and a
journal (`Shared`): before each call of the insert the others have their turn, and the journal keeps the database before
and after the call. Answers are given as before, so that pipelining makes no difference (`steady_shared`).

A call is idle when it neither changes committed rows nor runs a statement (`Shared.Entry.Idle`). Opening a long
transaction takes idle calls (`Shared.Sees.acquire_long`), and so does giving it up (`Shared.Sees.close_failure`).
Committing it is a single call that publishes everything, with idle calls behind it, or else nothing is left
(`Shared.Sees.close_commit`).
-/

namespace BulkLoad

open List

/-! ## The journal -/

/-- A call and the database before and after it. -/
structure Shared.Entry where
  call : TargetCall
  before : Database
  after : Database

namespace Shared.Entry

/-- The call does not change committed rows. -/
def Quiet (e : Entry) : Prop := e.after.catalog = e.before.catalog

/-- The rows that a statement of connection `n` has staged for a table, behind those staged before. -/
def accepted (n : Nat) (table : String) (e : Entry) : List Row :=
  match e.call with
  | .send _ _ => ((e.after.session n).stagedFor table).rows.drop ((e.before.session n).stagedFor table).rows.length
  | _ => []

/-- The call neither changes committed rows nor runs a statement. -/
structure Idle (e : Entry) : Prop where
  quiet : e.Quiet
  accepted : ∀ n table, e.accepted n table = []

theorem Idle.of_control {e : Entry} (hquiet : e.Quiet) (hcall : ∀ header payload, e.call ≠ .send header payload) :
    e.Idle := by
  refine ⟨hquiet, fun n table => ?_⟩
  unfold Entry.accepted
  split
  · next header payload hsend => exact absurd hsend (hcall header payload)
  · rfl

end Shared.Entry

/-- A client of a database on which others work as well. Before its calls the operations of the schedule are run, those
at the front before the next one, as far as they are operations of other connections. -/
structure Shared where
  client : Client
  schedule : List (List Database.Op) := []
  journal : List Shared.Entry := []

namespace Shared

/-- The client when its next call is due. -/
def due (t : Shared) : Client :=
  { t.client with database := t.client.database.meanwhile t.client.connection (t.schedule.headD []) }

/-- What follows when the call that was due has led to `c`. -/
def called (t : Shared) (call : TargetCall) (c : Client) : Shared :=
  ⟨c, t.schedule.tail, t.journal ++ [⟨call, t.due.database, c.database⟩]⟩

/-- The rows that the statements of connection `n` have staged for a table so far. -/
def accepted (n : Nat) (table : String) (t : Shared) : List Row := t.journal.flatMap (Entry.accepted n table)

/-- No call so far has changed committed rows. -/
def Quiet (t : Shared) : Prop := ∀ e ∈ t.journal, e.Quiet

theorem quiet_called {t : Shared} {call : TargetCall} {c : Client} :
    (t.called call c).Quiet ↔ t.Quiet ∧ c.database.catalog = t.due.database.catalog := by
  unfold Quiet called
  simp only [mem_append, mem_singleton, or_imp, forall_and, forall_eq]
  exact Iff.rfl

theorem accepted_called (n : Nat) (table : String) (t : Shared) (call : TargetCall) (c : Client) :
    (t.called call c).accepted n table =
      t.accepted n table ++ Entry.accepted n table ⟨call, t.due.database, c.database⟩ := by
  simp [accepted, called]

/-- Lets the others work, passes a call on and records it. -/
def pass {α : Type} (call : TargetCall) (x : Act Client α) : Act Shared α := fun t =>
  let e := x t.due
  ⟨e.value, t.called call e.state, e.log⟩

instance : Target Shared Nat where
  format t := Target.format t.client
  autocommit t := Target.autocommit t.client
  setAutocommit on := pass (.setAutocommit on) (Target.setAutocommit on)
  commit := pass .commit Target.commit
  rollback := pass .rollback Target.rollback
  openChannel := pass .openChannel Target.openChannel
  send channel header payload := pass (.send header payload) (Target.send channel header payload)
  closeChannel channel := pass .closeChannel (Target.closeChannel channel)

/-- A call comes to what it comes to when it is due. -/
theorem out_pass {α : Type} {call : TargetCall} {x : Act Client α} {t : Shared} {a : α} {c : Client}
    (h : x.out t.due = (a, c)) : (pass call x).out t = (a, t.called call c) := by
  show ((x.out t.due).1, t.called call (x.out t.due).2) = _
  rw [h]

end Shared

/-- A database on which others work answers every statement as well. -/
theorem steady_shared : Steady fun _ : Shared => True where
  setAutocommit _ _ _ := trivial
  commit _ := trivial
  rollback _ := trivial
  openChannel _ := trivial
  send _ _ _ _ _ := trivial
  closeChannel _ _ _ := trivial
  answers channel header payload t _ := steady_client.answers channel header payload (t := t.due) trivial

/-! ## Single calls -/

namespace Shared

variable {n channel : Nat} {closed : Bool} {f : Format} {S S' : Session} {t t' t'' : Shared} {p : Policy}

/-- The client works on connection `n` with a format `f`, has a channel, and sees a session `S`. -/
def Sees (n channel : Nat) (closed : Bool) (f : Format) (S : Session) (t : Shared) : Prop :=
  ∃ C, t.client.At n channel closed f C S

/-- The calls that lead from `t` to `t'` are idle. -/
structure Idles (t t' : Shared) : Prop where
  calls : ∃ late, t'.journal = t.journal ++ late ∧ ∀ e ∈ late, e.Idle
  catalog : t.client.database.catalog.Extends t'.client.database.catalog

theorem Idles.refl (t : Shared) : Idles t t := ⟨⟨[], (append_nil _).symm, forall_mem_nil _⟩, Catalog.Extends.refl _⟩

theorem Idles.trans (h : Idles t t') (h' : Idles t' t'') : Idles t t'' := by
  obtain ⟨late, hjournal, hidle⟩ := h.calls
  obtain ⟨late', hjournal', hidle'⟩ := h'.calls
  refine ⟨⟨late ++ late', by rw [hjournal', hjournal, append_assoc], ?_⟩, h.catalog.trans h'.catalog⟩
  intro e he
  rcases mem_append.mp he with he | he
  · exact hidle e he
  · exact hidle' e he

theorem Idles.quiet (h : Idles t t') (ht : t.Quiet) : t'.Quiet := by
  obtain ⟨late, hjournal, hidle⟩ := h.calls
  intro e he
  rw [hjournal] at he
  rcases mem_append.mp he with he | he
  · exact ht e he
  · exact (hidle e he).quiet

theorem Idles.accepted (h : Idles t t') (n : Nat) (table : String) : t'.accepted n table = t.accepted n table := by
  obtain ⟨late, hjournal, hidle⟩ := h.calls
  unfold Shared.accepted
  rw [hjournal, flatMap_append, append_right_eq_self, flatMap_eq_nil_iff]
  exact fun e he => (hidle e he).accepted n table

/-- Others do not touch the session and the channel before a call. -/
theorem Sees.due (h : t.Sees n channel closed f S) :
    t.client.database.catalog.Extends t.due.database.catalog ∧ ∃ C, t.due.At n channel closed f C S := by
  obtain ⟨C, h⟩ := h
  obtain ⟨C', hextends, hat⟩ := h.meanwhile (t.schedule.headD [])
  rw [← h.number] at hat
  constructor
  · rw [h.catalog, show t.due.database.catalog = C' from hat.catalog]
    exact hextends
  · rw [← h.number]
    exact ⟨C', hat⟩

/-- A call for control that leaves the catalog alone is idle. -/
theorem Sees.pass {α : Type} {closed' : Bool} (h : t.Sees n channel closed f S) {call : TargetCall}
    {x : Act Client α} {a : α} (hcall : ∀ header payload, call ≠ .send header payload)
    (hx : ∀ {C : Catalog}, t.due.At n channel closed f C S →
      ∃ c, x.out t.due = (a, c) ∧ c.At n channel closed' f C S') :
    ∃ c, (Shared.pass call x).out t = (a, t.called call c) ∧ t.Idles (t.called call c) ∧
      (t.called call c).Sees n channel closed' f S' := by
  obtain ⟨hextends, C, hdue⟩ := h.due
  obtain ⟨c, hout, hat⟩ := hx hdue
  have hsame : c.database.catalog = t.due.database.catalog := hat.catalog.trans hdue.catalog.symm
  refine ⟨c, out_pass hout, ⟨⟨[⟨call, t.due.database, c.database⟩], rfl, ?_⟩, ?_⟩, C, hat⟩
  · intro e he
    rw [mem_singleton.mp he]
    exact Entry.Idle.of_control hsame hcall
  · show t.client.database.catalog.Extends c.database.catalog
    rw [hsame]
    exact hextends

theorem Sees.rollback (h : t.Sees n channel closed f S) : ∃ c,
    (Target.rollback : Act Shared _).out t = (.ok (), t.called .rollback c) ∧ t.Idles (t.called .rollback c) ∧
      (t.called .rollback c).Sees n channel closed f S.discard :=
  h.pass nofun fun hat => hat.rollback

theorem Sees.closeChannel (h : t.Sees n channel closed f S) : ∃ c,
    (Target.closeChannel channel : Act Shared _).out t = (.ok (), t.called .closeChannel c) ∧
      t.Idles (t.called .closeChannel c) ∧ (t.called .closeChannel c).Sees n channel true f S :=
  h.pass nofun fun hat => hat.closeChannel

/-- Unless a transaction has to be committed, the mode is all that is switched. -/
theorem Sees.switch (h : t.Sees n channel closed f S) (on : Bool)
    (hidle : (on && !S.autocommit && S.inTransaction) = false) : ∃ t',
    (Policy.switch on : Act Shared _).out t = (.ok (), t') ∧ t.Idles t' ∧
      t'.Sees n channel closed f { S with autocommit := on } := by
  obtain ⟨c, hout, hidles, hsees⟩ : ∃ c, (Target.setAutocommit on : Act Shared _).out t =
      (.ok (), t.called (.setAutocommit on) c) ∧ t.Idles (t.called (.setAutocommit on) c) ∧
        (t.called (.setAutocommit on) c).Sees n channel closed f { S with autocommit := on } :=
    h.pass nofun fun hat => hat.setAutocommit_idle on hidle
  refine ⟨_, ?_, hidles, hsees⟩
  unfold Policy.switch
  rw [Act.out_bind, hout]
  rfl

/-- Opening a channel is an idle call, also when it fails. -/
theorem openChannel (d : Database) {n : Nat} (hn : n < d.connections.length) (schedule : List (List Database.Op)) :
    let t : Shared := ⟨⟨d, n⟩, schedule, []⟩
    ∃ r t', (Target.openChannel : Act Shared _).out t = (r, t') ∧ t.Idles t' ∧
      t'.client.database.session n = d.session n ∧
      ∀ channel, r = .ok channel → t'.Sees n channel false (d.connection n).format (d.session n) := by
  intro t
  have hspares := Database.spares_meanwhile n d (schedule.headD [])
  have hdue : t.due = ⟨d.meanwhile n (schedule.headD []), n⟩ := rfl
  -- The call leaves the catalog and the connections alone.
  have hout : ∃ r c, (Target.openChannel : Act Client _).out t.due = (r, c) ∧
      c.database.catalog = t.due.database.catalog ∧ c.database.connections = t.due.database.connections := by
    rw [hdue, Client.out_openChannel]
    split
    · exact ⟨_, _, rfl, rfl, rfl⟩
    · exact ⟨_, _, rfl, rfl, rfl⟩
  obtain ⟨r, c, hopen, hcatalog, hconnections⟩ := hout
  refine ⟨r, _, out_pass hopen, ⟨⟨[⟨.openChannel, t.due.database, c.database⟩], rfl, ?_⟩, ?_⟩, ?_, ?_⟩
  · intro e he
    rw [mem_singleton.mp he]
    exact Entry.Idle.of_control hcatalog nofun
  · show d.catalog.Extends c.database.catalog
    rw [hcatalog]
    exact hspares.catalog
  · exact (congrArg Connection.session (Client.connection_eq _ hconnections n)).trans (hspares.session hn)
  · rintro channel rfl
    rw [hdue] at hopen
    obtain ⟨_, _, hat⟩ := Client.at_openChannel hopen
    rw [hspares.connection hn, hspares.session hn] at hat
    exact ⟨_, hat⟩

/-! ## Long transactions -/

/-- Acquiring the policy of a long transaction only switches autocommit off. -/
theorem Sees.acquire_long (h : t.Sees n channel closed f S) {o : Options} (hlong : o.longTransaction = true) :
    ∃ t', (Policy.acquire o).out t =
        (.ok { mode := .longTransaction o.commitOnClose, previous := S.autocommit }, t') ∧ t.Idles t' ∧
      t'.Sees n channel closed f { S with autocommit := false } := by
  have hprevious : Target.autocommit t = S.autocommit := by
    obtain ⟨C, h⟩ := h
    rw [← h.session, ← h.number]
    rfl
  have hswitch : ∃ t', (Policy.switchTo false : Act Shared _).out t = (.ok (), t') ∧ t.Idles t' ∧
      t'.Sees n channel closed f { S with autocommit := false } := by
    unfold Policy.switchTo
    rw [Act.out_bind, Act.out_ask, hprevious]
    simp only
    split
    · next hoff =>
      refine ⟨t, rfl, Idles.refl t, ?_⟩
      rw [← hoff]
      exact h
    · exact h.switch false rfl
  obtain ⟨t', hout, hidles, hsees⟩ := hswitch
  refine ⟨t', ?_, hidles, hsees⟩
  rw [Policy.out_acquire_long hlong, hout, hprevious]
  rfl

/-- When nothing is staged any more, the end of a long transaction only gives the connection its mode back. -/
theorem Sees.restoreLong (h : t.Sees n channel closed f S.discard) (p : Policy) (hoff : S.autocommit = false) :
    ∃ t', (p.restoreLong : Act Shared _).out t = (.ok (), t') ∧ t.Idles t' ∧
      t'.Sees n channel closed f { autocommit := p.previous } := by
  unfold Policy.restoreLong
  cases hprevious : p.previous with
  | false =>
    refine ⟨t, rfl, Idles.refl t, ?_⟩
    rw [← hoff]
    exact h
  | true =>
    rw [if_pos rfl]
    exact h.switch true (by rw [(Session.clean_discard S).inTransaction, Bool.and_false])

/-- **Giving up a long transaction** takes idle calls only and leaves nothing staged. -/
theorem Sees.close_failure (h : t.Sees n channel closed f S) {commitOnClose : Bool}
    (hmode : p.mode = .longTransaction commitOnClose) (hoff : S.autocommit = false) :
    ∃ t', (p.close .failure).out t = (.ok (), t') ∧ t.Idles t' ∧
      t'.Sees n channel closed f { autocommit := p.previous } := by
  obtain ⟨c, hrollback, hidles, hsees⟩ := h.rollback
  obtain ⟨t', hrestore, hidles', hsees'⟩ := hsees.restoreLong p hoff
  rw [Policy.out_close_failure hmode, hrollback]
  exact ⟨t', hrestore, hidles.trans hidles', hsees'⟩

/-- The call is a commit that publishes all that is staged. -/
structure Entry.Publishes (staged : List (String × Rows)) (e : Entry) : Prop where
  call : e.call = .commit
  catalog : e.after.catalog = e.before.catalog.publishAll staged

/-- **Committing a long transaction** publishes all that is staged with a single call, behind which only idle calls
follow. If it fails, all calls were idle and nothing is left staged. -/
theorem Sees.close_commit (h : t.Sees n channel closed f S) (hmode : p.mode = .longTransaction true)
    (hoff : S.autocommit = false) :
    (∃ c t', (p.close .success).out t = (.ok (), t') ∧
      Entry.Publishes S.staged ⟨.commit, t.due.database, c.database⟩ ∧ (t.called .commit c).Idles t' ∧
      t'.Sees n channel closed f { autocommit := p.previous }) ∨
    ∃ e t', (p.close .success).out t = (.error e, t') ∧ t.Idles t' ∧
      t'.Sees n channel closed f { autocommit := p.previous } := by
  obtain ⟨_, C, hdue⟩ := h.due
  rw [Policy.out_close_commit hmode]
  cases hconflict : C.conflict? S.staged with
  | none =>
    obtain ⟨c, hcommit, hat⟩ := hdue.commit hconflict
    have hout : (Target.commit : Act Shared _).out t = (.ok (), t.called .commit c) := out_pass hcommit
    have hsees : (t.called .commit c).Sees n channel closed f S.discard := ⟨_, hat⟩
    obtain ⟨t', hrestore, hidles, hsees'⟩ := hsees.restoreLong p hoff
    rw [hout]
    refine Or.inl ⟨c, t', hrestore, ⟨rfl, ?_⟩, hidles, hsees'⟩
    show c.database.catalog = t.due.database.catalog.publishAll S.staged
    rw [hat.catalog, hdue.catalog]
  | some k =>
    obtain ⟨c₁, hout, hidles₁, hsees₁⟩ : ∃ c, (Target.commit : Act Shared _).out t =
        (.error k.report, t.called .commit c) ∧ t.Idles (t.called .commit c) ∧
          (t.called .commit c).Sees n channel closed f S.discard := by
      refine h.pass nofun fun hat => hat.commit_of_conflict ?_
      rw [← hat.catalog, hdue.catalog]
      exact hconflict
    obtain ⟨c₂, hrollback, hidles₂, hsees₂⟩ := hsees₁.rollback
    obtain ⟨t', hrestore, hidles₃, hsees₃⟩ := hsees₂.restoreLong p hoff
    rw [hout]
    simp only [hrollback, hrestore]
    exact Or.inr ⟨_, t', rfl, (hidles₁.trans hidles₂).trans hidles₃, hsees₃⟩

end Shared

end BulkLoad
