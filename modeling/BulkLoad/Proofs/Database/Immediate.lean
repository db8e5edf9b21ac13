import BulkLoad.Proofs.Database.Answers
import BulkLoad.Proofs.Database.Declared
import BulkLoad.Proofs.Database.Records

/-!
# Sessions in autocommit

A session in autocommit holds nothing back. In a reachable database nothing is staged in it, so that the rows of a
statement that it runs have new keys and can be committed at once (`Database.commit_load`): the statement fails and
changes nothing, or the rows that it accepts stand behind those of its table (`Database.send_published`). What
fails to be committed in another session is given up (`Database.Aborted`).

`Database.autocommit_holds_nothing` puts this together.
-/

namespace BulkLoad

open List

namespace Catalog

variable {c : Catalog} {s : Session} {f : Format} {dest : Destination} {payload : Bytes} {a : Ack}

/-- The rows are those that a statement accepts: they are read from lines of its payload, in their order, and the
answer counts them and the lines that are skipped. -/
structure Yields (c : Catalog) (f : Format) (dest : Destination) (payload : Bytes) (a : Ack) (rows : List Row) :
    Prop where
  count : a.rows = rows.length
  lines : ∃ t ps raws kept, c.find? dest.table = some t ∧ positions t.definition dest.columns = .ok ps ∧
    readPayload f payload = .ok raws ∧ a.rows + a.warnings = raws.length ∧ kept <+ raws ∧
    Forall₂ (fun raw row => ∀ line, decodeRow f t.definition ps line raw = .ok row) kept rows

/-- A statement that succeeds stages the rows that it accepts. Their keys are not committed yet. -/
theorem yields_of_load (h : (c.load s f dest payload).value = .ok a) :
    ∃ A : Rows, c.Yields f dest payload a A.rows ∧ (c.load s f dest payload).state = s.stage dest.table A ∧
      ∀ k ∈ A.keys, k ∉ c.keysOf dest.table := by
  obtain ⟨t, ps, raws, hloads⟩ := loads_of_load h
  obtain ⟨hvalue, hstate⟩ := hloads.load
  have hname : t.definition.name = dest.table := name_of_find? hloads.table
  rw [hvalue] at h
  cases h
  have hcount := count_scan raws {} 1 hloads.succeeds
  obtain ⟨kept, rows, hkept, hrows, hall⟩ := kept_scan raws {} 1 hloads.succeeds
  have hzero : Rows.count {} = 0 := rfl
  refine ⟨_, ⟨rfl, t, ps, raws, kept, hloads.table, hloads.positions, hloads.lines, by simp only; omega, hkept, ?_⟩,
    hstate.trans (by rw [hname]), ?_⟩
  · rw [hrows, nil_append]
    exact hall
  · intro k hk hmem
    refine keys_scan f t.definition ps raws {} 1 (forall_mem_nil _) k hk ?_
    rw [visibleKeys, hname]
    exact mem_append_left _ hmem

end Catalog

namespace Database

variable {d : Database} {n : Nat}

/-! ## Statements -/

/-- In a reachable database nothing is staged in a session in autocommit. -/
theorem Reachable.clean (h : d.Reachable) (hmode : (d.session n).autocommit = true) : (d.session n).Clean :=
  (h.kept n).autocommit hmode

/-- **What a clean session has just run can be committed.** -/
theorem commit_load (hclean : (d.session n).Clean) (hlt : n < d.connections.length) {dest : Destination} {payload : Bytes}
    {a : Ack} (h : (load n dest payload d).value = .ok a) : (commit n (load n dest payload d).state).value = .ok () := by
  have hload : ∃ a, (d.catalog.load (d.session n) (d.connection n).format dest payload).value = .ok a := by
    change Except.mapError _ (d.catalog.load (d.session n) (d.connection n).format dest payload).value = _ at h
    revert h
    cases (d.catalog.load (d.session n) (d.connection n).format dest payload).value with
    | error e => exact nofun
    | ok a => exact fun _ => ⟨a, rfl⟩
  obtain ⟨a, hload⟩ := hload
  obtain ⟨A, _, hstate, hnew⟩ := Catalog.yields_of_load hload
  have hcommit := out_commit (d.put n d.catalog ((d.session n).stage dest.table A)) n
  rw [session_put, if_pos ⟨rfl, hlt⟩, catalog_put,
    show ((d.session n).stage dest.table A).staged = Session.stageIn dest.table A (d.session n).staged from rfl,
    Catalog.conflict?_stageIn hnew hclean] at hcommit
  have hput : (load n dest payload d).state = d.put n d.catalog ((d.session n).stage dest.table A) :=
    congrArg (d.put n d.catalog) hstate
  rw [hput]
  exact congrArg Prod.fst hcommit

/-- The statement has been published: its rows stand behind those of its table, and nothing else has changed in any
table or in what is staged. -/
structure Published (d : Database) (n : Nat) (header : String) (payload : Bytes) (a : Ack) (d' : Database) : Prop where
  rows : ∃ dest rows, Destination.read? (d.connection n).format header = some dest ∧
    d.catalog.Yields (d.connection n).format dest payload a rows ∧
    ∀ x, d'.rows? x = if x = dest.table then (d.rows? x).map (· ++ rows) else d.rows? x
  staged : ∀ m x, (d'.session m).stagedFor x = (d.session m).stagedFor x

/-- **A statement of a session in autocommit fails and changes nothing, or it is published.** -/
theorem send_published (h : d.Reachable) {channel : Nat} (hopen : d.channels[channel]? = some ⟨n, false⟩)
    (hmode : (d.session n).autocommit = true) (header : String) (payload : Bytes) :
    (∃ e, Act.out (send channel header payload) d = (.error e, d)) ∨
      ∃ a d', Act.out (send channel header payload) d = (.ok a, d') ∧ d.Published n header payload a d' := by
  have hclean := h.clean hmode
  have hlt : n < d.connections.length := h.owned channel _ hopen
  rw [out_send_of_open header payload hopen]
  rcases runStatement_cases hlt header payload with herror | ⟨dest, a, S, hread, hvalue, hstate, hran⟩
  · exact Or.inl herror
  obtain ⟨A, hyields, hstaged, hnew⟩ := Catalog.yields_of_load hvalue
  rw [hstate] at hstaged
  subst hstaged
  have hnone : d.catalog.conflict? ((d.session n).stage dest.table A).staged = none :=
    Catalog.conflict?_stageIn hnew hclean
  have hpublish : d.catalog.publishAll ((d.session n).stage dest.table A).staged = d.catalog.publish dest.table A :=
    Catalog.publishAll_stageIn A d.catalog hclean
  rcases hran with ⟨hoff, _⟩ | ⟨_, ⟨_, hout⟩ | ⟨e, hout⟩⟩
  · rw [hmode] at hoff
    cases hoff
  · refine Or.inr ⟨a, _, hout, ⟨dest, A.rows, hread, hyields, ?_⟩, ?_⟩
    · intro x
      show (d.catalog.publishAll _).rows? x = if x = dest.table then (d.catalog.rows? x).map _ else d.catalog.rows? x
      rw [hpublish]
      split
      · next hx => rw [hx, Catalog.rows?_publish_self]
      · next hx => rw [Catalog.rows?, Catalog.find?_publish_ne A hx, Catalog.rows?]
    · intro m x
      rw [session_put]
      split
      · next hm => rw [← hm.1, hclean.stagedFor, Session.Clean.stagedFor (Session.clean_discard _)]
      · rfl
  · -- The commit behind the statement would have to fail.
    have hload : (load n dest payload d).value = .ok a := by
      show Except.mapError _ (d.catalog.load (d.session n) (d.connection n).format dest payload).value = _
      rw [hvalue]
      rfl
    have hcommit := commit_load hclean hlt hload
    change (Act.out (commit n) (Act.out (load n dest payload) d).2).1 = _ at hcommit
    change (Act.out (load n dest payload) d).1 = _ at hload
    rw [out_runStatement payload hread] at hout
    generalize Act.out (load n dest payload) d = loaded at hload hcommit hout
    obtain ⟨r, d'⟩ := loaded
    subst hload
    simp only [hmode, if_true, hcommit] at hout
    cases congrArg Prod.fst hout

/-! ## Commits that fail -/

/-- What connection `n` had staged is given up, and nothing else has changed. -/
structure Aborted (n : Nat) (d d' : Database) : Prop where
  rows : ∀ x, d'.rows? x = d.rows? x
  staged : ∀ x, (d'.session n).stagedFor x = {}
  mode : (d'.session n).autocommit = (d.session n).autocommit
  others : ∀ m, m ≠ n → d'.session m = d.session m

theorem aborted_put (n : Nat) (d : Database) : d.Aborted n (d.put n d.catalog (d.session n).discard) := by
  have hsession : (d.put n d.catalog (d.session n).discard).session n = (d.session n).discard := by
    rw [session_put]
    split
    · rfl
    · next hout => rw [session_of_le (Nat.le_of_not_lt fun hlt => hout ⟨rfl, hlt⟩)]; rfl
  refine ⟨fun _ => rfl, fun x => ?_, ?_, fun m hm => ?_⟩
  · rw [hsession, (Session.clean_discard _).stagedFor]
  · rw [hsession]
    rfl
  · rw [session_put, if_neg fun h => hm h.1.symm]

/-- **A commit that fails gives up what is staged.** -/
theorem aborted_of_commit {e : DriverError} (h : (commit n d).value = .error e) : d.Aborted n (commit n d).state := by
  rcases commit_cases d n with ⟨_, hout⟩ | ⟨e', hout⟩
  · cases h.symm.trans (congrArg Prod.fst hout)
  · rw [show (commit n d).state = _ from congrArg Prod.snd hout]
    exact aborted_put n d

/-- **So does a switch of the mode that fails**, which can only be one to autocommit. -/
theorem aborted_of_setAutocommit {on : Bool} {e : DriverError} (h : (setAutocommit n on d).value = .error e) :
    on = true ∧ d.Aborted n (setAutocommit n on d).state := by
  rcases setAutocommit_cases d n on with ⟨_, hout⟩ | ⟨⟨hon, _⟩, ⟨_, hout⟩ | ⟨e', hout⟩⟩
  · cases h.symm.trans (congrArg Prod.fst hout)
  · cases h.symm.trans (congrArg Prod.fst hout)
  · rw [show (setAutocommit n on d).state = _ from congrArg Prod.snd hout]
    exact ⟨hon, aborted_put n d⟩

/-! ## Reachable databases -/

/-- **Sessions in autocommit hold nothing back.** In every reachable database nothing is staged in such a session, so that
what it has run can be committed: a statement fails and changes nothing, or its rows are published at once. A commit or
a switch to autocommit that fails gives up what was staged, and leaves everything else as it was. -/
theorem autocommit_holds_nothing (h : d.Reachable) :
    (∀ n, (d.session n).autocommit = true →
      (d.session n).inTransaction = false ∧ ∀ x, (d.session n).stagedFor x = {}) ∧
    (∀ n channel, d.channels[channel]? = some ⟨n, false⟩ → (d.session n).autocommit = true →
      (∀ dest payload a, (load n dest payload d).value = .ok a →
        (commit n (load n dest payload d).state).value = .ok ()) ∧
      ∀ header payload, (∃ e, Act.out (send channel header payload) d = (.error e, d)) ∨
        ∃ a d', Act.out (send channel header payload) d = (.ok a, d') ∧ d.Published n header payload a d') ∧
    (∀ n e, (commit n d).value = .error e → d.Aborted n (commit n d).state) ∧
    ∀ n on e, (setAutocommit n on d).value = .error e → on = true ∧ d.Aborted n (setAutocommit n on d).state := by
  refine ⟨?_, ?_, fun n e => aborted_of_commit, fun n on e => aborted_of_setAutocommit⟩
  · intro n hmode
    exact ⟨(h.clean hmode).inTransaction, (h.clean hmode).stagedFor⟩
  · intro n channel hopen hmode
    exact ⟨fun _ _ _ => commit_load (h.clean hmode) (h.owned channel _ hopen), send_published h hopen hmode⟩

/-- The connection that has staged member 30 first commits it. A third connection is opened, which is in autocommit. -/
def settled : Database := staffed.after [.commit 0, .connect .loadData true, .openChannel 2]

theorem reachable_settled : settled.Reachable := reachable_staffed.after

/-- The third connection publishes one member at once, and skips another whose team is missing. The second connection
can neither commit its own member 30 nor switch to autocommit. -/
theorem autocommit_holds_nothing_settled :
    let header := String.ofList (statementFor .loadData "member" ["id", "team", "mentor"])
    let payload := Bytes.ofString "40\t1\t30\n41\t9\t\\N\n"
    settled.Reachable ∧ settled.channels[2]? = some ⟨2, false⟩ ∧ (settled.session 2).autocommit = true ∧
      (settled.session 2).inTransaction = false ∧
      (∃ d', Act.out (send 2 header payload) settled = (.ok ⟨1, 1⟩, d') ∧
        settled.Published 2 header payload ⟨1, 1⟩ d') ∧
      ((settled.session 1).stagedFor "member").rows = [[.int 30, .null, .null]] ∧
      (∃ e, (commit 1 settled).value = .error e ∧ settled.Aborted 1 (commit 1 settled).state) ∧
      ∃ e, (setAutocommit 1 true settled).value = .error e ∧
        settled.Aborted 1 (setAutocommit 1 true settled).state := by
  intro header payload
  -- One evaluation gives all that is to be known of the database.
  obtain ⟨hfields, hmode, hsent, hstaged, hcommit, hswitch⟩ :
      settled.channels[2]?.map (fun c => (c.connection, c.closed)) = some (2, false) ∧
      (settled.session 2).autocommit = true ∧
      (Act.out (send 2 header payload) settled).1.toOption = some ⟨1, 1⟩ ∧
      ((settled.session 1).stagedFor "member").rows = [[.int 30, .null, .null]] ∧
      (commit 1 settled).value.toOption = none ∧ (setAutocommit 1 true settled).value.toOption = none := by
    decide +kernel
  have hopen : settled.channels[2]? = some ⟨2, false⟩ := by
    obtain ⟨⟨_, _⟩, hopen, hc⟩ := Option.map_eq_some_iff.1 hfields
    cases hc
    exact hopen
  obtain ⟨hnothing, hsends, hcommits, hswitches⟩ := autocommit_holds_nothing reachable_settled
  refine ⟨reachable_settled, hopen, hmode, (hnothing 2 hmode).1, ?_, hstaged, ?_, ?_⟩
  · rcases (hsends 2 2 hopen hmode).2 header payload with ⟨e, hout⟩ | ⟨a, d', hout, hpublished⟩
    · rw [hout] at hsent
      cases hsent
    · rw [hout] at hsent
      cases hsent
      exact ⟨d', hout, hpublished⟩
  · cases h : (commit 1 settled).value with
    | error e => exact ⟨e, rfl, hcommits 1 e h⟩
    | ok _ => rw [h] at hcommit; cases hcommit
  · cases h : (setAutocommit 1 true settled).value with
    | error e => exact ⟨e, rfl, (hswitches 1 true e h).2⟩
    | ok _ => rw [h] at hswitch; cases hswitch

end Database

end BulkLoad
