import BulkLoad.Proofs.Database.Transactions

/-!
# Serial replay

Whatever operations any number of connections have run, interleaved in any way: if no statement has skipped a row, then
the committed rows are those of a fresh database on which all tables are created first and the transactions are then run
one after the other, in the order of their commits (`Database.serial`). Nothing is left of transactions that have been
given up or have failed. In this replay every statement and every commit succeeds, and the statements are acknowledged
as they have been (`Database.serial_replay`).
-/

namespace BulkLoad

open List

namespace Database

/-! ## The replay of a history -/

/-- The table that an operation creates, if it does. -/
def Op.created (d : Database) : Op → List TableDef
  | .createTable t => if (Database.createTable t d).value.isOk then [t] else []
  | _ => []

/-- The tables that operations create. -/
def created (d : Database) : List Op → List TableDef
  | [] => []
  | op :: ops => op.created d ++ created (op.apply d) ops

/-- A transaction as connection `n` runs it through channel `n`: it sends the statements and commits them. Behind each
operation stands what should be answered. -/
def scriptOf (n : Nat) (x : Transaction) : List (Op × Answer) :=
  [(.connect x.format true, .connected n), (.openChannel n, .opened (.ok n)),
    (.setAutocommit n false, .done (.ok ()))] ++
  (x.sent.map fun a => (.send n a.header a.payload, .sent (.ok a.ack))) ++
  [(.commit n, .done (.ok ()))]

/-- Transactions run one after the other, each by a connection of its own, the first of which has number `n`. -/
def script (n : Nat) : List Transaction → List (Op × Answer)
  | [] => []
  | x :: xs => scriptOf n x ++ script (n + 1) xs

/-- The serial replay of a history: first the tables are created, then the transactions are run in the order of their
commits. -/
def serial (ops : List Op) : List (Op × Answer) :=
  ((created {} ops).map fun t => (.createTable t, .done (.ok ()))) ++ script 0 (transactions {} (fun _ => []) ops)

/-! ## Answered operations -/

/-- The operations are answered as they should be, and lead to `d'`. -/
structure Repeats (d : Database) (steps : List (Op × Answer)) (d' : Database) : Prop where
  answers : d.answers (steps.map Prod.fst) = steps.map Prod.snd
  after : d.after (steps.map Prod.fst) = d'

variable {d d' d'' : Database} {n : Nat} {f : Format} {C : Catalog} {S : Session}

theorem repeats_nil (d : Database) : d.Repeats [] d := ⟨rfl, rfl⟩

theorem Repeats.cons {op : Op} {a : Answer} {steps : List (Op × Answer)} (ha : op.answer d = a)
    (hd : op.apply d = d') (h : d'.Repeats steps d'') : d.Repeats ((op, a) :: steps) d'' := by
  subst hd
  constructor
  · rw [map_cons, map_cons, Database.answers, ha, h.answers]
  · exact h.after

theorem Repeats.append {xs ys : List (Op × Answer)} (h : d.Repeats xs d') (h' : d'.Repeats ys d'') :
    d.Repeats (xs ++ ys) d'' := by
  have hafter : (xs.map Prod.fst).foldl Op.apply d = d' := h.after
  constructor
  · rw [map_append, map_append, answers_append, h.answers, hafter, h'.answers]
  · rw [map_append, Database.after, foldl_append, hafter]
    exact h'.after

/-! ## Tables -/

/-- A change of a connection creates no table. -/
theorem Change.bare (h : Change n d d') : d'.catalog.bare = d.catalog.bare := by
  obtain ⟨C, S, rfl, rfl | rfl⟩ := h.exists_put
  · rfl
  · exact Catalog.bare_publishAll _ _

theorem bare_of_changes (h : Changes n d d') : d'.catalog.bare = d.catalog.bare := by
  induction h with
  | refl => rfl
  | tail _ hchange ih => rw [hchange.bare, ih]

/-- An operation creates a table, or it leaves the declarations alone. -/
theorem created_cases (d : Database) (op : Op) :
    (op.created d = [] ∧ (op.apply d).catalog.bare = d.catalog.bare) ∨
      ∃ t, op.created d = [t] ∧ d.catalog.create t = .ok (op.apply d).catalog := by
  cases op with
  | createTable t =>
    show ((if (Act.out (Database.createTable t) d).1.isOk then [t] else []) = [] ∧
      (Act.out (Database.createTable t) d).2.catalog.bare = _) ∨
      ∃ t', (if (Act.out (Database.createTable t) d).1.isOk then [t] else []) = [t'] ∧
        _ = Except.ok (Act.out (Database.createTable t) d).2.catalog
    rw [out_createTable]
    cases hcreate : d.catalog.create t with
    | error e => exact Or.inl ⟨rfl, rfl⟩
    | ok C => exact Or.inr ⟨t, rfl, hcreate⟩
  | connect format allowsBulk => exact Or.inl ⟨rfl, rfl⟩
  | openChannel n =>
    refine Or.inl ⟨rfl, ?_⟩
    show (Act.out (Database.openChannel n) d).2.catalog.bare = _
    rw [out_openChannel]
    split <;> rfl
  | closeChannel channel => exact Or.inl ⟨rfl, rfl⟩
  | setAutocommit n on => exact Or.inl ⟨rfl, bare_of_changes (changes_setAutocommit n d on)⟩
  | commit n => exact Or.inl ⟨rfl, Change.bare (.commit (n := n))⟩
  | rollback n => exact Or.inl ⟨rfl, Change.bare (.rollback (n := n))⟩
  | send channel header payload =>
    refine Or.inl ⟨rfl, ?_⟩
    show (Act.out (Database.send channel header payload) d).2.catalog.bare = _
    rcases changes_send d channel header payload with hsame | ⟨n, _, hchanges⟩
    · rw [hsame]
    · exact bare_of_changes hchanges

/-- **The tables can be created first.** -/
theorem repeats_created : ∀ (ops : List Op) {d r : Database}, r.catalog = d.catalog.bare →
    ∃ r', r.Repeats ((created d ops).map fun t => (.createTable t, .done (.ok ()))) r' ∧
      r'.catalog = (d.after ops).catalog.bare ∧ r'.connections = r.connections ∧ r'.channels = r.channels
  | [], d, r, h => ⟨r, repeats_nil r, h, rfl, rfl⟩
  | op :: ops, d, r, h => by
    rw [created]
    rcases created_cases d op with ⟨hnone, hbare⟩ | ⟨t, hcreated, hcreate⟩
    · rw [hnone]
      exact repeats_created ops (h.trans hbare.symm)
    · have hagain : r.catalog.create t = .ok (op.apply d).catalog.bare := by
        rw [h]
        exact Catalog.create_bare hcreate
      have hout : Act.out (Database.createTable t) r = (.ok (), { r with catalog := (op.apply d).catalog.bare }) := by
        rw [out_createTable, hagain]
      obtain ⟨r', hrepeats, hr'⟩ :=
        repeats_created ops (d := op.apply d) (r := { r with catalog := (op.apply d).catalog.bare }) rfl
      rw [hcreated]
      have hanswer : Answer.done (Database.createTable t r).value = .done (.ok ()) :=
        congrArg (fun out => Answer.done out.1) hout
      exact ⟨r', hrepeats.cons hanswer (congrArg Prod.snd hout), hr'⟩

/-! ## Transactions -/

/-- Connection `n` is the last one and has the last channel, which has the same number. -/
structure Last (n : Nat) (f : Format) (C : Catalog) (S : Session) (d : Database) : Prop where
  client : Client.At n n false f C S ⟨d, n⟩
  connections : d.connections.length = n + 1
  channels : d.channels.length = n + 1

theorem Last.put (h : Last n f C S d) (C' : Catalog) (S' : Session) : Last n f C' S' (d.put n C' S') where
  client := h.client.put rfl rfl rfl
  connections := by rw [length_connections_put, h.connections]
  channels := by rw [channels_put, h.channels]

/-- A connection that is opened with a channel, and does not commit by itself. -/
theorem repeats_open (hcatalog : d.catalog = C) (hconnections : d.connections.length = n)
    (hchannels : d.channels.length = n) : ∃ d',
      d.Repeats [(.connect f true, .connected n), (.openChannel n, .opened (.ok n)),
        (.setAutocommit n false, .done (.ok ()))] d' ∧ Last n f C { autocommit := false } d' := by
  subst hconnections
  let d₁ : Database := { d with connections := d.connections ++ [⟨f, true, {}⟩] }
  let d₂ : Database := { d₁ with channels := d.channels ++ [{ connection := d.connections.length }] }
  have hlast : Last d.connections.length f C {} d₂ := by
    refine ⟨⟨rfl, ?_, ?_, ?_, hcatalog, ?_⟩, ?_, ?_⟩
    all_goals simp [d₂, d₁, session, connection, ← hchannels]
  have hopen : Act.out (Database.openChannel d.connections.length) d₁ = (.ok d.connections.length, d₂) := by
    rw [out_openChannel, if_pos (by simp [d₁, connection])]
    simp only [d₁, d₂, hchannels]
  have hset : Act.out (Database.setAutocommit d.connections.length false) d₂ =
      (.ok (), d₂.put d.connections.length C { autocommit := false }) := by
    rcases setAutocommit_cases d₂ d.connections.length false with ⟨_, hout⟩ | ⟨⟨hon, _⟩, _⟩
    · rw [hout, hlast.client.session, ← hlast.client.catalog]
    · cases hon
  refine ⟨_, ?_, hlast.put C { autocommit := false }⟩
  have hopened : Answer.opened (Database.openChannel d.connections.length d₁).value = .opened (.ok _) :=
    congrArg (fun out => Answer.opened out.1) hopen
  have hdone : Answer.done (Database.setAutocommit d.connections.length false d₂).value = .done (.ok ()) :=
    congrArg (fun out => Answer.done out.1) hset
  have hsets : d₂.Repeats [(.setAutocommit d.connections.length false, .done (.ok ()))] _ :=
    (repeats_nil _).cons hdone (congrArg Prod.snd hset)
  have hopens : d₁.Repeats ((.openChannel d.connections.length, .opened (.ok d.connections.length)) :: _) _ :=
    hsets.cons hopened (congrArg Prod.snd hopen)
  exact hopens.cons rfl rfl

/-- Statements that can be executed are acknowledged as they have been. -/
theorem Last.sends {xs : List Acknowledged} {S' : Session} (hexecutes : C.Executes f S xs S') :
    ∀ {d : Database}, Last n f C S d → S.autocommit = false → ∃ d',
      d.Repeats (xs.map fun a => (.send n a.header a.payload, .sent (.ok a.ack))) d' ∧ Last n f C S' d' := by
  induction hexecutes with
  | nil => exact fun {d} h _ => ⟨d, repeats_nil d, h⟩
  | @cons S S' x xs dest hread hvalue _ ih =>
    intro d h hmode
    have hput (S : Session) : d.setSession n S = d.put n C S := by
      rw [← h.client.catalog]
      rfl
    have hout : Act.out (Database.send n x.header x.payload) d =
        (.ok x.ack, d.put n C (C.load S f dest x.payload).state) := by
      rw [out_send_of_open _ _ h.client.channel, out_runStatement _ (h.client.format ▸ hread), h.client.out_load,
        h.client.session, hmode, hvalue, hput]
      rfl
    obtain ⟨d', hrepeats, hlast⟩ := ih (h.put C _) ((Catalog.autocommit_load ..).trans hmode)
    have hanswer : Answer.sent (Database.send n x.header x.payload d).value = .sent (.ok x.ack) :=
      congrArg (fun out => Answer.sent out.1) hout
    exact ⟨d', hrepeats.cons hanswer (congrArg Prod.snd hout), hlast⟩

/-- **A transaction that meets no conflict** is answered as it should be, when a connection of its own runs it. -/
theorem repeats_scriptOf {x : Transaction} (hcatalog : d.catalog = C) (hconnections : d.connections.length = n)
    (hchannels : d.channels.length = n) (hexecutes : C.Executes x.format { autocommit := false } x.sent S)
    (hconflict : C.conflict? S.staged = none) : ∃ d', d.Repeats (scriptOf n x) d' ∧
      d'.catalog = C.publishAll S.staged ∧ d'.connections.length = n + 1 ∧ d'.channels.length = n + 1 := by
  obtain ⟨d₁, hopens, hlast⟩ := repeats_open (f := x.format) hcatalog hconnections hchannels
  obtain ⟨d₂, hsends, hlast⟩ := Last.sends hexecutes hlast rfl
  have hcommit := hlast.client.out_commit hconflict
  have hlast' : Last n x.format (C.publishAll S.staged) S.discard (d₂.put n (C.publishAll S.staged) S.discard) :=
    hlast.put _ _
  have hdone : Answer.done (Database.commit n d₂).value = .done (.ok ()) :=
    congrArg (fun out => Answer.done out.1) hcommit
  refine ⟨_, (hopens.append hsends).append ((repeats_nil _).cons hdone (congrArg Prod.snd hcommit)), ?_⟩
  exact ⟨rfl, hlast'.connections, hlast'.channels⟩

/-- Transactions that can be run one after the other are answered as they should be. -/
theorem repeats_script {xs : List Transaction} {C' : Catalog} (h : C.Serial xs C') : ∀ {n : Nat} {d : Database},
    d.catalog = C → d.connections.length = n → d.channels.length = n →
      ∃ d', d.Repeats (script n xs) d' ∧ d'.catalog = C' := by
  induction h with
  | nil => exact fun {n d} hcatalog _ _ => ⟨d, repeats_nil d, hcatalog⟩
  | cons hexecutes hconflict _ ih =>
    intro n d hcatalog hconnections hchannels
    obtain ⟨d₁, hfirst, hcatalog₁, hconnections₁, hchannels₁⟩ :=
      repeats_scriptOf hcatalog hconnections hchannels hexecutes hconflict
    obtain ⟨d₂, hrest, hcatalog₂⟩ := ih hcatalog₁ hconnections₁ hchannels₁
    exact ⟨d₂, hfirst.append hrest, hcatalog₂⟩

/-- **Committed state is a serial replay in commit order.** If no statement has skipped a row, then all that is replayed
succeeds, the statements with the acknowledgements that they have had, and the tables hold the same rows in the end. -/
theorem serial_replay (ops : List Op) (h : ∀ a, .sent (.ok a) ∈ answers {} ops → a.warnings = 0) :
    answers {} ((serial ops).map Prod.fst) = (serial ops).map Prod.snd ∧
      ∀ table, (after {} ((serial ops).map Prod.fst)).rows? table = (after {} ops).rows? table := by
  have hreplays : Catalog.Replays {} (transactions {} (fun _ => []) ops) (after {} ops).catalog :=
    tracks_initial.run .initial h
  obtain ⟨d₁, hcreates, hcatalog₁, hconnections, hchannels⟩ :=
    repeats_created ops (d := {}) (r := {}) rfl
  obtain ⟨C, hserial, hcompletes⟩ := hreplays.serial (Catalog.Extends.refl _) (Catalog.completes_bare _)
  obtain ⟨d₂, hruns, hcatalog₂⟩ := repeats_script hserial hcatalog₁ (n := 0) (by rw [hconnections]; rfl)
    (by rw [hchannels]; rfl)
  have hrepeats : Repeats {} (serial ops) d₂ := hcreates.append hruns
  refine ⟨hrepeats.answers, fun table => ?_⟩
  have hrows := hcompletes.rows? table
  rw [← hcatalog₂] at hrows
  rw [hrepeats.after]
  exact hrows

/-- Two connections take turns. Both stage a team of the same number, so that the second one cannot commit its own; it
gives up a member, and then adds another one behind a member that the first connection has committed under
autocommit. -/
def turns : List Op :=
  [.createTable teamTable, .connect .copy true, .connect .copy true, .openChannel 0, .openChannel 1,
    .setAutocommit 0 false, .setAutocommit 1 false, sendTeams 0 .copy "1\n2\n", .createTable memberTable,
    sendTeams 1 .copy "2\n3\n", .commit 0, .commit 1, sendMembers 1 .copy "11\t1\t\\N\n", .rollback 1,
    sendMembers 1 .copy "12\t2\t\\N\n", .setAutocommit 0 true, sendMembers 0 .copy "13\t1\t\\N\n", .commit 1]

/-- No statement of theirs has skipped a row, and each of the transactions that have been committed is replayed. -/
theorem serial_replay_turns : (∀ a, .sent (.ok a) ∈ answers {} turns → a.warnings = 0) ∧
    ((transactions {} (fun _ => []) turns).map fun x => x.sent.map fun a => a.ack.rows) = [[2], [], [1], [1]] ∧
    (after {} turns).rows? "team" = some [[.int 1], [.int 2]] ∧
    (after {} turns).rows? "member" = some [[.int 13, .int 1, .null], [.int 12, .int 2, .null]] ∧
    answers {} ((serial turns).map Prod.fst) = (serial turns).map Prod.snd ∧
      ∀ table, (after {} ((serial turns).map Prod.fst)).rows? table = (after {} turns).rows? table := by
  have hheld : ((answers {} turns).all (fun a => a.skipped == 0),
      ((transactions {} (fun _ => []) turns).map fun x => x.sent.map fun a => a.ack.rows),
      (after {} turns).rows? "team", (after {} turns).rows? "member") =
      (true, [[2], [], [1], [1]], some [[.int 1], [.int 2]],
        some [[.int 13, .int 1, .null], [.int 12, .int 2, .null]]) := by decide +kernel
  simp only [Prod.mk.injEq] at hheld
  obtain ⟨hall, htransactions, hteams, hmembers⟩ := hheld
  have hwarnings : ∀ a, .sent (.ok a) ∈ answers {} turns → a.warnings = 0 := fun a ha =>
    beq_iff_eq.mp (all_eq_true.mp hall _ ha)
  exact ⟨hwarnings, htransactions, hteams, hmembers, serial_replay turns hwarnings⟩

end Database

end BulkLoad
