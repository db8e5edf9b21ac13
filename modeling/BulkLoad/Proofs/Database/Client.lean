import BulkLoad.Policy
import BulkLoad.Proofs.Database.Reachable

/-!
# A connection at work

What an insert sees of a database is the catalog, the session of its connection and its channel (`Client.At`). There is
one lemma for each operation of the connection, which tells what it answers and how it changes these: `At.commit`,
`At.rollback`, `At.setAutocommit`, `At.closeChannel` and, for a statement in a clean session, `At.send_of_clean`.
-/

namespace BulkLoad

open List

namespace Client

/-- The client works on connection `n` with a format `f`, has a channel, and sees a catalog `C` and a session `S`. -/
structure At (n channel : Nat) (closed : Bool) (f : Format) (C : Catalog) (S : Session) (c : Client) : Prop where
  number : c.connection = n
  known : n < c.database.connections.length
  format : (c.database.connection n).format = f
  channel : c.database.channels[channel]? = some { connection := n, closed := closed }
  catalog : c.database.catalog = C
  session : c.database.session n = S

variable {n channel : Nat} {closed : Bool} {f : Format} {C C' : Catalog} {S S' : Session} {c : Client}

theorem connection_eq (d : Database) {d' : Database} (h : d'.connections = d.connections) (n : Nat) :
    d'.connection n = d.connection n := by
  unfold Database.connection
  rw [h]

/-- Another catalog and another session of the connection leave the rest alone. -/
theorem At.put (h : c.At n channel closed f C S) {d : Database}
    (hconnections : d.connections = (c.database.setSession n S').connections)
    (hchannels : d.channels = c.database.channels) (hcatalog : d.catalog = C') :
    At n channel closed f C' S' { c with database := d } := by
  have hconnection : d.connection n = { c.database.connection n with session := S' } := by
    rw [connection_eq _ hconnections, Database.connection_setSession, if_pos ⟨rfl, h.known⟩]
  refine ⟨h.number, ?_, ?_, ?_, hcatalog, ?_⟩
  · show n < d.connections.length
    rw [hconnections, Database.setSession, length_modify]
    exact h.known
  · rw [hconnection]
    exact h.format
  · rw [hchannels]
    exact h.channel
  · unfold Database.session
    rw [hconnection]

variable (h : c.At n channel closed f C S)
include h

/-- An operation of the database is run for the connection of the client. -/
theorem At.out_runFor {α : Type} (x : Nat → Act Database α) {r : α} {d : Database}
    (hx : (x n).out c.database = (r, d)) : (runFor x).out c = (r, { c with database := d }) := by
  show (((x c.connection).out c.database).1, { c with database := ((x c.connection).out c.database).2 }) = _
  rw [h.number, hx]

theorem At.out_commit (hconflict : C.conflict? S.staged = none) : Act.out (Database.commit n) c.database =
    (.ok (), { c.database.setSession n S.discard with catalog := C.publishAll S.staged }) := by
  rw [Database.out_commit, h.session, h.catalog, hconflict]
  rfl

/-- A commit fails when another session has taken a key, and gives up what is staged. -/
theorem At.out_commit_of_conflict {k : Catalog.Conflict} (hconflict : C.conflict? S.staged = some k) :
    Act.out (Database.commit n) c.database = (.error k.report, c.database.setSession n S.discard) := by
  rw [Database.out_commit, h.session, h.catalog, hconflict, ← h.catalog]
  rfl

theorem At.commit (hconflict : C.conflict? S.staged = none) :
    ∃ c', (Target.commit : Act Client _).out c = (.ok (), c') ∧
      c'.At n channel closed f (C.publishAll S.staged) S.discard :=
  ⟨_, h.out_runFor Database.commit (h.out_commit hconflict), h.put rfl rfl rfl⟩

/-- A commit that meets a conflict leaves the catalog alone. -/
theorem At.commit_of_conflict {k : Catalog.Conflict} (hconflict : C.conflict? S.staged = some k) :
    ∃ c', (Target.commit : Act Client _).out c = (.error k.report, c') ∧ c'.At n channel closed f C S.discard :=
  ⟨_, h.out_runFor Database.commit (h.out_commit_of_conflict hconflict), h.put rfl rfl h.catalog⟩

theorem At.rollback : ∃ c', (Target.rollback : Act Client _).out c = (.ok (), c') ∧
    c'.At n channel closed f C S.discard := by
  have hout : Act.out (Database.rollback n) c.database = (.ok (), c.database.setSession n S.discard) := by
    show ((Except.ok (), c.database.setSession n (c.database.session n).discard) : _ × Database) = _
    rw [h.session]
  exact ⟨_, h.out_runFor Database.rollback hout, h.put rfl rfl h.catalog⟩

/-- Unless a transaction has to be committed, the mode is all that is switched. -/
theorem At.setAutocommit_idle (on : Bool) (hidle : (on && !S.autocommit && S.inTransaction) = false) :
    ∃ c', (Target.setAutocommit on : Act Client _).out c = (.ok (), c') ∧
      c'.At n channel closed f C { S with autocommit := on } := by
  have hout : Act.out (Database.setAutocommit n on) c.database =
      (.ok (), c.database.setSession n { S with autocommit := on }) := by
    unfold Database.setAutocommit
    rw [Act.out_bind, Act.out_ask]
    simp only [h.session, hidle, Bool.false_eq_true, if_false]
    show ((Except.ok (), c.database.setSession n { c.database.session n with autocommit := on }) : _ × Database) = _
    rw [h.session]
  exact ⟨_, h.out_runFor (fun n => Database.setAutocommit n on) hout, h.put rfl rfl h.catalog⟩

/-- Outside of a transaction, the mode is all that is switched. -/
theorem At.setAutocommit (on : Bool) (ht : S.inTransaction = false) :
    ∃ c', (Target.setAutocommit on : Act Client _).out c = (.ok (), c') ∧
      c'.At n channel closed f C { S with autocommit := on } :=
  h.setAutocommit_idle on (by rw [ht, Bool.and_false])

/-- Unless a transaction has to be committed, giving a connection a mode changes nothing else. -/
theorem At.switchTo_idle (on : Bool) (hidle : (on && !S.autocommit && S.inTransaction) = false) :
    ∃ c', (Policy.switchTo on : Act Client _).out c = (.ok (), c') ∧
      c'.At n channel closed f C { S with autocommit := on } := by
  unfold Policy.switchTo
  rw [Act.out_bind, Act.out_ask]
  simp only
  split
  · next hmode =>
    have hsame : S.autocommit = on := by
      rw [← h.session, ← h.number]
      exact hmode
    refine ⟨c, rfl, ?_⟩
    rw [← hsame]
    exact h
  · obtain ⟨c', hout, hat⟩ := h.setAutocommit_idle on hidle
    refine ⟨c', ?_, hat⟩
    unfold Policy.switch
    rw [Act.out_bind, hout]
    rfl

/-- Outside of a transaction, giving a connection a mode changes nothing else. -/
theorem At.switchTo (on : Bool) (hclean : S.Clean) : ∃ c', (Policy.switchTo on : Act Client _).out c = (.ok (), c') ∧
    c'.At n channel closed f C { S with autocommit := on } :=
  h.switchTo_idle on (by rw [hclean.inTransaction, Bool.and_false])

/-- A long transaction without staged rows gives the connection its mode back. -/
theorem At.restoreLong (p : Policy) (hoff : S.autocommit = false) (hclean : S.Clean) :
    ∃ c', (p.restoreLong : Act Client _).out c = (.ok (), c') ∧
      c'.At n channel closed f C { S with autocommit := p.previous } := by
  unfold Policy.restoreLong
  cases hprevious : p.previous with
  | false =>
    refine ⟨c, rfl, ?_⟩
    rw [← hoff]
    exact h
  | true =>
    obtain ⟨c', hout, hat⟩ := h.setAutocommit true hclean.inTransaction
    refine ⟨c', ?_, hat⟩
    rw [if_pos rfl]
    unfold Policy.switch
    rw [Act.out_bind, hout]
    rfl

theorem At.closeChannel : ∃ c', (Target.closeChannel channel : Act Client _).out c = (.ok (), c') ∧
    c'.At n channel true f C S := by
  refine ⟨_, rfl, h.number, h.known, h.format, ?_, h.catalog, h.session⟩
  show (c.database.channels.modify channel fun ch => { ch with closed := true })[channel]? = _
  rw [getElem?_modify, h.channel]
  simp only [if_true]
  rfl

end Client

/-! ## Statements -/

/-- What is sent through an open channel runs on its connection. -/
theorem Database.out_send_of_open {d : Database} {channel n : Nat} (header : String) (payload : Bytes)
    (h : d.channels[channel]? = some { connection := n, closed := false }) :
    Act.out (Database.send channel header payload) d = Act.out (Database.runStatement n header payload) d := by
  unfold Database.send
  rw [Act.out_bind, Act.out_ask]
  simp only [h]
  rfl

/-- A statement is committed as soon as it has run under autocommit. -/
theorem Database.out_runStatement {d : Database} {n : Nat} {header : String} {dest : Destination} (payload : Bytes)
    (hread : Destination.read? (d.connection n).format header = some dest) :
    Act.out (Database.runStatement n header payload) d =
      match Act.out (Database.load n dest payload) d with
      | (.error e, d') => (.error e, d')
      | (.ok ack, d') =>
        if (d.session n).autocommit then
          ((Act.out (Database.commit n) d').1.map fun _ => ack, (Act.out (Database.commit n) d').2)
        else (.ok ack, d') := by
  unfold Database.runStatement
  rw [Act.out_bind, Act.out_ask]
  simp only [hread]
  rw [Act.out_bind]
  rcases Act.out (Database.load n dest payload) d with ⟨_ | ack, d'⟩
  · rfl
  · cases hmode : (d.session n).autocommit with
    | true =>
      simp only [show (d.connection n).session.autocommit = true from hmode, if_true]
      rfl
    | false =>
      simp only [show (d.connection n).session.autocommit = false from hmode, Bool.false_eq_true, if_false]
      rfl

namespace Client

variable {n channel : Nat} {f : Format} {C : Catalog} {S : Session} {c : Client} {header : String} {dest : Destination}

/-- An open channel runs a statement in the session of its connection. -/
theorem At.out_send (h : c.At n channel false f C S) (payload : Bytes) :
    (Target.send channel header payload : Act Client _).out c =
      (sendResult (Act.out (Database.runStatement n header payload) c.database).1,
        { c with database := (Act.out (Database.runStatement n header payload) c.database).2 }) := by
  show (sendResult (Act.out (Database.send channel header payload) c.database).1,
    { c with database := (Act.out (Database.send channel header payload) c.database).2 }) = _
  rw [Database.out_send_of_open header payload h.channel]

theorem At.out_load (h : c.At n channel false f C S) (dest : Destination) (payload : Bytes) :
    Act.out (Database.load n dest payload) c.database =
      ((C.load S f dest payload).value.mapError (·.report f),
        c.database.setSession n (C.load S f dest payload).state) := by
  show ((c.database.catalog.load (c.database.session n) (c.database.connection n).format dest payload).value.mapError
      (·.report (c.database.connection n).format),
    c.database.setSession n
      (c.database.catalog.load (c.database.session n) (c.database.connection n).format dest payload).state) = _
  rw [h.catalog, h.session, h.format]

/-- Outside of autocommit a statement changes no more than the session. -/
theorem At.send (h : c.At n channel false f C S) (hmode : S.autocommit = false)
    (hread : Destination.read? f header = some dest) (payload : Bytes) :
    ∃ c', (Target.send channel header payload : Act Client _).out c =
        (sendResult ((C.load S f dest payload).value.mapError (·.report f)), c') ∧
      c'.At n channel false f C (C.load S f dest payload).state := by
  refine ⟨{ c with database := c.database.setSession n (C.load S f dest payload).state }, ?_, h.put rfl rfl h.catalog⟩
  rw [h.out_send, Database.out_runStatement payload (h.format ▸ hread), h.out_load, h.session, hmode]
  cases (C.load S f dest payload).value <;> rfl

/-- A statement is refused, or it is acknowledged as it has been run. -/
theorem At.send_answer (h : c.At n channel false f C S) (hread : Destination.read? f header = some dest)
    (payload : Bytes) : (∃ e c', (Target.send channel header payload : Act Client _).out c = (.refused e, c')) ∨
      ∃ a c', (C.load S f dest payload).value = .ok a ∧
        (Target.send channel header payload : Act Client _).out c = (.acked a, c') := by
  rw [h.out_send, Database.out_runStatement payload (h.format ▸ hread), h.out_load]
  cases (C.load S f dest payload).value with
  | error e => exact Or.inl ⟨e.report f, _, rfl⟩
  | ok a =>
    have hack : (Except.ok a : Except Catalog.LoadError Ack).mapError (·.report f) = .ok a := rfl
    simp only [hack]
    split
    · rcases (Act.out (Database.commit n) _).1 with e | _
      · exact Or.inl ⟨e, _, rfl⟩
      · exact Or.inr ⟨a, _, rfl, rfl⟩
    · exact Or.inr ⟨a, _, rfl, rfl⟩

/-- Under autocommit a statement is committed that meets no conflict. -/
theorem At.send_committed (h : c.At n channel false f C S) (hmode : S.autocommit = true)
    (hread : Destination.read? f header = some dest) {payload : Bytes} {a : Ack}
    (hvalue : (C.load S f dest payload).value = .ok a)
    (hconflict : C.conflict? (C.load S f dest payload).state.staged = none) :
    ∃ c', (Target.send channel header payload : Act Client _).out c = (.acked a, c') ∧
      c'.At n channel false f (C.publishAll (C.load S f dest payload).state.staged)
        (C.load S f dest payload).state.discard := by
  have hloaded : At n channel false f C (C.load S f dest payload).state
      { c with database := c.database.setSession n (C.load S f dest payload).state } := h.put rfl rfl h.catalog
  have hcommit := hloaded.out_commit hconflict
  have hack : (Except.ok a : Except Catalog.LoadError Ack).mapError (·.report f) = .ok a := rfl
  rw [h.out_send, Database.out_runStatement payload (h.format ▸ hread), h.out_load, h.session, hmode, hvalue]
  simp only [hack, if_true, hcommit]
  exact ⟨_, rfl, hloaded.put rfl rfl rfl⟩

/-- What becomes of a statement in a clean session: it is refused and adds nothing, or its rows are committed under
autocommit, and otherwise staged so that they can be committed. -/
theorem At.send_of_clean (h : c.At n channel false f C S) (hclean : S.Clean)
    (hread : Destination.read? f header = some dest) (payload : Bytes) :
    (∃ e c', (Target.send channel header payload : Act Client _).out c = (.refused e, c') ∧
      c'.At n channel false f C S ∧ C.accepted f dest payload = {}) ∨
    ∃ skipped c' C' S', (Target.send channel header payload : Act Client _).out c =
        (.acked ⟨(C.accepted f dest payload).count, skipped⟩, c') ∧
      c'.At n channel false f C' S' ∧ S'.autocommit = S.autocommit ∧
      (S.autocommit = true → C' = C.publish dest.table (C.accepted f dest payload) ∧ S'.Clean) ∧
      (S.autocommit = false → C' = C ∧ C.conflict? S'.staged = none ∧
        C.publishAll S'.staged = C.publish dest.table (C.accepted f dest payload)) := by
  have hconflict := @Catalog.conflict?_stageIn C dest.table _ (Catalog.keys_accepted f dest payload) _ hclean
  have hpublish := @Catalog.publishAll_stageIn dest.table (C.accepted f dest payload) _ C hclean
  rw [h.out_send, Database.out_runStatement payload (h.format ▸ hread), h.out_load, h.session]
  rcases Catalog.load_of_clean hclean f dest payload with ⟨e, hvalue, hstate, haccepted⟩ | ⟨skipped, hvalue, hstate⟩
  · rw [hvalue, hstate]
    exact Or.inl ⟨e.report f, _, rfl, h.put rfl rfl h.catalog, haccepted⟩
  · rw [hvalue, hstate]
    refine Or.inr ⟨skipped, ?_⟩
    have hstaged : At n channel false f C (S.stage dest.table (C.accepted f dest payload))
        { c with database := c.database.setSession n (S.stage dest.table (C.accepted f dest payload)) } :=
      h.put rfl rfl h.catalog
    cases hmode : S.autocommit with
    | false =>
      exact ⟨_, C, _, rfl, hstaged, hmode, nofun, fun _ => ⟨rfl, hconflict, hpublish⟩⟩
    | true =>
      have hcommit := hstaged.out_commit hconflict
      have hack (a : Ack) : (Except.ok a : Except Catalog.LoadError Ack).mapError (·.report f) = .ok a := rfl
      simp only [hack, if_true, hcommit]
      exact ⟨_, _, _, rfl, hstaged.put rfl rfl rfl, hmode, fun _ => ⟨hpublish, Session.clean_discard _⟩, nofun⟩

/-! ## Beginning an insert -/

/-- A channel is opened if the connection may open bulk channels. -/
theorem out_openChannel (d : Database) (n : Nat) : (Target.openChannel : Act Client _).out ⟨d, n⟩ =
    if (d.connection n).allowsBulk then
      (.ok d.channels.length, ⟨{ d with channels := d.channels ++ [{ connection := n }] }, n⟩)
    else (.error (Database.bulkDisabled (d.connection n).format), ⟨d, n⟩) := by
  show ((Act.out (Database.openChannel n) d).1, Client.mk (Act.out (Database.openChannel n) d).2 n) = _
  rw [Database.out_openChannel]
  split <;> rfl

/-- A channel that has been opened belongs to the connection. -/
theorem at_openChannel {d : Database} {n channel : Nat} {c : Client}
    (h : (Target.openChannel : Act Client _).out ⟨d, n⟩ = (.ok channel, c)) :
    channel = d.channels.length ∧ c.database.connections = d.connections ∧
      c.At n channel false (d.connection n).format d.catalog (d.session n) := by
  rw [out_openChannel] at h
  split at h
  · next hbulk =>
    cases h
    exact ⟨rfl, rfl, rfl, Database.lt_length_of_allowsBulk hbulk, rfl, by simp, rfl, rfl⟩
  · cases h

variable {closed : Bool}

theorem kept_setAutocommit (h : c.database.Kept) (on : Bool) :
    ((Target.setAutocommit on : Act Client _).out c).2.database.Kept := h.setAutocommit c.connection on

/-- What is staged when the mode is switched may be published, but the rest stays as it is. -/
theorem At.setAutocommit_ok (h : c.At n channel closed f C S) (on : Bool) {c' : Client}
    (hout : (Target.setAutocommit on : Act Client _).out c = (.ok (), c')) :
    ∃ C' S', c'.At n channel closed f C' S' ∧ S'.autocommit = on ∧ C.Moved S C' S' := by
  cases hidle : on && !S.autocommit && S.inTransaction with
  | false =>
    obtain ⟨c₁, hout₁, hat⟩ := h.setAutocommit_idle on hidle
    rw [hout₁] at hout
    cases hout
    exact ⟨C, _, hat, rfl, Or.inl ⟨rfl, rfl⟩⟩
  | true =>
    have hbusy : Act.out (Database.setAutocommit n on) c.database =
        match Act.out (Database.commit n) c.database with
        | (.error e, d) => (.error e, d)
        | (.ok (), d) => (.ok (), d.setSession n { d.session n with autocommit := on }) := by
      unfold Database.setAutocommit
      rw [Act.out_bind, Act.out_ask]
      simp only [h.session, hidle, if_true]
      rw [Act.out_bind]
      rcases Act.out (Database.commit n) c.database with ⟨_ | _, d⟩ <;> rfl
    cases hconflict : C.conflict? S.staged with
    | some k =>
      rw [h.out_commit_of_conflict hconflict] at hbusy
      rw [show (Target.setAutocommit on : Act Client _).out c = _ from
        h.out_runFor (fun n => Database.setAutocommit n on) hbusy] at hout
      cases hout
    | none =>
      have hat : At n channel closed f (C.publishAll S.staged) S.discard
          { c with database := { c.database.setSession n S.discard with catalog := C.publishAll S.staged } } :=
        h.put rfl rfl rfl
      rw [h.out_commit hconflict] at hbusy
      rw [show (Target.setAutocommit on : Act Client _).out c = _ from
        h.out_runFor (fun n => Database.setAutocommit n on) hbusy] at hout
      cases hout
      refine ⟨_, { Database.session _ n with autocommit := on }, hat.put rfl rfl rfl, rfl, Or.inr ⟨rfl, ?_⟩⟩
      exact congrArg Session.staged hat.session

/-- A connection that is switched to autocommit has a clean session then. -/
theorem At.switchTo_on (h : c.At n channel closed f C S) (hkept : c.database.Kept) {c' : Client}
    (hout : (Policy.switchTo true : Act Client _).out c = (.ok (), c')) :
    ∃ C' S', c'.At n channel closed f C' S' ∧ S'.Clean ∧ S'.autocommit = true ∧ C.Moved S C' S' := by
  unfold Policy.switchTo at hout
  rw [Act.out_bind, Act.out_ask] at hout
  simp only at hout
  split at hout
  · next hmode =>
    cases hout
    change (c.database.session c.connection).autocommit = true at hmode
    rw [h.number, h.session] at hmode
    have hclean := (hkept n).autocommit
    rw [h.session] at hclean
    exact ⟨C, S, h, hclean hmode, hmode, Or.inl ⟨rfl, rfl⟩⟩
  · unfold Policy.switch at hout
    rw [Act.out_bind] at hout
    have hkept' := kept_setAutocommit hkept true
    rcases hset : (Target.setAutocommit true : Act Client _).out c with ⟨e | _, c₁⟩
    · rw [hset] at hout
      cases hout
    · rw [hset] at hout hkept'
      cases hout
      obtain ⟨C', S', hat, hmode, hmoved⟩ := h.setAutocommit_ok true hset
      have hclean := (hkept' n).autocommit
      rw [hat.session] at hclean
      exact ⟨C', S', hat, hclean hmode, hmode, hmoved⟩

/-- Acquiring a policy with a transaction for each batch leaves a clean session in the mode of the policy. Rows that were
staged before have been published then. -/
theorem At.acquire (h : c.At n channel closed f C S) (hkept : c.database.Kept) {o : Options}
    (hlong : o.longTransaction = false) {p : Policy} {c' : Client} (hout : (Policy.acquire o).out c = (.ok p, c')) :
    ∃ C' S', c'.At n channel closed f C' S' ∧ S'.Clean ∧ S'.autocommit = !o.errorOnMissingRow ∧
      p.mode = (if o.errorOnMissingRow then .perBatch 0 else .autocommit) ∧ C.Moved S C' S' := by
  unfold Policy.acquire Policy.beginEach at hout
  rw [hlong, if_neg Bool.false_ne_true, Act.out_bind, Act.out_ask, Act.out_bind] at hout
  rcases hon : (Policy.switchTo true : Act Client _).out c with ⟨e | _, c₁⟩
  · rw [hon] at hout
    cases hout
  · obtain ⟨C₁, S₁, hat, hclean, hmode, hmoved⟩ := h.switchTo_on hkept hon
    rw [hon] at hout
    simp only at hout
    cases hchecked : o.errorOnMissingRow with
    | false =>
      rw [hchecked] at hout
      cases hout
      exact ⟨C₁, S₁, hat, hclean, hmode, rfl, hmoved⟩
    | true =>
      obtain ⟨c₂, hoff, hat'⟩ := hat.setAutocommit false hclean.inTransaction
      rw [hchecked, if_pos rfl] at hout
      unfold Policy.switch at hout
      rw [Act.out_bind, Act.out_bind, hoff] at hout
      cases hout
      exact ⟨C₁, _, hat', hclean, rfl, rfl, hmoved⟩

end Client

end BulkLoad
