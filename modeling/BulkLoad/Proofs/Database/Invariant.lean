import BulkLoad.Proofs.Database.Reachable

/-!
# Invariants of catalogs and sessions

Whatever an operation does to a database, it changes the catalog and the sessions in few ways: a table is created, a
session switches its mode, gives up what it has staged, publishes it or runs a statement. A relation between the catalog
and a session that survives each of these is an invariant (`Invariant`), and holds of every session of a reachable
database (`Invariant.of_reachable`).
-/

namespace BulkLoad

open List

/-- A relation between the catalog and each of the sessions survives what operations do to them. Where a session
publishes its rows, the relation is kept for every session that it held for, the publishing one included. -/
structure Invariant (Q : Catalog → Session → Prop) : Prop where
  initial : Q {} {}
  create {C C' : Catalog} {S : Session} {t : TableDef} : Q C S → C.create t = .ok C' → Q C' S
  mode {C : Catalog} {S : Session} (on : Bool) : Q C S → Q C { S with autocommit := on }
  discard {C : Catalog} {S : Session} : Q C S → Q C S.discard
  publish {C C' : Catalog} {S S' : Session} : Q C S → Q C S' → C.commit S = .ok C' → Q C' S'
  load {C : Catalog} {S : Session} (f : Format) (dest : Destination) (payload : Bytes) : Q C S →
    Q C (C.load S f dest payload).state

namespace Database

variable {Q : Catalog → Session → Prop} {d : Database}

/-- The relation holds between the catalog and each session. -/
def Each (Q : Catalog → Session → Prop) (d : Database) : Prop := ∀ n, Q d.catalog (d.session n)

/-- What matters is the catalog and the connections. -/
theorem Each.congr (h : d.Each Q) {d' : Database} (hcatalog : d'.catalog = d.catalog)
    (hconnections : d'.connections = d.connections) : d'.Each Q := by
  intro n
  have hn := h n
  unfold session connection at hn ⊢
  rw [hcatalog, hconnections]
  exact hn

theorem Each.setSession (h : d.Each Q) (n : Nat) {s : Session} (hs : Q d.catalog s) : (d.setSession n s).Each Q := by
  intro m
  show Q d.catalog ((d.setSession n s).session m)
  rw [session_setSession]
  split
  · exact hs
  · exact h m

/-- A change of a connection keeps an invariant. -/
theorem Each.change (hQ : Invariant Q) {n : Nat} {d d' : Database} (hchange : Change n d d') (h : d.Each Q) :
    d'.Each Q := by
  cases hchange with
  | mode on => exact h.setSession n (hQ.mode on (h n))
  | rollback => exact h.setSession n (hQ.discard (h n))
  | load dest payload => exact h.setSession n (hQ.load (d.connection n).format dest payload (h n))
  | commit =>
    have hcleared : (d.setSession n (d.session n).discard).Each Q := h.setSession n (hQ.discard (h n))
    show (Act.out (Database.commit n) d).2.Each Q
    obtain ⟨hconflict, hcommit⟩ | ⟨e, hcommit⟩ := commit_cases d n
    · have hpublish : d.catalog.commit (d.session n) = .ok (d.catalog.publishAll (d.session n).staged) := by
        rw [Catalog.commit, hconflict]
      rw [hcommit]
      exact fun m => hQ.publish (h n) (hcleared m) hpublish
    · rw [hcommit]
      exact hcleared

theorem Each.changes (hQ : Invariant Q) {n : Nat} {d' : Database} (hchanges : Changes n d d') (h : d.Each Q) :
    d'.Each Q := by
  induction hchanges with
  | refl => exact h
  | tail _ hchange ih => exact ih.change hQ hchange

theorem Each.connect (h : d.Each Q) (f : Format) (allowsBulk : Bool) : (connect f allowsBulk d).state.Each Q := by
  intro m
  rw [session_connect]
  exact h m

/-- **An operation keeps an invariant.** -/
theorem Each.apply (hQ : Invariant Q) (h : d.Each Q) (op : Op) : (op.apply d).Each Q := by
  cases op with
  | createTable t =>
    show (Act.out (Database.createTable t) d).2.Each Q
    rw [out_createTable]
    cases hcreate : d.catalog.create t with
    | error e => exact h
    | ok C => exact fun n => hQ.create (h n) hcreate
  | connect format allowsBulk => exact h.connect format allowsBulk
  | openChannel n =>
    show (Act.out (Database.openChannel n) d).2.Each Q
    rw [out_openChannel]
    split
    · exact h.congr rfl rfl
    · exact h
  | closeChannel channel => exact h.congr rfl rfl
  | setAutocommit n on => exact h.changes hQ (changes_setAutocommit n d on)
  | commit n => exact h.change hQ (.commit (n := n))
  | rollback n => exact h.change hQ (.rollback (n := n))
  | send channel header payload =>
    rcases changes_send d channel header payload with hsame | ⟨n, _, hchanges⟩
    · show (Act.out (Database.send channel header payload) d).2.Each Q
      rw [hsame]
      exact h
    · exact h.changes hQ hchanges

end Database

/-- **An invariant holds of every session of a reachable database.** -/
theorem Invariant.of_reachable {Q : Catalog → Session → Prop} (hQ : Invariant Q) {d : Database} (h : d.Reachable) :
    d.Each Q := by
  induction h with
  | initial => exact fun _ => hQ.initial
  | step op _ ih => exact ih.apply hQ op

end BulkLoad
