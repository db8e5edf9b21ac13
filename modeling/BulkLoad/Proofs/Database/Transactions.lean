import BulkLoad.Proofs.Database.Answers
import BulkLoad.Proofs.Database.Elsewhere
import BulkLoad.Proofs.Database.Redo
import Mathlib.Logic.Function.Basic

/-!
# Transactions of a history

A history of operations commits transactions (`Database.transactions`): a transaction consists of the statements that
its connection has run since its last transaction has ended, and a statement under autocommit is one of its own. What is
pending can be redone at any time, as long as its keys have not been taken (`Database.Tracks`); this is what each
operation keeps (`Database.Tracks.step`).

So what the operations do to the catalog can be done by running the transactions one after the other
(`Catalog.Replays`, `Database.Tracks.run`), also if all tables are there from the beginning (`Catalog.Completes`).
-/

namespace BulkLoad

open List

/-- Statements that have been committed together, in the format of their connection. -/
structure Transaction where
  format : Format
  sent : List Acknowledged

namespace Catalog

variable {c c' c'' C final : Catalog} {s S : Session} {f : Format}

/-! ## Tables without rows -/

/-- The tables without their rows. -/
def bare (c : Catalog) : Catalog := { tables := c.tables.map fun t => { definition := t.definition } }

theorem find?_bare (c : Catalog) (x : String) :
    c.bare.find? x = (c.find? x).map fun t => { definition := t.definition } := by
  unfold find? bare
  rw [find?_map]
  rfl

theorem bare_publish (c : Catalog) (table : String) (rows : Rows) : (c.publish table rows).bare = c.bare := by
  unfold bare publish
  simp only [map_map, mk.injEq]
  apply map_congr_left
  intro t _
  simp only [Function.comp_apply]
  split <;> rfl

theorem bare_publishAll : ∀ (staged : List (String × Rows)) (c : Catalog), (c.publishAll staged).bare = c.bare
  | [], _ => rfl
  | (table, rows) :: rest, c => by rw [publishAll, bare_publishAll rest, bare_publish]

/-- Whether a table can be created does not depend on any rows. -/
theorem createFault?_bare (c : Catalog) (t : TableDef) : c.bare.createFault? t = c.createFault? t := by
  have hfks : ∀ fks : List ForeignKey, c.bare.foreignKeyFault? t fks = c.foreignKeyFault? t fks := by
    intro fks
    induction fks with
    | nil => rfl
    | cons fk fks ih =>
      have hkey : c.bare.hasReferencedKey t fk = c.hasReferencedKey t fk := by
        simp only [hasReferencedKey, find?_bare, Option.any_map]
      rw [foreignKeyFault?, foreignKeyFault?, hkey, ih]
  rw [createFault?, createFault?, hfks, find?_bare, Option.isSome_map]

theorem create_bare {t : TableDef} (h : c.create t = .ok c') : c.bare.create t = .ok c'.bare := by
  unfold create at h ⊢
  rw [createFault?_bare]
  cases hfault : c.createFault? t with
  | some e =>
    rw [hfault] at h
    cases h
  | none =>
    rw [hfault] at h
    cases h
    simp [bare]

/-! ## Tables that are still to come -/

/-- The tables of `C` are those of `c`, and besides those that are still to come in `final`, without rows. -/
def Completes (final c C : Catalog) : Prop := ∀ x, C.find? x = (c.find? x).or (final.bare.find? x)

theorem completes_bare (final : Catalog) : Completes final {} final.bare := fun _ => rfl

theorem Completes.extends (h : Completes final c C) : c.Extends C := by
  intro x t ht
  refine ⟨{}, ?_⟩
  rw [h x, ht, Rows.append_empty]
  rfl

/-- A table that is still to come has no keys. -/
theorem Completes.keysOf (h : Completes final c C) (x : String) : C.keysOf x = c.keysOf x := by
  unfold Catalog.keysOf
  rw [h x, find?_bare]
  cases c.find? x with
  | some t => rfl
  | none => cases final.find? x <;> rfl

theorem Completes.holds (h : Completes final c C) (hc : c.Holds s) : C.Holds { autocommit := false } := by
  refine ⟨?_, nofun, Pairwise.nil⟩
  intro x t ht
  rw [h x] at ht
  rcases Option.or_eq_some_iff.mp ht with ht | ⟨_, ht⟩
  · exact hc.committed x t ht
  · rw [find?_bare] at ht
    obtain ⟨t', _, rfl⟩ := Option.map_eq_some_iff.mp ht
    exact Rows.keyed_empty

/-- When no table is still to come, the rows are the same. -/
theorem Completes.rows? (h : Completes c c C) (x : String) : C.rows? x = c.rows? x := by
  unfold Catalog.rows?
  rw [h x, find?_bare]
  cases c.find? x <;> rfl

/-- A table that is created has been among those that are still to come. -/
theorem Completes.create (h : Completes final c C) {t : TableDef} (hcreate : c.create t = .ok c')
    (hextends : c'.Extends final) : Completes final c' C := by
  intro x
  rw [h x]
  cases hfind : c'.find? x with
  | none =>
    have hnone := hfind
    rw [find?_create hcreate, Option.or_eq_none_iff] at hnone
    rw [hnone.1]
  | some table =>
    rcases of_find?_create hcreate hfind with hold | ⟨hnew, htable⟩
    · rw [hold]
    · obtain ⟨later, hlater⟩ := hextends x table hfind
      rw [hnew, find?_bare, hlater, htable]
      rfl

/-- Publishing the same rows on both sides. -/
theorem Completes.publishAll (h : Completes final c C) (hs : c.Holds s) (hS : C.Holds S)
    (hsame : ∀ x, S.stagedFor x = s.stagedFor x) :
    Completes final (c.publishAll s.staged) (C.publishAll S.staged) := by
  intro x
  have hstaged : (S.staged.lookup x).getD {} = (s.staged.lookup x).getD {} := hsame x
  rw [find?_publishAll C hS.names, find?_publishAll c hs.names, h x, hstaged]
  cases hfind : c.find? x with
  | some t => rfl
  | none =>
    -- Nothing is staged for a table that is still to come.
    have hnothing : (s.staged.lookup x).getD {} = {} := hs.stagedFor_of_none hfind
    simp only [hnothing, Rows.append_empty, Option.none_or, Option.map_none]
    exact Option.map_id'

/-! ## Running transactions -/

/-- Transactions run in sessions of their own and committed, one after the other. -/
inductive Serial : Catalog → List Transaction → Catalog → Prop
  | nil {C : Catalog} : Serial C [] C
  | cons {C C' : Catalog} {S : Session} {x : Transaction} {xs : List Transaction} :
      C.Executes x.format { autocommit := false } x.sent S → C.conflict? S.staged = none →
        Serial (C.publishAll S.staged) xs C' → Serial C (x :: xs) C'

theorem Serial.append {C' C'' : Catalog} {xs ys : List Transaction} (h : C.Serial xs C') (h' : C'.Serial ys C'') :
    C.Serial (xs ++ ys) C'' := by
  induction h with
  | nil => exact h'
  | cons hexecutes hconflict _ ih => exact .cons hexecutes hconflict (ih h')

theorem Executes.holds {xs : List Acknowledged} {S' : Session} (h : C.Executes f S xs S') (hS : C.Holds S) :
    C.Holds S' := by
  induction h with
  | nil => exact hS
  | cons _ _ _ ih => exact ih (hS.load _ _ _)

/-- The catalog grows, and running the transactions makes it grow in the same way, with all tables there that are still
to come. -/
structure Replays (c : Catalog) (xs : List Transaction) (c' : Catalog) : Prop where
  grows : c.Extends c'
  serial : ∀ {final C}, c'.Extends final → Completes final c C → ∃ C', C.Serial xs C' ∧ Completes final c' C'

theorem Replays.refl (c : Catalog) : c.Replays [] c := ⟨Extends.refl c, fun _ h => ⟨_, .nil, h⟩⟩

theorem Replays.trans {xs ys : List Transaction} (h : c.Replays xs c') (h' : c'.Replays ys c'') :
    c.Replays (xs ++ ys) c'' := by
  refine ⟨h.grows.trans h'.grows, fun hfinal hC => ?_⟩
  obtain ⟨C', hserial, hC'⟩ := h.serial (h'.grows.trans hfinal) hC
  obtain ⟨C'', hserial', hC''⟩ := h'.serial hfinal hC'
  exact ⟨C'', hserial.append hserial', hC''⟩

theorem replays_create {t : TableDef} (h : c.create t = .ok c') : c.Replays [] c' :=
  ⟨extends_create h, fun hfinal hC => ⟨_, .nil, hC.create h hfinal⟩⟩

/-- **A commit is made up for by running its statements only then.** -/
theorem replays_commit {xs : List Acknowledged} (hs : c.Holds s) (hredo : c.Redoable s f xs)
    (hconflict : c.conflict? s.staged = none) : c.Replays [⟨f, xs⟩] (c.publishAll s.staged) := by
  refine ⟨extends_publishAll c s.staged, fun {final C} _ hC => ?_⟩
  rw [conflict?_eq_none_iff] at hconflict
  obtain ⟨S, hexecutes, hsame⟩ := hredo C hC.extends fun x => by
    rw [hC.keysOf]
    exact hconflict x
  have hS : C.Holds S := hexecutes.holds (hC.holds hs)
  refine ⟨_, .cons hexecutes ?_ .nil, hC.publishAll hs hS hsame⟩
  rw [conflict?_eq_none_iff]
  intro x
  rw [hC.keysOf, show (S.staged.lookup x).getD {} = (s.staged.lookup x).getD {} from hsame x]
  exact hconflict x

end Catalog

/-! ## Records -/

/-- The statements that each connection has run since its last transaction has ended. -/
abbrev Pending := Nat → List Acknowledged

namespace Database

/-- Connection `n` ends its transaction, which is recorded if it has been committed. -/
def finish (d : Database) (p : Pending) (n : Nat) (committed : Bool) : Pending × List Transaction :=
  (Function.update p n [], if committed then [⟨(d.connection n).format, p n⟩] else [])

/-- What is pending after an operation, and the transaction that it has committed. -/
def Op.record (d : Database) (p : Pending) : Op → Pending × List Transaction
  | .createTable _ => (p, [])
  | .connect _ _ => (p, [])
  | .openChannel _ => (p, [])
  | .closeChannel _ => (p, [])
  | .setAutocommit n on =>
    if on && !(d.session n).autocommit then d.finish p n (Database.setAutocommit n on d).value.isOk else (p, [])
  | .commit n => d.finish p n (Database.commit n d).value.isOk
  | .rollback n => d.finish p n false
  | .send channel header payload =>
    match d.owner? channel, (Database.send channel header payload d).value with
    | some n, .ok ack =>
      if (d.session n).autocommit then (p, [⟨(d.connection n).format, [⟨header, payload, ack⟩]⟩])
      else (Function.update p n (p n ++ [⟨header, payload, ack⟩]), [])
    | _, _ => (p, [])

/-- The transactions that operations commit, in the order of their commits. -/
def transactions (d : Database) (p : Pending) : List Op → List Transaction
  | [] => []
  | op :: ops => (op.record d p).2 ++ transactions (op.apply d) (op.record d p).1 ops

/-! ## What is pending -/

/-- What is pending can be redone, and under autocommit nothing is pending. -/
structure Tracks (d : Database) (p : Pending) : Prop where
  redoable : ∀ n, d.catalog.Redoable (d.session n) (d.connection n).format (p n)
  autocommit : ∀ n, (d.session n).autocommit = true → p n = []

variable {d : Database} {p : Pending} {n : Nat} {C : Catalog} {S : Session}

theorem tracks_initial : Tracks {} fun _ => [] :=
  ⟨fun _ => Catalog.redoable_nil _ _ (forall_mem_nil _), fun _ _ => rfl⟩

/-- For a connection that has not been opened nothing is pending. -/
theorem Tracks.known (h : d.Tracks p) (n : Nat) : p n = [] ∨ n < d.connections.length := by
  by_cases hlt : n < d.connections.length
  · exact Or.inr hlt
  · refine Or.inl (h.autocommit n ?_)
    rw [session_of_le (Nat.le_of_not_lt hlt)]

/-- Another catalog that has grown, and another session with what is pending for it. -/
theorem Tracks.put (h : d.Tracks p) (hextends : d.catalog.Extends C) {xs : List Acknowledged}
    (hredo : C.Redoable S (d.connection n).format xs)
    (hpending : xs = [] ∨ n < d.connections.length ∧ S.autocommit = false) :
    (d.put n C S).Tracks (Function.update p n xs) := by
  constructor
  · intro m
    rw [catalog_put, session_put, format_put]
    by_cases hm : n = m
    · subst hm
      rw [Function.update_self]
      split
      · exact hredo
      · next hlt =>
        rcases hpending with rfl | ⟨hknown, _⟩
        · rw [session_of_le (Nat.le_of_not_lt fun hknown => hlt ⟨rfl, hknown⟩)]
          exact Catalog.redoable_nil _ _ (forall_mem_nil _)
        · exact absurd ⟨rfl, hknown⟩ hlt
    · rw [Function.update_of_ne (Ne.symm hm), if_neg fun hc => hm hc.1]
      exact (h.redoable m).of_extends hextends
  · intro m
    rw [session_put]
    by_cases hm : n = m
    · subst hm
      rw [Function.update_self]
      rcases hpending with rfl | ⟨hknown, hmode⟩
      · exact fun _ => rfl
      · rw [if_pos ⟨rfl, hknown⟩, hmode]
        exact nofun
    · rw [Function.update_of_ne (Ne.symm hm), if_neg fun hc => hm hc.1]
      exact h.autocommit m

/-- The transaction of a connection has ended. -/
theorem Tracks.clear (h : d.Tracks p) (hextends : d.catalog.Extends C) (hclean : S.Clean) :
    (d.put n C S).Tracks (Function.update p n []) :=
  h.put hextends (Catalog.redoable_nil _ _ hclean) (Or.inl rfl)

/-- Where nothing has been pending, nothing is. -/
theorem Tracks.still (h : d.Tracks p) (hextends : d.catalog.Extends C) (hclean : S.Clean) (hnothing : p n = []) :
    (d.put n C S).Tracks p := by
  have hput := h.clear (n := n) hextends hclean
  rwa [← hnothing, Function.update_eq_self] at hput

theorem Tracks.connect (h : d.Tracks p) (format : Format) (allowsBulk : Bool) :
    (connect format allowsBulk d).state.Tracks p := by
  constructor
  · intro m
    rw [session_connect]
    by_cases hlt : m < d.connections.length
    · rw [(spares_connect m d format allowsBulk).connection hlt]
      exact h.redoable m
    · have hsession := session_of_le (Nat.le_of_not_lt hlt)
      rw [hsession, h.autocommit m (by rw [hsession])]
      exact Catalog.redoable_nil _ _ (forall_mem_nil _)
  · intro m
    rw [session_connect]
    exact h.autocommit m

/-! ## Operations -/

/-- The database `d'` follows `d`, and `r` records what has become of the pending statements: those that have been
committed can be run only then, and the others are still pending. -/
structure Follows (d d' : Database) (r : Pending × List Transaction) : Prop where
  tracks : d'.Tracks r.1
  replays : d.catalog.Replays r.2 d'.catalog

/-- Connection `n` commits its transaction. -/
theorem Tracks.commit (h : d.Tracks p) (hd : d.Reachable) (n : Nat) (hclean : S.Clean)
    (hconflict : d.catalog.conflict? (d.session n).staged = none) :
    Follows d (d.put n (d.catalog.publishAll (d.session n).staged) S) (d.finish p n true) where
  tracks := h.clear (Catalog.extends_publishAll _ _) hclean
  replays := Catalog.replays_commit (hd.holds n) (h.redoable n) hconflict

/-- Connection `n` gives up its transaction. -/
theorem Tracks.giveUp (h : d.Tracks p) (n : Nat) (hclean : S.Clean) :
    Follows d (d.put n d.catalog S) (d.finish p n false) where
  tracks := h.clear (Catalog.Extends.refl _) hclean
  replays := Catalog.Replays.refl _

/-- Unless a transaction ends by that, what is pending does not depend on the mode. -/
theorem Tracks.mode (h : d.Tracks p) (n : Nat) (on : Bool) (hstay : ¬ (on && !(d.session n).autocommit) = true) :
    (d.put n d.catalog { d.session n with autocommit := on }).Tracks p := by
  have hredo : d.catalog.Redoable { d.session n with autocommit := on } (d.connection n).format (p n) := h.redoable n
  have hput : (d.put n d.catalog { d.session n with autocommit := on }).Tracks (Function.update p n (p n)) := by
    apply h.put (Catalog.Extends.refl _) hredo
    cases hmode : (d.session n).autocommit with
    | true => exact Or.inl (h.autocommit n hmode)
    | false =>
      refine (h.known n).imp_right fun hknown => ⟨hknown, ?_⟩
      rw [hmode] at hstay
      simpa using hstay
  rwa [Function.update_eq_self] at hput

theorem Tracks.setAutocommit (h : d.Tracks p) (hd : d.Reachable) (n : Nat) (on : Bool) :
    Follows d ((Op.setAutocommit n on).apply d) ((Op.setAutocommit n on).record d p) := by
  show Follows d (Act.out (Database.setAutocommit n on) d).2 (if on && !(d.session n).autocommit then
    d.finish p n (Act.out (Database.setAutocommit n on) d).1.isOk else (p, []))
  rcases setAutocommit_cases d n on with ⟨hidle, hout⟩ | ⟨⟨rfl, hoff⟩, ⟨hconflict, hout⟩ | ⟨e, hout⟩⟩
  · rw [hout]
    split
    · next hswitch =>
      -- Nothing is staged, so that nothing has to be published.
      rw [hswitch, Bool.true_and] at hidle
      have hclean : (d.session n).Clean := (hd.kept n).clean hidle
      have hcommit : Follows d (d.put n _ { d.session n with autocommit := on }) (d.finish p n true) :=
        h.commit hd n hclean (Catalog.conflict?_of_clean hclean)
      rwa [Catalog.publishAll_of_clean _ hclean] at hcommit
    · next hstay => exact ⟨h.mode n on hstay, Catalog.Replays.refl _⟩
  · rw [hout, hoff]
    exact h.commit hd n (Session.clean_discard (d.session n)) hconflict
  · rw [hout, hoff]
    exact h.giveUp n (Session.clean_discard (d.session n))

theorem Tracks.send (h : d.Tracks p) (hd : d.Reachable) {channel : Nat} {header : String} {payload : Bytes}
    (hwarnings : ∀ a, (Database.send channel header payload d).value = .ok a → a.warnings = 0) :
    Follows d ((Op.send channel header payload).apply d) ((Op.send channel header payload).record d p) := by
  have hvalue : (Database.send channel header payload d).value =
      (Act.out (Database.send channel header payload) d).1 := rfl
  show Follows d (Act.out (Database.send channel header payload) d).2 _
  rw [Op.record, hvalue]
  rw [hvalue] at hwarnings
  rcases send_cases hd.owned channel header payload with
    ⟨e, hout⟩ | ⟨n, dest, a, S, hch, hknown, hread, hload, rfl, hsent⟩
  · rw [hout]
    cases d.owner? channel <;> exact ⟨h, Catalog.Replays.refl _⟩
  have howner : d.owner? channel = some n := by rw [owner?, hch, Option.map_some]
  have hmode := Catalog.autocommit_load d.catalog (d.session n) (d.connection n).format dest payload
  have hredo (hnone : a.warnings = 0) : d.catalog.Redoable _ (d.connection n).format (p n ++ [⟨header, payload, a⟩]) :=
    (h.redoable n).concat (x := ⟨header, payload, a⟩) hread hload hnone
  rcases hsent with ⟨hoff, hout⟩ | ⟨hon, ⟨hconflict, hout⟩ | ⟨e, hout⟩⟩
  · rw [hout] at hwarnings ⊢
    simp only [howner, hoff, Bool.false_eq_true, if_false]
    refine ⟨?_, Catalog.Replays.refl _⟩
    exact h.put (Catalog.Extends.refl _) (hredo (hwarnings a rfl)) (Or.inr ⟨hknown, by rw [hmode, hoff]⟩)
  · rw [hout] at hwarnings ⊢
    simp only [howner, hon, if_true]
    have hnothing : p n = [] := h.autocommit n hon
    rw [hnothing] at hredo
    refine ⟨?_, Catalog.replays_commit ((hd.holds n).load _ _ _) (hredo (hwarnings a rfl)) hconflict⟩
    exact h.still (Catalog.extends_publishAll _ _) (Session.clean_discard _) hnothing
  · rw [hout]
    simp only [howner]
    refine ⟨?_, Catalog.Replays.refl _⟩
    exact h.still (Catalog.Extends.refl _) (Session.clean_discard _) (h.autocommit n hon)

/-- **An operation commits what can be run only then**, and what it does not commit can be run later. -/
theorem Tracks.step (h : d.Tracks p) (hd : d.Reachable) {op : Op}
    (hwarnings : ∀ a, op.answer d = .sent (.ok a) → a.warnings = 0) : Follows d (op.apply d) (op.record d p) := by
  cases op with
  | createTable t =>
    show Follows d (Act.out (Database.createTable t) d).2 (p, [])
    rw [out_createTable]
    cases hcreate : d.catalog.create t with
    | error e => exact ⟨h, Catalog.Replays.refl _⟩
    | ok C =>
      refine ⟨⟨fun n => ?_, h.autocommit⟩, Catalog.replays_create hcreate⟩
      exact (h.redoable n).of_extends (Catalog.extends_create hcreate)
  | connect format allowsBulk => exact ⟨h.connect format allowsBulk, Catalog.Replays.refl _⟩
  | openChannel n =>
    show Follows d (Act.out (Database.openChannel n) d).2 (p, [])
    rw [out_openChannel]
    split <;> exact ⟨⟨h.redoable, h.autocommit⟩, Catalog.Replays.refl _⟩
  | closeChannel channel => exact ⟨⟨h.redoable, h.autocommit⟩, Catalog.Replays.refl _⟩
  | setAutocommit n on => exact h.setAutocommit hd n on
  | commit n =>
    show Follows d (Act.out (Database.commit n) d).2 (d.finish p n (Act.out (Database.commit n) d).1.isOk)
    rcases commit_cases d n with ⟨hconflict, hout⟩ | ⟨e, hout⟩
    · rw [hout]
      exact h.commit hd n (Session.clean_discard _) hconflict
    · rw [hout]
      exact h.giveUp n (Session.clean_discard _)
  | rollback n => exact h.giveUp n (Session.clean_discard _)
  | send channel header payload =>
    exact h.send hd fun a ha => hwarnings a (congrArg Answer.sent ha)

/-- **What a history makes of the catalog** is what its transactions make of it, one after the other. -/
theorem Tracks.run : ∀ {ops : List Op} {d : Database} {p : Pending}, d.Tracks p → d.Reachable →
    (∀ a, .sent (.ok a) ∈ d.answers ops → a.warnings = 0) →
      d.catalog.Replays (d.transactions p ops) (d.after ops).catalog
  | [], d, _, _, _, _ => Catalog.Replays.refl d.catalog
  | op :: ops, d, p, h, hd, hwarnings => by
    have hstep : Follows d (op.apply d) (op.record d p) :=
      h.step hd fun a ha => hwarnings a (by rw [answers, ha]; exact mem_cons_self ..)
    exact hstep.replays.trans
      (hstep.tracks.run (hd.step op) fun a ha => hwarnings a (mem_cons_of_mem _ ha))

end Database

end BulkLoad
