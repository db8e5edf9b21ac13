import BulkLoad.Proofs.Database.Answers
import BulkLoad.Proofs.Database.Elsewhere
import BulkLoad.Proofs.Database.Visible

/-!
# Databases that look alike

Two databases look alike to some of their connections (`Database.Alike`) when they have the same committed rows, channels
and connections, and each of these connections has staged the same rows in both, whatever the others have staged. An
operation of one of them is answered in both alike, and they look alike afterwards (`Database.Alike.step`).

This is shown along the operations as they are put together: operations match when they give related answers on
databases that look alike and keep the likeness (`Database.Matches`), and so does what is composed of them
(`Database.Matches.bind`).
-/

namespace BulkLoad

open List

/-! ## Sessions -/

namespace Session

/-- The sessions have the same mode, and the same rows are staged for each table. -/
structure Alike (s s' : Session) : Prop where
  mode : s'.autocommit = s.autocommit
  staged : ∀ x, s'.stagedFor x = s.stagedFor x

variable {s s' : Session}

theorem Alike.refl (s : Session) : s.Alike s := ⟨rfl, fun _ => rfl⟩

/-- If each table has one entry, then each entry is that of its table. -/
theorem lookup_of_mem {staged : List (String × Rows)} (hnames : (staged.map Prod.fst).Nodup) {x : String} {rows : Rows}
    (h : (x, rows) ∈ staged) : staged.lookup x = some rows := by
  obtain ⟨l₁, l₂, rfl⟩ := append_of_mem h
  refine lookup_eq_some_iff.mpr ⟨l₁, l₂, rfl, fun e he => bne_iff_ne.mpr ?_⟩
  rw [map_append, nodup_append] at hnames
  exact Ne.symm (hnames.2.2 e.1 (mem_map_of_mem he) x (mem_cons_self ..))

theorem inTransaction_iff (hnames : (s.staged.map Prod.fst).Nodup) :
    s.inTransaction = true ↔ ∃ x, (s.stagedFor x).rows ≠ [] := by
  unfold inTransaction stagedCount stagedFor
  rw [decide_eq_true_iff, Ne, length_eq_zero_iff, flatMap_eq_nil_iff]
  constructor
  · intro h
    simp only [not_forall] at h
    obtain ⟨⟨x, rows⟩, he, hrows⟩ := h
    refine ⟨x, ?_⟩
    rw [lookup_of_mem hnames he]
    exact hrows
  · rintro ⟨x, hx⟩ h
    cases hl : s.staged.lookup x with
    | none => rw [hl] at hx; exact hx rfl
    | some rows =>
      obtain ⟨l₁, l₂, heq, _⟩ := lookup_eq_some_iff.mp hl
      rw [hl] at hx
      exact hx (h (x, rows) (by rw [heq]; simp))

theorem Alike.inTransaction (h : s.Alike s') (hnames : (s.staged.map Prod.fst).Nodup)
    (hnames' : (s'.staged.map Prod.fst).Nodup) : s'.inTransaction = s.inTransaction := by
  rw [Bool.eq_iff_iff, inTransaction_iff hnames, inTransaction_iff hnames']
  simp only [h.staged]

end Session

namespace Catalog

variable {c : Catalog} {s s' : Session}

theorem conflict?_congr (h : s.Alike s') : c.conflict? s'.staged = c.conflict? s.staged := by
  have hin : c.conflictIn? s'.staged = c.conflictIn? s.staged := by
    funext table
    have hstaged : (s'.staged.lookup table).getD {} = (s.staged.lookup table).getD {} := h.staged table
    simp only [conflictIn?, hstaged]
  simp only [conflict?, hin]

/-- Sessions that are alike publish the same rows. -/
theorem publishAll_congr (h : s.Alike s') (hs : c.Holds s) (hs' : c.Holds s') :
    c.publishAll s'.staged = c.publishAll s.staged := by
  rw [publishAll_eq_map c hs.names, publishAll_eq_map c hs'.names, mk.injEq]
  refine map_congr_left fun t _ => ?_
  have hstaged : (s'.staged.lookup t.definition.name).getD {} = (s.staged.lookup t.definition.name).getD {} :=
    h.staged t.definition.name
  rw [hstaged]

/-- A statement is answered alike in sessions that are alike, and leaves them alike. -/
theorem load_congr (h : s.Alike s') (f : Format) (dest : Destination) (payload : Bytes) :
    (c.load s' f dest payload).value = (c.load s f dest payload).value ∧
      (c.load s f dest payload).state.Alike (c.load s' f dest payload).state := by
  have hkeys : c.visibleKeys s' = c.visibleKeys s := visibleKeys_congr h.staged
  refine ⟨value_load_congr hkeys f dest payload, ?_⟩
  unfold load
  rw [examine_congr hkeys]
  cases c.examine s f dest payload with
  | error e => exact h
  | ok found =>
    obtain ⟨t, r⟩ := found
    cases hfailure : r.failure with
    | some e =>
      simp only [hfailure]
      exact h
    | none =>
      simp only [hfailure]
      refine ⟨h.mode, fun x => ?_⟩
      rw [stagedFor_stage, stagedFor_stage, h.staged]

end Catalog

namespace Database

/-! ## Databases -/

/-- The databases look alike to the connections in `seen`. -/
structure Alike (seen : Nat → Prop) (d d' : Database) : Prop where
  catalog : d'.catalog = d.catalog
  channels : d'.channels = d.channels
  length : d'.connections.length = d.connections.length
  format : ∀ n, (d'.connection n).format = (d.connection n).format
  allowsBulk : ∀ n, (d'.connection n).allowsBulk = (d.connection n).allowsBulk
  session : ∀ n, seen n → (d.session n).Alike (d'.session n)
  holds : d.Each Catalog.Holds
  holds' : d'.Each Catalog.Holds

variable {seen : Nat → Prop} {d d' : Database} {n : Nat}

theorem Alike.refl (hd : d.Reachable) : Alike seen d d where
  catalog := rfl
  channels := rfl
  length := rfl
  format _ := rfl
  allowsBulk _ := rfl
  session _ _ := Session.Alike.refl _
  holds := hd.holds
  holds' := hd.holds

/-- Databases that look alike before look alike after the same change of a connection on both sides. -/
theorem Alike.put (h : Alike seen d d') {C C' : Catalog} {S S' : Session} (hC : C' = C) (hS : S.Alike S')
    (hchange : Change n d (d.put n C S)) (hchange' : Change n d' (d'.put n C' S')) :
    Alike seen (d.put n C S) (d'.put n C' S') where
  catalog := hC
  channels := h.channels
  length := by rw [length_connections_put, length_connections_put, h.length]
  format m := by rw [format_put, format_put, h.format]
  allowsBulk m := by
    rw [connection_put, connection_put, h.length]
    split <;> exact h.allowsBulk m
  session m hm := by
    rw [session_put, session_put, h.length]
    split
    · exact hS
    · exact h.session m hm
  holds := h.holds.change Catalog.invariant_holds hchange
  holds' := h.holds'.change Catalog.invariant_holds hchange'

/-! ## Operations that match -/

variable {α β γ δ : Type}

/-- On databases that look alike the operations give answers that are related, and leave databases that look alike. -/
def Matches (seen : Nat → Prop) (V : α → β → Prop) (x : Act Database α) (y : Act Database β) : Prop :=
  ∀ d d', Alike seen d d' → V (x.out d).1 (y.out d').1 ∧ Alike seen (x.out d).2 (y.out d').2

theorem matches_pure {V : α → β → Prop} {a : α} {b : β} (h : V a b) : Matches seen V (pure a) (pure b) :=
  fun _ _ hd => ⟨h, hd⟩

theorem matches_ask {V : α → β → Prop} {f : Database → α} {g : Database → β}
    (h : ∀ d d', Alike seen d d' → V (f d) (g d')) : Matches seen V (Act.ask f) (Act.ask g) :=
  fun d d' hd => ⟨h d d' hd, hd⟩

theorem Matches.bind {V : α → β → Prop} {W : γ → δ → Prop} {x : Act Database α} {y : Act Database β}
    {f : α → Act Database γ} {g : β → Act Database δ} (h : Matches seen V x y)
    (h' : ∀ a b, V a b → Matches seen W (f a) (g b)) : Matches seen W (x >>= f) (y >>= g) := by
  intro d d' hd
  obtain ⟨hvalue, hstate⟩ := h d d' hd
  rw [Act.out_bind, Act.out_bind]
  exact h' _ _ hvalue _ _ hstate

section Seen

variable (hn : seen n)
include hn

theorem matches_commit : Matches seen Eq (commit n) (commit n) := by
  intro d d' h
  have hsession := h.session n hn
  have hconflict : d'.catalog.conflict? (d'.session n).staged = d.catalog.conflict? (d.session n).staged := by
    rw [h.catalog, Catalog.conflict?_congr hsession]
  have hpublish : d'.catalog.publishAll (d'.session n).staged = d.catalog.publishAll (d.session n).staged := by
    rw [h.catalog, Catalog.publishAll_congr hsession (h.holds n) (h.catalog ▸ h.holds' n)]
  have hdiscard : (d.session n).discard.Alike (d'.session n).discard := ⟨hsession.mode, fun _ => rfl⟩
  have hchange : Change n d (Act.out (commit n) d).2 := .commit
  have hchange' : Change n d' (Act.out (commit n) d').2 := .commit
  rw [out_commit] at hchange hchange' ⊢
  rw [out_commit]
  rw [hconflict] at hchange' ⊢
  cases hc : d.catalog.conflict? (d.session n).staged with
  | none =>
    rw [hc] at hchange hchange'
    exact ⟨rfl, h.put hpublish hdiscard hchange hchange'⟩
  | some k =>
    rw [hc] at hchange hchange'
    exact ⟨rfl, h.put h.catalog hdiscard hchange hchange'⟩

theorem matches_rollback : Matches seen Eq (rollback n) (rollback n) := by
  intro d d' h
  have hdiscard : (d.session n).discard.Alike (d'.session n).discard := ⟨(h.session n hn).mode, fun _ => rfl⟩
  exact ⟨rfl, h.put h.catalog hdiscard .rollback .rollback⟩

theorem matches_setMode (on : Bool) : Matches seen Eq (setMode n on) (setMode n on) := by
  intro d d' h
  have hmode : Session.Alike { d.session n with autocommit := on } { d'.session n with autocommit := on } :=
    ⟨rfl, (h.session n hn).staged⟩
  exact ⟨rfl, h.put h.catalog hmode (.mode on) (.mode on)⟩

theorem matches_load (dest : Destination) (payload : Bytes) :
    Matches seen Eq (load n dest payload) (load n dest payload) := by
  intro d d' h
  have hload := Catalog.load_congr (c := d.catalog) (h.session n hn) (d.connection n).format dest payload
  have hsame : d'.catalog.load (d'.session n) (d'.connection n).format dest payload =
      d.catalog.load (d'.session n) (d.connection n).format dest payload := by
    rw [h.catalog, h.format]
  have hstate : (d.catalog.load (d.session n) (d.connection n).format dest payload).state.Alike
      (d'.catalog.load (d'.session n) (d'.connection n).format dest payload).state := by
    rw [hsame]
    exact hload.2
  refine ⟨?_, h.put h.catalog hstate (.load dest payload) (.load dest payload)⟩
  show (d.catalog.load (d.session n) (d.connection n).format dest payload).value.mapError _ =
    (d'.catalog.load (d'.session n) (d'.connection n).format dest payload).value.mapError _
  rw [hsame, hload.1, h.format]

theorem matches_setAutocommit (on : Bool) : Matches seen Eq (setAutocommit n on) (setAutocommit n on) := by
  have hset : Matches seen Eq (do setMode n on; pure (Except.ok () : Except DriverError Unit))
      (do setMode n on; pure (Except.ok ())) :=
    (matches_setMode hn on).bind fun _ _ _ => matches_pure rfl
  unfold Database.setAutocommit
  refine Matches.bind (V := fun s s' => s'.autocommit = s.autocommit ∧ s'.inTransaction = s.inTransaction)
    (matches_ask fun d d' h => ?_) ?_
  · have hsession := h.session n hn
    exact ⟨hsession.mode, hsession.inTransaction (h.holds n).names (h.holds' n).names⟩
  · rintro s s' ⟨hmode, hopen⟩
    rw [hmode, hopen]
    split
    · refine (matches_commit hn).bind fun r r' hr => ?_
      cases hr
      cases r with
      | error e => exact matches_pure rfl
      | ok _ => exact hset
    · exact hset

theorem matches_runStatement (header : String) (payload : Bytes) :
    Matches seen Eq (runStatement n header payload) (runStatement n header payload) := by
  unfold Database.runStatement
  refine Matches.bind (V := fun c c' => c'.format = c.format ∧ c'.session.autocommit = c.session.autocommit)
    (matches_ask fun d d' h => ⟨h.format n, (h.session n hn).mode⟩) ?_
  rintro c c' ⟨hformat, hmode⟩
  rw [hformat, hmode]
  cases Destination.read? c.format header with
  | none => exact matches_pure rfl
  | some dest =>
    refine (matches_load hn dest payload).bind fun r r' hr => ?_
    cases hr
    cases r with
    | error e => exact matches_pure rfl
    | ok ack =>
      simp only
      split
      · refine (matches_commit hn).bind fun r r' hr => ?_
        cases hr
        exact matches_pure rfl
      · exact matches_pure rfl

end Seen

theorem matches_createTable (t : TableDef) : Matches seen Eq (createTable t) (createTable t) := by
  intro d d' h
  have hholds : (Act.out (createTable t) d).2.Each _ := h.holds.apply Catalog.invariant_holds (.createTable t)
  have hholds' : (Act.out (createTable t) d').2.Each _ := h.holds'.apply Catalog.invariant_holds (.createTable t)
  rw [out_createTable] at hholds hholds' ⊢
  rw [out_createTable]
  rw [h.catalog] at hholds' ⊢
  cases hcreate : d.catalog.create t with
  | error e => exact ⟨rfl, h⟩
  | ok C =>
    rw [hcreate] at hholds hholds'
    exact ⟨rfl, rfl, h.channels, h.length, h.format, h.allowsBulk, h.session, hholds, hholds'⟩

theorem matches_connect (format : Format) (allowsBulk : Bool) :
    Matches seen Eq (connect format allowsBulk) (connect format allowsBulk) := by
  intro d d' h
  refine ⟨h.length.symm, h.catalog, h.channels, ?_, fun m => ?_, fun m => ?_, fun m hm => ?_,
    h.holds.connect format allowsBulk, h.holds'.connect format allowsBulk⟩
  · show (d'.connections ++ [_]).length = (d.connections ++ [_]).length
    rw [length_append, length_append, h.length]
  · show ((connect format allowsBulk d').state.connection m).format =
      ((connect format allowsBulk d).state.connection m).format
    rw [connection_connect, connection_connect, h.length]
    split
    · rfl
    · exact h.format m
  · show ((connect format allowsBulk d').state.connection m).allowsBulk =
      ((connect format allowsBulk d).state.connection m).allowsBulk
    rw [connection_connect, connection_connect, h.length]
    split
    · rfl
    · exact h.allowsBulk m
  · show ((connect format allowsBulk d).state.session m).Alike ((connect format allowsBulk d').state.session m)
    rw [session_connect, session_connect]
    exact h.session m hm

theorem matches_openChannel (n : Nat) : Matches seen Eq (openChannel n) (openChannel n) := by
  intro d d' h
  rw [out_openChannel, out_openChannel, h.allowsBulk, h.format, h.channels]
  split
  · exact ⟨rfl, h.catalog, rfl, h.length, h.format, h.allowsBulk, h.session, h.holds, h.holds'⟩
  · exact ⟨rfl, h⟩

theorem matches_closeChannel (channel : Nat) : Matches seen Eq (closeChannel channel) (closeChannel channel) := by
  intro d d' h
  refine ⟨rfl, h.catalog, ?_, h.length, h.format, h.allowsBulk, h.session, h.holds, h.holds'⟩
  show d'.channels.modify channel _ = d.channels.modify channel _
  rw [h.channels]

/-! ## Steps -/

/-- A statement that a connection of `seen` sends, or nobody. -/
theorem Alike.send (h : Alike seen d d') {channel : Nat} (howner : ∀ n, d.owner? channel = some n → seen n)
    (header : String) (payload : Bytes) :
    (Act.out (send channel header payload) d).1 = (Act.out (send channel header payload) d').1 ∧
      Alike seen (Act.out (send channel header payload) d).2 (Act.out (send channel header payload) d').2 := by
  unfold Database.send
  rw [Act.out_bind, Act.out_bind, Act.out_ask, Act.out_ask]
  simp only [h.channels]
  cases hch : d.channels[channel]? with
  | none => exact ⟨rfl, h⟩
  | some ch =>
    have hn : seen ch.connection := howner _ (by rw [owner?, hch, Option.map_some])
    cases hclosed : ch.closed with
    | true =>
      simp only [hclosed, if_true]
      exact ⟨rfl, h⟩
    | false =>
      simp only [hclosed, Bool.false_eq_true, if_false]
      exact matches_runStatement hn header payload d d' h

/-- **An operation of a connection in `seen`** is answered alike, and the databases look alike afterwards. -/
theorem Alike.step (h : Alike seen d d') {op : Op} (hseen : ∀ n, op.elsewhere n d = false → seen n) :
    op.answer d' = op.answer d ∧ Alike seen (op.apply d) (op.apply d') := by
  have hown {n : Nat} (hn : (n != n) = false → seen n) : seen n := hn (bne_self_eq_false n)
  cases op with
  | createTable t => exact (matches_createTable t d d' h).imp (fun hr => congrArg Answer.done hr.symm) id
  | connect format allowsBulk =>
    exact (matches_connect format allowsBulk d d' h).imp (fun hr => congrArg Answer.connected hr.symm) id
  | openChannel n => exact (matches_openChannel n d d' h).imp (fun hr => congrArg Answer.opened hr.symm) id
  | closeChannel channel =>
    exact (matches_closeChannel channel d d' h).imp (fun hr => congrArg Answer.done hr.symm) id
  | setAutocommit n on =>
    exact (matches_setAutocommit (hown (hseen n)) on d d' h).imp (fun hr => congrArg Answer.done hr.symm) id
  | commit n => exact (matches_commit (hown (hseen n)) d d' h).imp (fun hr => congrArg Answer.done hr.symm) id
  | rollback n => exact (matches_rollback (hown (hseen n)) d d' h).imp (fun hr => congrArg Answer.done hr.symm) id
  | send channel header payload =>
    refine (h.send (fun n hn => hseen n ?_) header payload).imp (fun hr => congrArg Answer.sent hr.symm) id
    show (d.owner? channel != some n) = false
    rw [hn, bne_self_eq_false]

end Database

end BulkLoad
