import BulkLoad.Proofs.Database.References

/-!
# Statements run again

A statement is checked when it is sent, but its rows are published later, when others may have published rows of their
own. If it has skipped no line and no key that it has staged has been committed meanwhile, it may as well be run only
then: it accepts the same lines (`Catalog.scan_of_extends`), with the same acknowledgement
(`Catalog.load_of_extends`). What it has not seen before can be no reason to refuse a line but a duplicate key, and the
rows that it refers to are still there.

The statements of a transaction can be redone in this way, one after the other, on every catalog that takes what they
have staged (`Catalog.Redoable`).
-/

namespace BulkLoad

open List

/-- A bulk statement and how it has been acknowledged. -/
structure Acknowledged where
  header : String
  payload : Bytes
  ack : Ack

namespace Catalog

variable {c C : Catalog} {s S : Session} {f : Format}

/-! ## Lines -/

section Lines

variable {t : TableDef} {ps : List Nat} {A : Rows} {line : Nat} {raw : RawRow} {row : Row} {key : Option Value}

/-- A row that passes all checks is accepted. -/
theorem judge_of_accepts (h : c.Accepts s f t ps A line raw row key) :
    c.judge s f t ps A line raw = .accept row key := by
  have hlinked : t.foreignKeys.find? (c.dangles s t A row) = none := by
    rw [find?_eq_none]
    intro fk hfk
    exact Bool.eq_false_iff.mp (h.linked fk hfk)
  unfold judge judgeRow
  simp only [h.decoded, h.complete, hlinked, h.keyed]
  cases key with
  | none => rfl
  | some k =>
    obtain ⟨hvisible, haccepted⟩ := h.new k rfl
    simp [hvisible, haccepted]

/-- A row that has been accepted is accepted by a catalog that has grown, unless its key has been taken. -/
theorem Accepts.of_extends (h : c.Accepts s f t ps A line raw row key) (hextends : c.Extends C)
    (hsame : ∀ x, S.stagedFor x = s.stagedFor x) (hnew : ∀ k, key = some k → k ∉ C.keysOf t.name) :
    C.Accepts S f t ps A line raw row key := by
  have hvisible : C.visibleKeys S = C.visibleKeys s := visibleKeys_congr hsame
  refine ⟨h.decoded, h.complete, h.keyed, ?_, ?_⟩
  · intro k hk
    obtain ⟨hold, haccepted⟩ := h.new k hk
    refine ⟨?_, haccepted⟩
    rw [hvisible, visibleKeys, mem_append, not_or]
    exact ⟨hnew k hk, fun hstaged => hold (mem_append_right _ hstaged)⟩
  · intro fk hfk
    have hlinked := h.linked fk hfk
    rw [Bool.eq_false_iff, Ne, dangles_iff] at hlinked ⊢
    rintro ⟨k, hk, hseen⟩
    refine hlinked ⟨k, hk, fun hbefore => hseen ?_⟩
    unfold Seen at hbefore ⊢
    rw [hvisible]
    exact hbefore.imp_left hextends.visibleKeys

/-- **A scan that skips no line** comes to the same on a catalog that has grown, unless one of its keys has been
taken. -/
theorem scan_of_extends (hextends : c.Extends C) (hsame : ∀ x, S.stagedFor x = s.stagedFor x) :
    ∀ (raws : List RawRow) {A : Rows} (line : Nat), (c.scan s f t ps A line raws).failure = none →
      (c.scan s f t ps A line raws).skipped = [] →
      (∀ k ∈ (c.scan s f t ps A line raws).accepted.keys, k ∉ C.keysOf t.name) →
        C.scan S f t ps A line raws = c.scan s f t ps A line raws
  | [], _, _, _, _, _ => rfl
  | raw :: rest, A, line, hfailure, hskipped, hnew => by
    rw [scan] at hfailure hskipped hnew ⊢
    rw [scan]
    cases hj : c.judge s f t ps A line raw with
    | refuse e =>
      rw [hj] at hfailure
      cases hfailure
    | skip fk =>
      rw [hj] at hskipped
      cases hskipped
    | accept row key =>
      rw [hj] at hfailure hskipped hnew
      -- The key of the row is one of those that the scan accepts.
      have hkeys : ∀ k ∈ (A.push row key).keys, k ∈ (c.scan s f t ps (A.push row key) (line + 1) rest).accepted.keys :=
        accepted_scan (P := fun B => ∀ k ∈ (A.push row key).keys, k ∈ B.keys)
          (fun _ hB k hk => mem_append_left _ (hB k hk)) rest (line + 1) fun _ hk => hk
      have haccepts : C.Accepts S f t ps A line raw row key := by
        refine (accepts_of_judge hj).of_extends hextends hsame fun k hk => hnew k (hkeys k ?_)
        rw [Rows.keys_push, hk]
        exact mem_append_right _ (mem_singleton_self k)
      rw [judge_of_accepts haccepts]
      exact scan_of_extends hextends hsame rest (line + 1) hfailure hskipped hnew

end Lines

/-! ## Statements -/

variable {dest : Destination} {payload : Bytes}

/-- **A statement that skips no line** is acknowledged as before by a catalog that has grown, and it stages the same
rows, unless one of its keys has been taken. -/
theorem load_of_extends (hextends : c.Extends C) (hsame : ∀ x, S.stagedFor x = s.stagedFor x) {a : Ack}
    (hvalue : (c.load s f dest payload).value = .ok a) (hwarnings : a.warnings = 0)
    (hnew : ∀ x, ∀ k ∈ ((c.load s f dest payload).state.stagedFor x).keys, k ∉ C.keysOf x) :
    (C.load S f dest payload).value = .ok a ∧
      ∀ x, (C.load S f dest payload).state.stagedFor x = (c.load s f dest payload).state.stagedFor x := by
  obtain ⟨t, ps, raws, h⟩ := loads_of_load hvalue
  obtain ⟨hanswer, hstate⟩ := h.load
  obtain ⟨later, hfind⟩ := hextends _ t h.table
  rw [hanswer] at hvalue
  cases hvalue
  have hscan : C.scan S f t.definition ps {} 1 raws = c.scan s f t.definition ps {} 1 raws := by
    refine scan_of_extends hextends hsame raws 1 h.succeeds (length_eq_zero_iff.mp hwarnings) fun k hk => ?_
    apply hnew
    rw [hstate, stagedFor_stage, if_pos rfl]
    exact mem_append_right _ hk
  have h' : C.Loads S f dest payload { t with data := t.data.append later } ps raws :=
    ⟨hfind, h.positions, h.lines, by rw [hscan]; exact h.succeeds⟩
  obtain ⟨hanswer', hstate'⟩ := h'.load
  rw [hscan] at hanswer' hstate'
  refine ⟨hanswer', fun x => ?_⟩
  rw [hstate', hstate, stagedFor_stage, stagedFor_stage, hsame]

/-! ## Transactions -/

/-- Statements run in a session, one after the other, and all of them are acknowledged as they have been before. -/
inductive Executes (C : Catalog) (f : Format) : Session → List Acknowledged → Session → Prop
  | nil {S : Session} : Executes C f S [] S
  | cons {S S' : Session} {x : Acknowledged} {xs : List Acknowledged} {dest : Destination} :
      Destination.read? f x.header = some dest → (C.load S f dest x.payload).value = .ok x.ack →
        Executes C f (C.load S f dest x.payload).state xs S' → Executes C f S (x :: xs) S'

theorem Executes.concat {xs : List Acknowledged} {S' : Session} (h : C.Executes f S xs S') {x : Acknowledged}
    (hread : Destination.read? f x.header = some dest) (hvalue : (C.load S' f dest x.payload).value = .ok x.ack) :
    C.Executes f S (xs ++ [x]) (C.load S' f dest x.payload).state := by
  induction h with
  | nil => exact .cons hread hvalue .nil
  | cons hread' hvalue' _ ih => exact .cons hread' hvalue' (ih hvalue)

/-- The statements `xs` can be redone on every catalog that has grown from `c` and has none of the keys that the session
`s` has staged: they are acknowledged as before and stage what is staged in `s`. -/
def Redoable (c : Catalog) (s : Session) (f : Format) (xs : List Acknowledged) : Prop :=
  ∀ C, c.Extends C → (∀ x, ∀ k ∈ (s.stagedFor x).keys, k ∉ C.keysOf x) →
    ∃ S, C.Executes f { autocommit := false } xs S ∧ ∀ x, S.stagedFor x = s.stagedFor x

theorem redoable_nil (c : Catalog) (f : Format) (h : s.Clean) : c.Redoable s f [] := by
  intro C _ _
  refine ⟨_, .nil, fun x => ?_⟩
  rw [h.stagedFor]
  rfl

theorem Redoable.of_extends {c' : Catalog} {xs : List Acknowledged} (h : c.Redoable s f xs) (hextends : c.Extends c') :
    c'.Redoable s f xs :=
  fun C hC hnew => h C (hextends.trans hC) hnew

/-- **A further statement that skips no line can be redone behind the others.** -/
theorem Redoable.concat {xs : List Acknowledged} (h : c.Redoable s f xs) {x : Acknowledged}
    (hread : Destination.read? f x.header = some dest) (hvalue : (c.load s f dest x.payload).value = .ok x.ack)
    (hwarnings : x.ack.warnings = 0) : c.Redoable (c.load s f dest x.payload).state f (xs ++ [x]) := by
  intro C hextends hnew
  -- What has been staged before is still staged.
  have hbefore : ∀ x, ∀ k ∈ (s.stagedFor x).keys, k ∉ C.keysOf x := by
    obtain ⟨t, ps, raws, hloads⟩ := loads_of_load hvalue
    intro y k hk
    apply hnew
    rw [hloads.load.2, stagedFor_stage]
    split
    · exact mem_append_left _ hk
    · exact hk
  obtain ⟨S, hexecutes, hsame⟩ := h C hextends hbefore
  obtain ⟨hvalue', hsame'⟩ := load_of_extends hextends hsame hvalue hwarnings hnew
  exact ⟨_, hexecutes.concat hread hvalue', hsame'⟩

end Catalog

end BulkLoad
