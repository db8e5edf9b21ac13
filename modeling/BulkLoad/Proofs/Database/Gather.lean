import BulkLoad.Proofs.Database.Records

/-!
# Gathering rows

What a statement does with a line depends on the keys that it sees: those that are committed, those that the session has
staged, and those of the rows accepted before in the same statement. Where a key lies makes no difference, and neither
does the number of the line (`Catalog.decision_judge`). So the rows of lines can be gathered without regard to
statements (`Catalog.gather?`): lines are gathered the same from a catalog and a session as from others, when the rows
gathered before make up for the keys that these lack (`Catalog.gather?_append_of_seen`).

A statement with the payload of a batch stages the rows that are gathered from the records of the batch, or is not
accepted (`Catalog.load_of_carries`). So statements that run, each with its rows committed before the next one, add rows
of the records that their batches carry, in order (`Catalog.acceptedRows_of_runs`).
-/

namespace BulkLoad

open List

namespace Rows

theorem append_assoc (A B D : Rows) : (A.append B).append D = A.append (B.append D) := by
  simp only [append, List.append_assoc]

theorem append_push (A B : Rows) (row : Row) (key : Option Value) :
    (A.append B).push row key = A.append (B.push row key) := by
  simp only [append, push, List.append_assoc]

end Rows

namespace Catalog

variable {c c' : Catalog} {s s' : Session} {f : Format} {t : TableDef} {ps : List Nat} {strict : Bool} {A B : Rows}

/-! ## Decisions -/

/-- What a verdict decides: a line is refused (`none`), skipped (`some none`) or accepted. -/
def Verdict.decision : Verdict → Option (Option (Row × Option Value))
  | .accept row key => some (some (row, key))
  | .skip _ => some none
  | .refuse _ => none

/-- A key of a table is visible, or it belongs to a row accepted before. -/
def Seen (c : Catalog) (s : Session) (name : String) (A : Rows) (table : String) (k : Value) : Prop :=
  k ∈ c.visibleKeys s table ∨ table = name ∧ k ∈ A.keys

/-- A row dangles when its reference is not seen. -/
theorem dangles_iff {row : Row} {fk : ForeignKey} : c.dangles s t A row fk = true ↔
    ∃ k, keyAt? row (t.columnIndex? fk.column) = some k ∧ ¬ c.Seen s t.name A fk.references k := by
  unfold dangles Seen
  cases keyAt? row (t.columnIndex? fk.column) with
  | none => simp
  | some k => simp [imp_iff_not_or]

theorem dangles_of_seen (h : ∀ x k, c.Seen s t.name A x k ↔ c'.Seen s' t.name B x k) :
    c.dangles s t A = c'.dangles s' t B := by
  funext row fk
  rw [Bool.eq_iff_iff, dangles_iff, dangles_iff]
  simp only [h]

/-- **Only the keys that are seen count for a decision.** -/
theorem decision_judge (h : ∀ x k, c.Seen s t.name A x k ↔ c'.Seen s' t.name B x k) (line line' : Nat) (raw : RawRow) :
    (c.judge s f t ps A line raw).decision = (c'.judge s' f t ps B line' raw).decision := by
  have hkey (k : Value) : ((c.visibleKeys s t.name).contains k || A.keys.contains k) =
      ((c'.visibleKeys s' t.name).contains k || B.keys.contains k) := by
    have hk := h t.name k
    simp only [Seen, true_and] at hk
    rw [Bool.eq_iff_iff]
    simpa using hk
  unfold judge
  cases hdecode : decodeRow f t ps line raw with
  | error e =>
    cases hdecode' : decodeRow f t ps line' raw with
    | error e' => rfl
    | ok row =>
      rw [decodeRow_line hdecode' line] at hdecode
      cases hdecode
  | ok row =>
    rw [decodeRow_line hdecode line']
    simp only [judgeRow, dangles_of_seen h, hkey]
    cases missingColumn? t row with
    | some column => rfl
    | none =>
      cases t.foreignKeys.find? (c'.dangles s' t B row) with
      | some fk => cases f <;> rfl
      | none =>
        cases keyAt? row t.primaryKeyIndex? with
        | none => rfl
        | some key =>
          simp only
          split <;> rfl

/-- A line is never skipped under `copy`. -/
theorem judge_copy_ne_skip {line : Nat} {raw : RawRow} {fk : ForeignKey} : c.judge s .copy t ps A line raw ≠ .skip fk := by
  unfold judge judgeRow
  intro h
  split at h
  · cases h
  split at h
  · cases h
  split at h
  · cases h
  split at h
  · cases h
  split at h <;> cases h

/-! ## Gathering -/

/-- The rows with the row of a further line, unless it is refused or, where that counts as a failure, skipped. -/
def gatherLine? (c : Catalog) (s : Session) (f : Format) (t : TableDef) (ps : List Nat) (strict : Bool) (A : Rows)
    (raw : RawRow) : Option Rows :=
  match (c.judge s f t ps A 1 raw).decision with
  | none => none
  | some none => if strict then none else some A
  | some (some (row, key)) => some (A.push row key)

/-- The rows with those of further lines. -/
def gather? (c : Catalog) (s : Session) (f : Format) (t : TableDef) (ps : List Nat) (strict : Bool) (A : Rows)
    (raws : List RawRow) : Option Rows :=
  raws.foldlM (c.gatherLine? s f t ps strict) A

theorem gather?_cons (raw : RawRow) (raws : List RawRow) : c.gather? s f t ps strict A (raw :: raws) =
    (c.gatherLine? s f t ps strict A raw).bind fun A => c.gather? s f t ps strict A raws := by
  unfold gather?
  rw [foldlM_cons]
  rfl

/-- A line is gathered by its verdict, whatever its number. -/
theorem gatherLine?_eq (line : Nat) (raw : RawRow) : c.gatherLine? s f t ps strict A raw =
    match c.judge s f t ps A line raw with
    | .refuse _ => none
    | .skip _ => if strict then none else some A
    | .accept row key => some (A.push row key) := by
  unfold gatherLine?
  rw [decision_judge (fun x k => Iff.refl (c.Seen s t.name A x k)) 1 line raw]
  cases c.judge s f t ps A line raw <;> rfl

/-- Rows gathered before can be set aside, when their keys are visible without them. -/
theorem gatherLine?_append_of_seen
    (h : ∀ x k, c.Seen s t.name (A.append B) x k ↔ c'.Seen s' t.name B x k) (raw : RawRow) :
    c.gatherLine? s f t ps strict (A.append B) raw =
      (c'.gatherLine? s' f t ps strict B raw).map A.append := by
  unfold gatherLine?
  rw [decision_judge h 1 1 raw]
  rcases (c'.judge s' f t ps B 1 raw).decision with _ | _ | ⟨row, key⟩
  · rfl
  · simp only
    split <;> rfl
  · simp only [Rows.append_push, Option.map_some]

theorem seen_push (h : ∀ x k, c.Seen s t.name A x k ↔ c'.Seen s' t.name B x k) (row : Row) (key : Option Value) :
    ∀ x k, c.Seen s t.name (A.push row key) x k ↔ c'.Seen s' t.name (B.push row key) x k := by
  intro x k
  have hk := h x k
  simp only [Seen, Rows.keys_push, mem_append, Option.mem_toList] at hk ⊢
  by_cases hx : x = t.name
  · simp only [hx, true_and] at hk ⊢
    rw [← or_assoc, ← or_assoc, hk]
  · simpa [hx] using hk

/-- **It makes no difference where the rows lie that were gathered before.** -/
theorem gather?_append_of_seen : ∀ (raws : List RawRow) {B : Rows},
    (∀ x k, c.Seen s t.name (A.append B) x k ↔ c'.Seen s' t.name B x k) →
      c.gather? s f t ps strict (A.append B) raws = (c'.gather? s' f t ps strict B raws).map A.append
  | [], B, _ => rfl
  | raw :: raws, B, h => by
    rw [gather?_cons, gather?_cons, gatherLine?_append_of_seen h raw, gatherLine?_eq 1]
    -- The next line meets the keys of these rows and at most one more.
    cases c'.judge s' f t ps B 1 raw with
    | refuse e => rfl
    | skip fk =>
      by_cases hs : strict = true
      · simp [hs]
      · simpa [hs] using gather?_append_of_seen raws h
    | accept row key =>
      refine gather?_append_of_seen raws ?_
      rw [← Rows.append_push]
      exact seen_push h row key

/-- **A scan gathers rows**, unless it fails or, where that counts as a failure, skips a line. -/
theorem gather?_eq_scan : ∀ (raws : List RawRow) (A : Rows) (line : Nat), c.gather? s f t ps strict A raws =
    if (c.scan s f t ps A line raws).failure = none ∧ (strict = true → (c.scan s f t ps A line raws).skipped = [])
      then some (c.scan s f t ps A line raws).accepted else none
  | [], A, line => by simp [gather?, scan]
  | raw :: raws, A, line => by
    rw [gather?_cons, gatherLine?_eq line, scan]
    cases c.judge s f t ps A line raw with
    | refuse e => simp
    | skip fk =>
      by_cases hs : strict = true
      · simp [hs]
      · simpa [hs] using gather?_eq_scan raws A (line + 1)
    | accept row key => exact gather?_eq_scan raws (A.push row key) (line + 1)

/-! ## Statements -/

section Statements

variable {ρ : Type} {sch : Schema ρ}

/-- The declaration of the table of a statement, and the places of its columns. -/
def target? (c : Catalog) (d : Destination) : Option (TableDef × List Nat) :=
  (c.find? d.table).bind fun t => (positions t.definition d.columns).toOption.map fun ps => (t.definition, ps)

/-- The rows with that of a further record. -/
def gatherRecord? (c : Catalog) (s : Session) (f : Format) (sch : Schema ρ) (strict : Bool) (A : Rows) (r : ρ) :
    Option Rows :=
  (c.target? (destination sch)).bind fun t => c.gatherLine? s f t.1 t.2 strict A (rawRow f sch r)

/-- The rows with those of further records. -/
def gatherRecords? (c : Catalog) (s : Session) (f : Format) (sch : Schema ρ) (strict : Bool) (A : Rows)
    (rs : List ρ) : Option Rows :=
  rs.foldlM (c.gatherRecord? s f sch strict) A

theorem gatherRecords?_append (rs rs' : List ρ) : c.gatherRecords? s f sch strict A (rs ++ rs') =
    (c.gatherRecords? s f sch strict A rs).bind fun A => c.gatherRecords? s f sch strict A rs' := by
  unfold gatherRecords?
  rw [foldlM_append]
  rfl

/-- The rows of records are gathered from the lines of the records. -/
theorem gatherRecords?_of_target {t : TableDef × List Nat} (h : c.target? (destination sch) = some t) (rs : List ρ) :
    c.gatherRecords? s f sch strict A rs = c.gather? s f t.1 t.2 strict A (rs.map (rawRow f sch)) := by
  have hrecord : c.gatherRecord? s f sch strict = fun A r => c.gatherLine? s f t.1 t.2 strict A (rawRow f sch r) := by
    funext A r
    rw [gatherRecord?, h, Option.bind_some]
  rw [gatherRecords?, gather?, hrecord, foldlM_map]

/-- Without a target nothing can be gathered. -/
theorem gatherRecords?_of_none (h : c.target? (destination sch) = none) {rs : List ρ} (hrs : rs ≠ []) :
    c.gatherRecords? s f sch strict A rs = none := by
  obtain ⟨r, rest, rfl⟩ := exists_cons_of_ne_nil hrs
  rw [gatherRecords?, foldlM_cons, gatherRecord?, h]
  rfl

theorem find?_of_target? {d : Destination} {t : TableDef × List Nat} (h : c.target? d = some t) :
    ∃ table, c.find? d.table = some table ∧ table.definition = t.1 ∧ positions t.1 d.columns = .ok t.2 := by
  obtain ⟨table, hfind, ht⟩ := Option.bind_eq_some_iff.mp h
  obtain ⟨ps, hps, rfl⟩ := Option.map_eq_some_iff.mp ht
  refine ⟨table, hfind, rfl, ?_⟩
  cases hpositions : positions table.definition d.columns with
  | error e => rw [hpositions] at hps; cases hps
  | ok ps' => rw [hpositions] at hps; cases hps; rfl

theorem name_of_target? {d : Destination} {t : TableDef × List Nat} (h : c.target? d = some t) : t.1.name = d.table := by
  obtain ⟨table, hfind, hdef, _⟩ := find?_of_target? h
  rw [← hdef]
  exact name_of_find? hfind

/-- Gathered rows are rows of the records that were not skipped, in order. Under `copy` no record is skipped, and neither
is any where that counts as a failure. -/
theorem taken_gatherRecords? : ∀ {rs : List ρ} {A B : Rows}, c.gatherRecords? s f sch strict A rs = some B →
    ∃ kept rows, kept <+ rs ∧ (f = .copy ∨ strict = true → kept = rs) ∧ Forall₂ (c.RowOf f sch) kept rows ∧
      B.rows = A.rows ++ rows
  | [], A, B, h => by
    cases h
    exact ⟨[], [], Sublist.refl [], fun _ => rfl, Forall₂.nil, (append_nil _).symm⟩
  | r :: rs, A, B, h => by
    rw [gatherRecords?, foldlM_cons] at h
    obtain ⟨A', hrecord, hrest⟩ := Option.bind_eq_some_iff.mp h
    obtain ⟨kept, rows, hkept, hall, hrows, happend⟩ := taken_gatherRecords? hrest
    obtain ⟨⟨t, ps⟩, htarget, hline⟩ := Option.bind_eq_some_iff.mp hrecord
    obtain ⟨table, hfind, hdef, hpositions⟩ := find?_of_target? htarget
    rw [gatherLine?_eq 1] at hline
    cases hj : c.judge s f t ps A 1 (rawRow f sch r) with
    | refuse e =>
      rw [hj] at hline
      cases hline
    | skip fk =>
      rw [hj] at hline
      simp only at hline
      split at hline
      · cases hline
      · next hlax =>
        cases hline
        refine ⟨kept, rows, hkept.cons r, ?_, hrows, happend⟩
        rintro (rfl | hstrict)
        · exact absurd hj judge_copy_ne_skip
        · exact absurd hstrict hlax
    | accept row key =>
      rw [hj] at hline
      cases hline
      have hdecode := decodeRow_line (accepts_of_judge hj).decoded
      refine ⟨r :: kept, row :: rows, hkept.cons_cons r, fun h => by rw [hall h],
        Forall₂.cons ⟨table, ps, hfind, ?_, ?_⟩ hrows, ?_⟩
      · rw [hdef]
        exact hpositions
      · rw [hdef]
        exact hdecode
      · rw [happend, Rows.push, append_assoc, singleton_append]

/-- A statement with the payload of a batch is a scan of the rows of its records, if it has a target. -/
theorem examine_of_carries {b : Batch} {rs : List ρ} (hb : b.Carries f sch rs) :
    (∃ e, c.target? (destination sch) = none ∧ c.examine s f (destination sch) b.bytes = .error e) ∨
    ∃ t, c.target? (destination sch) = some t ∧ c.examine s f (destination sch) b.bytes =
      .ok (t.1, c.scan s f t.1 t.2 {} 1 (rs.map (rawRow f sch))) := by
  unfold target? examine
  cases hfind : c.find? (destination sch).table with
  | none => exact Or.inl ⟨_, rfl, rfl⟩
  | some table =>
    cases hpositions : positions table.definition (destination sch).columns with
    | error e => exact Or.inl ⟨e, by simp [hpositions, Except.toOption], by simp [hpositions]⟩
    | ok ps =>
      refine Or.inr ⟨(table.definition, ps), by simp [hpositions, Except.toOption], ?_⟩
      simp only [hpositions, readPayload_carries hb]

/-- **What a statement does with the payload of a batch.** Either the rows gathered from the records of the batch are
staged, as many as the answer says. Or there is no way to gather them, and the statement fails or skips a row where that
counts as a failure. -/
theorem load_of_carries {b : Batch} {rs : List ρ} (hb : b.Carries f sch rs) (hrs : rs ≠ []) (strict : Bool) :
    (∃ B skipped, c.gatherRecords? s f sch strict {} rs = some B ∧ (b.records ≤ B.count ∨ strict = false) ∧
      (c.load s f (destination sch) b.bytes).value = .ok ⟨B.count, skipped⟩ ∧
      (c.load s f (destination sch) b.bytes).state = s.stage sch.table B) ∨
    c.gatherRecords? s f sch strict {} rs = none ∧
      ((∃ e, (c.load s f (destination sch) b.bytes).value = .error e) ∨
        ∃ a, (c.load s f (destination sch) b.bytes).value = .ok a ∧ ¬ (b.records ≤ a.rows ∨ strict = false)) := by
  unfold load
  rcases examine_of_carries (c := c) (s := s) hb with ⟨e, htarget, hexamine⟩ | ⟨t, htarget, hexamine⟩
  · rw [hexamine]
    exact Or.inr ⟨gatherRecords?_of_none htarget hrs, Or.inl ⟨e, rfl⟩⟩
  have hname : t.1.name = sch.table := name_of_target? htarget
  have hcount := @count_scan c s f t.1 t.2 (rs.map (rawRow f sch)) {} 1
  rw [hexamine, gatherRecords?_of_target htarget, gather?_eq_scan (rs.map (rawRow f sch)) {} 1]
  simp only
  generalize c.scan s f t.1 t.2 {} 1 (rs.map (rawRow f sch)) = scan at hcount
  cases hfailure : scan.failure with
  | some e => exact Or.inr ⟨by simp, Or.inl ⟨e, rfl⟩⟩
  | none =>
    have hrows := hcount hfailure
    have hzero : Rows.count {} = 0 := rfl
    rw [hzero, length_map, ← hb.1] at hrows
    by_cases hskipped : strict = true → scan.skipped = []
    · refine Or.inl ⟨scan.accepted, scan.skipped.length, by simpa using hskipped, ?_, rfl, by rw [hname]⟩
      by_cases hs : strict = true
      · rw [hskipped hs, length_nil] at hrows
        exact Or.inl (by omega)
      · exact Or.inr (Bool.eq_false_iff.mpr hs)
    · -- A row was skipped, so that the answer falls short of the batch.
      refine Or.inr ⟨by simp [hskipped], Or.inr ⟨_, rfl, ?_⟩⟩
      rw [Classical.not_imp] at hskipped
      have hlt := length_pos_of_ne_nil hskipped.2
      rintro (hle | hlax)
      · simp only at hle
        omega
      · exact absurd hskipped.1 (by simp [hlax])

/-! ### Where gathered rows lie -/

/-- Rows that are published one after the other could be published together. -/
theorem publish_publish (c : Catalog) (table : String) (A B : Rows) :
    (c.publish table A).publish table B = c.publish table (A.append B) := by
  obtain ⟨tables⟩ := c
  simp only [publish, map_map]
  congr 2
  funext t
  by_cases ht : t.definition.name = table
  · simp [ht, Rows.append_assoc]
  · simp [ht]

theorem stageIn_stageIn (table : String) (A B : Rows) : ∀ staged : List (String × Rows),
    Session.stageIn table B (Session.stageIn table A staged) = Session.stageIn table (A.append B) staged
  | [] => by simp [Session.stageIn]
  | (t, r) :: rest => by
    have ih := stageIn_stageIn table A B rest
    by_cases ht : t = table
    · simp [Session.stageIn, ht, Rows.append_assoc]
    · simp [Session.stageIn, ht, ih]

/-- Rows that are staged one after the other could be staged together. -/
theorem stage_stage (s : Session) (table : String) (A B : Rows) :
    (s.stage table A).stage table B = s.stage table (A.append B) := by
  simp only [Session.stage, stageIn_stageIn]

theorem keysOf_publish {table : String} (h : (c.find? table).isSome) (A : Rows) (x : String) :
    (c.publish table A).keysOf x = c.keysOf x ++ if x = table then A.keys else [] := by
  unfold keysOf
  by_cases hx : x = table
  · obtain ⟨t, ht⟩ := Option.isSome_iff_exists.mp h
    rw [hx, find?_publish_self, ht, if_pos rfl]
    rfl
  · rw [find?_publish_ne A hx, if_neg hx, append_nil]

/-- Staging puts rows behind those of their table. -/
theorem stagedFor_stage (s : Session) (table : String) (A : Rows) (x : String) :
    (s.stage table A).stagedFor x = if x = table then (s.stagedFor x).append A else s.stagedFor x :=
  lookup_stageIn table A x s.staged

theorem seen_publish {table : String} (h : (c.find? table).isSome) (x : String) (k : Value) :
    (c.publish table A).Seen s table B x k ↔ c.Seen s table (A.append B) x k := by
  simp only [Seen, visibleKeys, keysOf_publish h, Rows.append, mem_append]
  by_cases hx : x = table
  · simp only [hx, if_true, true_and]
    tauto
  · simp [hx]

theorem seen_stage {table : String} (x : String) (k : Value) :
    c.Seen (s.stage table A) table B x k ↔ c.Seen s table (A.append B) x k := by
  simp only [Seen, visibleKeys, stagedFor_stage, Rows.append, mem_append]
  by_cases hx : x = table
  · simp only [hx, if_true, true_and, mem_append]
    tauto
  · simp [hx]

theorem target?_publish (d : Destination) (table : String) (A : Rows) : (c.publish table A).target? d = c.target? d := by
  unfold target?
  by_cases hd : d.table = table
  · rw [hd, find?_publish_self]
    cases c.find? table <;> rfl
  · rw [find?_publish_ne A hd]

/-- Rows gathered before can be set aside, when their keys are visible without them. -/
theorem gatherRecords?_append_of_seen (htarget : c'.target? (destination sch) = c.target? (destination sch))
    (h : (c.find? sch.table).isSome → ∀ x k, c.Seen s sch.table (A.append B) x k ↔ c'.Seen s' sch.table B x k)
    (rs : List ρ) : c.gatherRecords? s f sch strict (A.append B) rs =
      (c'.gatherRecords? s' f sch strict B rs).map A.append := by
  by_cases hrs : rs = []
  · subst hrs
    rfl
  cases hfound : c.target? (destination sch) with
  | none => rw [gatherRecords?_of_none hfound hrs, gatherRecords?_of_none (htarget.trans hfound) hrs, Option.map_none]
  | some t =>
    obtain ⟨table, hfind, _⟩ := find?_of_target? hfound
    have hname : t.1.name = sch.table := name_of_target? hfound
    rw [gatherRecords?_of_target hfound, gatherRecords?_of_target (htarget.trans hfound)]
    refine gather?_append_of_seen _ ?_
    rw [hname]
    exact h (Option.isSome_iff_exists.mpr ⟨table, hfind⟩)

/-- Rows gathered before may have been published. -/
theorem gatherRecords?_publish (rs : List ρ) : c.gatherRecords? s f sch strict (A.append B) rs =
    ((c.publish sch.table A).gatherRecords? s f sch strict B rs).map A.append :=
  gatherRecords?_append_of_seen (target?_publish _ _ A) (fun h x k => (seen_publish h x k).symm) rs

/-- Rows gathered before may have been staged. -/
theorem gatherRecords?_stage (rs : List ρ) : c.gatherRecords? s f sch strict A rs =
    (c.gatherRecords? (s.stage sch.table A) f sch strict {} rs).map A.append := by
  rw [← gatherRecords?_append_of_seen rfl (fun _ x k => (seen_stage x k).symm) rs, Rows.append_empty]

/-- A clean session is like one that has staged nothing. -/
theorem gatherRecords?_of_clean (h : s.Clean) (rs : List ρ) :
    c.gatherRecords? s f sch strict A rs = c.gatherRecords? {} f sch strict A rs := by
  unfold gatherRecords? gatherRecord? gatherLine?
  simp only [judge_congr (visibleKeys_of_clean h)]

/-- The keys of gathered rows are new. -/
theorem keys_gatherRecords? {rs : List ρ} (h : c.gatherRecords? s f sch strict {} rs = some B) :
    ∀ k ∈ B.keys, k ∉ c.visibleKeys s sch.table := by
  cases htarget : c.target? (destination sch) with
  | none =>
    by_cases hrs : rs = []
    · subst hrs
      cases h
      exact forall_mem_nil _
    · rw [gatherRecords?_of_none htarget hrs] at h
      cases h
  | some t =>
    have hname : t.1.name = sch.table := name_of_target? htarget
    rw [gatherRecords?_of_target htarget, gather?_eq_scan _ {} 1] at h
    split at h
    · cases h
      rw [← hname]
      exact keys_scan f t.1 t.2 _ {} 1 (forall_mem_nil _)
    · cases h

/-! ### Statements that run -/

/-- A statement that runs adds rows of the records that its batch carries, in order, and under `copy` those of all
records. -/
theorem taken_accepted {b : Batch} {rs : List ρ} (hb : b.Carries f sch rs) (hrs : rs ≠ []) {a : Ack}
    (hvalue : (c.load {} f (destination sch) b.bytes).value = .ok a) :
    ∃ kept, kept <+ rs ∧ (f = .copy → kept = rs) ∧
      Forall₂ (c.RowOf f sch) kept (c.accepted f (destination sch) b.bytes).rows := by
  have hclean : Session.Clean {} := forall_mem_nil _
  rcases load_of_carries (c := c) (s := {}) hb hrs false with
    ⟨B, _, hB, _, _, hstate⟩ | ⟨_, ⟨e, he⟩ | ⟨_, _, hshort⟩⟩
  · obtain ⟨kept, rows, hkept, hall, hrows, happend⟩ := taken_gatherRecords? hB
    -- The gathered rows are the accepted ones, as both are what the statement stages.
    have haccepted : c.accepted f (destination sch) b.bytes = B := by
      rcases load_of_clean (c := c) hclean f (destination sch) b.bytes with ⟨e, he, _⟩ | ⟨_, _, hstate'⟩
      · rw [hvalue] at he
        cases he
      · have hstaged := congrArg (fun S => S.stagedFor sch.table) (hstate'.symm.trans hstate)
        simpa only [show (destination sch).table = sch.table from rfl, stagedFor_stage, if_true, hclean.stagedFor,
          Rows.empty_append] using hstaged
    rw [haccepted, happend, nil_append]
    exact ⟨kept, hkept, fun hf => hall (Or.inl hf), hrows⟩
  · rw [hvalue] at he
    cases he
  · exact absurd (Or.inr rfl) hshort

/-- Each of the statements runs, when the rows of those before have been committed. -/
def Runs (c : Catalog) (f : Format) (d : Destination) : List Batch → Prop
  | [] => True
  | b :: bs => (∃ a, (c.load {} f d b.bytes).value = .ok a) ∧
      Runs (c.publish d.table (c.accepted f d b.bytes)) f d bs

theorem Runs.concat {d : Destination} {b : Batch} : ∀ {bs : List Batch} {c : Catalog} {a : Ack}, c.Runs f d bs →
    ((c.after f d (bs.map Batch.bytes)).load {} f d b.bytes).value = .ok a → c.Runs f d (bs ++ [b])
  | [], _, a, _, hb => ⟨⟨a, hb⟩, trivial⟩
  | _ :: _, _, _, h, hb => ⟨h.1, h.2.concat hb⟩

/-- Statements that run add rows of the records that their batches carry, in order, and under `copy` those of all
records. -/
theorem acceptedRows_of_runs {groups : List (List ρ)} {bs : List Batch} (c : Catalog)
    (hb : Forall₂ (fun g (b : Batch) => b.Carries f sch g) groups bs) (hne : ∀ b ∈ bs, b.isEmpty = false)
    (hruns : c.Runs f (destination sch) bs) :
    ∃ kept, kept <+ groups.flatten ∧ (f = .copy → kept = groups.flatten) ∧
      Forall₂ (c.RowOf f sch) kept (c.acceptedRows f (destination sch) (bs.map Batch.bytes)) := by
  induction hb generalizing c with
  | nil => exact ⟨[], Sublist.refl [], fun _ => rfl, Forall₂.nil⟩
  | @cons g b groups bs hg _ ih =>
    obtain ⟨⟨a, ha⟩, hrest⟩ := hruns
    have hg' : g ≠ [] := by
      intro hnil
      have hempty := hne b mem_cons_self
      rw [hg.isEmpty.mpr hnil] at hempty
      cases hempty
    obtain ⟨kept, hkept, hall, hrows⟩ := taken_accepted hg hg' ha
    obtain ⟨kept', hkept', hall', hrows'⟩ := ih _ (fun x hx => hne x (mem_cons_of_mem b hx)) hrest
    refine ⟨kept ++ kept', ?_, fun hf => by rw [hall hf, hall' hf, flatten_cons], ?_⟩
    · rw [flatten_cons]
      exact hkept.append hkept'
    · rw [map_cons, acceptedRows]
      exact rel_append hrows (hrows'.imp fun _ _ => RowOf.of_publish)

end Statements

end Catalog

end BulkLoad
