import BulkLoad.Database.Catalog

/-!
# Staging and publishing

Publishing rows appends them to the rows of their table (`Catalog.find?_publish_self`). Nothing is ever taken away from
a catalog, it only grows (`Catalog.Extends`). A session is clean when nothing but empty entries is staged in it
(`Session.Clean`): to a statement such a session is like one that has staged nothing (`Catalog.visibleKeys_of_clean`,
`Catalog.examine_congr`), and committing it changes no table (`Catalog.publishAll_of_clean`).

`Catalog.accepted` are the rows that a statement adds to the committed ones when a clean session runs and commits it
(`Catalog.load_of_clean`, `Catalog.publishAll_stageIn`); none of their keys is committed before, so that the commit
meets no conflict (`Catalog.conflict?_stageIn`).
-/

namespace BulkLoad

open List

/-! ## Publishing -/

theorem Rows.append_empty (r : Rows) : r.append {} = r := by
  simp only [Rows.append, append_nil]

theorem Rows.empty_append (r : Rows) : Rows.append {} r = r := by
  simp only [Rows.append, nil_append]

namespace Catalog

variable {c : Catalog} {table : String}

theorem name_of_find? {t : Table} (h : c.find? table = some t) : t.definition.name = table := by
  have hname := find?_some h
  exact beq_iff_eq.mp hname

/-- Publishing rows of a table appends them to its rows. -/
theorem find?_publish_self (rows : Rows) : (c.publish table rows).find? table =
    (c.find? table).map fun t => { t with data := t.data.append rows } := by
  obtain ⟨tables⟩ := c
  simp only [find?, publish]
  induction tables with
  | nil => rfl
  | cons t ts ih =>
    by_cases ht : t.definition.name = table
    · simp only [map_cons, ht, if_true, find?_cons, beq_self_eq_true, Option.map_some]
    · simp only [map_cons, if_neg ht, find?_cons, beq_eq_false_iff_ne.mpr ht, ih]

/-- Publishing no rows changes nothing. -/
theorem publish_empty : c.publish table {} = c := by
  obtain ⟨tables⟩ := c
  have hid : (fun t : Table =>
      if t.definition.name = table then { t with data := t.data.append {} } else t) = id := by
    funext t
    rw [Rows.append_empty]
    exact ite_self t
  rw [publish, hid, map_id]

/-- The committed rows of a table. -/
def rows? (c : Catalog) (table : String) : Option (List Row) := (c.find? table).map fun t => t.data.rows

theorem rows?_publish_self (rows : Rows) :
    (c.publish table rows).rows? table = (c.rows? table).map (· ++ rows.rows) := by
  rw [rows?, find?_publish_self, Option.map_map, rows?, Option.map_map]
  rfl

/-- Entries without rows change nothing. -/
theorem publishAll_of_clean : ∀ {staged : List (String × Rows)} (c : Catalog), (∀ e ∈ staged, e.2 = {}) →
    c.publishAll staged = c
  | [], _, _ => rfl
  | (table, rows) :: rest, c, h => by
    have hrows : rows = {} := h (table, rows) (mem_cons_self ..)
    rw [publishAll, hrows, publish_empty]
    exact publishAll_of_clean c fun e he => h e (mem_cons_of_mem _ he)

/-- When nothing but empty entries is staged, further rows are all that is published. -/
theorem publishAll_stageIn (rows : Rows) : ∀ {staged : List (String × Rows)} (c : Catalog),
    (∀ e ∈ staged, e.2 = {}) → c.publishAll (Session.stageIn table rows staged) = c.publish table rows
  | [], _, _ => rfl
  | (t, r) :: rest, c, h => by
    have hr : r = {} := h (t, r) (mem_cons_self ..)
    have hrest : ∀ e ∈ rest, e.2 = {} := fun e he => h e (mem_cons_of_mem _ he)
    rw [Session.stageIn, hr, Rows.empty_append]
    split
    · next ht => rw [publishAll, ht, publishAll_of_clean _ hrest]
    · rw [publishAll, publish_empty, publishAll_stageIn rows c hrest]

/-! ## Conflicts -/

/-- What is staged for a table when nothing but empty entries is staged. -/
theorem lookup_of_clean {staged : List (String × Rows)} (h : ∀ e ∈ staged, e.2 = {}) (x : String) :
    (staged.lookup x).getD {} = {} := by
  cases hl : staged.lookup x with
  | none => rfl
  | some rows =>
    obtain ⟨l₁, l₂, heq, _⟩ := lookup_eq_some_iff.mp hl
    exact h (x, rows) (by rw [heq]; simp)

theorem lookup_stageIn (table : String) (A : Rows) (x : String) : ∀ staged : List (String × Rows),
    ((Session.stageIn table A staged).lookup x).getD {} =
      if x = table then ((staged.lookup x).getD {}).append A else (staged.lookup x).getD {}
  | [] => by
    by_cases hx : x = table
    · simp [Session.stageIn, hx, Rows.empty_append]
    · simp [Session.stageIn, lookup_cons, hx, beq_eq_false_iff_ne.mpr hx]
  | (t, r) :: rest => by
    have ih := lookup_stageIn table A x rest
    rw [Session.stageIn]
    by_cases ht : t = table
    · by_cases hx : x = table
      · simp [ht, hx]
      · simp [ht, hx, lookup_cons, beq_eq_false_iff_ne.mpr hx]
    · by_cases hx : x = t
      · simp [ht, hx]
      · simpa [ht, lookup_cons, beq_eq_false_iff_ne.mpr hx] using ih

/-- **There is no conflict exactly when no staged key is committed**, whatever the order of the tables. -/
theorem conflict?_eq_none_iff {staged : List (String × Rows)} : c.conflict? staged = none ↔
    ∀ x, ∀ k ∈ ((staged.lookup x).getD {}).keys, k ∉ c.keysOf x := by
  have hin (x : String) : c.conflictIn? staged x = none ↔
      ∀ k ∈ ((staged.lookup x).getD {}).keys, k ∉ c.keysOf x := by
    simp [conflictIn?]
  rw [conflict?, findSome?_eq_none_iff]
  constructor
  · intro h x k hk hmem
    cases hfind : c.find? x with
    | none => simp [keysOf, hfind] at hmem
    | some t =>
      have hx := h t (mem_of_find?_eq_some hfind)
      rw [name_of_find? hfind] at hx
      exact (hin x).mp hx k hk hmem
  · intro h t _
    exact (hin _).mpr (h _)

theorem conflict?_of_clean {staged : List (String × Rows)} (h : ∀ e ∈ staged, e.2 = {}) :
    c.conflict? staged = none := by
  rw [conflict?_eq_none_iff]
  intro x
  rw [lookup_of_clean h]
  exact forall_mem_nil _

/-- When nothing but empty entries is staged, further rows with new keys meet no conflict. -/
theorem conflict?_stageIn {rows : Rows} (hnew : ∀ k ∈ rows.keys, k ∉ c.keysOf table)
    {staged : List (String × Rows)} (h : ∀ e ∈ staged, e.2 = {}) :
    c.conflict? (Session.stageIn table rows staged) = none := by
  rw [conflict?_eq_none_iff]
  intro x
  rw [lookup_stageIn, lookup_of_clean h]
  split
  · next hx =>
    rw [hx, Rows.empty_append]
    exact hnew
  · exact forall_mem_nil _

end Catalog

/-! ## Growing -/

namespace Catalog

variable {C C' C'' : Catalog}

/-- The tables are still there, with further rows behind theirs. -/
def Extends (C C' : Catalog) : Prop := ∀ table t, C.find? table = some t →
  ∃ later, C'.find? table = some { t with data := t.data.append later }

theorem Extends.refl (C : Catalog) : C.Extends C := by
  intro table t ht
  refine ⟨{}, ?_⟩
  rw [Rows.append_empty]
  exact ht

theorem Extends.trans (h : C.Extends C') (h' : C'.Extends C'') : C.Extends C'' := by
  intro table t ht
  obtain ⟨later, hfind⟩ := h table t ht
  obtain ⟨later', hfind'⟩ := h' table _ hfind
  refine ⟨later.append later', ?_⟩
  rw [hfind']
  simp only [Rows.append, append_assoc]

theorem extends_publish (C : Catalog) (table : String) (rows : Rows) : C.Extends (C.publish table rows) := by
  intro x t ht
  by_cases hx : x = table
  · rw [hx] at ht ⊢
    refine ⟨rows, ?_⟩
    rw [find?_publish_self, ht]
    rfl
  · rw [find?_publish_ne rows hx]
    exact Extends.refl C x t ht

theorem extends_publishAll : ∀ (C : Catalog) (staged : List (String × Rows)), C.Extends (C.publishAll staged)
  | C, [] => Extends.refl C
  | C, (table, rows) :: rest => (extends_publish C table rows).trans (extends_publishAll _ rest)

theorem extends_create {t : TableDef} (h : C.create t = .ok C') : C.Extends C' := by
  unfold create at h
  split at h
  · cases h
  · cases h
    intro x t' ht'
    refine ⟨{}, ?_⟩
    rw [Rows.append_empty]
    unfold find? at ht' ⊢
    rw [find?_append, ht']
    rfl

/-- The rows of a table stay in front. -/
theorem Extends.rows? (h : C.Extends C') (table : String) :
    (C.rows? table).getD [] <+: (C'.rows? table).getD [] := by
  unfold Catalog.rows?
  cases hfind : C.find? table with
  | none => exact nil_prefix
  | some t =>
    obtain ⟨later, hfind'⟩ := h table t hfind
    rw [hfind']
    exact prefix_append _ _

theorem Extends.isSome (h : C.Extends C') {table : String} (hfind : (C.find? table).isSome) :
    (C'.find? table).isSome := by
  obtain ⟨t, ht⟩ := Option.isSome_iff_exists.mp hfind
  obtain ⟨later, ht'⟩ := h table t ht
  rw [ht']
  rfl

/-- Rows that have been staged lie together when all that is staged has been published. -/
theorem infix_publishAll_stageIn {table : String} (rows : Rows) : ∀ (staged : List (String × Rows)) {C : Catalog},
    (C.find? table).isSome →
      rows.rows <:+: ((C.publishAll (Session.stageIn table rows staged)).rows? table).getD []
  | [], C, hfind => by
    obtain ⟨t, ht⟩ := Option.isSome_iff_exists.mp hfind
    rw [Session.stageIn, publishAll, publishAll, rows?_publish_self, rows?, ht]
    exact (suffix_append _ _).isInfix
  | (x, r) :: rest, C, hfind => by
    rw [Session.stageIn]
    split
    · next hx =>
      obtain ⟨t, ht⟩ := Option.isSome_iff_exists.mp hfind
      have hrows : rows.rows <:+: ((C.publish x (r.append rows)).rows? table).getD [] := by
        rw [hx, rows?_publish_self, rows?, ht]
        exact ((suffix_append _ _).trans (suffix_append _ _)).isInfix
      exact hrows.trans ((extends_publishAll _ rest).rows? table).isInfix
    · exact infix_publishAll_stageIn rows rest ((extends_publish C x r).isSome hfind)

end Catalog

/-! ## Clean sessions -/

/-- Nothing but empty entries is staged in the session. -/
def Session.Clean (s : Session) : Prop := ∀ e ∈ s.staged, e.2 = {}

namespace Session

variable {s : Session}

theorem clean_discard (s : Session) : s.discard.Clean := forall_mem_nil _

theorem Clean.stagedFor (h : s.Clean) (table : String) : s.stagedFor table = {} := Catalog.lookup_of_clean h table

theorem Clean.inTransaction (h : s.Clean) : s.inTransaction = false := by
  have hcount : s.stagedCount = 0 := by
    rw [stagedCount, length_eq_zero_iff, flatMap_eq_nil_iff]
    intro e he
    rw [h e he]
  rw [Session.inTransaction, hcount]
  rfl

end Session

namespace Catalog

variable {c : Catalog} {s : Session}

/-! ### Sessions with the same keys -/

variable {s' : Session}

/-- What a session sees depends on the rows that it has staged for each table. -/
theorem visibleKeys_congr (h : ∀ x, s'.stagedFor x = s.stagedFor x) : c.visibleKeys s' = c.visibleKeys s := by
  funext table
  rw [visibleKeys, visibleKeys, h]

theorem judge_congr (h : c.visibleKeys s' = c.visibleKeys s) : c.judge s' = c.judge s := by
  have hdangles : c.dangles s' = c.dangles s := by
    funext t accepted row fk
    simp only [dangles, h]
  have hrow : c.judgeRow s' = c.judgeRow s := by
    funext f t accepted line row
    simp only [judgeRow, hdangles, h]
  funext f t positions accepted line raw
  simp only [judge, hrow]

theorem scan_congr (h : c.visibleKeys s' = c.visibleKeys s) (f : Format) (t : TableDef) (positions : List Nat) :
    ∀ (raws : List RawRow) (accepted : Rows) (line : Nat),
      c.scan s' f t positions accepted line raws = c.scan s f t positions accepted line raws
  | [], _, _ => rfl
  | raw :: rest, accepted, line => by
    have ih := scan_congr h f t positions rest
    rw [scan, scan, judge_congr h]
    cases c.judge s f t positions accepted line raw with
    | refuse e => rfl
    | skip fk => simp only [ih]
    | accept row key => exact ih _ _

/-- To a statement sessions that see the same keys are alike. -/
theorem examine_congr (h : c.visibleKeys s' = c.visibleKeys s) (f : Format) (d : Destination) (payload : Bytes) :
    c.examine s' f d payload = c.examine s f d payload := by
  simp only [examine, scan_congr h]

theorem value_load_congr (h : c.visibleKeys s' = c.visibleKeys s) (f : Format) (d : Destination) (payload : Bytes) :
    (c.load s' f d payload).value = (c.load s f d payload).value := by
  unfold load
  rw [examine_congr h]
  split
  · rfl
  split <;> rfl

/-- A clean session sees the committed keys. -/
theorem visibleKeys_of_clean (h : s.Clean) : c.visibleKeys s = c.visibleKeys {} :=
  visibleKeys_congr fun x => h.stagedFor x

/-- What was staged is still staged, or it has been published. -/
def Moved (C : Catalog) (S : Session) (C' : Catalog) (S' : Session) : Prop :=
  C' = C ∧ S'.staged = S.staged ∨ C' = C.publishAll S.staged ∧ S'.staged = []

/-- When nothing is left staged, all of it has been published. -/
theorem Moved.eq_publishAll {C C' : Catalog} {S S' : Session} (h : C.Moved S C' S') (hclean : S'.Clean) :
    C' = C.publishAll S.staged := by
  rcases h with ⟨rfl, hstaged⟩ | ⟨hcatalog, _⟩
  · have hnothing : S.Clean := by
      unfold Session.Clean
      rw [← hstaged]
      exact hclean
    exact (publishAll_of_clean C' hnothing).symm
  · exact hcatalog

/-! ## Accepted rows -/

/-- The rows that a statement adds to the committed ones, when a clean session runs and commits it. -/
def accepted (c : Catalog) (f : Format) (d : Destination) (payload : Bytes) : Rows :=
  match c.examine {} f d payload with
  | .error _ => {}
  | .ok (_, r) => if r.failure.isSome then {} else r.accepted

/-- What a statement has checked of a row that it accepts behind the rows `A`. -/
structure Accepts (c : Catalog) (s : Session) (f : Format) (t : TableDef) (ps : List Nat) (A : Rows) (line : Nat)
    (raw : RawRow) (row : Row) (key : Option Value) : Prop where
  decoded : decodeRow f t ps line raw = .ok row
  complete : missingColumn? t row = none
  keyed : keyAt? row t.primaryKeyIndex? = key
  new : ∀ k, key = some k → k ∉ c.visibleKeys s t.name ∧ k ∉ A.keys
  linked : ∀ fk ∈ t.foreignKeys, c.dangles s t A row fk = false

theorem accepts_of_judge {f : Format} {t : TableDef} {ps : List Nat} {A : Rows} {line : Nat} {raw : RawRow} {row : Row}
    {key : Option Value} (h : c.judge s f t ps A line raw = .accept row key) :
    c.Accepts s f t ps A line raw row key := by
  unfold judge at h
  split at h
  · cases h
  next row' hdecode =>
  unfold judgeRow at h
  split at h
  · cases h
  next hcomplete =>
  split at h
  · split at h <;> cases h
  next hlinked =>
  have hlinked : ∀ fk ∈ t.foreignKeys, c.dangles s t A row' fk = false := fun fk hfk =>
    Bool.eq_false_iff.mpr (find?_eq_none.mp hlinked fk hfk)
  split at h
  · next hkey =>
    cases h
    exact ⟨hdecode, hcomplete, hkey, fun _ hk => (nomatch hk), hlinked⟩
  next k hkey =>
  split at h
  · cases h
  next hnew =>
  cases h
  rw [Bool.or_eq_true, contains_iff_mem, contains_iff_mem, not_or] at hnew
  refine ⟨hdecode, hcomplete, hkey, fun k' hk' => ?_, hlinked⟩
  cases hk'
  exact hnew

/-- What each row that is accepted next keeps holds of all rows that a scan accepts. -/
theorem accepted_scan {f : Format} {t : TableDef} {ps : List Nat} {P : Rows → Prop}
    (hstep : ∀ {A line raw row key}, c.Accepts s f t ps A line raw row key → P A → P (A.push row key)) :
    ∀ (raws : List RawRow) {A : Rows} (line : Nat), P A → P (c.scan s f t ps A line raws).accepted
  | [], _, _, h => h
  | raw :: rest, A, line, h => by
    rw [scan]
    cases hj : c.judge s f t ps A line raw with
    | refuse e => exact h
    | skip fk => exact accepted_scan hstep rest (line + 1) h
    | accept row key => exact accepted_scan hstep rest (line + 1) (hstep (accepts_of_judge hj) h)

/-- What holds of each row that is accepted holds of all rows that a scan accepts. -/
theorem forall_rows_scan {f : Format} {t : TableDef} {ps : List Nat} {P : Row → Prop}
    (hP : ∀ {A line raw row key}, c.Accepts s f t ps A line raw row key → P row) (raws : List RawRow) :
    ∀ row ∈ (c.scan s f t ps {} 1 raws).accepted.rows, P row := by
  refine accepted_scan (P := fun A => ∀ row ∈ A.rows, P row) ?_ raws 1 (forall_mem_nil _)
  intro A line raw row key haccepts hA row' hrow'
  rcases mem_append.mp hrow' with hrow' | hrow'
  · exact hA row' hrow'
  · rw [mem_singleton.mp hrow']
    exact hP haccepts

/-- The keys of accepted rows are new. -/
theorem keys_scan (f : Format) (t : TableDef) (positions : List Nat) (raws : List RawRow) (accepted : Rows)
    (line : Nat) (h : ∀ k ∈ accepted.keys, k ∉ c.visibleKeys s t.name) :
    ∀ k ∈ (c.scan s f t positions accepted line raws).accepted.keys, k ∉ c.visibleKeys s t.name := by
  refine accepted_scan (P := fun A => ∀ k ∈ A.keys, k ∉ c.visibleKeys s t.name) ?_ raws line h
  intro A line raw row key haccepts hA k hk
  rw [Rows.keys_push, mem_append, Option.mem_toList] at hk
  rcases hk with hk | hk
  · exact hA k hk
  · exact (haccepts.new k hk).1

/-- The keys of the accepted rows are not committed yet. -/
theorem keys_accepted (f : Format) (d : Destination) (payload : Bytes) :
    ∀ k ∈ (c.accepted f d payload).keys, k ∉ c.keysOf d.table := by
  intro k hk hmem
  unfold accepted at hk
  split at hk
  · cases hk
  next t r hexamine =>
  split at hk
  · cases hk
  unfold examine at hexamine
  split at hexamine
  · cases hexamine
  next table hfind =>
  split at hexamine
  · cases hexamine
  split at hexamine
  · cases hexamine
  next rows hread =>
  cases hexamine
  refine keys_scan f _ _ rows {} 1 (forall_mem_nil _) k hk ?_
  rw [visibleKeys, name_of_find? hfind]
  exact mem_append_left _ hmem

/-- What a statement does in a clean session: it fails and adds nothing, or it stages the rows that it adds. -/
theorem load_of_clean (h : s.Clean) (f : Format) (d : Destination) (payload : Bytes) :
    (∃ e, (c.load s f d payload).value = .error e ∧ (c.load s f d payload).state = s ∧
      c.accepted f d payload = {}) ∨
    ∃ skipped, (c.load s f d payload).value = .ok ⟨(c.accepted f d payload).count, skipped⟩ ∧
      (c.load s f d payload).state = s.stage d.table (c.accepted f d payload) := by
  unfold load accepted
  rw [examine_congr (visibleKeys_of_clean h)]
  cases hexamine : c.examine {} f d payload with
  | error e => exact Or.inl ⟨e, rfl, rfl, rfl⟩
  | ok found =>
    obtain ⟨t, r⟩ := found
    have hname : t.name = d.table := by
      unfold examine at hexamine
      split at hexamine
      · cases hexamine
      next table hfind =>
      split at hexamine
      · cases hexamine
      split at hexamine
      · cases hexamine
      · cases hexamine
        exact name_of_find? hfind
    cases hfailure : r.failure with
    | some e =>
      refine Or.inl ⟨e, ?_, ?_, ?_⟩
      · simp only [hfailure]
      · simp only [hfailure]
      · simp only [hfailure, Option.isSome_some, if_true]
    | none =>
      simp only [hfailure, hname]
      exact Or.inr ⟨_, rfl, rfl⟩

/-! ## Statements that load rows -/

section Loads

variable {f : Format} {dest : Destination} {payload : Bytes}

/-- The statement loads rows: its table and its columns are there, and the scan of its lines does not fail. -/
structure Loads (c : Catalog) (s : Session) (f : Format) (dest : Destination) (payload : Bytes) (t : Table)
    (ps : List Nat) (raws : List RawRow) : Prop where
  table : c.find? dest.table = some t
  positions : positions t.definition dest.columns = .ok ps
  lines : readPayload f payload = .ok raws
  succeeds : (c.scan s f t.definition ps {} 1 raws).failure = none

theorem loads_of_load {a : Ack} (h : (c.load s f dest payload).value = .ok a) :
    ∃ t ps raws, c.Loads s f dest payload t ps raws := by
  unfold load examine at h
  split at h
  · cases h
  next hexamine =>
  split at hexamine
  · cases hexamine
  next t hfind =>
  split at hexamine
  · cases hexamine
  next ps hpositions =>
  split at hexamine
  · cases hexamine
  next raws hread =>
  cases hexamine
  split at h
  · cases h
  next hsucceeds => exact ⟨t, ps, raws, hfind, hpositions, hread, hsucceeds⟩

/-- A statement that loads rows answers their number, and stages them. -/
theorem Loads.load {t : Table} {ps : List Nat} {raws : List RawRow} (h : c.Loads s f dest payload t ps raws) :
    (c.load s f dest payload).value = .ok ⟨(c.scan s f t.definition ps {} 1 raws).accepted.count,
        (c.scan s f t.definition ps {} 1 raws).skipped.length⟩ ∧
      (c.load s f dest payload).state =
        s.stage t.definition.name (c.scan s f t.definition ps {} 1 raws).accepted := by
  have hexamine : c.examine s f dest payload = .ok (t.definition, c.scan s f t.definition ps {} 1 raws) := by
    unfold examine
    simp only [h.table, h.positions, h.lines]
  unfold Catalog.load
  simp only [hexamine, h.succeeds, and_self]

end Loads

/-- A statement stages the rows that a scan accepts for a table that exists, or it leaves its session alone. -/
theorem state_load (c : Catalog) (s : Session) (f : Format) (d : Destination) (payload : Bytes) :
    (c.load s f d payload).state = s ∨ ∃ (t : Table) (ps : List Nat) (raws : List RawRow),
      c.find? t.definition.name = some t ∧ (c.load s f d payload).state =
        s.stage t.definition.name (c.scan s f t.definition ps {} 1 raws).accepted := by
  cases hvalue : (c.load s f d payload).value with
  | error e => exact Or.inl (state_load_of_error hvalue)
  | ok a =>
    obtain ⟨t, ps, raws, h⟩ := loads_of_load hvalue
    refine Or.inr ⟨t, ps, raws, ?_, h.load.2⟩
    rw [name_of_find? h.table]
    exact h.table

/-- A statement does not change the mode of its session. -/
theorem autocommit_load (c : Catalog) (s : Session) (f : Format) (d : Destination) (payload : Bytes) :
    (c.load s f d payload).state.autocommit = s.autocommit := by
  unfold load
  split
  · rfl
  split <;> rfl

/-! ## Sequences of payloads -/

/-- The catalog after statements, each with its rows committed before the next one. -/
def after (c : Catalog) (f : Format) (d : Destination) (payloads : List Bytes) : Catalog :=
  payloads.foldl (fun c payload => c.publish d.table (c.accepted f d payload)) c

/-- The rows that the statements add, one after the other. -/
def acceptedRows (c : Catalog) (f : Format) (d : Destination) : List Bytes → List Row
  | [] => []
  | payload :: rest =>
    (c.accepted f d payload).rows ++
      acceptedRows (c.publish d.table (c.accepted f d payload)) f d rest

theorem after_concat (f : Format) (d : Destination) (payloads : List Bytes) (payload : Bytes) :
    c.after f d (payloads ++ [payload]) =
      (c.after f d payloads).publish d.table ((c.after f d payloads).accepted f d payload) := by
  rw [after, foldl_append]
  rfl

theorem acceptedRows_concat (f : Format) (d : Destination) (payload : Bytes) : ∀ (payloads : List Bytes) (c : Catalog),
    c.acceptedRows f d (payloads ++ [payload]) =
      c.acceptedRows f d payloads ++ ((c.after f d payloads).accepted f d payload).rows
  | [], _ => append_nil _
  | first :: rest, c => by
    rw [cons_append, acceptedRows, acceptedRows_concat f d payload rest, acceptedRows, append_assoc]
    rfl

/-- The rows that statements add are appended to the committed ones. -/
theorem rows?_after (f : Format) (d : Destination) : ∀ (payloads : List Bytes) (c : Catalog),
    (c.after f d payloads).rows? d.table = (c.rows? d.table).map (· ++ c.acceptedRows f d payloads)
  | [], c => by
    simp only [after, foldl_nil, acceptedRows, append_nil, Option.map_id']
  | payload :: rest, c => by
    rw [after, foldl_cons, ← after, rows?_after f d rest, rows?_publish_self, Option.map_map, acceptedRows]
    congr 1
    funext rows
    exact append_assoc _ _ _

end Catalog

end BulkLoad
