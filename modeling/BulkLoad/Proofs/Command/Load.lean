import BulkLoad.Command.Load
import BulkLoad.Proofs.Database.Admitted
import BulkLoad.Proofs.Insert.Idle

/-!
# What a load comes to

The declaration of the table and the schema of the records are built from the same column specifications, and they fit
each other (`fits_tableOf`), so that the rows of a load are the values of the records, column by column
(`valuesOf_of_gives`). The insert runs on an idle connection to a new database, where its options only decide how the
rows are written and whether they are still to be committed in the end, which the command then does
(`out_commitRest_of_committed`, `out_commitRest_of_staged`).

`load_independent_of_tuning`: settings that tune a load neither change whether it succeeds nor what it loads.
-/

namespace BulkLoad

open List

/-! ## The table of column specifications -/

namespace TableDef

theorem foldl_addColumn (specs : List ColumnSpec) (t : TableDef) :
    specs.foldl (fun t c => t.addColumn c.name c.type) t =
      { t with columns := t.columns ++ specs.map fun c => ⟨c.name, c.type, true⟩ } := by
  induction specs generalizing t with
  | nil => simp
  | cons c specs ih =>
    rw [foldl_cons, ih]
    simp [addColumn]

/-- Requiring a column changes neither names nor types. -/
theorem map_require (name : String) : ∀ cols : List ColumnDef,
    (require name cols).map (fun c => (c.name, c.type)) = cols.map fun c => (c.name, c.type)
  | [] => rfl
  | c :: cols => by
    rw [require]
    split
    · rfl
    · rw [map_cons, map_cons, map_require name cols]

/-- The index of a column, where no two columns have the same name. -/
theorem columnIndex?_of_nodup {t : TableDef} (h : (t.columns.map ColumnDef.name).Nodup) {i : Nat}
    (hi : i < t.columns.length) : t.columnIndex? t.columns[i].name = some i := by
  refine findIdx?_eq_some_iff_getElem.mpr ⟨hi, beq_self_eq_true _, fun j hj => ?_⟩
  have hne := pairwise_iff_getElem.mp h j i (by rw [length_map]; omega) (by rwa [length_map]) hj
  rw [getElem_map, getElem_map] at hne
  simpa using hne

end TableDef

section Table

variable {table : String} {specs : List ColumnSpec} {key : Option String} {schema : Schema JsonRecord}

theorem tableOf_eq (table : String) (specs : List ColumnSpec) (key : Option String) :
    (tableOf table specs key).name = table ∧ (tableOf table specs key).foreignKeys = [] ∧
      (tableOf table specs key).columns.map (fun c => (c.name, c.type)) = specs.map fun c => (c.name, c.type) := by
  unfold tableOf
  rw [TableDef.foldl_addColumn]
  cases key with
  | none => exact ⟨rfl, rfl, by simp⟩
  | some column =>
    refine ⟨rfl, rfl, ?_⟩
    show (TableDef.require column _).map _ = _
    rw [TableDef.map_require]
    simp

/-- Each specification is that of the column at its place. -/
theorem column_tableOf (table : String) (key : Option String) {i : Nat} (hi : i < specs.length) :
    ∃ col, (tableOf table specs key).columns[i]? = some col ∧ col.name = specs[i].name ∧ col.type = specs[i].type := by
  have hcolumns := congrArg (·[i]?) (tableOf_eq table specs key).2.2
  simp only [getElem?_map, getElem?_eq_getElem hi, Option.map_some] at hcolumns
  obtain ⟨col, hcol, hsame⟩ := Option.map_eq_some_iff.mp hcolumns
  rw [Prod.mk.injEq] at hsame
  exact ⟨col, hcol, hsame⟩

variable (hschema : schemaOf table specs = .ok schema)

include hschema

theorem schemaOf_eq : schema.table = table ∧ schema.columns = specs.map ColumnSpec.column := Schema.eq_of_build hschema

/-- The columns of the table have the places of their specifications. -/
theorem columnIndex?_tableOf {i : Nat} (hi : i < specs.length) :
    (tableOf table specs key).columnIndex? specs[i].name = some i := by
  have hnames : (tableOf table specs key).columns.map ColumnDef.name = specs.map ColumnSpec.name := by
    have hfirst := congrArg (map Prod.fst) (tableOf_eq table specs key).2.2
    simpa only [map_map, Function.comp_def] using hfirst
  have hnodup : ((tableOf table specs key).columns.map ColumnDef.name).Nodup := by
    have hschemaNames := schema.nodup_names
    rw [Schema.names, (schemaOf_eq hschema).2, map_map] at hschemaNames
    rw [hnames]
    exact hschemaNames
  obtain ⟨col, hcol, hname, _⟩ := column_tableOf table key hi
  obtain ⟨hlt, rfl⟩ := List.getElem?_eq_some_iff.mp hcol
  rw [← hname]
  exact TableDef.columnIndex?_of_nodup hnodup hlt

end Table

/-! ## The values of records -/

theorem eq_ok_of_toOption {ε α : Type} {x : Except ε α} {a : α} (h : x.toOption = some a) : x = .ok a := by
  cases x <;> cases h
  rfl

/-- A moment without a zone is read with a proper time. -/
theorem proper_readLocalMoment {cs : List Char} {t : Moment} (h : readLocalMoment cs = some t) : t.time.Proper := by
  unfold readLocalMoment at h
  split at h
  · next hread =>
    cases h
    exact Calendar.proper_readMomentWith hread
  · exact Calendar.proper_readMomentWith (eq_ok_of_toOption h)

/-- The value that a JSON value stands for is of the type of the column, and proper. -/
theorem sound_valueOfJson? {type : ColumnType} {v : Json} {value : Value} (h : valueOfJson? type v = some value) :
    (value = .null ∨ value.type? = some type) ∧ value.Proper := by
  have hmap {α : Type} {mk : α → Value} {x : Option α} (hx : x.map mk = some value)
      (hmk : ∀ a, x = some a → (mk a).type? = some type ∧ (mk a).Proper) :
      (value = .null ∨ value.type? = some type) ∧ value.Proper := by
    obtain ⟨a, ha, rfl⟩ := Option.map_eq_some_iff.mp hx
    exact ⟨Or.inr (hmk a ha).1, (hmk a ha).2⟩
  -- A value without a time of day is proper.
  have hplain {w : Value} (hw : w.clock? = none) : w.Proper := by
    rw [Value.Proper, hw]
    rintro _ ⟨⟩
  cases v with
  | null =>
    cases h
    exact ⟨Or.inl rfl, hplain rfl⟩
  | bool b => cases type <;> cases h <;> exact ⟨Or.inr rfl, hplain rfl⟩
  | number n =>
    cases type with
    | int => exact hmap h fun _ _ => ⟨rfl, hplain rfl⟩
    | _ => cases h <;> exact ⟨Or.inr rfl, hplain rfl⟩
  | string s =>
    cases type with
    | float => exact hmap h fun _ _ => ⟨rfl, hplain rfl⟩
    | date => exact hmap h fun _ _ => ⟨rfl, hplain rfl⟩
    | time =>
      refine hmap h fun t ht => ⟨rfl, ?_⟩
      rintro _ ⟨⟩
      exact Calendar.proper_readClock (eq_ok_of_toOption ht)
    | timestamp =>
      refine hmap h fun t ht => ⟨rfl, ?_⟩
      rintro _ ⟨⟩
      exact proper_readLocalMoment ht
    | timestampTz =>
      refine hmap h fun t ht => ⟨rfl, ?_⟩
      rintro _ ⟨⟩
      exact Calendar.proper_readInternetTime (eq_ok_of_toOption ht)
    | _ => cases h <;> exact ⟨Or.inr rfl, hplain rfl⟩
  | array items =>
    change (if type = .bytes then (items.mapM byteOfJson?).map .bytes else none) = some value at h
    split at h
    · next hbytes => exact hmap h fun _ _ => ⟨by rw [hbytes]; rfl, hplain rfl⟩
    · cases h
  | object _ => cases h

theorem sound_valueOfJson {type : ColumnType} {v : Json} {value : Value} (h : valueOfJson type v = .ok value) :
    (value = .null ∨ value.type? = some type) ∧ value.Proper := by
  unfold valueOfJson at h
  split at h
  · next hvalue =>
    cases h
    exact sound_valueOfJson? hvalue
  · cases h

/-- The row holds the values of the members of a record, in the order of the columns; a column without a member has no
value. -/
def RowOfRecord (specs : List ColumnSpec) (record : JsonRecord) (row : Row) : Prop :=
  Forall₂ (fun c v => valueOfJson c.type ((record.get? c.name).getD .null) = .ok v) specs row

section Rows

variable {table : String} {specs : List ColumnSpec} {key : Option String} {schema : Schema JsonRecord}
  (hschema : schemaOf table specs = .ok schema)

include hschema

/-- **The schema fits the table that is created for it.** -/
theorem fits_tableOf (hfloat : ∀ c ∈ specs, c.type ≠ .float) : schema.Fits (tableOf table specs key) := by
  intro column hcolumn
  rw [(schemaOf_eq hschema).2] at hcolumn
  obtain ⟨c, hc, rfl⟩ := mem_map.mp hcolumn
  obtain ⟨i, hi, rfl⟩ := mem_iff_getElem.mp hc
  obtain ⟨col, hcol, _, htype⟩ := column_tableOf table key hi
  refine ⟨i, col, columnIndex?_tableOf hschema hi, hcol, fun r v hv => ?_⟩
  rw [htype]
  exact (sound_valueOfJson hv).1.imp_right fun hty => ⟨hty, hfloat _ hc⟩

/-- The row of a record has the value of each column in its place. -/
theorem rowOfRecord_of_gives {record : JsonRecord} {row : Row} (h : schema.Gives (tableOf table specs key) record row) :
    RowOfRecord specs record row := by
  have hlength : specs.length = row.length := by
    have hcolumns := congrArg length (tableOf_eq table specs key).2.2
    rw [length_map, length_map] at hcolumns
    rw [h.length, hcolumns]
  refine forall₂_iff_get.mpr ⟨hlength, fun i hi hi' => ?_⟩
  have hmem : (specs[i]).column ∈ schema.columns := by
    rw [(schemaOf_eq hschema).2]
    exact mem_map_of_mem (getElem_mem hi)
  obtain ⟨v, hv, hcell⟩ := h.named _ hmem i (columnIndex?_tableOf hschema hi)
  -- A time that was read from JSON reads back as itself.
  have hproper : v.Proper := (sound_valueOfJson hv).2
  rw [getElem?_eq_getElem hi', Option.some.injEq, Value.readBack_eq_self.mpr hproper] at hcell
  show valueOfJson specs[i].type _ = .ok row[i]
  rw [hcell]
  exact hv

end Rows

/-! ## The end of a load -/

section Ending

variable {n channel : Nat} {closed : Bool} {f : Format} {C : Catalog} {S : Session} {c : Client}

/-- In autocommit there is nothing left to commit. -/
theorem out_commitRest_of_committed (h : c.At n channel closed f C S) (hmode : S.autocommit = true) :
    commitRest.out c = (.ok (), c) := by
  have hauto : Target.autocommit c = true := by
    rw [← hmode, ← h.session, ← h.number]
    rfl
  unfold commitRest
  rw [Act.out_bind, Act.out_ask, if_pos hauto]
  rfl

/-- What is staged is committed, and the connection is switched to autocommit. -/
theorem out_commitRest_of_staged (h : c.At n channel closed f C S) (hmode : S.autocommit = false)
    (hconflict : C.conflict? S.staged = none) :
    ∃ c', commitRest.out c = (.ok (), c') ∧ c'.database.catalog = C.publishAll S.staged := by
  have hauto : Target.autocommit c = false := by
    rw [← hmode, ← h.session, ← h.number]
    rfl
  obtain ⟨c₁, hcommit, hat₁⟩ := h.commit hconflict
  obtain ⟨c₂, hswitch, hat₂⟩ := hat₁.setAutocommit true (Session.clean_discard S).inTransaction
  refine ⟨c₂, ?_, hat₂.catalog⟩
  unfold commitRest
  rw [Act.out_bind, Act.out_ask, if_neg (by rw [hauto]; exact Bool.false_ne_true), Act.out_bind, hcommit]
  simp only [Act.out_bind, hswitch]
  rfl

end Ending

/-! ## Loads -/

/-- A database with a new table and a connection to it. -/
def Database.new (t : TableDef) (f : Format) : Database where
  catalog := { tables := [{ definition := t }] }
  connections := [{ format := f, allowsBulk := true }]

namespace Database

variable {t : TableDef} {f : Format}

theorem createTable_new (h : ({} : Catalog).createFault? t = none) :
    Act.out (createTable t) {} = (.ok (), { catalog := { tables := [{ definition := t }] } }) := by
  have hcreate : ({} : Catalog).create t = .ok { tables := [{ definition := t }] } := by
    rw [Catalog.create, h]
    rfl
  unfold Act.out createTable
  simp only [hcreate]

theorem reachable_new (h : ({} : Catalog).createFault? t = none) : (new t f).Reachable := by
  have hreachable : Reachable ((Op.connect f true).apply ((Op.createTable t).apply {})) :=
    .step (.connect f true) (.step (.createTable t) .initial)
  have hcreated : (Op.createTable t).apply {} = { catalog := { tables := [{ definition := t }] } } :=
    congrArg Prod.snd (createTable_new h)
  rw [hcreated] at hreachable
  exact hreachable

theorem idle_new : (new t f).Idle 0 := ⟨rfl, forall_mem_nil _, rfl⟩

theorem find?_new : (new t f).catalog.find? t.name = some { definition := t } := by
  simp [new, Catalog.find?]

end Database

section Commands

variable {a : LoadArguments} {specs : List ColumnSpec} {schema : Schema JsonRecord} {t : TableDef}

/-- A load whose table cannot be created fails. -/
theorem loadInto_of_fault (schema : Schema JsonRecord) (records : List JsonRecord) (o : Options) {e : Catalog.CreateError}
    (h : ({} : Catalog).createFault? (tableOf a.target.table specs a.primaryKey) = some e) :
    ∃ e', ((loadInto a specs schema records o).out ⟨{}, 0⟩).1 = .error e' := by
  have hcreate : Act.out (Database.createTable (tableOf a.target.table specs a.primaryKey)) {} =
      (.error { kind := .other, message := e.message }, {}) := by
    unfold Act.out Database.createTable Catalog.create
    simp only [h]
  have hrun : (Client.run (Database.createTable (tableOf a.target.table specs a.primaryKey))).out ⟨{}, 0⟩ =
      (.error { kind := .other, message := e.message }, ⟨{}, 0⟩) := by
    show ((Act.out (Database.createTable _) {}).1, Client.mk (Act.out (Database.createTable _) {}).2 0) = _
    rw [hcreate]
  refine ⟨.create { kind := .other, message := e.message }, ?_⟩
  unfold loadInto
  simp only [Act.out_bind, Act.out_note, hrun]
  rfl

/-- A load whose table can be created comes to what the insert comes to. -/
theorem out_loadInto (schema : Schema JsonRecord) (records : List JsonRecord) (o : Options)
    (ht : tableOf a.target.table specs a.primaryKey = t) (h : ({} : Catalog).createFault? t = none) :
    (loadInto a specs schema records o).out ⟨{}, 0⟩ =
      let run := (insertAll schema o records).out (Client.mk (Database.new t a.target.format) 0)
      match run.1.result with
      | .error e => (.error (.loading a.target.input a.target.table e), run.2)
      | .ok summary =>
        match commitRest.out run.2 with
        | (.error e, c) => (.error e, c)
        | (.ok (), c) => (.ok ⟨summary, (c.database.count? a.target.table).getD 0⟩, c) := by
  have hcreate : (Client.run (Database.createTable t)).out ⟨{}, 0⟩ =
      (.ok (), ⟨{ catalog := { tables := [{ definition := t }] } }, 0⟩) := by
    show ((Act.out (Database.createTable t) {}).1, Client.mk (Act.out (Database.createTable t) {}).2 0) = _
    rw [Database.createTable_new h]
  have hconnect : (Client.run (Database.connect a.target.format true)).out
      ⟨{ catalog := { tables := [{ definition := t }] } }, 0⟩ = (0, ⟨Database.new t a.target.format, 0⟩) := rfl
  unfold loadInto
  simp only [ht, Act.out_bind, Act.out_note, hcreate, hconnect, Act.out_step]
  rcases (insertAll schema o records).out (Client.mk (Database.new t a.target.format) 0) with ⟨⟨e | summary, _⟩, c⟩
  · rfl
  · simp only [Act.out_bind]
    rcases commitRest.out c with ⟨e | _, c'⟩ <;> rfl

/-- The table of the schema is the new one. -/
theorem find?_new_schema (hschema : schemaOf a.target.table specs = .ok schema)
    (ht : tableOf a.target.table specs a.primaryKey = t) (f : Format) :
    (Database.new t f).catalog.find? schema.table = some { definition := t } := by
  have htable : schema.table = t.name := by rw [(schemaOf_eq hschema).1, ← ht, (tableOf_eq _ _ _).1]
  rw [htable, Database.find?_new]

/-- **A load comes to what its insert comes to**: nothing behind the insert fails, and all its rows are committed. -/
theorem loadInto_of_faultless (records : List JsonRecord) (o : Options)
    (hschema : schemaOf a.target.table specs = .ok schema) (ht : tableOf a.target.table specs a.primaryKey = t)
    (hfault : ({} : Catalog).createFault? t = none) :
    let d := Database.new t a.target.format
    let out := (loadInto a specs schema records o).out ⟨{}, 0⟩
    (∃ e e', ((insertAll schema o records).out (Client.mk d 0)).1.result = .error e ∧ out.1 = .error e') ∨
      ∃ progress A lines, ((insertAll schema o records).out (Client.mk d 0)).1.result = .ok progress ∧
        d.catalog.gatherRecords? {} a.target.format schema false {} records = some A ∧
        Lines a.target.format schema records lines ∧ progress.records = records.length ∧
        progress.bytes = lines.flatten.length ∧ out.1 = .ok ⟨progress, A.rows.length⟩ ∧
        out.2.database.rows? a.target.table = some A.rows := by
  intro d out
  have hunlinked : t.foreignKeys = [] := by rw [← ht, (tableOf_eq _ _ _).2.1]
  have hfind : d.catalog.find? schema.table = some { definition := t } := find?_new_schema hschema ht _
  have hout : out = _ := out_loadInto schema records o ht hfault
  rw [hout]
  cases hresult : ((insertAll schema o records).out (Client.mk d 0)).1.result with
  | error e => exact Or.inl ⟨e, .loading a.target.input a.target.table e, rfl, by simp only [d, hresult]⟩
  | ok progress =>
    obtain ⟨A, lines, C, S, hA, hlines, hrecords, hbytes, hat, hleft⟩ :=
      left_of_insertAll (Database.reachable_new hfault).kept Database.idle_new hfind hunlinked hresult
    -- What is still staged is committed by the command.
    obtain ⟨c, hrest, hcatalog⟩ : ∃ c, commitRest.out ((insertAll schema o records).out (Client.mk d 0)).2 = (.ok (), c) ∧
        c.database.catalog = d.catalog.publish schema.table A := by
      rcases hleft with ⟨hcatalog, hmode⟩ | ⟨hmode, hconflict, hpublish⟩
      · exact ⟨_, out_commitRest_of_committed hat hmode, hat.catalog.trans hcatalog⟩
      · obtain ⟨c, hrest, hcatalog⟩ := out_commitRest_of_staged hat hmode hconflict
        exact ⟨c, hrest, hcatalog.trans hpublish⟩
    have hrows : c.database.rows? a.target.table = some A.rows := by
      show c.database.catalog.rows? a.target.table = some A.rows
      rw [hcatalog, ← (schemaOf_eq hschema).1, Catalog.rows?_publish_self, Catalog.rows?, hfind]
      rfl
    refine Or.inr ⟨progress, A, lines, rfl, hA, hlines, hrecords, hbytes, ?_, ?_⟩
    · simp only [d, hresult, hrest, Database.count?, hrows, Option.map_some, Option.getD_some]
    · simp only [d, hresult, hrest, hrows]

end Commands

/-- The arguments and the files tell to load the records under the options, into a table with valid names. -/
structure LoadArguments.Asks (a : LoadArguments) (files : Files) (specs : List ColumnSpec) (records : List JsonRecord)
    (o : Options) : Prop where
  columns : parseColumns a.target.columns = .ok specs
  names : ∃ schema, schemaOf a.target.table specs = .ok schema
  records : readRecords a.target.input (files a.target.input) = .ok records
  options : loadOptions a files = .ok o

/-- The table can be created, each record can be written, and the rows of the records can be added one behind the
other. -/
structure Loadable (t : TableDef) (f : Format) (schema : Schema JsonRecord) (records : List JsonRecord) : Prop where
  faultless : ({} : Catalog).createFault? t = none
  rows : ∃ A, (Database.new t f).catalog.gatherRecords? {} f schema false {} records = some A
  lines : ∃ lines, Lines f schema records lines

/-- What a load comes to that succeeds: its report, and the rows of the table. -/
structure LoadReport.Tells (r : LoadReport) (t : TableDef) (f : Format) (schema : Schema JsonRecord)
    (records : List JsonRecord) (A : Rows) : Prop where
  gathered : (Database.new t f).catalog.gatherRecords? {} f schema false {} records = some A
  counted : r.summary.records = records.length
  bytes : ∃ lines, Lines f schema records lines ∧ r.summary.bytes = lines.flatten.length
  rows : r.rows = A.rows.length

section Loads

variable {a : LoadArguments} {files : Files} {specs : List ColumnSpec} {records : List JsonRecord} {o : Options}
  {schema : Schema JsonRecord} {t : TableDef}

/-- A load that has understood its arguments comes to what happens in the new database. -/
theorem LoadArguments.Asks.load_eq (h : a.Asks files specs records o)
    (hschema : schemaOf a.target.table specs = .ok schema) :
    load a files = loadInto a specs schema records o ⟨{}, 0⟩ := by
  have hsource : a.target.source files = .ok (schema, records) := by
    unfold TableArguments.source
    simp only [h.columns, hschema, h.records]
  unfold load loadCommand
  simp only [h.columns, hsource, h.options]

variable (h : a.Asks files specs records o) (hschema : schemaOf a.target.table specs = .ok schema)
  (ht : tableOf a.target.table specs a.primaryKey = t)

include h hschema ht

/-- What a successful load has done, and what it reports. -/
theorem tells_of_load {r : LoadReport} (hr : (load a files).value = .ok r) :
    ({} : Catalog).createFault? t = none ∧ ∃ A, r.Tells t a.target.format schema records A ∧
      (load a files).state.database.rows? a.target.table = some A.rows := by
  rw [h.load_eq hschema] at hr ⊢
  change ((loadInto a specs schema records o).out ⟨{}, 0⟩).1 = .ok r at hr
  cases hfault : ({} : Catalog).createFault? t with
  | some e =>
    obtain ⟨e', herror⟩ := loadInto_of_fault schema records o (ht.symm ▸ hfault)
    rw [hr] at herror
    cases herror
  | none =>
    rcases loadInto_of_faultless records o hschema ht hfault with
      ⟨_, e', _, herror⟩ | ⟨progress, A, lines, _, hA, hlines, hrecords, hbytes, hok, hrows⟩
    · rw [hr] at herror
      cases herror
    · rw [hr] at hok
      cases hok
      exact ⟨rfl, A, ⟨hA, hrecords, ⟨lines, hlines, hbytes⟩, rfl⟩, hrows⟩

/-- **Whether a load succeeds depends on its table and its records only.** -/
theorem load_ok_iff : (∃ r, (load a files).value = .ok r) ↔ Loadable t a.target.format schema records := by
  constructor
  · rintro ⟨r, hr⟩
    obtain ⟨hfault, A, htells, _⟩ := tells_of_load h hschema ht hr
    obtain ⟨lines, hlines, _⟩ := htells.bytes
    exact ⟨hfault, ⟨A, htells.gathered⟩, lines, hlines⟩
  · intro hloadable
    have hfault := hloadable.faultless
    have hunlinked : t.foreignKeys = [] := by rw [← ht, (tableOf_eq _ _ _).2.1]
    obtain ⟨progress, hok⟩ := (insertAll_idle_iff (Database.reachable_new hfault).kept Database.idle_new
      (find?_new_schema hschema ht _) hunlinked o records).mpr ⟨hloadable.rows, hloadable.lines⟩
    rw [h.load_eq hschema]
    show ∃ r, ((loadInto a specs schema records o).out ⟨{}, 0⟩).1 = .ok r
    rcases loadInto_of_faultless records o hschema ht hfault with
      ⟨e, _, herror, _⟩ | ⟨_, _, _, _, _, _, _, _, hvalue, _⟩
    · rw [hok] at herror
      cases herror
    · exact ⟨_, hvalue⟩

end Loads

/-- **Settings that tune a load do not show in what it loads.** Loads of the same records into the same table, under any
two settings, succeed together. Then they report the same records, bytes and rows, one for each record, and both have
committed the values of the records in their order. -/
theorem load_independent_of_tuning {a a' : LoadArguments} {files files' : Files} {specs : List ColumnSpec}
    {records : List JsonRecord} {o o' : Options} (h : a.Asks files specs records o)
    (h' : a'.Asks files' specs records o') (htable : a'.target.table = a.target.table)
    (hformat : a'.target.format = a.target.format) (hkey : a'.primaryKey = a.primaryKey)
    (hfloat : ∀ c ∈ specs, c.type ≠ .float) :
    ((∃ r, (load a files).value = .ok r) ↔ ∃ r, (load a' files').value = .ok r) ∧
      ∀ r r', (load a files).value = .ok r → (load a' files').value = .ok r' →
        r.summary.records = r'.summary.records ∧ r.summary.bytes = r'.summary.bytes ∧ r.rows = r'.rows ∧
          r.rows = records.length ∧ r.summary.records = records.length ∧
          ∃ rows, (load a files).state.database.rows? a.target.table = some rows ∧
            (load a' files').state.database.rows? a.target.table = some rows ∧
            Forall₂ (RowOfRecord specs) records rows := by
  obtain ⟨schema, hschema⟩ := h.names
  have hschema' : schemaOf a'.target.table specs = .ok schema := by rw [htable, hschema]
  have ht' : tableOf a'.target.table specs a'.primaryKey = tableOf a.target.table specs a.primaryKey := by
    rw [htable, hkey]
  have hok := load_ok_iff h hschema rfl
  have hok' := load_ok_iff h' hschema' ht'
  rw [hformat] at hok'
  refine ⟨hok.trans hok'.symm, fun r r' hr hr' => ?_⟩
  obtain ⟨hfault, A, htells, hrows⟩ := tells_of_load h hschema rfl hr
  obtain ⟨_, A', htells', hrows'⟩ := tells_of_load h' hschema' ht' hr'
  rw [hformat] at htells'
  rw [htable] at hrows'
  cases htells.gathered.symm.trans htells'.gathered
  obtain ⟨lines, hlines, hbytes⟩ := htells.bytes
  obtain ⟨lines', hlines', hbytes'⟩ := htells'.bytes
  cases lines_unique hlines hlines'
  -- Without references every row of a record is admitted.
  obtain ⟨rows, hgives, hadmitted, _, _⟩ := Catalog.Holds.gatherRecords?_admitted
    ((Database.reachable_new hfault).holds 0) (find?_new_schema hschema rfl _) (fits_tableOf hschema hfloat) hlines
    htells.gathered
  rw [Catalog.admitted_of_unlinked (tableOf_eq _ _ _).2.1, nil_append] at hadmitted
  have hlength : A.rows.length = records.length := by rw [hadmitted, hgives.length_eq]
  refine ⟨htells.counted.trans htells'.counted.symm, hbytes.trans hbytes'.symm, htells.rows.trans htells'.rows.symm,
    htells.rows.trans hlength, htells.counted, A.rows, hrows, hrows', ?_⟩
  rw [hadmitted]
  exact hgives.imp fun _ _ => rowOfRecord_of_gives hschema

/-- Two notes, the second of which has no text, and options for a long transaction with a batch for each record. -/
def noteFiles : Files := fun path =>
  if path = "notes" then .file (Bytes.ofString "\x7b\"id\":1,\"text\":\"a\\tb\"\x7d\n\x7b\"id\":2\x7d\n")
  else if path = "options" then
    .file (Bytes.ofString "\x7b\"batch_size_bytes\":0,\"long_transaction\":true,\"commit_on_close\":true\x7d")
  else .missing

/-- The arguments for a load of the notes. -/
def noteArguments : LoadArguments where
  target := { table := "note", columns := "id:int, text", input := "notes" }
  primaryKey := some "id"

/-- Notes are loaded in one batch by default, and one by one in a long transaction. -/
theorem load_independent_of_tuning_notes :
    let a := noteArguments
    let a' := { noteArguments with config := some "options", sequential := true }
    let specs : List ColumnSpec := [⟨"id", .int⟩, ⟨"text", .text⟩]
    (load a noteFiles).value.toOption = some ⟨⟨1, 2, 12, 2⟩, 2⟩ ∧
      (load a' noteFiles).value.toOption = some ⟨⟨2, 2, 12, 2⟩, 2⟩ ∧
      ∃ records o o', a.Asks noteFiles specs records o ∧ a'.Asks noteFiles specs records o' ∧
        (∀ c ∈ specs, c.type ≠ .float) ∧
        ((∃ r, (load a noteFiles).value = .ok r) ↔ ∃ r, (load a' noteFiles).value = .ok r) ∧
        ∀ r r', (load a noteFiles).value = .ok r → (load a' noteFiles).value = .ok r' → r.rows = r'.rows ∧
          ∃ rows, (load a' noteFiles).state.database.rows? "note" = some rows ∧
            Forall₂ (RowOfRecord specs) records rows := by
  intro a a' specs
  have exists_ok {ε α : Type} {x : Except ε α} (hx : x.toOption.isSome = true) : ∃ y, x = .ok y := by
    cases x with
    | error e => cases hx
    | ok y => exact ⟨y, rfl⟩
  have hcolumns : parseColumns a.target.columns = .ok specs := by decide +kernel
  have hnames : ∃ schema, schemaOf a.target.table specs = .ok schema := exists_ok (by decide +kernel)
  obtain ⟨records, hrecords⟩ : ∃ records, readRecords a.target.input (noteFiles a.target.input) = .ok records :=
    exists_ok (by decide +kernel)
  obtain ⟨o, ho⟩ : ∃ o, loadOptions a noteFiles = .ok o := exists_ok (by decide +kernel)
  obtain ⟨o', ho'⟩ : ∃ o, loadOptions a' noteFiles = .ok o := exists_ok (by decide +kernel)
  have hasks : a.Asks noteFiles specs records o := ⟨hcolumns, hnames, hrecords, ho⟩
  have hasks' : a'.Asks noteFiles specs records o' := ⟨hcolumns, hnames, hrecords, ho'⟩
  have hfloat : ∀ c ∈ specs, c.type ≠ .float := by decide
  obtain ⟨htogether, hsame⟩ := load_independent_of_tuning hasks hasks' rfl rfl rfl hfloat
  refine ⟨by decide +kernel, by decide +kernel, records, o, o', hasks, hasks', hfloat, htogether, fun r r' hr hr' => ?_⟩
  obtain ⟨_, _, hrows, _, _, rows, _, hcommitted, hvalues⟩ := hsame r r' hr hr'
  exact ⟨hrows, rows, hcommitted, hvalues⟩

end BulkLoad
