import BulkLoad.Proofs.Batch.Content
import BulkLoad.Proofs.Payload.Literal

/-!
# Payloads are read back

A server that reads the payload of a batch finds one row for each record, in order, and in each row one field for each
column: none for a missing value, and otherwise the literal of the value (`readPayload_carries`). Lines are found again
because no field holds a line feed (`lines_flatten`), fields because none holds a tab (`readRow_of_encodeLine`), and no
line is taken for the end of the payload.

- `readPayload_batch`: reading undoes any sequence of successful additions to an empty batch.
-/

namespace BulkLoad

open List

variable {ρ : Type}

/-- The fields that a server finds in the line of a record. -/
def rawRow (f : Format) (s : Schema ρ) (r : ρ) : RawRow :=
  s.columns.map fun c => (c.extract r).toOption.bind (Value.literal? f)

/-! ## Lines -/

/-- Lines that are put behind each other, each with a line feed, are found again. -/
theorem lines_flatten {bodies : List Bytes} (h : ∀ b ∈ bodies, Bytes.lineFeed ∉ b) :
    Bytes.lines (bodies.map (· ++ [Bytes.lineFeed])).flatten = bodies := by
  have hsplit : ∀ {bs : List Bytes}, (∀ b ∈ bs, Bytes.lineFeed ∉ b) →
      (bs.map (· ++ [Bytes.lineFeed])).flatten.splitOn Bytes.lineFeed = bs ++ [[]] := by
    intro bs
    induction bs with
    | nil => intro _; rfl
    | cons b bs ih =>
      intro hbs
      rw [map_cons, flatten_cons, append_assoc, singleton_append,
        splitOn_append_cons_self_of_not_mem (hbs b mem_cons_self), ih fun c hc => hbs c (mem_cons_of_mem _ hc),
        cons_append]
  rw [Bytes.lines, hsplit h]
  simp

theorem joinFields_eq_intercalate : ∀ fs : List Bytes, joinFields fs = [Bytes.tab].intercalate fs
  | [] => rfl
  | [b] => by simp [joinFields]
  | b :: c :: fs => by
    rw [joinFields, joinFields_eq_intercalate (c :: fs), intercalate_cons_cons]
    · simp
    · exact fun h => nomatch h

/-- Fields with tabs between them are found again. -/
theorem splitOn_joinFields {fs : List Bytes} (hne : fs ≠ []) (h : ∀ b ∈ fs, Bytes.tab ∉ b) :
    (joinFields fs).splitOn Bytes.tab = fs := by
  rw [joinFields_eq_intercalate, splitOn_intercalate _ h hne]

/-- A byte of joined fields is a tab or a byte of a field. -/
theorem mem_joinFields {x : UInt8} : ∀ {fs : List Bytes}, x ∈ joinFields fs → x = Bytes.tab ∨ ∃ b ∈ fs, x ∈ b
  | [], h => by cases h
  | [b], h => Or.inr ⟨b, mem_cons_self, h⟩
  | b :: c :: fs, h => by
    rcases mem_append.mp h with h | h
    · exact Or.inr ⟨b, mem_cons_self, h⟩
    rcases mem_cons.mp h with h | h
    · exact Or.inl h
    rcases mem_joinFields h with h | ⟨d, hd, hx⟩
    · exact Or.inl h
    · exact Or.inr ⟨d, mem_cons_of_mem _ hd, hx⟩

/-! ## Records -/

/-- The value behind a field of a record. -/
theorem extract_of_columnField {f : Format} {r : ρ} {c : Column ρ} {field : Bytes} (h : columnField f r c = .ok field) :
    ∃ v, c.extract r = .ok v ∧ encodeField f v = .ok field := by
  unfold columnField at h
  split at h
  · cases h
  next v hv => exact ⟨v, hv, h⟩

/-- The fields of a record, column by column. -/
theorem forall₂_fields {f : Format} {r : ρ} : ∀ {cols : List (Column ρ)} {fs : List Bytes}, fields f r cols = .ok fs →
    Forall₂ (fun c field => ∃ v, c.extract r = .ok v ∧ encodeField f v = .ok field) cols fs
  | [], fs, h => by cases h; exact Forall₂.nil
  | c :: cols, fs, h => by
    rw [fields] at h
    split at h
    · cases h
    next field hfield =>
    cases hrest : fields f r cols with
    | error e => rw [hrest] at h; cases h
    | ok rest =>
      rw [hrest] at h
      cases h
      exact Forall₂.cons (extract_of_columnField hfield) (forall₂_fields hrest)

/-- Reading the fields of a record one by one. -/
theorem mapM_readField {f : Format} {r : ρ} {cols : List (Column ρ)} {fs : List Bytes}
    (h : Forall₂ (fun c field => ∃ v, c.extract r = .ok v ∧ encodeField f v = .ok field) cols fs) :
    fs.mapM (readField f) = .ok (cols.map fun c => (c.extract r).toOption.bind (Value.literal? f)) := by
  induction h with
  | nil => rfl
  | cons hfield _ ih =>
    obtain ⟨v, hv, he⟩ := hfield
    rw [mapM_cons, readField_encodeField he, ih, map_cons, hv]
    rfl

/-- The line of a record without its line feed: it holds none, it does not end a payload, and it is read as the row of
the record. -/
theorem readRow_of_encodeLine {f : Format} {s : Schema ρ} {r : ρ} {line : Bytes} (h : encodeLine f s r = .ok line) :
    ∃ body, line = body ++ [Bytes.lineFeed] ∧ Bytes.lineFeed ∉ body ∧ body ≠ endMarker ∧
      readRow f body = .ok (rawRow f s r) := by
  unfold encodeLine at h
  cases hf : fields f r s.columns with
  | error e => rw [hf] at h; cases h
  | ok fs =>
    rw [hf] at h
    cases h
    have hall := forall₂_fields hf
    have hfield : ∀ b ∈ fs, ∃ v, encodeField f v = .ok b := by
      intro b hb
      obtain ⟨i, hi, rfl⟩ := mem_iff_getElem.mp hb
      obtain ⟨v, _, hv⟩ := hall.get (by rw [hall.length_eq]; exact hi) hi
      exact ⟨v, hv⟩
    have hne : fs ≠ [] := by
      rintro rfl
      have hnames := s.names_ne_nil
      rw [Schema.names, forall₂_nil_right_iff.mp hall] at hnames
      exact hnames rfl
    have htab : ∀ b ∈ fs, Bytes.tab ∉ b := fun b hb => by
      obtain ⟨v, hv⟩ := hfield b hb
      exact (not_mem_encodeField hv).1
    have hsplit := splitOn_joinFields hne htab
    refine ⟨joinFields fs, rfl, ?_, ?_, ?_⟩
    · intro hm
      rcases mem_joinFields hm with h | ⟨b, hb, hx⟩
      · exact absurd h (by decide)
      · obtain ⟨v, hv⟩ := hfield b hb
        exact (not_mem_encodeField hv).2 hx
    · -- The end marker holds no tab, so it could only be the line of a single field.
      intro hend
      rw [hend, splitOn_eq_singleton (by decide)] at hsplit
      obtain ⟨v, hv⟩ := hfield endMarker (by rw [← hsplit]; exact mem_cons_self)
      exact encodeField_ne_endMarker hv rfl
    · rw [readRow, hsplit]
      exact mapM_readField hall

/-! ## Payloads -/

/-- Reading the lines of records one by one. -/
theorem readLines_of_lines {f : Format} {s : Schema ρ} {rs : List ρ} {bodies : List Bytes}
    (h : Forall₂ (fun r body => body ≠ endMarker ∧ readRow f body = .ok (rawRow f s r)) rs bodies) :
    ∀ n, readLines f n bodies = .ok (rs.map (rawRow f s)) := by
  induction h with
  | nil => intro n; rfl
  | cons hrow _ ih =>
    intro n
    obtain ⟨hend, hread⟩ := hrow
    rw [readLines, if_neg (fun hm => hend hm.2), hread, ih (n + 1)]
    rfl

/-- Lines of records without their line feeds. -/
theorem bodies_of_lines {f : Format} {s : Schema ρ} {rs : List ρ} {lines : List Bytes} (h : Lines f s rs lines) :
    ∃ bodies, lines = bodies.map (· ++ [Bytes.lineFeed]) ∧ (∀ x ∈ bodies, Bytes.lineFeed ∉ x) ∧
      Forall₂ (fun r body => body ≠ endMarker ∧ readRow f body = .ok (rawRow f s r)) rs bodies := by
  induction h with
  | nil => exact ⟨[], rfl, forall_mem_nil _, Forall₂.nil⟩
  | cons hline _ ih =>
    obtain ⟨body, rfl, hlf, hend, hread⟩ := readRow_of_encodeLine hline
    obtain ⟨bodies, rfl, hlfs, hall⟩ := ih
    exact ⟨body :: bodies, rfl, forall_mem_cons.mpr ⟨hlf, hlfs⟩, Forall₂.cons ⟨hend, hread⟩ hall⟩

/-- **A payload is read as the rows of the records that its batch carries.** -/
theorem readPayload_carries {f : Format} {s : Schema ρ} {rs : List ρ} {b : Batch} (h : b.Carries f s rs) :
    readPayload f b.bytes = .ok (rs.map (rawRow f s)) := by
  obtain ⟨_, lines, hlines, hbytes⟩ := h
  obtain ⟨bodies, rfl, hlf, hall⟩ := bodies_of_lines hlines
  rw [readPayload, hbytes, lines_flatten hlf]
  exact readLines_of_lines hall 1

/-- The fields of the row of a record whose line was written: one for each column, none exactly for a missing value. -/
theorem rawRow_of_encodeLine {f : Format} {s : Schema ρ} {r : ρ} {line : Bytes} (h : encodeLine f s r = .ok line) :
    Forall₂ (fun c field => ∃ v, c.extract r = .ok v ∧ field = v.literal? f ∧ (field = none ↔ v = .null))
      s.columns (rawRow f s r) := by
  unfold encodeLine at h
  cases hf : fields f r s.columns with
  | error e => rw [hf] at h; cases h
  | ok fs =>
    rw [rawRow, forall₂_map_right_iff, forall₂_same]
    intro c hc
    obtain ⟨i, hi, rfl⟩ := mem_iff_getElem.mp hc
    have hall := forall₂_fields hf
    obtain ⟨v, hv, he⟩ := hall.get hi (by rw [← hall.length_eq]; exact hi)
    simp only [get_eq_getElem] at hv he
    have hfield : (s.columns[i].extract r).toOption.bind (Value.literal? f) = v.literal? f := by rw [hv]; rfl
    rw [hfield]
    exact ⟨v, hv, rfl, literal?_eq_none_iff he⟩

/-- **Reading undoes writing.** After any sequence of successful additions to an empty batch, the payload is read
without an error, as one row for each record in the order of the additions. A row has one field for each column: none
exactly where the value is missing, and otherwise the literal of the value. -/
theorem readPayload_batch {start b : Builder ρ} {rs : List ρ} (hstart : start.isEmpty = true)
    (hadd : rs.foldlM Builder.add start = .ok b) :
    ∃ rows, readPayload start.format b.batch.bytes = .ok rows ∧ rows.length = b.batch.records ∧
      (∀ row ∈ rows, row.length = start.schema.columns.length) ∧
      Forall₂ (fun r row => Forall₂ (fun c field => ∃ v, c.extract r = .ok v ∧ field = v.literal? start.format ∧
        (field = none ↔ v = .null)) start.schema.columns row) rs rows := by
  obtain ⟨hheld, hs, hf⟩ := (Builder.holds_nil hstart).addAll hadd
  rw [nil_append] at hheld
  have hcarries := hheld.carries
  rw [hs, hf] at hcarries
  refine ⟨_, readPayload_carries hcarries, ?_, ?_, ?_⟩
  · rw [length_map, hcarries.1]
  · intro row hrow
    obtain ⟨r, _, rfl⟩ := mem_map.mp hrow
    rw [rawRow, length_map]
  · rw [forall₂_map_right_iff, forall₂_same]
    intro r hr
    obtain ⟨_, lines, hlines, _⟩ := hcarries
    obtain ⟨i, hi, rfl⟩ := mem_iff_getElem.mp hr
    exact rawRow_of_encodeLine (hlines.get hi (by rw [← hlines.length_eq]; exact hi))

/-! ## Awkward records -/

/-- A schema with a text that may be missing and raw bytes. -/
def noteSchema : Schema (Option String × Bytes) where
  table := "notes"
  columns := [⟨"text", fun r => .ok (Value.ofOption .text r.1)⟩, ⟨"raw", fun r => .ok (.bytes r.2)⟩]
  faultless := by decide +kernel

/-- Records that spell the mark of a missing value and the end of a payload, hold delimiters or end with a backslash. -/
def awkwardNotes : List (Option String × Bytes) :=
  [(some "\\N", [0x5c, 0x4e]), (none, []), (some "a\tb\nc\\", [0x0a, 0x09, 0]), (some "\\.", [0x5c, 0x2e])]

theorem readPayload_batch_awkward :
    ∃ b, awkwardNotes.foldlM Builder.add { schema := noteSchema, format := .copy } = .ok b ∧
      ∃ rows, readPayload .copy b.batch.bytes = .ok rows ∧ rows.length = b.batch.records ∧
        (∀ row ∈ rows, row.length = noteSchema.columns.length) ∧
        Forall₂ (fun r row => Forall₂ (fun c field => ∃ v, c.extract r = .ok v ∧ field = v.literal? .copy ∧
          (field = none ↔ v = .null)) noteSchema.columns row) awkwardNotes rows :=
  ⟨_, rfl, @readPayload_batch _ { schema := noteSchema, format := .copy } _ awkwardNotes rfl rfl⟩

end BulkLoad
