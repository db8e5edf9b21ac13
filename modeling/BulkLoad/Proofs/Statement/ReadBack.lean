import BulkLoad.Proofs.Schema.Names
import BulkLoad.Statement

/-!
# Statements are read back

A server finds the table and the columns of a statement by looking for characters outside of quotes. A text is passed
over by such a search (`Passes`) when it holds the character inside of quotes only and leaves no quote open; written
names and lists of them are passed over, whatever the names hold. So a statement gives its table and its columns back
(`read?_statementFor`), and the statement of a schema those of the schema (`read?_statement`). Whatever names a schema
can be built from, its statement leads to them (`statement_names_destination`).
-/

namespace BulkLoad

open BulkLoad.Text List

/-! ## Texts that a search passes over -/

/-- Reading the text leads from one open quote to another, if any, without meeting `h` outside of quotes. -/
inductive Scans (h : Char) : Option Char → List Char → Option Char → Prop
  | nil (q : Option Char) : Scans h q [] q
  | open {c : Char} {cs : List Char} {q : Option Char} : isNameQuote c = true → Scans h (some c) cs q →
      Scans h none (c :: cs) q
  | plain {c : Char} {cs : List Char} {q : Option Char} : isNameQuote c = false → c ≠ h → Scans h none cs q →
      Scans h none (c :: cs) q
  | quoted {o c : Char} {cs : List Char} {q : Option Char} : Scans h (if c = o then none else some o) cs q →
      Scans h (some o) (c :: cs) q

/-- A text with `h` inside of quotes only, and with all its quotes closed. -/
abbrev Passes (h : Char) (cs : List Char) : Prop := Scans h none cs none

namespace Scans

variable {h : Char} {o q r : Option Char} {a b : List Char}

theorem append (ha : Scans h o a q) (hb : Scans h q b r) : Scans h o (a ++ b) r := by
  induction ha with
  | nil => exact hb
  | «open» hc _ ih => exact .open hc (ih hb)
  | plain hc hne _ ih => exact .plain hc hne (ih hb)
  | quoted _ ih => exact .quoted (ih hb)

/-- Characters that are no quotes and not `h`. -/
theorem of_plain : ∀ {cs : List Char}, (∀ c ∈ cs, isNameQuote c = false ∧ c ≠ h) → Passes h cs
  | [], _ => .nil none
  | c :: _, ha => .plain (ha c (mem_cons_self ..)).1 (ha c (mem_cons_self ..)).2
      (of_plain fun d hd => ha d (mem_cons_of_mem c hd))

/-- A pattern is looked for behind the text. -/
theorem cut (ha : Scans h o a q) (pattern rest : List Char) : cutUnquoted? (h :: pattern) o (a ++ rest) =
    (cutUnquoted? (h :: pattern) q rest).map fun r => (a ++ r.1, r.2) := by
  have hcons (c : Char) (as : List Char) (x : Option (List Char × List Char)) :
      ((x.map fun r => (as ++ r.1, r.2)).map fun r => (c :: r.1, r.2)) = x.map fun r => (c :: as ++ r.1, r.2) := by
    cases x <;> rfl
  induction ha with
  | nil => exact (Option.map_id' ..).symm
  | @«open» c cs q hc _ ih => rw [cons_append, cutUnquoted?, if_pos hc, ih, hcons]
  | @plain c cs q hc hne _ ih =>
    have hprefix : ¬ (h :: pattern).isPrefixOf (c :: (cs ++ rest)) = true := by
      rw [isPrefixOf_cons_cons, beq_eq_false_iff_ne.mpr (Ne.symm hne)]
      exact Bool.false_ne_true
    rw [cons_append, cutUnquoted?, if_neg (by rw [hc]; exact Bool.false_ne_true), if_neg hprefix, ih, hcons]
  | @quoted o c cs q _ ih => rw [cons_append, cutUnquoted?, ih, hcons]

/-- Nothing is split off before the end of the text. -/
theorem split (ha : Scans h o a q) (rest : List Char) :
    splitUnquoted h o (a ++ rest) = (splitUnquoted h q rest).modifyHead (a ++ ·) := by
  have hcons (c : Char) (as : List Char) (x : List (List Char)) :
      (x.modifyHead (as ++ ·)).modifyHead (c :: ·) = x.modifyHead (c :: as ++ ·) := by
    cases x <;> rfl
  induction ha with
  | nil q =>
    rw [nil_append]
    cases splitUnquoted h q rest <;> rfl
  | @«open» c cs q hc _ ih => rw [cons_append, splitUnquoted, if_pos hc, ih, hcons]
  | @plain c cs q hc hne _ ih =>
    rw [cons_append, splitUnquoted, if_neg (by rw [hc]; exact Bool.false_ne_true), if_neg hne, ih, hcons]
  | @quoted o c cs q _ ih => rw [cons_append, splitUnquoted, ih, hcons]

end Scans

/-- A text that is passed over is cut off before the pattern behind it. -/
theorem cut_of_passes {h : Char} {a pattern rest : List Char} (ha : Passes h a) (hq : isNameQuote h = false) :
    cutUnquoted? (h :: pattern) none (a ++ h :: pattern ++ rest) = some (a, h :: pattern ++ rest) := by
  have hprefix : (h :: pattern).isPrefixOf (h :: (pattern ++ rest)) = true := by
    rw [ isPrefixOf_iff_prefix]
    exact prefix_append (h :: pattern) rest
  rw [append_assoc, ha.cut, cons_append, cutUnquoted?, if_neg (by rw [hq]; exact Bool.false_ne_true), if_pos hprefix]
  simp only [Option.map_some, append_nil]

/-- A text without quotes and parentheses is cut off before the parenthesis behind it. -/
theorem cut_before_parenthesis (rest : List Char) : ∀ {a : List Char}, (∀ c ∈ a, isNameQuote c = false ∧ c ≠ '(') →
    cutUnquoted? [' ', '('] none (a ++ ' ' :: '(' :: rest) = some (a, ' ' :: '(' :: rest)
  | [], _ => by
    rw [nil_append, cutUnquoted?, if_neg (by decide), if_pos (by simp)]
  | c :: a, ha => by
    have hprefix : ¬ [' ', '('].isPrefixOf (c :: (a ++ ' ' :: '(' :: rest)) = true := by
      rw [ isPrefixOf_iff_prefix]
      intro h
      have hrest := (cons_prefix_cons.mp h).2
      cases a with
      | nil => exact absurd (cons_prefix_cons.mp hrest).1 (by decide)
      | cons d a => exact (ha d (by simp)).2 (cons_prefix_cons.mp hrest).1.symm
    rw [cons_append, cutUnquoted?, (ha c (mem_cons_self ..)).1, if_neg Bool.false_ne_true, if_neg hprefix,
      cut_before_parenthesis rest fun d hd => ha d (mem_cons_of_mem c hd)]
    rfl

/-- Texts that are passed over are split again where they were joined. -/
theorem split_joinWith {h : Char} (hq : isNameQuote h = false) (gap : List Char) (hgap : Passes h gap) :
    ∀ {x : List Char} {xs : List (List Char)}, Passes h x → (∀ y ∈ xs, Passes h y) →
      splitUnquoted h none (joinWith (h :: gap) (x :: xs)) = x :: xs.map (gap ++ ·)
  | x, [], hx, _ => by
    have hsplit := hx.split []
    rw [append_nil] at hsplit
    rw [joinWith, hsplit, splitUnquoted, modifyHead_cons, append_nil]
    rfl
  | x, y :: ys, hx, hxs => by
    have hy := hxs y (mem_cons_self ..)
    have ih := split_joinWith hq gap hgap hy (fun z hz => hxs z (mem_cons_of_mem y hz))
    rw [joinWith, append_assoc, hx.split, cons_append, splitUnquoted, if_neg (by rw [hq]; exact Bool.false_ne_true),
      if_pos rfl, hgap.split, ih]
    · simp
    · exact nofun

/-- Texts that are passed over make a text that is passed over, with a separator that is. -/
theorem passes_joinWith {h : Char} {separator : List Char} (hs : Passes h separator) :
    ∀ {xs : List (List Char)}, (∀ x ∈ xs, Passes h x) → Passes h (joinWith separator xs)
  | [], _ => .nil none
  | [x], hxs => hxs x (mem_cons_self ..)
  | x :: _ :: _, hxs =>
    ((hxs x (mem_cons_self ..)).append hs).append (passes_joinWith hs fun z hz => hxs z (mem_cons_of_mem x hz))

/-! ## Written names -/

/-- A character of a plain name. -/
def isNameChar (c : Char) : Bool := startsPlainName c || c.isDigit

theorem mem_plainName {cs : List Char} (h : isPlainName cs = true) : ∀ c ∈ cs, isNameChar c = true := by
  cases cs with
  | nil => cases h
  | cons c cs =>
    rw [isPlainName, Bool.and_eq_true, all_eq_true] at h
    intro d hd
    rcases mem_cons.mp hd with rfl | hd
    · rw [isNameChar, h.1, Bool.true_or]
    · exact h.2 d hd

theorem isNameQuote_of_plain {c : Char} (h : isNameChar c = true) : isNameQuote c = false := by
  rw [Bool.eq_false_iff]
  intro hq
  simp only [isNameQuote, Bool.or_eq_true, decide_eq_true_eq] at hq
  rcases hq with rfl | rfl
  · exact absurd h (by decide)
  · exact absurd h (by decide)

theorem isBlank_of_plain {c : Char} (h : isNameChar c = true) : isBlank c = false := by
  have hrange : 48 ≤ c.toNat ∧ c.toNat ≤ 122 := by
    simp only [isNameChar, startsPlainName, Char.isDigit, Bool.or_eq_true, Bool.and_eq_true, decide_eq_true_eq,
      beq_iff_eq] at h
    rcases h with (h | rfl) | h
    · have h₁ := Char.le_def.mp h.1
      have h₂ := Char.le_def.mp h.2
      exact ⟨Nat.le_trans (by decide) (UInt32.le_iff_toNat_le.mp h₁), UInt32.le_iff_toNat_le.mp h₂⟩
    · decide
    · exact ⟨UInt32.le_iff_toNat_le.mp h.1, Nat.le_trans (UInt32.le_iff_toNat_le.mp h.2) (by decide)⟩
  simp only [isBlank, Bool.or_eq_false_iff, Bool.and_eq_false_iff, decide_eq_false_iff_not, beq_eq_false_iff_ne]
  omega

/-- A quoted name leaves no quote open, whatever it holds. -/
theorem passes_quoteName (h : Char) {quote : Char} (hq : isNameQuote quote = true) (cs : List Char) :
    Passes h (quoteName quote cs) := by
  refine .open hq ?_
  induction cs with
  | nil => exact .quoted (by rw [if_pos rfl]; exact .nil none)
  | cons c cs ih =>
    rw [double]
    split
    · exact .quoted (by rw [if_pos rfl]; exact .open hq ih)
    · next hne => exact .quoted (by rw [if_neg hne]; exact ih)

theorem passes_writeName {h : Char} (hh : isNameChar h = false) (f : Format) (cs : List Char) :
    Passes h (writeName f cs) := by
  cases f with
  | loadData => exact passes_quoteName h (by decide) cs
  | copy =>
    rw [writeName]
    split
    · next hplain =>
      refine Scans.of_plain fun c hc => ⟨isNameQuote_of_plain (mem_plainName hplain c hc), ?_⟩
      rintro rfl
      rw [mem_plainName hplain c hc] at hh
      cases hh
    · exact passes_quoteName h (by decide) cs

theorem withoutQuotes?_quoteName (quote : Char) (cs : List Char) :
    withoutQuotes? quote (quoteName quote cs) = some (double quote cs) := by
  rw [quoteName, withoutQuotes?, if_pos ⟨rfl, getLast?_concat⟩, dropLast_concat]

theorem withoutQuotes?_ne {quote c : Char} (hne : c ≠ quote) (cs : List Char) :
    withoutQuotes? quote (c :: cs) = none := by
  rw [withoutQuotes?, if_neg fun h => hne h.1]

theorem readName_writeName (f : Format) (cs : List Char) : readName (writeName f cs) = cs := by
  have hbacktick : readName (quoteName backtick cs) = cs := by
    rw [readName, quoteName, withoutQuotes?_ne (by decide), ← quoteName, withoutQuotes?_quoteName]
    exact undouble_double backtick cs
  have hquote : readName (quoteName '"' cs) = cs := by
    rw [readName, withoutQuotes?_quoteName]
    exact undouble_double '"' cs
  cases f with
  | loadData => exact hbacktick
  | copy =>
    rw [writeName]
    split
    · next hplain =>
      cases cs with
      | nil => cases hplain
      | cons c cs =>
        have hc := isNameQuote_of_plain (mem_plainName hplain c (mem_cons_self ..))
        simp only [isNameQuote, Bool.or_eq_false_iff, decide_eq_false_iff_not] at hc
        rw [readName, withoutQuotes?_ne hc.1, withoutQuotes?_ne hc.2]
    · exact hquote

/-- A written name neither starts nor ends with a blank. -/
theorem trim_writeName (f : Format) (cs : List Char) : trim (writeName f cs) = writeName f cs := by
  have hquoted (quote : Char) (hb : isBlank quote = false) : trim (quoteName quote cs) = quoteName quote cs := by
    apply trim_eq_self
    · rintro c ⟨⟩
      exact hb
    · intro c hc
      rw [quoteName, ← cons_append, getLast?_concat] at hc
      cases hc
      exact hb
  cases f with
  | loadData => exact hquoted backtick (by decide)
  | copy =>
    rw [writeName]
    split
    · next hplain =>
      have hall : ∀ c ∈ cs, isBlank c = false := fun c hc => isBlank_of_plain (mem_plainName hplain c hc)
      exact trim_eq_self (fun c hc => hall c (mem_of_mem_head? hc)) (fun c hc => hall c (mem_of_mem_getLast? hc))
    · exact hquoted '"' (by decide)

theorem trim_blank_cons {c : Char} (hc : isBlank c = true) (cs : List Char) : trim (c :: cs) = trim cs := by
  rw [trim, trimStart, dropWhile_cons_of_pos hc]
  rfl

/-! ## Statements -/

theorem joinWith_eq_intercalate (separator : List Char) : ∀ xs : List (List Char),
    joinWith separator xs = separator.intercalate xs
  | [] => rfl
  | [x] => (intercalate_singleton).symm
  | x :: y :: ys => by
    rw [joinWith, joinWith_eq_intercalate separator (y :: ys), intercalate_cons_cons]
    exact nofun

/-- The names at which a written table name is cut. -/
theorem split_writeTable (f : Format) (table : List Char) :
    splitUnquoted '.' none (writeTable f table) = (table.splitOn '.').map (writeName f) := by
  have hpass : ∀ x ∈ (table.splitOn '.').map (writeName f), Passes '.' x := by
    intro x hx
    obtain ⟨part, _, rfl⟩ := mem_map.mp hx
    exact passes_writeName (by decide) f part
  rw [writeTable]
  cases hparts : (table.splitOn '.').map (writeName f) with
  | nil => exact absurd (map_eq_nil_iff.mp hparts) (splitOn_ne_nil '.' table)
  | cons x xs =>
    rw [hparts] at hpass
    rw [split_joinWith (by decide) [] (.nil none) (hpass x (mem_cons_self ..))
      (fun y hy => hpass y (mem_cons_of_mem x hy))]
    simp

/-- A written table name is read as the table name. -/
theorem read_writeTable (f : Format) (table : List Char) :
    joinWith ['.'] ((splitUnquoted '.' none (writeTable f table)).map fun p => readName (trim p)) = table := by
  rw [split_writeTable, map_map]
  have hread : (fun p => readName (trim p)) ∘ writeName f = id := by
    funext cs
    show readName (trim (writeName f cs)) = cs
    rw [trim_writeName, readName_writeName]
  rw [hread, map_id, joinWith_eq_intercalate, intercalate_splitOn]

/-- Written column names are read as the column names. -/
theorem read_writeColumns (f : Format) {columns : List String} (h : columns ≠ []) :
    (splitUnquoted ',' none (writeColumns f columns)).map (fun c => String.ofList (readName (trim c))) = columns := by
  obtain ⟨n, ns, rfl⟩ := exists_cons_of_ne_nil h
  have hpass (m : String) : Passes ',' (writeName f m.toList) := passes_writeName (by decide) f m.toList
  have hread (m : String) : String.ofList (readName (trim (writeName f m.toList))) = m := by
    rw [trim_writeName, readName_writeName, String.ofList_toList]
  have hblank : Passes ',' [' '] := .plain (by decide) (by decide) (.nil none)
  rw [writeColumns, map_cons, split_joinWith (by decide) [' '] hblank (hpass n)]
  · rw [map_cons, hread, map_map, map_map]
    congr 1
    have hcolumn : ((fun c => String.ofList (readName (trim c))) ∘ ([' '] ++ ·)) ∘
        (fun m : String => writeName f m.toList) = id := by
      funext m
      show String.ofList (readName (trim (' ' :: writeName f m.toList))) = m
      rw [trim_blank_cons (by decide), hread]
    rw [hcolumn, map_id]
  · intro x hx
    obtain ⟨m, _, rfl⟩ := mem_map.mp hx
    exact hpass m

theorem passes_writeTable {h : Char} (hh : isNameChar h = false) (hdot : h ≠ '.') (f : Format) (table : List Char) :
    Passes h (writeTable f table) := by
  apply passes_joinWith
  · exact .plain (by decide) (Ne.symm hdot) (.nil none)
  · intro x hx
    obtain ⟨part, _, rfl⟩ := mem_map.mp hx
    exact passes_writeName hh f part

theorem passes_writeColumns (f : Format) (columns : List String) : Passes ')' (writeColumns f columns) := by
  apply passes_joinWith
  · exact .plain (by decide) (by decide) (.plain (by decide) (by decide) (.nil none))
  · intro x hx
    obtain ⟨m, _, rfl⟩ := mem_map.mp hx
    exact passes_writeName (by decide) f m.toList

theorem isPrefixOf?_append : ∀ a b : List Char, a.isPrefixOf? (a ++ b) = some b
  | [], _ => rfl
  | c :: a, b => by
    show (if c == c then a.isPrefixOf? (a ++ b) else none) = some b
    rw [if_pos (beq_self_eq_true c)]
    exact isPrefixOf?_append a b

/-- The part of a statement behind the columns. -/
def statementEnd : Format → List Char
  | .copy => " FROM STDIN WITH (FORMAT text, ENCODING 'UTF-8', DELIMITER E'\\t', NULL '\\N')".toList
  | .loadData => []

/-- The options of a `load-data` statement, behind the first two words. -/
def loadDataOptions : List Char :=
  " UTF8 FIELDS TERMINATED BY '\\t' ENCLOSED BY '' ESCAPED BY '\\\\' LINES TERMINATED BY '\\n'".toList

/-- The parts of a statement for `copy`. -/
theorem statementFor_copy (table : String) (columns : List String) : statementFor .copy table columns =
    "COPY ".toList ++ (writeTable .copy table.toList ++ [' ', '('] ++
      (writeColumns .copy columns ++ ')' :: statementEnd .copy)) := by
  have hopen : " (".toList = [' ', '('] := by decide +kernel
  have hend : ") FROM STDIN WITH (FORMAT text, ENCODING 'UTF-8', DELIMITER E'\\t', NULL '\\N')".toList =
      ')' :: statementEnd .copy := by decide +kernel
  generalize statementEnd .copy = ending at hend ⊢
  unfold statementFor
  simp only [hopen, hend, append_assoc]

/-- The parts of a statement for `load-data`. -/
theorem statementFor_loadData (table : String) (columns : List String) : statementFor .loadData table columns =
    "LOAD DATA LOCAL INFILE '' INTO TABLE ".toList ++ (writeTable .loadData table.toList ++ " CHARACTER SET".toList ++
      (loadDataOptions ++ [' ', '('] ++ (writeColumns .loadData columns ++ ')' :: statementEnd .loadData))) := by
  have hoptions : " CHARACTER SET UTF8 FIELDS TERMINATED BY '\\t' ENCLOSED BY '' ESCAPED BY '\\\\'".toList ++
      " LINES TERMINATED BY '\\n' (".toList = " CHARACTER SET".toList ++ (loadDataOptions ++ [' ', '(']) := by
    decide +kernel
  have hend : ")".toList = ')' :: statementEnd .loadData := by decide +kernel
  generalize statementEnd .loadData = ending at hend ⊢
  generalize loadDataOptions = options at hoptions ⊢
  have hrest (rest : List Char) :
      " CHARACTER SET UTF8 FIELDS TERMINATED BY '\\t' ENCLOSED BY '' ESCAPED BY '\\\\'".toList ++
        (" LINES TERMINATED BY '\\n' (".toList ++ rest) =
      " CHARACTER SET".toList ++ (options ++ ([' ', '('] ++ rest)) := by
    rw [← append_assoc, hoptions]
    simp only [append_assoc]
  unfold statementFor
  simp only [hend, append_assoc, hrest]

theorem cutTable?_statementFor (f : Format) (table : String) (columns : List String) :
    cutTable? f (statementFor f table columns) =
      some (writeTable f table.toList, '(' :: writeColumns f columns ++ ')' :: statementEnd f) := by
  have hpass : Passes ' ' (writeTable f table.toList) := passes_writeTable (by decide) (by decide) f table.toList
  have hcut (pattern rest : List Char) := @cut_of_passes ' ' _ pattern rest hpass (by decide)
  cases f with
  | copy =>
    have hopen : " (".toList = [' ', '('] := by decide +kernel
    rw [statementFor_copy]
    simp only [cutTable?, isPrefixOf?_append, hopen]
    show (cutUnquoted? [' ', '('] none _ >>= fun r => _) = _
    rw [hcut]
    rfl
  | loadData =>
    have hopen : " (".toList = [' ', '('] := by decide +kernel
    have hset : " CHARACTER SET".toList = ' ' :: "CHARACTER SET".toList := by decide +kernel
    have hoptions : (' ' :: "CHARACTER SET".toList ++ loadDataOptions).all (fun c => !isNameQuote c && c != '(') := by
      decide +kernel
    have hplain (c : Char) (hc : c ∈ ' ' :: "CHARACTER SET".toList ++ loadDataOptions) :
        isNameQuote c = false ∧ c ≠ '(' := by
      simpa using all_eq_true.mp hoptions c hc
    have hparenthesis (rest : List Char) := cut_before_parenthesis rest hplain
    rw [statementFor_loadData]
    simp only [cutTable?, isPrefixOf?_append, hopen, hset]
    generalize "CHARACTER SET".toList = set at hparenthesis ⊢
    generalize loadDataOptions = options at hparenthesis ⊢
    show (cutUnquoted? (' ' :: set) none _ >>= fun r => _) = _
    rw [hcut]
    show (cutUnquoted? [' ', '('] none (' ' :: set ++ (options ++ [' ', '('] ++ _)) >>= fun r => _) = _
    rw [append_assoc options, ← append_assoc (' ' :: set)]
    show (cutUnquoted? [' ', '('] none (' ' :: set ++ options ++ ' ' :: '(' :: _) >>= fun r => _) = _
    rw [hparenthesis]
    rfl

/-- **A statement is read back as the table and the columns it was written for.** -/
theorem read?_statementFor (f : Format) (table : String) {columns : List String} (h : columns ≠ []) :
    Destination.read? f (String.ofList (statementFor f table columns)) = some ⟨table, columns⟩ := by
  have hpass : Passes ')' ('(' :: writeColumns f columns) :=
    .plain (by decide) (by decide) (passes_writeColumns f columns)
  have hcut := @cut_of_passes ')' ('(' :: writeColumns f columns) [] (statementEnd f) hpass (by decide)
  rw [append_assoc, singleton_append] at hcut
  rw [Destination.read?, String.toList_ofList, cutTable?_statementFor]
  show (cutUnquoted? [')'] none ('(' :: writeColumns f columns ++ ')' :: statementEnd f) >>= fun r => _) = _
  rw [hcut]
  show some (Destination.mk _ ((splitUnquoted ',' none (writeColumns f columns)).map _)) = _
  rw [read_writeTable, read_writeColumns f h, String.ofList_toList]

theorem read?_statement {ρ : Type} (f : Format) (s : Schema ρ) :
    Destination.read? f (statement f s) = some ⟨s.table, s.names⟩ :=
  read?_statementFor f s.table s.names_ne_nil

/-- **The statement of a schema names its destination.** A schema is built from any table and any columns that have
names, none of them twice; and in both formats its statement is read back as this table and these columns, in order. -/
theorem statement_names_destination {ρ : Type} (table : String) (columns : List (Column ρ)) :
    ((∃ s, Schema.build table columns = .ok s) ↔ Schema.Named table (columns.map Column.name)) ∧
    ∀ s, Schema.build table columns = .ok s →
      ∀ f, Destination.read? f (statement f s) = some ⟨table, columns.map Column.name⟩ := by
  refine ⟨Schema.exists_build_iff, ?_⟩
  intro s hs f
  obtain ⟨htable, hcolumns⟩ := Schema.eq_of_build hs
  rw [read?_statement, htable, Schema.names, hcolumns]

/-- A table and columns whose names are made of the marks between which names are looked for. -/
theorem statement_names_destination_marks :
    let table := "a.\"b`. (c\" CHARACTER SET"
    let names := ["x, y", "\"", "`", ")", "(a, `b", " CHARACTER SET", "\" (", "\n\té"]
    let columns : List (Column Unit) := names.map fun n => ⟨n, fun _ => .ok .null⟩
    ∃ s, Schema.build table columns = .ok s ∧ Destination.read? .copy (statement .copy s) = some ⟨table, names⟩ ∧
      Destination.read? .loadData (statement .loadData s) = some ⟨table, names⟩ := by
  intro table names columns
  have hnames : columns.map Column.name = names := rfl
  obtain ⟨hbuild, hread⟩ := statement_names_destination table columns
  have hnamed : Schema.Named table names := ⟨by decide +kernel, by decide, by decide +kernel, by decide⟩
  obtain ⟨s, hs⟩ := hbuild.mpr (hnames ▸ hnamed)
  exact ⟨s, hs, hread s hs .copy, hread s hs .loadData⟩

end BulkLoad
