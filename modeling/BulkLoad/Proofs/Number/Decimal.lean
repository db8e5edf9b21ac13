import BulkLoad.ColumnType
import BulkLoad.Proofs.Payload.Literal

/-!
# The grammar of exact decimals

A decimal is written as an optional sign, digits, and optionally a point with digits behind it (`WrittenDecimal`). These
are the texts that a table column takes (`isStoredDecimal_iff`). A payload may carry further ones, which have no digits
in front of the point (`PointFirst`, `isDecimal_iff`).

`decimal_grammars_agree_iff`: a payload carries a text exactly when a column takes it, unless there are no digits in front
of the point, and then the column does not take it.
-/

namespace BulkLoad

open BulkLoad.Text

/-! ## Texts -/

/-- The text is nothing or a sign. -/
inductive IsSign : List Char → Prop
  | none : IsSign []
  | minus : IsSign ['-']
  | plus : IsSign ['+']

/-- The text consists of decimal digits, of which there is one at least. -/
def IsNumeral (cs : List Char) : Prop := cs ≠ [] ∧ ∀ c ∈ cs, c.isDigit = true

/-- An optional sign, digits, and optionally a point with digits behind it. -/
inductive WrittenDecimal : List Char → Prop
  | whole {sign ds : List Char} : IsSign sign → IsNumeral ds → WrittenDecimal (sign ++ ds)
  | fraction {sign ds es : List Char} : IsSign sign → IsNumeral ds → IsNumeral es →
      WrittenDecimal (sign ++ (ds ++ '.' :: es))

/-- An optional sign and a point with digits behind it. -/
inductive PointFirst : List Char → Prop
  | point {sign es : List Char} : IsSign sign → IsNumeral es → PointFirst (sign ++ '.' :: es)

/-! ## Signs and points -/

variable {cs ds es : List Char}

theorem isDigits_iff : isDigits cs = true ↔ ∀ c ∈ cs, c.isDigit = true := List.all_eq_true

theorem IsNumeral.not_mem {c : Char} (h : IsNumeral ds) (hc : c.isDigit = false) : c ∉ ds := by
  intro hmem
  have hdigit := h.2 c hmem
  rw [hc] at hdigit
  cases hdigit

/-- A text is an optional sign and what is left without it. -/
theorem exists_sign (cs : List Char) : ∃ sign, IsSign sign ∧ cs = sign ++ withoutSign cs := by
  unfold withoutSign
  split
  · exact ⟨_, .minus, rfl⟩
  · exact ⟨_, .plus, rfl⟩
  · exact ⟨_, .none, rfl⟩

/-- A sign is taken off a text that does not begin with one. -/
theorem withoutSign_append {sign : List Char} (hsign : IsSign sign) (hminus : cs.head? ≠ some '-')
    (hplus : cs.head? ≠ some '+') : withoutSign (sign ++ cs) = cs := by
  cases hsign with
  | none =>
    rw [List.nil_append, withoutSign]
    · rintro rest rfl
      exact hminus rfl
    · rintro rest rfl
      exact hplus rfl
  | minus => rfl
  | plus => rfl

/-- A text that begins with a digit does not begin with a sign. -/
theorem IsNumeral.withoutSign {sign : List Char} (hsign : IsSign sign) (h : IsNumeral ds) (rest : List Char) :
    withoutSign (sign ++ (ds ++ rest)) = ds ++ rest := by
  obtain ⟨c, ds', rfl⟩ := List.exists_cons_of_ne_nil h.1
  have hdigit := h.2 c List.mem_cons_self
  refine withoutSign_append hsign ?_ ?_
  all_goals
    rintro hc
    cases hc
    exact absurd hdigit (by decide)

/-! ## The two readings of a decimal -/

/-- What a column takes behind the sign. -/
theorem isStoredDecimal_iff_withoutSign : isStoredDecimal cs = true ↔ IsNumeral (withoutSign cs) ∨
    ∃ ds es, withoutSign cs = ds ++ '.' :: es ∧ IsNumeral ds ∧ IsNumeral es := by
  unfold isStoredDecimal
  cases hcut : cutAt? '.' (withoutSign cs) with
  | none =>
    have hpoint := cutAt?_eq_none.mp hcut
    constructor
    · intro h
      simp only [Bool.and_eq_true, isDigits_iff, Bool.not_eq_true', List.isEmpty_eq_false_iff] at h
      exact Or.inl ⟨h.2, h.1⟩
    · rintro (h | ⟨ds, es, hcs, _⟩)
      · simpa [isDigits_iff] using h.symm
      · exact absurd (by simp [hcs]) hpoint
  | some parts =>
    obtain ⟨ds, es⟩ := parts
    have hcs := eq_of_cutAt? hcut
    simp only [Bool.and_eq_true, isDigits_iff, Bool.not_eq_true', List.isEmpty_eq_false_iff]
    constructor
    · rintro ⟨⟨⟨hds, hds'⟩, hes⟩, hes'⟩
      exact Or.inr ⟨ds, es, hcs, ⟨hds', hds⟩, ⟨hes', hes⟩⟩
    · rintro (h | ⟨ds', es', hcs', hds, hes⟩)
      · exact absurd (by simp [hcs]) (h.not_mem (c := '.') (by decide))
      · -- The first point is where the numeral ends.
        rw [hcs', cutAt?_append (hds.not_mem (by decide))] at hcut
        cases hcut
        exact ⟨⟨⟨hds.2, hds.1⟩, hes.2⟩, hes.1⟩

/-- A payload may carry what a column takes, and behind the sign a point with digits behind it. -/
theorem isDecimal_iff_withoutSign : isDecimal cs = true ↔ isStoredDecimal cs = true ∨
    ∃ es, withoutSign cs = '.' :: es ∧ IsNumeral es := by
  unfold isDecimal isStoredDecimal
  cases hcut : cutAt? '.' (withoutSign cs) with
  | none =>
    have hpoint := cutAt?_eq_none.mp hcut
    refine ⟨Or.inl, ?_⟩
    rintro (h | ⟨es, hcs, _⟩)
    · exact h
    · exact absurd (by simp [hcs]) hpoint
  | some parts =>
    obtain ⟨ds, es⟩ := parts
    have hcs := eq_of_cutAt? hcut
    simp only [Bool.and_eq_true, isDigits_iff, Bool.not_eq_true', List.isEmpty_eq_false_iff]
    constructor
    · rintro ⟨⟨hds, hes⟩, hes'⟩
      cases ds with
      | nil => exact Or.inr ⟨es, hcs, hes', hes⟩
      | cons d ds => exact Or.inl ⟨⟨⟨hds, List.cons_ne_nil d ds⟩, hes⟩, hes'⟩
    · rintro (⟨⟨⟨hds, _⟩, hes⟩, hes'⟩ | ⟨es', hcs', hes⟩)
      · exact ⟨⟨hds, hes⟩, hes'⟩
      · rw [hcs', cutAt?, if_pos rfl] at hcut
        cases hcut
        exact ⟨⟨List.forall_mem_nil _, hes.2⟩, hes.1⟩

/-- **A column takes the decimals that are written with digits in front.** -/
theorem isStoredDecimal_iff : isStoredDecimal cs = true ↔ WrittenDecimal cs := by
  rw [isStoredDecimal_iff_withoutSign]
  constructor
  · obtain ⟨sign, hsign, hcs⟩ := exists_sign cs
    rintro (h | ⟨ds, es, hbody, hds, hes⟩)
    · rw [hcs]
      exact .whole hsign h
    · rw [hcs, hbody]
      exact .fraction hsign hds hes
  · rintro (⟨hsign, hds⟩ | ⟨hsign, hds, hes⟩)
    · have hbody := hds.withoutSign hsign []
      rw [List.append_nil] at hbody
      rw [hbody]
      exact Or.inl hds
    · rw [hds.withoutSign hsign]
      exact Or.inr ⟨_, _, rfl, hds, hes⟩

/-- **A payload may carry decimals without digits in front of the point as well.** -/
theorem isDecimal_iff : isDecimal cs = true ↔ WrittenDecimal cs ∨ PointFirst cs := by
  rw [isDecimal_iff_withoutSign, isStoredDecimal_iff]
  refine or_congr_right ⟨?_, ?_⟩
  · rintro ⟨es, hbody, hes⟩
    obtain ⟨sign, hsign, hcs⟩ := exists_sign cs
    rw [hcs, hbody]
    exact .point hsign hes
  · rintro ⟨hsign, hes⟩
    exact ⟨_, withoutSign_append hsign (by simp) (by simp), hes⟩

/-- There are digits in front of the point, or there are none. -/
theorem WrittenDecimal.not_pointFirst (h : WrittenDecimal cs) : ¬ PointFirst cs := by
  rintro ⟨hsign, hes⟩
  have hbody {es : List Char} {sign : List Char} (hsign : IsSign sign) : withoutSign (sign ++ '.' :: es) = '.' :: es :=
    withoutSign_append hsign (by simp) (by simp)
  have hpoint {ds rest : List Char} (hds : IsNumeral ds) : '.' :: rest ≠ ds := by
    rintro rfl
    exact hds.not_mem (c := '.') (by decide) List.mem_cons_self
  rcases isStoredDecimal_iff_withoutSign.mp (isStoredDecimal_iff.mpr h) with h | ⟨ds, es', hcs, hds, _⟩
  · rw [hbody hsign] at h
    exact hpoint h rfl
  · rw [hbody hsign] at hcs
    cases ds with
    | nil => exact hds.1 rfl
    | cons d ds =>
      cases hcs
      exact hpoint hds rfl

/-! ## Fields and columns -/

variable {f : Format} {d : String}

theorem encodeField_decimal (f : Format) (d : String) : encodeField f (.decimal d) =
    if isDecimal d.toList then .ok (Bytes.ofString d) else .error (.notDecimal d) := rfl

theorem decode_decimal (f : Format) (d : String) : ColumnType.decimal.decode f (Bytes.ofString d) =
    if isStoredDecimal d.toList then .ok (.decimal d) else .error (.badLiteral .decimal d .notDecimal) := by
  rw [ColumnType.decode, if_neg (by simp), Bytes.text?_ofString]
  simp only [ColumnType.readLiteral]
  split <;> rfl

theorem encodeField_decimal_iff : (∃ field, encodeField f (.decimal d) = .ok field) ↔
    WrittenDecimal d.toList ∨ PointFirst d.toList := by
  rw [encodeField_decimal, ← isDecimal_iff]
  split <;> simp [*]

theorem decode_decimal_iff {v : Value} : ColumnType.decimal.decode f (Bytes.ofString d) = .ok v ↔
    WrittenDecimal d.toList ∧ v = .decimal d := by
  rw [decode_decimal, ← isStoredDecimal_iff]
  split <;> simp [*, eq_comm]

/-- A decimal is read from its field as it is written. -/
theorem readField_decimal {field : Bytes} (h : encodeField f (.decimal d) = .ok field) :
    readField f field = .ok (some (Bytes.ofString d)) := by
  have hliteral : (Value.decimal d).literal? f = (encodeField f (.decimal d)).toOption := rfl
  have hfield : field = Bytes.ofString d := by
    rw [encodeField_decimal] at h
    split at h
    · cases h
      rfl
    · cases h
  rw [readField_encodeField h, hliteral, h, hfield]
  rfl

/-- **There is one grammar of decimals where there are digits in front of the point.** A payload may carry such a text
exactly when it is written as a decimal, and exactly when a column takes it, and then it is stored as it is written. A
text without digits in front of the point may be carried as well, but no column takes it. -/
theorem decimal_grammars_agree_iff (f : Format) (d : String) :
    let carries := ∃ field, encodeField f (.decimal d) = .ok field
    let takes := ∃ v, ColumnType.decimal.decode f (Bytes.ofString d) = .ok v
    ((carries ↔ WrittenDecimal d.toList) ∧ (carries ↔ takes) ↔ ¬ PointFirst d.toList) ∧
      ∀ field, encodeField f (.decimal d) = .ok field → ∃ raw, readField f field = .ok (some raw) ∧
        (ColumnType.decimal.decode f raw = .ok (.decimal d) ↔ ¬ PointFirst d.toList) := by
  intro carries takes
  have hcarries : carries ↔ WrittenDecimal d.toList ∨ PointFirst d.toList := encodeField_decimal_iff
  have htakes : takes ↔ WrittenDecimal d.toList := by
    unfold takes
    simp only [decode_decimal_iff, exists_and_left, exists_eq, and_true]
  constructor
  · rw [hcarries, htakes]
    constructor
    · rintro ⟨hwritten, _⟩ hpoint
      exact (hwritten.mp (Or.inr hpoint)).not_pointFirst hpoint
    · intro hpoint
      simp [hpoint]
  · intro field hfield
    refine ⟨_, readField_decimal hfield, ?_⟩
    rw [decode_decimal_iff, and_iff_left rfl]
    exact ⟨WrittenDecimal.not_pointFirst, (hcarries.mp ⟨field, hfield⟩).resolve_right⟩

/-- Zeros in front and behind are kept, as is a plus. -/
theorem decimal_grammars_agree_iff_zeros :
    let d := "+00.50"
    let field := Bytes.ofString d
    encodeField .loadData (.decimal d) = .ok field ∧ ¬ PointFirst d.toList ∧
      ((∃ field, encodeField .loadData (.decimal d) = .ok field) ↔ WrittenDecimal d.toList) ∧
      ∃ raw, readField .loadData field = .ok (some raw) ∧ ColumnType.decimal.decode .loadData raw = .ok (.decimal d) := by
  intro d field
  have hd : d.toList = ['+'] ++ (['0', '0'] ++ '.' :: ['5', '0']) := by decide +kernel
  have hpoint : ¬ PointFirst d.toList := by
    rw [hd]
    exact (WrittenDecimal.fraction .plus ⟨by simp, isDigits_iff.mp rfl⟩ ⟨by simp, isDigits_iff.mp rfl⟩).not_pointFirst
  have hfield : encodeField .loadData (.decimal d) = .ok field := if_pos (by decide +kernel)
  obtain ⟨hagree, hstored⟩ := decimal_grammars_agree_iff .loadData d
  obtain ⟨raw, hread, hdecode⟩ := hstored field hfield
  exact ⟨hfield, hpoint, (hagree.mpr hpoint).1, raw, hread, hdecode.mpr hpoint⟩

/-- A payload may carry one half without a zero, which is not written as a decimal. So it is wrong that there is one
grammar. -/
theorem not_decimal_grammars_agree :
    ¬ ∀ (f : Format) (d : String),
      ((∃ field, encodeField f (.decimal d) = .ok field) ↔ WrittenDecimal d.toList) ∧
        ((∃ field, encodeField f (.decimal d) = .ok field) ↔
          ∃ v, ColumnType.decimal.decode f (Bytes.ofString d) = .ok v) := by
  intro h
  have hpoint : PointFirst ".5".toList := by
    have hd : ".5".toList = [] ++ '.' :: ['5'] := by decide +kernel
    rw [hd]
    exact .point .none ⟨by simp, isDigits_iff.mp rfl⟩
  exact ((h .copy ".5").1.mp (encodeField_decimal_iff.mpr (Or.inr hpoint))).not_pointFirst hpoint

end BulkLoad
