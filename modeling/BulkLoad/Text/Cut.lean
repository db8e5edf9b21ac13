/-!
# Cutting a text at a character

- `cutAt?_append`: a text is cut before the first separator;
- `cutAt?_eq_none`: only a text without a separator is not cut;
- `eq_of_cutAt?`: the two parts with the separator between them are the text.
-/

namespace BulkLoad.Text

/-- The text before and after the first occurrence of a character. -/
def cutAt? (separator : Char) : List Char → Option (List Char × List Char)
  | [] => none
  | c :: cs => if c = separator then some ([], cs) else (cutAt? separator cs).map fun r => (c :: r.1, r.2)

theorem cutAt?_append {separator : Char} {a b : List Char} (h : separator ∉ a) :
    cutAt? separator (a ++ separator :: b) = some (a, b) := by
  induction a with
  | nil => simp [cutAt?]
  | cons c a ih =>
    have hc : c ≠ separator := fun e => h (by simp [e])
    simp [cutAt?, hc, ih (fun hm => h (by simp [hm]))]

theorem cutAt?_eq_none {separator : Char} {cs : List Char} : cutAt? separator cs = none ↔ separator ∉ cs := by
  induction cs with
  | nil => simp [cutAt?]
  | cons c cs ih =>
    by_cases hc : c = separator
    · simp [cutAt?, hc]
    · simp [cutAt?, hc, ih, Ne.symm hc]

theorem eq_of_cutAt? {separator : Char} : ∀ {cs a b : List Char}, cutAt? separator cs = some (a, b) →
    cs = a ++ separator :: b
  | [], _, _, h => by cases h
  | c :: cs, a, b, h => by
    rw [cutAt?] at h
    split at h
    · next hc => cases h; rw [hc]; rfl
    · obtain ⟨⟨a', b'⟩, hcut, hab⟩ := Option.map_eq_some_iff.1 h
      cases hab
      rw [eq_of_cutAt? hcut, List.cons_append]

/-- The text before the first occurrence of a character and the text after it, or a fallback where there is none. -/
def cutAt (separator : Char) (cs fallback : List Char) : List Char × List Char :=
  (cutAt? separator cs).getD (cs, fallback)

end BulkLoad.Text
