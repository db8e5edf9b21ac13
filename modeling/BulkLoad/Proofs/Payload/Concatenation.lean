import BulkLoad.Payload
import Mathlib.Data.List.Basic

/-!
# Payloads one behind the other

A payload that is empty or ends with a line feed can be continued by another one: the lines of both are those of the
first, followed by those of the second (`lines_append`), and the line feed behind the last line makes no difference
(`lines_concat_of_open`). Lines are read from left to right. A line that cannot be read ends the reading
(`readLines_append_of_error`), and the numbers of the lines only matter for where an error is reported
(`readLines_add`).

- `readPayload_append`: reading of two payloads, one behind the other.
-/

namespace BulkLoad

open List

/-! ## Lines -/

/-- Lines that a line feed ends are those between the line feeds before it. -/
theorem lines_concat (body : Bytes) : Bytes.lines (body ++ [Bytes.lineFeed]) = body.splitOn Bytes.lineFeed := by
  unfold Bytes.lines
  rw [splitOn_append_cons_self, splitOn_nil]
  simp

theorem lines_append_cons (body rest : Bytes) :
    Bytes.lines (body ++ Bytes.lineFeed :: rest) = body.splitOn Bytes.lineFeed ++ Bytes.lines rest := by
  have hne : rest.splitOn Bytes.lineFeed ≠ [] := splitOn_ne_nil _ _
  unfold Bytes.lines
  simp only [splitOn_append_cons_self, getLast?_append_of_ne_nil _ hne, dropLast_append_of_ne_nil hne]
  split <;> rfl

/-- **Behind a line feed, other lines begin.** -/
theorem lines_append {a : Bytes} (h : a = [] ∨ a.getLast? = some Bytes.lineFeed) (b : Bytes) :
    Bytes.lines (a ++ b) = Bytes.lines a ++ Bytes.lines b := by
  rcases h with rfl | h
  · rfl
  · obtain ⟨body, rfl⟩ := getLast?_eq_some_iff.mp h
    rw [append_assoc, singleton_append, lines_append_cons, lines_concat]

/-- The last line of a payload that no line feed ends is not blank. -/
theorem getLast?_splitOn_of_open {payload : Bytes} (hne : payload ≠ [])
    (hopen : payload.getLast? ≠ some Bytes.lineFeed) : (payload.splitOn Bytes.lineFeed).getLast? ≠ some [] := by
  by_cases hmem : Bytes.lineFeed ∈ payload
  · -- Behind the last line feed stands the last line.
    obtain ⟨tail, head, hsplit, htail⟩ := eq_append_cons_of_mem (mem_reverse.mpr hmem)
    have hpayload : payload = head.reverse ++ Bytes.lineFeed :: tail.reverse := by
      rw [← reverse_reverse payload, hsplit]
      simp
    have hline : tail.reverse ≠ [] := by
      intro hnil
      rw [hpayload, hnil, getLast?_concat] at hopen
      exact hopen rfl
    have hlast : tail.reverse.splitOn Bytes.lineFeed = [tail.reverse] := splitOn_eq_singleton (by simpa using htail)
    rw [hpayload, splitOn_append_cons_self, hlast, getLast?_concat]
    simpa using hline
  · rw [splitOn_eq_singleton hmem]
    simpa using hne

/-- The line feed behind the last line may be missing. -/
theorem lines_concat_of_open {payload : Bytes} (hne : payload ≠ [])
    (hopen : payload.getLast? ≠ some Bytes.lineFeed) :
    Bytes.lines (payload ++ [Bytes.lineFeed]) = Bytes.lines payload := by
  rw [lines_concat, Bytes.lines, if_neg (getLast?_splitOn_of_open hne hopen)]

/-! ## Reading lines -/

/-- No line is read behind one that cannot be read. -/
theorem readLines_append_of_error {f : Format} {e : PayloadError} : ∀ {n : Nat} {a : List Bytes} (b : List Bytes),
    readLines f n a = .error e → readLines f n (a ++ b) = .error e
  | _, [], _, h => by cases h
  | n, line :: a, b, h => by
    rw [readLines] at h
    rw [cons_append, readLines]
    split at h
    · cases h
    next hmarker =>
    rw [if_neg hmarker]
    cases hrow : readRow f line with
    | error fault => rw [hrow] at h; exact h
    | ok row =>
      rw [hrow] at h
      cases hrest : readLines f (n + 1) a with
      | ok rows => rw [hrest] at h; cases h
      | error e' =>
        rw [hrest] at h
        cases h
        simp only [readLines_append_of_error b hrest]
        rfl

/-- Lines that stand further down are read as the same rows, or with the same error further down. -/
theorem readLines_add (f : Format) (k : Nat) : ∀ (n : Nat) (lines : List Bytes),
    readLines f (n + k) lines = (readLines f n lines).mapError fun e => ⟨e.line + k, e.fault⟩
  | _, [] => rfl
  | n, line :: lines => by
    rw [readLines, readLines]
    split
    · rfl
    cases readRow f line with
    | error fault => rfl
    | ok row =>
      simp only [Nat.add_right_comm n k 1, readLines_add f k (n + 1) lines]
      cases readLines f (n + 1) lines <;> rfl

/-! ## Payloads -/

/-- **Reading respects concatenation.** Behind a payload that is empty or ends with a line feed, and that no line ends as
the end of a `copy` stream, another one is read as if it stood alone: the first error of the two counts, with the lines of
both numbered on, and otherwise the rows of the first are followed by those of the second. A line feed may be added to a
payload without one at its end. -/
theorem readPayload_append (f : Format) :
    (∀ a b : Bytes, a = [] ∨ a.getLast? = some Bytes.lineFeed → (f = .copy → endMarker ∉ Bytes.lines a) →
      readPayload f (a ++ b) =
        match readPayload f a, readPayload f b with
        | .error e, _ => .error e
        | .ok rows, .ok rows' => .ok (rows ++ rows')
        | .ok _, .error e => .error ⟨e.line + (Bytes.lines a).length, e.fault⟩) ∧
      ∀ payload : Bytes, payload ≠ [] → payload.getLast? ≠ some Bytes.lineFeed →
        readPayload f (payload ++ [Bytes.lineFeed]) = readPayload f payload := by
  refine ⟨fun a b ha hmarker => ?_, fun payload hne hopen => ?_⟩
  · unfold readPayload
    rw [lines_append ha]
    cases hrows : readLines f 1 (Bytes.lines a) with
    | error e => exact readLines_append_of_error _ hrows
    | ok rows =>
      rw [readLines_append hmarker hrows, readLines_add]
      cases readLines f 1 (Bytes.lines b) <;> rfl
  · unfold readPayload
    rw [lines_concat_of_open hne hopen]

/-- The first line of the second payload is the third one behind a payload with a blank line. -/
theorem readPayload_append_blankLine :
    let a : Bytes := [0x31, 0x0A, 0x0A]
    let b : Bytes := [0x5C]
    a.getLast? = some Bytes.lineFeed ∧ endMarker ∉ Bytes.lines a ∧
      readPayload .copy a = .ok [[some [0x31]], [some []]] ∧ readPayload .copy b = .error ⟨1, .loneEscape⟩ ∧
      readPayload .copy (a ++ b) = .error ⟨3, .loneEscape⟩ ∧
      readPayload .copy (b ++ [Bytes.lineFeed]) = readPayload .copy b := by
  intro a b
  have hlast : a.getLast? = some Bytes.lineFeed := by decide
  have hmarker : endMarker ∉ Bytes.lines a := by decide
  have ha : readPayload .copy a = .ok [[some [0x31]], [some []]] := by cbv
  have hb : readPayload .copy b = .error ⟨1, .loneEscape⟩ := by cbv
  refine ⟨hlast, hmarker, ha, hb, ?_, (readPayload_append .copy).2 b (by decide) (by decide)⟩
  rw [(readPayload_append .copy).1 a b (Or.inr hlast) fun _ => hmarker, ha, hb]
  rfl

end BulkLoad
