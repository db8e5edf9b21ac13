import BulkLoad.Proofs.Batch.Buffer
import BulkLoad.Proofs.Payload.RoundTrip
import Mathlib.Data.List.DropRight

/-!
# Histories of a buffer

A history is what the calls of a buffer answer, in order, with what the buffer reports about itself after each. A call
does one of three things (`Buffer.perform_cases`): it adds a record, it refuses one and leaves the buffer as it was, or
it gives the batch under construction away.

A buffer follows its history (`Buffer.Follows`): its number counts the batches that were given away, and it carries the
records that were added since. So the events before a call tell what it answers (`Buffer.Told`): a record is refused when
one of its columns fails, and is added with its line otherwise. **Calls that are refused leave no trace**
(`Buffer.history_kept`): without them the same batches are given away, the same is reported, and the same buffer is left
behind.
-/

namespace BulkLoad

open List

variable {ρ : Type}

/-! ## The first column that fails -/

/-- The column is the first one that fails for the record, for this cause. -/
def FirstFault (f : Format) (s : Schema ρ) (record : ρ) (column : String) (cause : FieldError) : Prop :=
  ∃ before c after, s.columns = before ++ c :: after ∧ c.name = column ∧ columnField f record c = .error cause ∧
    ∀ c' ∈ before, ∃ field, columnField f record c' = .ok field

theorem exists_fault_of_fields {f : Format} {record : ρ} {column : String} {cause : FieldError} :
    ∀ {cs : List (Column ρ)}, fields f record cs = .error (column, cause) →
      ∃ before c after, cs = before ++ c :: after ∧ c.name = column ∧ columnField f record c = .error cause ∧
        ∀ c' ∈ before, ∃ field, columnField f record c' = .ok field
  | c :: cs, h => by
    rw [fields] at h
    cases hc : columnField f record c with
    | error e =>
      rw [hc] at h
      cases h
      exact ⟨[], c, cs, rfl, rfl, hc, forall_mem_nil _⟩
    | ok field =>
      rw [hc] at h
      cases hcs : fields f record cs with
      | ok fs => rw [hcs] at h; cases h
      | error e =>
        rw [hcs] at h
        cases h
        obtain ⟨before, c', after, rfl, hname, hfault, hbefore⟩ := exists_fault_of_fields hcs
        exact ⟨c :: before, c', after, rfl, hname, hfault, forall_mem_cons.mpr ⟨⟨field, hc⟩, hbefore⟩⟩

/-- A line that cannot be written names the first column that fails. -/
theorem firstFault_of_encodeLine {f : Format} {s : Schema ρ} {record : ρ} {column : String} {cause : FieldError}
    (h : encodeLine f s record = .error (column, cause)) : FirstFault f s record column cause := by
  unfold encodeLine at h
  cases hf : fields f record s.columns with
  | ok fs => rw [hf] at h; cases h
  | error e =>
    rw [hf] at h
    cases h
    exact exists_fault_of_fields hf

theorem exists_field_of_fields {f : Format} {record : ρ} : ∀ {cs : List (Column ρ)} {fs : List Bytes},
    fields f record cs = .ok fs → ∀ c ∈ cs, ∃ field, columnField f record c = .ok field
  | [], _, _ => forall_mem_nil _
  | c :: cs, fs, h => by
    rw [fields] at h
    cases hc : columnField f record c with
    | error e => rw [hc] at h; cases h
    | ok field =>
      cases hcs : fields f record cs with
      | error e => rw [hc, hcs] at h; cases h
      | ok fs' => exact forall_mem_cons.mpr ⟨⟨field, hc⟩, exists_field_of_fields hcs⟩

/-- **A record has a line exactly when none of its columns fails.** -/
theorem exists_encodeLine_iff {f : Format} {s : Schema ρ} {record : ρ} :
    (∃ line, encodeLine f s record = .ok line) ↔
      ∀ c ∈ s.columns, ∃ field, columnField f record c = .ok field := by
  refine ⟨?_, fun hall => ?_⟩
  · rintro ⟨line, h⟩
    unfold encodeLine at h
    cases hf : fields f record s.columns with
    | error e => rw [hf] at h; cases h
    | ok fs => exact exists_field_of_fields hf
  · cases hline : encodeLine f s record with
    | ok line => exact ⟨line, rfl⟩
    | error e =>
      obtain ⟨before, c, after, hcolumns, _, hfault, _⟩ := firstFault_of_encodeLine hline
      obtain ⟨field, hfield⟩ := hall c (by rw [hcolumns]; simp)
      rw [hfault] at hfield
      cases hfield

/-! ## Line feeds -/

theorem count_lineFeed_encodeLine {f : Format} {s : Schema ρ} {record : ρ} {line : Bytes}
    (h : encodeLine f s record = .ok line) : line.count Bytes.lineFeed = 1 := by
  obtain ⟨body, rfl, hbody, _⟩ := readRow_of_encodeLine h
  rw [count_append, count_eq_zero_of_not_mem hbody]
  rfl

/-- A batch has a line feed for each of its records. -/
theorem count_lineFeed_carries {f : Format} {s : Schema ρ} {rs : List ρ} {b : Batch} (h : b.Carries f s rs) :
    b.bytes.count Bytes.lineFeed = b.records := by
  obtain ⟨hrecords, lines, hlines, hbytes⟩ := h
  rw [hrecords, hbytes]
  clear hrecords hbytes
  induction hlines with
  | nil => rfl
  | cons hline _ ih => rw [flatten_cons, count_append, count_lineFeed_encodeLine hline, ih, length_cons, Nat.add_comm]

namespace Buffer

/-! ## Calls -/

/-- A call of a buffer. -/
inductive Call (ρ : Type)
  | add (record : ρ)
  | take
deriving DecidableEq

/-- What a call answers. -/
inductive Answer
  | added
  | refused (e : SerializationError)
  | given (batch : Batch)
deriving DecidableEq

/-- A call and its answer, and what the buffer then reports: its size, its number of records and the number of the batch
under construction. -/
structure Event (ρ : Type) where
  call : Call ρ
  answer : Answer
  size : Nat
  records : Nat
  seq : Nat

/-- Makes a call. -/
def answer (b : Buffer ρ) : Call ρ → Answer × Buffer ρ
  | .add record =>
    match b.add record with
    | (.ok (), b') => (.added, b')
    | (.error e, b') => (.refused e, b')
  | .take => (.given b.take.1, b.take.2)

/-- Makes a call and asks the buffer about itself. -/
def perform (b : Buffer ρ) (c : Call ρ) : Event ρ × Buffer ρ :=
  let (answer, b') := b.answer c
  (⟨c, answer, b'.size, b'.records, b'.seq⟩, b')

/-- The history of calls. -/
def history (b : Buffer ρ) : List (Call ρ) → List (Event ρ)
  | [] => []
  | c :: cs => (b.perform c).1 :: (b.perform c).2.history cs

/-- The buffer that calls leave behind. -/
def after (b : Buffer ρ) : List (Call ρ) → Buffer ρ
  | [] => b
  | c :: cs => (b.perform c).2.after cs

/-- Was the record of the call refused? -/
def Event.isRefused (x : Event ρ) : Bool := x.answer matches .refused _

/-- Was a batch given away? -/
def Event.isGiven (x : Event ρ) : Bool := x.answer matches .given _

/-- The record that was added. -/
def Event.added? (x : Event ρ) : Option ρ :=
  match x.call, x.answer with
  | .add record, .added => some record
  | _, _ => none

/-- The number of batches that were given away. -/
def given (h : List (Event ρ)) : Nat := h.countP Event.isGiven

/-- The records that were added since a batch was given away. -/
def held (h : List (Event ρ)) : List ρ := (h.rtakeWhile fun x => !x.isGiven).filterMap Event.added?

theorem given_concat (h : List (Event ρ)) (x : Event ρ) : given (h ++ [x]) = given h + if x.isGiven then 1 else 0 := by
  rw [given, countP_append, countP_singleton]
  rfl

theorem held_of_given (h : List (Event ρ)) {x : Event ρ} (hx : x.isGiven = true) : held (h ++ [x]) = [] := by
  rw [held, rtakeWhile_concat_neg _ _ _ (by simp [hx])]
  rfl

theorem held_of_not_given (h : List (Event ρ)) {x : Event ρ} (hx : x.isGiven = false) :
    held (h ++ [x]) = held h ++ x.added?.toList := by
  rw [held, rtakeWhile_concat_pos _ _ _ (by simp [hx]), filterMap_append]
  cases hadded : x.added? <;> simp [held, hadded]

/-- What a call does: it adds a record, refuses one, or gives the batch under construction away. -/
theorem perform_cases (b : Buffer ρ) (c : Call ρ) :
    (∃ record line b', c = .add record ∧ encodeLine b.format b.schema record = .ok line ∧
      b' = { b with records := b.records + 1, bytes := b.bytes ++ line.toArray } ∧
      b.perform c = (⟨c, .added, b'.size, b'.records, b'.seq⟩, b')) ∨
    (∃ record column cause, c = .add record ∧ encodeLine b.format b.schema record = .error (column, cause) ∧
      b.perform c = (⟨c, .refused ⟨b.seq, b.records, column, cause⟩, b.size, b.records, b.seq⟩, b)) ∨
    (c = .take ∧ b.perform c = (⟨c, .given b.take.1, 0, 0, b.seq + 1⟩, b.take.2)) := by
  cases c with
  | take => exact Or.inr (Or.inr ⟨rfl, rfl⟩)
  | add record =>
    cases hline : encodeLine b.format b.schema record with
    | ok line =>
      refine Or.inl ⟨record, line, _, rfl, hline, rfl, ?_⟩
      simp only [perform, answer, add_of_ok hline]
    | error e =>
      refine Or.inr (Or.inl ⟨record, e.1, e.2, rfl, hline, ?_⟩)
      simp only [perform, answer, add_of_error hline]

/-- A record none of whose columns fails is added. -/
theorem answer_add_of_fields {b : Buffer ρ} {record : ρ}
    (h : ∀ c ∈ b.schema.columns, ∃ field, columnField b.format record c = .ok field) :
    (b.perform (.add record)).1.answer = .added := by
  obtain ⟨line, hline⟩ := exists_encodeLine_iff.mpr h
  simp only [perform, answer, add_of_ok hline]

/-- A record with a column that fails is refused for the first one. -/
theorem answer_add_of_fault {b : Buffer ρ} {record : ρ} {c : Column ρ} {cause : FieldError} (hc : c ∈ b.schema.columns)
    (hfault : columnField b.format record c = .error cause) :
    ∃ column cause, FirstFault b.format b.schema record column cause ∧
      (b.perform (.add record)).1.answer = .refused ⟨b.seq, b.records, column, cause⟩ := by
  cases hline : encodeLine b.format b.schema record with
  | ok line =>
    obtain ⟨field, hfield⟩ := exists_encodeLine_iff.mp ⟨line, hline⟩ c hc
    rw [hfault] at hfield
    cases hfield
  | error e =>
    refine ⟨e.1, e.2, firstFault_of_encodeLine hline, ?_⟩
    simp only [perform, answer, add_of_error hline]

theorem call_perform (b : Buffer ρ) (c : Call ρ) : (b.perform c).1.call = c := rfl

/-- A history has an event for each call. -/
theorem map_call_history : ∀ (b : Buffer ρ) (calls : List (Call ρ)), (b.history calls).map Event.call = calls
  | _, [] => rfl
  | b, c :: cs => congrArg (c :: ·) (map_call_history (b.perform c).2 cs)

/-! ## Refused calls -/

/-- A call that is refused leaves the buffer as it was. -/
theorem perform_refused {b : Buffer ρ} {c : Call ρ} (h : (b.perform c).1.isRefused = true) : (b.perform c).2 = b := by
  rcases perform_cases b c with ⟨_, _, _, _, _, _, hc⟩ | ⟨_, _, _, _, _, hc⟩ | ⟨_, hc⟩
  · rw [hc] at h; cases h
  · rw [hc]
  · rw [hc] at h; cases h

/-- **Without the calls that are refused the history is that of the others, and the buffer the same.** -/
theorem history_kept : ∀ (b : Buffer ρ) (calls : List (Call ρ)),
    b.history (((b.history calls).filter fun x => !x.isRefused).map Event.call) =
      (b.history calls).filter (fun x => !x.isRefused) ∧
    b.after (((b.history calls).filter fun x => !x.isRefused).map Event.call) = b.after calls
  | b, [] => ⟨rfl, rfl⟩
  | b, c :: cs => by
    have ih := history_kept (b.perform c).2 cs
    rw [history, after]
    by_cases hrefused : (b.perform c).1.isRefused = true
    · rw [filter_cons_of_neg (by simp [hrefused])]
      rw [perform_refused hrefused] at ih ⊢
      exact ih
    · rw [filter_cons_of_pos (by simpa using hrefused), map_cons, call_perform, history, after, ih.1, ih.2]
      exact ⟨rfl, rfl⟩

/-! ## A buffer follows its history -/

/-- The buffer is the one that the history leads to: its number counts the batches that were given away, and the batch
under construction carries the records that were added since. -/
structure Follows (f : Format) (s : Schema ρ) (h : List (Event ρ)) (b : Buffer ρ) : Prop where
  schema : b.schema = s
  format : b.format = f
  seq : b.seq = 1 + given h
  carries : b.take.1.Carries f s (held h)

theorem follows_start (f : Format) (s : Schema ρ) : Follows f s [] { schema := s, format := f } :=
  ⟨rfl, rfl, rfl, rfl, [], Forall₂.nil, rfl⟩

/-- A further call. -/
theorem Follows.perform {f : Format} {s : Schema ρ} {h : List (Event ρ)} {b : Buffer ρ} (hb : Follows f s h b)
    (c : Call ρ) : Follows f s (h ++ [(b.perform c).1]) (b.perform c).2 := by
  obtain ⟨rfl, rfl, hseq, hrecords, lines, hlines, hbytes⟩ := hb
  rcases perform_cases b c with ⟨record, line, b', rfl, hline, rfl, hc⟩ | ⟨record, column, cause, rfl, _, hc⟩ | ⟨rfl, hc⟩
  · rw [hc]
    refine ⟨rfl, rfl, ?_, ?_⟩
    · rw [given_concat]
      exact hseq
    · rw [held_of_not_given h rfl]
      refine ⟨?_, lines ++ [line], rel_append hlines (Forall₂.cons hline Forall₂.nil), ?_⟩
      · rw [length_append]
        exact congrArg (· + 1) hrecords
      · have hbytes' : b.bytes.toList = lines.flatten := hbytes
        simp [take, hbytes']
  · rw [hc]
    refine ⟨rfl, rfl, ?_, ?_⟩
    · rw [given_concat]
      exact hseq
    · rw [held_of_not_given h rfl]
      simp only [Event.added?, Option.toList_none, append_nil]
      exact ⟨hrecords, lines, hlines, hbytes⟩
  · rw [hc]
    refine ⟨rfl, rfl, ?_, ?_⟩
    · rw [given_concat]
      exact congrArg (· + 1) hseq
    · rw [held_of_given h rfl]
      exact ⟨rfl, [], Forall₂.nil, rfl⟩

theorem history_append (b : Buffer ρ) : ∀ cs cs' : List (Call ρ),
    b.history (cs ++ cs') = b.history cs ++ (b.after cs).history cs'
  | [], _ => rfl
  | c :: cs, cs' => congrArg (_ :: ·) (history_append (b.perform c).2 cs cs')

theorem after_append (b : Buffer ρ) : ∀ cs cs' : List (Call ρ), b.after (cs ++ cs') = (b.after cs).after cs'
  | [], _ => rfl
  | c :: cs, cs' => after_append (b.perform c).2 cs cs'

/-- A buffer follows every history. -/
theorem follows_history (f : Format) (s : Schema ρ) (calls : List (Call ρ)) :
    Follows f s (history { schema := s, format := f } calls) (after { schema := s, format := f } calls) := by
  induction calls using List.reverseRecOn with
  | nil => exact follows_start f s
  | append_singleton cs c ih =>
    rw [history_append, after_append]
    exact ih.perform c

/-- An event of a history is what a call answers behind the calls of the events before it. -/
theorem exists_calls_of_history :
    ∀ {b : Buffer ρ} {calls : List (Call ρ)} {earlier later : List (Event ρ)} {x : Event ρ},
    b.history calls = earlier ++ x :: later →
    ∃ before c, b.history before = earlier ∧ x = ((b.after before).perform c).1
  | b, [], earlier, _, _, h => by
    rw [history] at h
    exact absurd h.symm (by simp)
  | b, c :: cs, [], _, _, h => by
    cases h
    exact ⟨[], c, rfl, rfl⟩
  | b, c :: cs, y :: earlier, later, x, h => by
    rw [history, cons_append, cons.injEq] at h
    obtain ⟨before, c', hbefore, hx⟩ := exists_calls_of_history h.2
    exact ⟨c :: before, c', by rw [history, hbefore, h.1], hx⟩

/-- What a call of a history answers and what the buffer reports behind it, told by the events before it. -/
structure Told (f : Format) (s : Schema ρ) (earlier : List (Event ρ)) (x : Event ρ) : Prop where
  /-- A record with a column that fails is refused. The refusal names the batch under construction, the number of records
  added to it so far, and the first column that fails. -/
  refuses : ∀ record, x.call = .add record → (∃ c ∈ s.columns, ∃ cause, columnField f record c = .error cause) →
    ∃ column cause, FirstFault f s record column cause ∧
      x.answer = .refused ⟨1 + given earlier, (held earlier).length, column, cause⟩
  /-- Any other record is added. -/
  adds : ∀ record, x.call = .add record → (∀ c ∈ s.columns, ∃ field, columnField f record c = .ok field) →
    x.answer = .added
  /-- A batch that is given away consists of the lines of the records added since the one before it. -/
  gives : x.call = .take →
    ∃ batch, x.answer = .given batch ∧ batch.seq = 1 + given earlier ∧ batch.Carries f s (held earlier)
  /-- The number that is reported is that of the batch under construction. -/
  numbered : x.seq = 1 + given (earlier ++ [x])
  /-- The records that are reported are those added to it. -/
  counted : x.records = (held (earlier ++ [x])).length
  /-- The size that is reported is that of their lines. -/
  sized : ∃ lines, Lines f s (held (earlier ++ [x])) lines ∧ x.size = lines.flatten.length

theorem Follows.told {f : Format} {s : Schema ρ} {h : List (Event ρ)} {b : Buffer ρ} (hb : Follows f s h b)
    (c : Call ρ) : Told f s h (b.perform c).1 := by
  obtain ⟨_, _, hnumber, hcount, lines, hlines, hbytes⟩ := hb.perform c
  obtain ⟨rfl, rfl, hseq, hcarries⟩ := hb
  refine ⟨?_, ?_, ?_, hnumber, hcount, lines, hlines, ?_⟩
  · rintro record hcall ⟨column, hcolumn, cause, hfault⟩
    cases hcall
    obtain ⟨name, cause', hfirst, hanswer⟩ := answer_add_of_fault hcolumn hfault
    refine ⟨name, cause', hfirst, ?_⟩
    rw [hanswer, hseq]
    exact congrArg (fun n => Answer.refused ⟨_, n, name, cause'⟩) hcarries.1
  · rintro record hcall hall
    cases hcall
    exact answer_add_of_fields hall
  · rintro hcall
    cases hcall
    exact ⟨_, rfl, hseq, hcarries⟩
  · rw [← hbytes]
    exact Array.length_toList.symm

/-- The events of a history are told by those before them. -/
theorem told_of_history {f : Format} {s : Schema ρ} {calls : List (Call ρ)} {earlier later : List (Event ρ)}
    {x : Event ρ} (h : history { schema := s, format := f } calls = earlier ++ x :: later) : Told f s earlier x := by
  obtain ⟨before, c, rfl, rfl⟩ := exists_calls_of_history h
  exact (follows_history f s before).told c

/-- Only a call for a batch is answered with one. -/
theorem Told.call_of_given {f : Format} {s : Schema ρ} {earlier : List (Event ρ)} {x : Event ρ} (h : Told f s earlier x)
    {batch : Batch} (hgiven : x.answer = .given batch) : x.call = .take := by
  cases hcall : x.call with
  | take => rfl
  | add record =>
    by_cases hall : ∀ c ∈ s.columns, ∃ field, columnField f record c = .ok field
    · rw [h.adds record hcall hall] at hgiven
      cases hgiven
    · obtain ⟨c, hc, hnone⟩ : ∃ c ∈ s.columns, ¬ ∃ field, columnField f record c = .ok field := by
        simpa only [not_forall, exists_prop] using hall
      cases hfield : columnField f record c with
      | ok field => exact absurd ⟨field, hfield⟩ hnone
      | error cause =>
        obtain ⟨_, _, _, hrefused⟩ := h.refuses record hcall ⟨c, hc, cause, hfield⟩
        rw [hrefused] at hgiven
        cases hgiven

/-- **Refused records leave no trace.** Without the calls that are refused, the others answer the same, the buffer
reports the same after each of them, and the buffer left behind is the same. Every batch that is given away, and the one
under construction, has a line feed for each of its records. A record is refused when one of its columns fails, and added
with its line otherwise. A refusal names the batch under construction, the number of records added to it so far, and the
first column that fails. -/
theorem refused_leaves_no_trace (s : Schema ρ) (f : Format) (calls : List (Call ρ)) :
    let start : Buffer ρ := { schema := s, format := f }
    let kept := (start.history calls).filter fun x => !x.isRefused
    (start.history (kept.map Event.call) = kept ∧ start.after (kept.map Event.call) = start.after calls) ∧
    (∀ batch, (∃ x ∈ start.history calls, x.answer = .given batch) ∨ batch = (start.after calls).take.1 →
      batch.bytes.count Bytes.lineFeed = batch.records) ∧
    (∀ earlier x later, start.history calls = earlier ++ x :: later → Told f s earlier x) ∧
    (start.history calls).map Event.call = calls ∧
    (start.after calls).take.1.Carries f s (held (start.history calls)) := by
  intro start kept
  have hfollows := follows_history f s calls
  refine ⟨history_kept start calls, ?_, fun _ _ _ => told_of_history, map_call_history start calls, hfollows.carries⟩
  rintro batch (⟨x, hx, hgiven⟩ | rfl)
  · obtain ⟨earlier, later, hsplit⟩ := append_of_mem hx
    have htold := told_of_history hsplit
    obtain ⟨batch', hgiven', _, hcarries⟩ := htold.gives (htold.call_of_given hgiven)
    rw [hgiven] at hgiven'
    cases hgiven'
    exact count_lineFeed_carries hcarries
  · exact count_lineFeed_carries hfollows.carries

/-! ## Refusals in the second column -/

/-- A schema with a tag, which some records do not have. -/
def tagSchema : Schema (Int64 × Option String) where
  table := "tags"
  columns := [⟨"id", fun r => .ok (.int r.1)⟩,
    ⟨"tag", fun r => r.2.elim (.error (.rejected "no tag")) fun tag => .ok (.text tag)⟩]
  faultless := by decide +kernel

/-- The tag of the second record is written up to its NUL byte, and the third record has no tag. Both are refused behind
the first one, and the batch that is given away has nothing of them. -/
theorem refused_leaves_no_trace_tags :
    let start : Buffer (Int64 × Option String) := { schema := tagSchema, format := .copy }
    let first : Call (Int64 × Option String) := .add (10, some "a")
    let last : Call (Int64 × Option String) := .add (13, some "d")
    let calls := [first, .add (11, some "b\x00c"), .add (12, none), last, .take]
    let batch : Batch := ⟨1, 2, Bytes.ofString "10\ta\n13\td\n"⟩
    (start.history calls).map Event.answer =
        [.added, .refused ⟨1, 1, "tag", .nulByte⟩, .refused ⟨1, 1, "tag", .rejected "no tag"⟩, .added, .given batch] ∧
      (start.history [first, last, .take]).map Event.answer = [.added, .added, .given batch] ∧
      start.after [first, last, .take] = start.after calls ∧
      batch.bytes.count Bytes.lineFeed = batch.records := by
  intro start first last calls batch
  obtain ⟨⟨hkept, hafter⟩, hcount, _⟩ := refused_leaves_no_trace tagSchema .copy calls
  have hanswers : (start.history calls).map Event.answer =
      [.added, .refused ⟨1, 1, "tag", .nulByte⟩, .refused ⟨1, 1, "tag", .rejected "no tag"⟩, .added, .given batch] := by
    decide +kernel
  have hothers : ((start.history calls).filter fun x => !x.isRefused).map Event.call = [first, last, .take] := by
    decide +kernel
  rw [hothers] at hkept hafter
  obtain ⟨x, hx, hgiven⟩ : ∃ x ∈ start.history calls, x.answer = .given batch := by
    rw [← mem_map, hanswers]
    decide +kernel
  refine ⟨hanswers, ?_, hafter, hcount batch (Or.inl ⟨x, hx, hgiven⟩)⟩
  rw [hkept]
  decide +kernel

end Buffer

end BulkLoad
