import BulkLoad.Buffer
import BulkLoad.Proofs.Payload.Literal

/-!
# What writing into a buffer leaves there

A program that writes into a buffer leaves what was there before alone. It gives a result (`Puts`) when it writes the
bytes of the result behind that, or else fails for the same reason, with a part written that depends on where it failed.
Programs run one after the other give their results one behind the other (`Puts.bind`), so the programs that write
fields and lines give the fields and lines as they are specified (`puts_field`, `puts_line`).

Cutting the buffer back removes the part. **A record is added whole or not at all** (`Buffer.add_of_ok`,
`Buffer.add_of_error`), which is what makes the buffer a builder (`Buffer.add_toBuffer`, `Buffer.take_toBuffer`).
-/

namespace BulkLoad

variable {ε : Type}

/-! ## Programs that write -/

/-- The program writes the bytes of the result behind those of the buffer, or a part of them and fails with its
error. -/
def Puts (program : Put ε Unit) (result : Except ε Bytes) : Prop :=
  ∀ buffer, ∃ part : Bytes, program.run.run buffer = (result.map fun _ => (), buffer ++ part.toArray) ∧
    ∀ bytes, result = .ok bytes → part = bytes

theorem puts_put (bytes : Bytes) : Puts (put bytes : Put ε Unit) (.ok bytes) := fun _ =>
  ⟨bytes, rfl, fun _ h => Except.ok.inj h⟩

theorem puts_pure : Puts (pure () : Put ε Unit) (.ok []) := fun buffer =>
  ⟨[], by rw [Array.append_empty]; rfl, fun _ h => Except.ok.inj h⟩

theorem puts_throw (e : ε) : Puts (throw e : Put ε Unit) (.error e) := fun buffer =>
  ⟨[], by rw [Array.append_empty]; rfl, nofun⟩

theorem puts_literal : ∀ result : Except ε Bytes, Puts (putLiteral result) result
  | .ok bytes => puts_put bytes
  | .error e => puts_throw e

/-- A program is over when a part of it fails. -/
theorem run_bind (first : Put ε Unit) (second : Unit → Put ε Unit) (buffer : Array UInt8) :
    (first >>= second).run.run buffer =
      match first.run.run buffer with
      | (.ok (), buffer) => (second ()).run.run buffer
      | (.error e, buffer) => (.error e, buffer) := by
  rw [ExceptT.run_bind, StateT.run_bind]
  rcases first.run.run buffer with ⟨_ | ⟨⟩, buffer⟩ <;> rfl

/-- Programs that run one after the other give their results one behind the other. -/
theorem Puts.bind {first : Put ε Unit} {second : Unit → Put ε Unit} {a b : Except ε Bytes} (hfirst : Puts first a)
    (hsecond : ∀ u, Puts (second u) b) : Puts (first >>= second) (a.bind fun x => b.map (x ++ ·)) := by
  intro buffer
  obtain ⟨part, hrun, hpart⟩ := hfirst buffer
  rw [run_bind, hrun]
  cases a with
  | error e => exact ⟨part, rfl, nofun⟩
  | ok x =>
    obtain ⟨rest, hrest, hmore⟩ := hsecond () (buffer ++ part.toArray)
    refine ⟨part ++ rest, ?_, ?_⟩
    · refine hrest.trans ?_
      rw [Array.append_assoc, List.append_toArray part rest]
      cases b <;> rfl
    · cases b with
      | error e => exact nofun
      | ok y =>
        intro bytes h
        cases h
        rw [hpart x rfl, hmore y rfl]

/-- A program whose error is told in other words. -/
theorem Puts.adapt {δ : Type} {program : Put ε Unit} {result : Except ε Bytes} (g : ε → δ) (h : Puts program result) :
    Puts (ExceptT.adapt g program) (result.mapError g) := by
  intro buffer
  obtain ⟨part, hrun, hpart⟩ := h buffer
  refine ⟨part, ?_, ?_⟩
  · have hadapt : (ExceptT.adapt g program).run.run buffer =
        ((program.run.run buffer).1.mapError g, (program.run.run buffer).2) := rfl
    rw [hadapt, hrun]
    cases result <;> rfl
  · cases result with
    | error e => exact nofun
    | ok x =>
      intro bytes h
      cases h
      exact hpart x rfl

/-! ## Fields -/

theorem puts_escaped (f : Format) : ∀ bs : Bytes, Puts (putEscaped f bs) (escape f bs)
  | [] => puts_pure
  | b :: bs => by
    have h := (puts_literal (escapeByte f b)).bind fun _ => puts_escaped f bs
    have hescape : escape f (b :: bs) = (escapeByte f b).bind fun x => (escape f bs).map (x ++ ·) := by
      rw [escape]
      cases escapeByte f b with
      | error e => rfl
      | ok x => cases escape f bs <;> rfl
    rw [hescape]
    exact h

theorem puts_hex : ∀ bs : Bytes, Puts (putHex bs) (.ok (Bytes.ofChars (bs.flatMap hexPair)))
  | [] => puts_pure
  | b :: bs => by
    have h := (puts_put (ε := FieldError) (Bytes.ofChars (hexPair b))).bind fun _ => puts_hex bs
    rw [List.flatMap_cons, Bytes.ofChars_append]
    exact h

theorem puts_bytes (f : Format) (bs : Bytes) : Puts (putBytes f bs) (bytesLiteral f bs) := by
  cases f with
  | loadData => exact puts_escaped .loadData bs
  | copy =>
    have h := (puts_put (ε := FieldError) (Bytes.ofChars ['\\', '\\', 'x'])).bind fun _ => puts_hex bs
    have hliteral : bytesLiteral .copy bs =
        .ok (Bytes.ofChars ['\\', '\\', 'x'] ++ Bytes.ofChars (bs.flatMap hexPair)) := by
      rw [← Bytes.ofChars_append]
      rfl
    rw [hliteral]
    exact h

theorem puts_zoned (f : Format) (t : Moment) : Puts (putZoned f t) (.ok (Bytes.ofChars (zonedLiteral f t))) := by
  cases f with
  | loadData =>
    have h := (puts_put (ε := FieldError) (Bytes.ofChars t.text)).bind fun _ => puts_pure
    have hliteral : Bytes.ofChars (zonedLiteral .loadData t) = Bytes.ofChars t.text ++ [] := (List.append_nil _).symm
    rw [hliteral]
    exact h
  | copy =>
    have h := (puts_put (ε := FieldError) (Bytes.ofChars t.text)).bind
      fun _ => puts_put (Bytes.ofChars ['+', '0', '0'])
    rw [zonedLiteral, Bytes.ofChars_append]
    exact h

/-- The program for a field gives the field that the value becomes. -/
theorem puts_field (f : Format) (v : Value) : Puts (putField f v) (encodeField f v) := by
  unfold putField
  split
  · exact puts_escaped f _
  · exact puts_bytes f _
  · exact puts_zoned f _
  · exact puts_literal _

/-! ## Lines -/

section Lines

variable {ρ : Type}

theorem puts_column (f : Format) (record : ρ) (c : Column ρ) :
    Puts (putColumn f record c) (columnField f record c) := by
  unfold putColumn columnField
  cases c.extract record with
  | error e => exact puts_throw e
  | ok v => exact puts_field f v

/-- The separator before a field. -/
def separator (first : Bool) : Bytes := if first then [] else [Bytes.tab]

/-- Fields with a tab before each, but not before the first one of a line. -/
def separated : (first : Bool) → List Bytes → Bytes
  | true, fs => joinFields fs
  | false, fs => fs.flatMap (Bytes.tab :: ·)

theorem joinFields_cons (b : Bytes) : ∀ bs : List Bytes, joinFields (b :: bs) = b ++ separated false bs
  | [] => (List.append_nil b).symm
  | c :: cs => by
    rw [joinFields, joinFields_cons c cs]
    · rfl
    · exact nofun

theorem separated_cons (first : Bool) (b : Bytes) (bs : List Bytes) :
    separated first (b :: bs) = separator first ++ (b ++ separated false bs) := by
  cases first with
  | true => exact joinFields_cons b bs
  | false => rfl

theorem separated_fields (f : Format) (record : ρ) (first : Bool) (c : Column ρ) (cs : List (Column ρ)) :
    (fields f record (c :: cs)).map (separated first) =
      (Except.ok (separator first)).bind fun t =>
        (((columnField f record c).mapError fun e => (c.name, e)).bind fun x =>
          ((fields f record cs).map (separated false)).map (x ++ ·)).map (t ++ ·) := by
  rw [fields]
  cases columnField f record c with
  | error e => rfl
  | ok b =>
    cases fields f record cs with
    | error e => rfl
    | ok bs => exact congrArg Except.ok (separated_cons first b bs)

theorem puts_separator (first : Bool) : Puts (putSeparator first : Put ε Unit) (.ok (separator first)) := by
  cases first with
  | true => exact puts_pure
  | false => exact puts_put [Bytes.tab]

theorem puts_fields (f : Format) (record : ρ) : ∀ (first : Bool) (cs : List (Column ρ)),
    Puts (putFields f record first cs) ((fields f record cs).map (separated first))
  | true, [] => puts_pure
  | false, [] => puts_pure
  | first, c :: cs => by
    have hcolumn := (puts_column f record c).adapt fun e => (c.name, e)
    have hrest := hcolumn.bind fun _ => puts_fields f record false cs
    rw [separated_fields]
    exact (puts_separator first).bind fun _ => hrest

/-- The program for a line gives the line of the record. -/
theorem puts_line (f : Format) (s : Schema ρ) (record : ρ) : Puts (putLine f s record) (encodeLine f s record) := by
  have h := (puts_fields f record true s.columns).bind
    fun _ => puts_put [Bytes.lineFeed]
  have hline : encodeLine f s record = ((fields f record s.columns).map (separated true)).bind fun x =>
      (Except.ok [Bytes.lineFeed]).map (x ++ ·) := by
    unfold encodeLine
    cases fields f record s.columns <;> rfl
  rw [hline]
  exact h

end Lines

/-! ## Records -/

namespace Buffer

variable {ρ : Type}

/-- A record whose line can be written adds that line. -/
theorem add_of_ok {b : Buffer ρ} {record : ρ} {line : Bytes} (h : encodeLine b.format b.schema record = .ok line) :
    b.add record = (.ok (), { b with records := b.records + 1, bytes := b.bytes ++ line.toArray }) := by
  obtain ⟨part, hrun, hpart⟩ := puts_line b.format b.schema record b.bytes
  rw [add, hrun, h, hpart line h]
  rfl

/-- A record whose line cannot be written leaves the buffer as it was. -/
theorem add_of_error {b : Buffer ρ} {record : ρ} {column : String} {cause : FieldError}
    (h : encodeLine b.format b.schema record = .error (column, cause)) :
    b.add record = (.error ⟨b.seq, b.records, column, cause⟩, b) := by
  obtain ⟨part, hrun, _⟩ := puts_line b.format b.schema record b.bytes
  have hcut : (b.bytes ++ part.toArray).shrink b.size = b.bytes := by
    simp [size]
  rw [add, hrun, h]
  exact congrArg (Prod.mk _) (congrArg (fun bytes => { b with bytes := bytes }) hcut)

end Buffer

/-! ## A buffer is a builder -/

namespace Builder

variable {ρ : Type}

/-- The buffer of a builder. -/
def toBuffer (b : Builder ρ) : Buffer ρ :=
  { schema := b.schema, format := b.format, seq := b.seq, records := b.records, bytes := b.batch.bytes.toArray }

/-- Adding a record to the buffer of a builder answers as adding it to the builder does. -/
theorem add_toBuffer (b : Builder ρ) (record : ρ) :
    b.toBuffer.add record =
      match b.add record with
      | .ok b' => (.ok (), b'.toBuffer)
      | .error e => (.error e, b.toBuffer) := by
  unfold Builder.add
  cases h : encodeLine b.format b.schema record with
  | error e => exact Buffer.add_of_error h
  | ok line =>
    rw [Buffer.add_of_ok h]
    change (Except.ok (), _) = (Except.ok (), (b.push line).toBuffer)
    rw [toBuffer, toBuffer, batch_push, ← List.append_toArray]
    rfl

theorem take_toBuffer (b : Builder ρ) : b.toBuffer.take = (b.batch, b.next.toBuffer) := rfl

theorem size_toBuffer (b : Builder ρ) : b.toBuffer.size = b.size := by
  rw [← size_batch]
  rfl

theorem isFilled_toBuffer (b : Builder ρ) (threshold : Nat) : b.toBuffer.isFilled threshold = b.isFilled threshold := by
  rw [Buffer.isFilled, size_toBuffer]
  rfl

theorem isEmpty_toBuffer (b : Builder ρ) : b.toBuffer.isEmpty = b.isEmpty := rfl

end Builder

end BulkLoad
