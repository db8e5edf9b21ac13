import BulkLoad.Json.Reading
import BulkLoad.Options

/-!
# Options files

Insert options as JSON: an object with any of the options by name, none of them twice and no other member, or an array
with the first few options in order. Options that are not given have their defaults.

- `Options.setByName?_of_not_mem`: no other name is taken;
- `Options.setMembers?_of_mem`: no name is taken twice.
-/

namespace BulkLoad.Options

/-- The truth value of a JSON value. -/
def flag? : Json → Option Bool
  | .bool b => some b
  | _ => none

/-- The optional number of a JSON value. -/
def size? : Json → Option (Option Nat)
  | .null => some none
  | .number n => n.asNat?.map some
  | _ => none

/-- Sets one option by its name. -/
def setByName? (o : Options) (name : String) (v : Json) : Option Options :=
  if name = "batch_size_bytes" then (size? v).map fun n => { o with batchSize := n }
  else if name = "long_transaction" then (flag? v).map fun b => { o with longTransaction := b }
  else if name = "error_on_missing_row" then (flag? v).map fun b => { o with errorOnMissingRow := b }
  else if name = "concurrent" then (flag? v).map fun b => { o with concurrent := b }
  else if name = "commit_on_close" then (flag? v).map fun b => { o with commitOnClose := b }
  else none

/-- The names of the options in the order of an array. -/
def names : List String :=
  ["batch_size_bytes", "long_transaction", "error_on_missing_row", "concurrent", "commit_on_close"]

theorem setByName?_of_not_mem {o : Options} {name : String} (h : name ∉ names) (v : Json) :
    o.setByName? name v = none := by
  simp only [names, List.mem_cons, List.not_mem_nil, or_false, not_or] at h
  obtain ⟨h1, h2, h3, h4, h5⟩ := h
  rw [setByName?, if_neg h1, if_neg h2, if_neg h3, if_neg h4, if_neg h5]

/-- Sets options by name, each at most once; `seen` are set already. -/
def setMembers? (o : Options) (seen : List String) : List (String × Json) → Option Options
  | [] => some o
  | (name, v) :: rest =>
    if name ∈ seen then none
    else match o.setByName? name v with
      | none => none
      | some o => setMembers? o (name :: seen) rest

theorem setMembers?_of_mem {o : Options} {seen : List String} {name : String} (h : name ∈ seen) (v : Json)
    (rest : List (String × Json)) : setMembers? o seen ((name, v) :: rest) = none := by
  rw [setMembers?, if_pos h]

/-- The options of a JSON value. -/
def ofJson? : Json → Option Options
  | .object members => setMembers? {} [] members
  | .array items => if items.length ≤ names.length then setMembers? {} [] (names.zip items) else none
  | _ => none

/-- Reads options from a JSON text. -/
def parse? (cs : List Char) : Option Options := (Json.readAll? cs).bind ofJson?


end BulkLoad.Options
