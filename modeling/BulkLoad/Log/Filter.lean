import BulkLoad.Log.Line
import BulkLoad.Text.Blank
import BulkLoad.Text.Cut

/-!
# Log filters

A filter is a list of directives, separated by commas: a bare level sets the level of everything, `target=level` the
level of everything whose path starts with the target. The directive with the longest target decides; parts that name
no level are ignored.

- `Filter.le_maxLevel`: no level of any path is more detailed than the greatest level of the filter.
-/

namespace BulkLoad.Log

open BulkLoad.Text

/-- A level for every path that starts with the target. -/
structure Directive where
  target : String
  level : Level
deriving DecidableEq, Repr

/-- A level for everything, and directives with the longest target first. -/
structure Filter where
  fallback : Level := .warn
  directives : List Directive := []
deriving DecidableEq, Repr

/-- The level of a name in any case, with blanks around it. The name `off` stands for no level. -/
def level? (cs : List Char) : Option Level :=
  let n := String.ofList ((trim cs).map Char.toLower)
  if n = "error" then some .error
  else if n = "warn" then some .warn
  else if n = "info" then some .info
  else if n = "debug" then some .debug
  else if n = "trace" then some .trace
  else none

namespace Filter

/-- Adds one part of a filter text, a directive at the end. -/
def add (f : Filter) (part : List Char) : Filter :=
  match cutAt? '=' part with
  | some (target, level) =>
    match level? level with
    | some l => { f with directives := f.directives ++ [⟨String.ofList (trim target), l⟩] }
    | none => f
  | none =>
    match level? part with
    | some l => { f with fallback := l }
    | none => f

/-- The parts of a filter text that are not blank. -/
def parts (cs : List Char) : List (List Char) := ((cs.splitOn ',').map trim).filter fun p => !p.isEmpty

/-- Does the first directive come before the second? The longer target does, in bytes. -/
def comesBefore (a b : Directive) : Bool := b.target.utf8ByteSize ≤ a.target.utf8ByteSize

/-- Reads a filter; of directives with equally long targets the order is kept. -/
def parse (s : String) : Filter :=
  let f := (parts s.toList).foldl add {}
  { f with directives := f.directives.mergeSort comesBefore }

/-- The level up to which lines of a path are shown. -/
def levelFor (f : Filter) (path : String) : Level :=
  match f.directives.find? fun d => d.target.toList.isPrefixOf path.toList with
  | some d => d.level
  | none => f.fallback

/-- The most detailed level that any path can have. -/
def maxLevel (f : Filter) : Level := (f.directives.map Directive.level).foldl Level.max f.fallback

/-- Is the line shown? -/
def shows (f : Filter) (line : LogLine) : Bool := line.level ≤ f.levelFor line.origin.path

theorem le_foldl_max {l : Level} : ∀ {ls : List Level} {a : Level}, l ≤ a ∨ l ∈ ls → l ≤ ls.foldl Level.max a
  | [], a, h => by simpa using h
  | b :: ls, a, h => by
    rw [List.foldl_cons]
    refine le_foldl_max ?_
    rcases h with h | h
    · exact .inl (Nat.le_trans h (Level.le_max_left a b))
    · rcases List.mem_cons.1 h with rfl | h
      · exact .inl (Level.le_max_right a l)
      · exact .inr h

theorem le_maxLevel (f : Filter) (path : String) : f.levelFor path ≤ f.maxLevel := by
  unfold levelFor maxLevel
  split
  · rename_i d hd
    exact le_foldl_max (.inr (List.mem_map.2 ⟨d, List.mem_of_find?_eq_some hd, rfl⟩))
  · exact le_foldl_max (.inl (Nat.le_refl _))

end Filter

end BulkLoad.Log
