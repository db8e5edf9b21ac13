import BulkLoad.Files

/-!
# Files in memory

A working folder that is given by its files, and what a path leads to from there (`FileTree.lookup`). A path is walked
part by part: an empty part and a single dot stay where they are, two dots go to the folder around, and any other part
goes to what has this name; a part leads nowhere unless the parts before it lead to a folder. Of the world outside the
working folder only that is known which every system has: the folders around it, the root, the folders for devices and
for temporary files, and the empty device.

- `FileTree.step_of_file`: nothing is below a file;
- `FileTree.lookup_name`: the path of a file in the working folder is its name.
-/

namespace BulkLoad

/-- The files below a folder, each with the names that lead to it, and folders without a file. -/
structure FileTree where
  files : List (List (List Char) × Bytes) := []
  folders : List (List (List Char)) := []

/-- A place that a path leads to. -/
inductive Place
  /-- Below the working folder. -/
  | working (names : List (List Char))
  /-- One of the folders around the working folder. -/
  | around
  /-- Below the root. -/
  | root (names : List (List Char))

namespace Place

/-- The folder around a place; around the root there is only the root. -/
def parent : Place → Place
  | working [] => around
  | working (name :: names) => working (name :: names).dropLast
  | around => around
  | root names => root names.dropLast

/-- What has a name at a place, unless names are unknown there. -/
def child? (name : List Char) : Place → Option Place
  | working names => some (working (names ++ [name]))
  | around => none
  | root names => some (root (names ++ [name]))

end Place

namespace FileTree

/-- What the names lead to from the top. -/
def find (t : FileTree) (names : List (List Char)) : FileState :=
  match t.files.lookup names with
  | some content => .file content
  | none =>
    if names = [] ∨ (t.files.map Prod.fst ++ t.folders).any fun path => names.isPrefixOf path then .folder else .missing

/-- What every system has below its root. -/
def standard : FileTree :=
  { files := [(["dev".toList, "null".toList], [])], folders := [["tmp".toList]] }

/-- What is at a place. -/
def state (t : FileTree) : Place → FileState
  | .working names => t.find names
  | .around => .folder
  | .root names => standard.find names

/-- Follows one part of a path. -/
def step (t : FileTree) (p : Place) (part : List Char) : Option Place :=
  if t.state p = .folder then
    if part = [] ∨ part = ['.'] then some p
    else if part = ['.', '.'] then some p.parent
    else p.child? part
  else none

theorem step_of_file {t : FileTree} {p : Place} {content : Bytes} (h : t.state p = .file content) (part : List Char) :
    t.step p part = none := by
  rw [step, h, if_neg (by simp)]

/-- The number of bytes of the longest path. -/
def longestPath : Nat := 4095

/-- Where a path starts. -/
def start (path : List Char) : Place := if path.head? = some '/' then .root [] else .working []

/-- What a path leads to. -/
def lookup (t : FileTree) (path : String) : FileState :=
  if path = "" ∨ longestPath < path.utf8ByteSize then .missing
  else match (path.toList.splitOn '/').foldlM t.step (start path.toList) with
    | some p => t.state p
    | none => .missing

theorem lookup_name {t : FileTree} {name : String} (hs : '/' ∉ name.toList) (h0 : name ≠ "") (h1 : name ≠ ".")
    (h2 : name ≠ "..") (hn : name.utf8ByteSize ≤ longestPath) (ht : t.find [] = .folder) :
    t.lookup name = t.find [name.toList] := by
  have hstart : start name.toList = .working [] := by
    rw [start, if_neg]
    intro h
    exact hs (List.mem_of_mem_head? (by rw [h]; rfl))
  have ne : ∀ s : String, name ≠ s → name.toList ≠ s.toList := fun s h e => h (String.toList_inj.1 e)
  have h0' : name.toList ≠ [] := ne "" h0
  have h1' : name.toList ≠ ['.'] := ne "." h1
  have h2' : name.toList ≠ ['.', '.'] := ne ".." h2
  have hstep : t.step (.working []) name.toList = some (.working [name.toList]) := by
    simp [step, state, ht, h0', h1', h2', Place.child?]
  rw [lookup, if_neg (by simp [h0]; omega), List.splitOn_eq_singleton hs, hstart, List.foldlM_cons, hstep]
  rfl

/-- The tree of a folder, from the paths and contents of the files in it. -/
def ofFiles (files : List (String × Bytes)) : FileTree :=
  { files := files.map fun f => ((f.1.toList.splitOn '/').filter fun part => part ≠ [] ∧ part ≠ ['.'], f.2) }

end FileTree

end BulkLoad
