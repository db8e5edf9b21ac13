import BulkLoad.Log.Filter
import Mathlib.Data.List.Find
import Mathlib.Data.List.Nodup

/-!
# The directive that decides

A filter text gives directives and bare levels (`directivesOf`, `bareLevelsOf`). Of the directives that cover a path, the one
with the longest target decides, and of several with this target the leftmost (`Decides`). Filters keep their directives
sorted by the lengths of the targets, so that the first one that covers a path is found first. Sorting keeps the order of
directives with one target (`filter_directives_parse`), and of two targets that begin the same path the longer one has
more bytes (`length_le_of_covers`); so the first directive found is the one that decides (`decides_of_find?`).

- `level_of_most_specific`: the level of every path under every filter text.
-/

namespace BulkLoad.Log

open List BulkLoad.Text

/-! ## The parts of a filter text -/

/-- The directive that a part of a filter text spells. -/
def directive? (part : List Char) : Option Directive :=
  match cutAt? '=' part with
  | some (target, level) => (level? level).map (⟨String.ofList (trim target), ·⟩)
  | none => none

/-- The bare level that a part of a filter text spells. -/
def bareLevel? (part : List Char) : Option Level :=
  match cutAt? '=' part with
  | some _ => none
  | none => level? part

/-- The directives of a filter text, from left to right. -/
def directivesOf (s : String) : List Directive := (Filter.parts s.toList).filterMap directive?

/-- The bare levels of a filter text, from left to right. -/
def bareLevelsOf (s : String) : List Level := (Filter.parts s.toList).filterMap bareLevel?

/-- The path starts with the target of the directive. -/
def Directive.Covers (d : Directive) (path : String) : Prop := d.target.toList <+: path.toList

instance (d : Directive) (path : String) : Decidable (d.Covers path) :=
  inferInstanceAs (Decidable (d.target.toList <+: path.toList))

/-- The directive has the longest target that the path starts with, and is the leftmost one with this target. -/
structure Decides (ds : List Directive) (path : String) (d : Directive) : Prop where
  covers : d.Covers path
  longest : ∀ d' ∈ ds, d'.Covers path → d'.target.length ≤ d.target.length
  leftmost : ds.find? (fun d' => d'.target = d.target) = some d

variable {s s' path : String} {ds ds' : List Directive} {d d' : Directive}

/-! ## Targets of one path -/

/-- What a filter looks for tells which directives cover a path. -/
theorem covers_iff : d.target.toList.isPrefixOf path.toList = true ↔ d.Covers path := isPrefixOf_iff_prefix

/-- Of two targets that begin the same path, the one with more bytes is the longer one. -/
theorem length_le_of_covers (h : d.Covers path) (h' : d'.Covers path)
    (hsize : d'.target.utf8ByteSize ≤ d.target.utf8ByteSize) : d'.target.length ≤ d.target.length := by
  rcases Nat.le_total d'.target.length d.target.length with hle | hle
  · exact hle
  -- The shorter target begins the longer one, which has no bytes beyond it.
  obtain ⟨rest, hrest⟩ := prefix_of_prefix_length_le h h' (by simpa only [String.length_toList] using hle)
  have htarget : d'.target = d.target ++ String.ofList rest := by
    rw [← String.toList_inj, String.toList_append, String.toList_ofList, hrest]
  rw [htarget, String.utf8ByteSize_append] at hsize
  have hempty : String.ofList rest = "" := String.utf8ByteSize_eq_zero_iff.mp (by omega)
  rw [htarget, hempty, String.append_empty]

/-- Targets of the same length that begin the same path are the same. -/
theorem target_eq_of_covers (h : d.Covers path) (h' : d'.Covers path)
    (hlength : d.target.length = d'.target.length) : d.target = d'.target := by
  have hlist : d.target.toList.length = d'.target.toList.length := by simpa only [String.length_toList] using hlength
  exact String.toList_inj.mp ((prefix_of_prefix_length_le h h' hlist.le).eq_of_length hlist)

theorem Decides.mem (h : Decides ds path d) : d ∈ ds := mem_of_find?_eq_some h.leftmost

/-- **At most one directive decides.** -/
theorem Decides.unique (h : Decides ds path d) (h' : Decides ds path d') : d = d' := by
  have hlength : d.target.length = d'.target.length :=
    Nat.le_antisymm (h'.longest d h.mem h.covers) (h.longest d' h'.mem h'.covers)
  have hleftmost := h.leftmost
  rw [target_eq_of_covers h.covers h'.covers hlength, h'.leftmost] at hleftmost
  exact (Option.some.inj hleftmost).symm

/-- Where no two directives have the same target, their order does not matter. -/
theorem Decides.perm (h : Decides ds path d) (hperm : ds' ~ ds) (hnodup : (ds.map Directive.target).Nodup) :
    Decides ds' path d where
  covers := h.covers
  longest d' hd' := h.longest d' (hperm.mem_iff.mp hd')
  leftmost := by
    rw [find?_eq_find?_of_perm hperm ?_, h.leftmost]
    rintro x ⟨hx, hxd⟩ y ⟨hy, hyd⟩
    have htargets : x.target = y.target := (of_decide_eq_true hxd).trans (of_decide_eq_true hyd).symm
    exact inj_on_of_nodup_map hnodup (hperm.mem_iff.mp hx) (hperm.mem_iff.mp hy) htargets

namespace Filter

/-! ## What reading a filter text gives -/

theorem add_eq (f : Filter) (part : List Char) : f.add part =
    ⟨(bareLevel? part).getD f.fallback, f.directives ++ (directive? part).toList⟩ := by
  unfold add bareLevel? directive?
  cases cutAt? '=' part with
  | none => cases level? part <;> simp
  | some cut =>
    obtain ⟨target, level⟩ := cut
    simp only
    cases level? level <;> simp

/-- Adding parts one by one collects the directives, and the last bare level counts. -/
theorem foldl_add : ∀ (parts : List (List Char)) (f : Filter), parts.foldl add f =
    ⟨(parts.filterMap bareLevel?).getLast?.getD f.fallback, f.directives ++ parts.filterMap directive?⟩
  | [], f => by simp
  | part :: parts, f => by
    rw [foldl_cons, foldl_add parts, add_eq]
    cases hlevel : bareLevel? part <;> cases hdirective : directive? part <;>
      simp [hlevel, hdirective, getLast?_cons]

theorem parse_eq (s : String) :
    parse s = ⟨(bareLevelsOf s).getLast?.getD .warn, (directivesOf s).mergeSort comesBefore⟩ := by
  simp [parse, foldl_add, bareLevelsOf, directivesOf]

theorem perm_directives_parse (s : String) : (parse s).directives ~ directivesOf s := by
  rw [parse_eq]
  exact mergeSort_perm _ _

theorem comesBefore_trans (a b c : Directive) (hab : comesBefore a b = true) (hbc : comesBefore b c = true) :
    comesBefore a c = true := by
  simp only [comesBefore, decide_eq_true_eq] at *
  omega

theorem comesBefore_total (a b : Directive) : (comesBefore a b || comesBefore b a) = true := by
  simp only [comesBefore, Bool.or_eq_true, decide_eq_true_eq]
  omega

theorem pairwise_directives_parse (s : String) :
    (parse s).directives.Pairwise fun a b => b.target.utf8ByteSize ≤ a.target.utf8ByteSize := by
  rw [parse_eq]
  exact (pairwise_mergeSort comesBefore_trans comesBefore_total _).imp fun h => of_decide_eq_true h

/-- Directives with the same target are kept in their order. -/
theorem filter_directives_parse (s target : String) :
    (parse s).directives.filter (fun d => d.target = target) = (directivesOf s).filter fun d => d.target = target := by
  have hsorted : ((directivesOf s).filter fun d => d.target = target).Pairwise fun a b => comesBefore a b = true := by
    refine pairwise_of_forall_mem_list fun a ha b hb => ?_
    have hsame : a.target = b.target :=
      (of_decide_eq_true (mem_filter.mp ha).2).trans (of_decide_eq_true (mem_filter.mp hb).2).symm
    simp [comesBefore, hsame]
  have hsublist : (directivesOf s).filter (fun d => d.target = target) <+ (parse s).directives := by
    rw [parse_eq]
    exact sublist_mergeSort comesBefore_trans comesBefore_total hsorted filter_sublist
  have hfiltered := hsublist.filter fun d => decide (d.target = target)
  rw [filter_filter] at hfiltered
  simp only [Bool.and_self] at hfiltered
  exact (hfiltered.eq_of_length ((perm_directives_parse s).filter _).length_eq.symm).symm

theorem find?_directives_parse (s target : String) :
    (parse s).directives.find? (fun d => d.target = target) = (directivesOf s).find? fun d => d.target = target := by
  rw [← head?_filter, ← head?_filter, filter_directives_parse]

/-! ## The level of a path -/

/-- **The first directive of the filter that covers a path decides.** -/
theorem decides_of_find? (h : ((parse s).directives.find? fun d => d.target.toList.isPrefixOf path.toList) = some d) :
    Decides (directivesOf s) path d := by
  obtain ⟨hcovers, before, behind, hsplit, hbefore⟩ := find?_eq_some_iff_append.mp h
  replace hcovers : d.Covers path := covers_iff.mp hcovers
  replace hbefore : ∀ x ∈ before, ¬ x.Covers path := fun x hx hxcovers => by
    have hnot := hbefore x hx
    rw [covers_iff.mpr hxcovers] at hnot
    cases hnot
  refine ⟨hcovers, ?_, ?_⟩
  · intro d' hd' hcovers'
    rw [← (perm_directives_parse s).mem_iff, hsplit] at hd'
    have hsorted := pairwise_directives_parse s
    rw [hsplit, pairwise_append, pairwise_cons] at hsorted
    rcases mem_append.mp hd' with hd' | hd'
    · exact absurd hcovers' (hbefore d' hd')
    rcases mem_cons.mp hd' with rfl | hd'
    · exact Nat.le_refl _
    · exact length_le_of_covers hcovers hcovers' (hsorted.2.1.1 d' hd')
  · rw [← find?_directives_parse, find?_eq_some_iff_append]
    refine ⟨by simp, before, behind, hsplit, fun x hx => ?_⟩
    have hne : x.target ≠ d.target := fun htarget => hbefore x hx (by rw [Directive.Covers, htarget]; exact hcovers)
    simp [hne]

/-- A directive that decides gives its level to the path. -/
theorem levelFor_of_decides (h : Decides (directivesOf s) path d) : (parse s).levelFor path = d.level := by
  unfold levelFor
  cases hfind : (parse s).directives.find? fun d => d.target.toList.isPrefixOf path.toList with
  | some x => rw [(decides_of_find? hfind).unique h]
  | none =>
    have hmem := (perm_directives_parse s).mem_iff.mpr h.mem
    exact absurd (covers_iff.mpr h.covers) (find?_eq_none.mp hfind d hmem)

/-- Some directive decides as soon as one covers the path. -/
theorem exists_decides (hd : d ∈ directivesOf s) (h : d.Covers path) : ∃ d', Decides (directivesOf s) path d' := by
  cases hfind : (parse s).directives.find? fun d => d.target.toList.isPrefixOf path.toList with
  | some x => exact ⟨x, decides_of_find? hfind⟩
  | none =>
    have hmem := (perm_directives_parse s).mem_iff.mpr hd
    exact absurd (covers_iff.mpr h) (find?_eq_none.mp hfind d hmem)

theorem levelFor_of_uncovered (h : ∀ d ∈ directivesOf s, ¬ d.Covers path) :
    (parse s).levelFor path = (bareLevelsOf s).getLast?.getD .warn := by
  have hnone : ((parse s).directives.find? fun d => d.target.toList.isPrefixOf path.toList) = none :=
    find?_eq_none.mpr fun d hd hcovers =>
      h d ((perm_directives_parse s).mem_iff.mp hd) (covers_iff.mp hcovers)
  unfold levelFor
  rw [hnone, parse_eq]

/-- Reordering directives with different targets changes no level. -/
theorem levelFor_perm (hperm : directivesOf s' ~ directivesOf s) (hnodup : ((directivesOf s).map Directive.target).Nodup)
    (hbare : (bareLevelsOf s').getLast? = (bareLevelsOf s).getLast?) : (parse s').levelFor path = (parse s).levelFor path := by
  by_cases hcovered : ∃ d ∈ directivesOf s, d.Covers path
  · obtain ⟨d, hd, hcovers⟩ := hcovered
    obtain ⟨d', hdecides⟩ := exists_decides hd hcovers
    rw [levelFor_of_decides hdecides, levelFor_of_decides (hdecides.perm hperm hnodup)]
  · have huncovered : ∀ d ∈ directivesOf s, ¬ d.Covers path := fun d hd hcovers => hcovered ⟨d, hd, hcovers⟩
    rw [levelFor_of_uncovered huncovered, levelFor_of_uncovered fun d hd => huncovered d (hperm.mem_iff.mp hd), hbare]

/-- **The most specific directive decides.** A path has the level of the one directive with the longest target that the
path starts with, the leftmost of those with this target; where no target begins the path, it has the last bare level, or
`WARN`. So the order of directives with different targets does not matter. The greatest level of the filter is never
below the level of a path, so that nothing that is enabled there is beyond it. -/
theorem level_of_most_specific (s path : String) :
    ((∃ d ∈ directivesOf s, d.Covers path) →
        ∃ d, Decides (directivesOf s) path d ∧ (∀ d', Decides (directivesOf s) path d' → d' = d) ∧
          (parse s).levelFor path = d.level) ∧
      ((∀ d ∈ directivesOf s, ¬ d.Covers path) → (parse s).levelFor path = (bareLevelsOf s).getLast?.getD .warn) ∧
      (∀ s', directivesOf s' ~ directivesOf s → ((directivesOf s).map Directive.target).Nodup →
        (bareLevelsOf s').getLast? = (bareLevelsOf s).getLast? → (parse s').levelFor path = (parse s).levelFor path) ∧
      (parse s).levelFor path ≤ (parse s).maxLevel ∧
      ∀ level : Level, level ≤ (parse s).levelFor path → level ≤ (parse s).maxLevel := by
  have hmax := le_maxLevel (parse s) path
  refine ⟨?_, levelFor_of_uncovered, fun s' => levelFor_perm, hmax, fun level hle => Nat.le_trans hle hmax⟩
  rintro ⟨d, hd, hcovers⟩
  obtain ⟨d', hdecides⟩ := exists_decides hd hcovers
  exact ⟨d', hdecides, fun _ hother => hother.unique hdecides, levelFor_of_decides hdecides⟩

/-- Two directives have the longest target, of which the left one decides. Without a directive, the last bare level
counts. -/
theorem level_of_most_specific_overlapping :
    (parse "info,db=debug,db::pool=trace,=warn,db::pool=error,net=loud").levelFor "db::pool::drop" = .trace ∧
      (parse "db=debug,error,db::pool=trace,info").levelFor "net" = .info ∧
      (parse "db::pool=trace,error,db=debug,info").levelFor "db::pool" =
        (parse "db=debug,error,db::pool=trace,info").levelFor "db::pool" := by
  refine ⟨?_, ?_, ?_⟩
  · have hdecides : Decides (directivesOf "info,db=debug,db::pool=trace,=warn,db::pool=error,net=loud")
        "db::pool::drop" ⟨"db::pool", .trace⟩ := ⟨by decide, by decide, by decide⟩
    obtain ⟨d, _, hunique, hlevel⟩ := (level_of_most_specific _ _).1 ⟨_, hdecides.mem, hdecides.covers⟩
    rw [hlevel, ← hunique _ hdecides]
  · rw [(level_of_most_specific _ _).2.1 (by decide)]
    decide
  · exact (level_of_most_specific _ _).2.2.1 _ (by decide) (by decide) (by decide)

end Filter

end BulkLoad.Log
