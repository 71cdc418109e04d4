import Mathlib.Data.List.MinMax
import MindLeak.Proofs.Identities

/-! A path under several roots: which of them is taken off, and when two spellings of a file agree. -/

namespace MindLeak.Core

open List

/-- One root, spelled in another way. -/
inductive Respelled : String → String → Prop where
  | slash (root : String) : Respelled (root ++ "/") root
  | separators {first second : String} (same : normalizePath first = normalizePath second) : Respelled first second
  | case {first second : String} (same : first.toList.map Char.toLower = second.toList.map Char.toLower) : Respelled first second
  | symm {first second : String} (other : Respelled first second) : Respelled second first
  | trans {first middle last : String} (one : Respelled first middle) (other : Respelled middle last) : Respelled first last

def lowered (path : String) : List Char := (normalizePath path).toList.map Char.toLower

/-- What a path under one of the roots starts with, but for the case of its letters. -/
def Leads (roots : List String) (lead : List Char) : Prop := ∃ root ∈ roots, rootPrefix root = some lead

def Outside (roots : List String) (path : String) : Prop := ∀ lead, Leads roots lead → ¬lead <+: lowered path

structure Deepest (roots : List String) (path : String) (lead : List Char) : Prop where
  known : Leads roots lead
  under : lead <+: lowered path
  longest : ∀ other, Leads roots other → other <+: lowered path → other.length ≤ lead.length

variable {path root front : String} {roots others : List String} {lead : List Char}

theorem rootPrefix_lowered (root : String) : rootPrefix root =
    if ((lowered root).reverse.dropWhile (· = '/')).reverse = [] then none
      else some (((lowered root).reverse.dropWhile (· = '/')).reverse ++ ['/']) := by
  have same : (fun c : Char => decide (c = '/')) ∘ Char.toLower = fun c : Char => decide (c = '/') := by
    funext c
    refine decide_eq_decide.mpr ⟨eq_of_toLower rfl, ?_⟩
    rintro rfl
    rfl
  unfold rootPrefix lowered
  rw [← map_reverse, dropWhile_map, same, ← map_reverse]
  simp only [map_eq_nil_iff]

theorem lowered_append (first second : String) : lowered (first ++ second) = lowered first ++ lowered second := by
  simp [lowered, normalizePath]

theorem lowered_eq (path : String) :
    lowered path = (path.toList.map Char.toLower).map fun c => if c = '\\' then '/' else c := by
  rw [lowered, normalizePath, String.toList_ofList, map_map, map_map]
  refine map_congr_left fun c _ => ?_
  by_cases back : c = '\\'
  · subst back
    rfl
  · have kept : c.toLower ≠ '\\' := fun same => back (eq_of_toLower rfl same)
    simp only [Function.comp_apply, if_neg back, if_neg kept]

theorem Respelled.rootPrefix_eq {first second : String} (respelled : Respelled first second) : rootPrefix first = rootPrefix second := by
  induction respelled with
  | slash root =>
    have slash : (lowered "/").reverse = ['/'] := by decide
    rw [rootPrefix_lowered, rootPrefix_lowered, lowered_append, reverse_append, slash, singleton_append]
    simp only [dropWhile_cons, decide_true, if_true]
  | separators same => rw [rootPrefix, rootPrefix, same]
  | case same => rw [rootPrefix_lowered, rootPrefix_lowered, lowered_eq, same, ← lowered_eq]
  | symm _ ih => exact ih.symm
  | trans _ _ one other => exact one.trans other

theorem matchedRoot_eq (roots : List String) (candidate : List Char) : matchedRoot roots candidate =
    (((roots.filterMap rootPrefix).filter (·.isPrefixOf candidate)).argmax length).map length := by
  induction roots using reverseRecOn with
  | nil => rfl
  | append_singleton roots root ih =>
    rw [matchedRoot] at ih ⊢
    rw [foldl_append, ih, filterMap_append, filter_append]
    simp only [foldl_cons, foldl_nil]
    cases named : rootPrefix root with
    | none => simp [named]
    | some lead =>
      simp only [filterMap_cons, named, filterMap_nil, filter_cons, filter_nil]
      cases lead.isPrefixOf candidate with
      | false => simp
      | true =>
        simp only [if_true, argmax_concat, Bool.true_and]
        cases ((roots.filterMap rootPrefix).filter (·.isPrefixOf candidate)).argmax length with
        | none => rfl
        | some best =>
          simp only [Option.map_some, Option.all_some, decide_eq_true_eq]
          split <;> rfl

theorem repoRelative_cases (path : String) (roots : List String) :
    Outside roots path ∧ repoRelative path roots = normalizePath path ∨
      ∃ lead, Deepest roots path lead ∧ repoRelative path roots = String.ofList ((normalizePath path).toList.drop lead.length) := by
  have listed (lead : List Char) : lead ∈ (roots.filterMap rootPrefix).filter (·.isPrefixOf (lowered path)) ↔
      Leads roots lead ∧ lead <+: lowered path := by
    rw [mem_filter, mem_filterMap, isPrefixOf_iff_prefix, Leads]
  rw [repoRelative, ← lowered, matchedRoot_eq]
  cases found : ((roots.filterMap rootPrefix).filter (·.isPrefixOf (lowered path))).argmax length with
  | none =>
    rw [argmax_eq_none] at found
    exact .inl ⟨fun lead known under => by simpa [found] using (listed lead).mpr ⟨known, under⟩, rfl⟩
  | some lead =>
    obtain ⟨known, under⟩ := (listed lead).mp (argmax_mem found)
    exact .inr ⟨lead, ⟨known, under, fun other also below => le_of_mem_argmax ((listed other).mpr ⟨also, below⟩) found⟩, rfl⟩

theorem repoRelative_outside (outside : Outside roots path) : repoRelative path roots = normalizePath path := by
  rcases repoRelative_cases path roots with ⟨_, same⟩ | ⟨lead, deepest, _⟩
  · exact same
  · exact absurd deepest.under (outside lead deepest.known)

theorem repoRelative_deepest (deepest : Deepest roots path lead) :
    repoRelative path roots = String.ofList ((normalizePath path).toList.drop lead.length) := by
  rcases repoRelative_cases path roots with ⟨outside, _⟩ | ⟨other, also, same⟩
  · exact absurd deepest.under (outside lead deepest.known)
  · rw [same, (deepest.longest other also.known also.under).antisymm (also.longest lead deepest.known deepest.under)]

theorem normalizePath_append (first second : String) : normalizePath (first ++ second) = normalizePath first ++ normalizePath second := by
  simp [normalizePath]

theorem normalizePath_repoRelative (path : String) (roots : List String) :
    normalizePath (repoRelative path roots) = repoRelative path roots := by
  rcases repoRelative_cases path roots with ⟨_, same⟩ | ⟨lead, _, same⟩
  · rw [same, normalizePath_idem]
  · have kept := congrArg String.toList (normalizePath_idem path)
    rw [normalizePath, String.toList_ofList] at kept
    rw [same, normalizePath, String.toList_ofList, map_drop, kept]

/-- Of the roots that a path is under the longest is taken off, however they are written, and a spelling under
the longest is the file's own path. -/
theorem repoRelative_identity (path : String) (roots : List String) :
    (∀ others, (∀ root ∈ roots, ∃ other ∈ others, Respelled root other) → (∀ other ∈ others, ∃ root ∈ roots, Respelled other root) →
        repoRelative path others = repoRelative path roots) ∧
      (Outside roots path ∧ repoRelative path roots = normalizePath path ∨
        ∃ lead, Deepest roots path lead ∧ repoRelative path roots = String.ofList ((normalizePath path).toList.drop lead.length)) ∧
      (∀ front, Deepest roots (front ++ "/" ++ path) (lowered front ++ ['/']) →
        repoRelative (front ++ "/" ++ path) roots = normalizePath path ∧
          isAbsolutePath (repoRelative (front ++ "/" ++ path) roots) = isAbsolutePath path) ∧
      (Outside roots path ∨ (∀ root ∈ roots, isAbsolutePath root = true) ∧ isAbsolutePath (repoRelative path roots) = false →
        repoRelative (repoRelative path roots) roots = repoRelative path roots) := by
  refine ⟨fun others there back => ?_, repoRelative_cases path roots, fun front deepest => ?_, ?_⟩
  · have same (lead : List Char) : Leads others lead ↔ Leads roots lead := by
      constructor
      · rintro ⟨other, inside, named⟩
        obtain ⟨root, member, respelled⟩ := back other inside
        exact ⟨root, member, respelled.rootPrefix_eq ▸ named⟩
      · rintro ⟨root, inside, named⟩
        obtain ⟨other, member, respelled⟩ := there root inside
        exact ⟨other, member, respelled.rootPrefix_eq ▸ named⟩
    rcases repoRelative_cases path roots with ⟨outside, _⟩ | ⟨lead, deepest, _⟩
    · rw [repoRelative_outside outside, repoRelative_outside fun lead known => outside lead ((same lead).mp known)]
    · have also : Deepest others path lead :=
        ⟨(same lead).mpr deepest.known, deepest.under, fun other known => deepest.longest other ((same other).mp known)⟩
      rw [repoRelative_deepest deepest, repoRelative_deepest also]
  · have stripped : repoRelative (front ++ "/" ++ path) roots = normalizePath path := by
      rw [repoRelative_deepest deepest, normalizePath_append, String.toList_append, drop_left', String.ofList_toList]
      rw [length_append, lowered, length_map, normalizePath_append, String.toList_append, length_append]
      rfl
    rw [stripped]
    exact ⟨rfl, isAbsolutePath_normalize path⟩
  · rintro (outside | ⟨absolute, relative⟩)
    · rw [repoRelative_outside outside]
      refine (repoRelative_outside fun lead known => ?_).trans (normalizePath_idem path)
      rw [lowered, normalizePath_idem]
      exact outside lead known
    · rw [repoRelative_of_relative relative absolute, normalizePath_repoRelative]

/-- Where a root is under another, a file of it has one name there and another in a checkout beside. -/
theorem nested_root_counterexample : ¬∀ (roots : List String) (path : String), ∀ first ∈ roots, ∀ second ∈ roots,
    ¬lowered (first ++ "/") <+: lowered (second ++ "/" ++ path) → ¬lowered (second ++ "/") <+: lowered (first ++ "/" ++ path) →
      repoRelative (first ++ "/" ++ path) roots = repoRelative (second ++ "/" ++ path) roots := by
  intro alike
  have same := alike ["/a", "/b", "/a/sub"] "sub/x" "/a" (by decide) "/b" (by decide) (by decide) (by decide)
  revert same
  decide

end MindLeak.Core
