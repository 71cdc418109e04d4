import Mathlib.Data.List.Induction
import MindLeak.Core.Extract

/-! Where a relative import may lead: what its specifier denotes by path arithmetic, and
the candidates there are for it. -/

namespace MindLeak.Core
open List Option

/-- One segment further from a directory of the repository, which it may not leave. -/
def walkStep (parts : List String) (part : List Char) : Option (List String) :=
  if part = [] ∨ part = ['.'] then some parts
  else if part = ['.', '.'] then if parts = [] then none else some parts.dropLast
  else some (parts ++ [String.ofList part])

def directoryOf (sourcePath : String) : List Char := ((rsplitOnce '/' (normalizePath sourcePath).toList).map Prod.fst).getD []

def denoted (sourcePath specifier : String) : Option (List String) :=
  (segments '/' (directoryOf sourcePath) ++ segments '/' (normalizePath specifier).toList).foldlM walkStep []

def PlainSegment (part : String) : Prop := part ≠ "" ∧ part ≠ "." ∧ part ≠ ".." ∧ '/' ∉ part.toList

inductive NamesFile (parts : List String) : List String → Prop where
  | itself : NamesFile parts parts
  | extended {lead : List String} {last : String} (extension : String) (ends : parts = lead ++ [last]) :
      NamesFile parts (lead ++ [last ++ "." ++ extension])
  | index (extension : String) : NamesFile parts (parts ++ ["index." ++ extension])
  | source {lead : List String} {stem : String} (extension : String) (ends : parts = lead ++ [stem ++ ".js"])
      (typed : extension = ".ts" ∨ extension = ".tsx") : NamesFile parts (lead ++ [stem ++ extension])

structure ResolvesInside (sourcePath specifier : String) : Prop where
  named : ∀ candidate ∈ relativeCandidates sourcePath specifier, ∃ parts file, denoted sourcePath specifier = some parts ∧
    NamesFile parts file ∧ (∀ part ∈ file, PlainSegment part) ∧ candidate = joinPath file
  outside : denoted sourcePath specifier = none → relativeCandidates sourcePath specifier = []

section
variable {separator : Char} {text : List Char} {parts reached : List String} {sourcePath specifier : String}

theorem segments_ne_nil : segments separator text ≠ [] := by
  unfold segments
  split
  · exact cons_ne_nil _ _
  · split
    · exact cons_ne_nil _ _
    · split <;> exact cons_ne_nil _ _

theorem segments_append (rest : List Char) :
    segments separator (text ++ separator :: rest) = segments separator text ++ segments separator rest := by
  induction text with
  | nil => simp [segments]
  | cons c text ih =>
    rw [cons_append, segments, segments, ih]
    split
    · rfl
    · cases found : segments separator text with
      | nil => exact absurd found segments_ne_nil
      | cons first others => rfl

theorem not_mem_segments {part : List Char} (member : part ∈ segments separator text) : separator ∉ part := by
  induction text generalizing part with
  | nil =>
    cases mem_singleton.mp member
    exact not_mem_nil
  | cons c text ih =>
    rw [segments] at member
    split at member
    next =>
      rcases mem_cons.mp member with rfl | later
      · exact not_mem_nil
      · exact ih later
    next other =>
      cases found : segments separator text with
      | nil => exact absurd found segments_ne_nil
      | cons first others =>
        rw [found] at member ih
        rcases mem_cons.mp member with rfl | later
        · exact fun inside => (mem_cons.mp inside).elim (fun same => other same.symm) (ih mem_cons_self)
        · exact ih (mem_cons_of_mem _ later)

theorem walkStep_plain {part : List Char} (walked : walkStep parts part = some reached) (sound : '/' ∉ part)
    (plain : ∀ part ∈ parts, PlainSegment part) : ∀ part ∈ reached, PlainSegment part := by
  unfold walkStep at walked
  split at walked
  · cases walked; exact plain
  rename_i visible
  split at walked
  next =>
    split at walked
    · cases walked
    cases walked; exact fun part member => plain part (dropLast_subset _ member)
  next other =>
    cases walked
    refine forall_mem_append.mpr ⟨plain, forall_mem_singleton.mpr ⟨?_, ?_, ?_, by rwa [String.toList_ofList]⟩⟩
    · exact fun same => visible (.inl (String.ofList_injective same))
    · exact fun same => visible (.inr (String.ofList_injective same))
    · exact fun same => other (String.ofList_injective same)

theorem walk_plain {walked : List (List Char)} (sound : ∀ part ∈ walked, '/' ∉ part) (plain : ∀ part ∈ parts, PlainSegment part)
    (reaches : walked.foldlM walkStep parts = some reached) : ∀ part ∈ reached, PlainSegment part := by
  induction walked generalizing parts with
  | nil =>
    cases reaches
    exact plain
  | cons part rest ih =>
    obtain ⟨next, stepped, reaches⟩ := bind_eq_some_iff.mp reaches
    have here := walkStep_plain stepped (sound part mem_cons_self) plain
    exact ih (fun other later => sound other (mem_cons_of_mem _ later)) here reaches

/-- Where a walk stays inside, clamping it changes nothing. -/
theorem relativeParts_of_walk {joined : String} (reaches : (segments '/' joined.toList).foldlM walkStep [] = some reached) :
    relativeParts joined = reached := by
  have clamped : ∀ (walked : List (List Char)) parts, walked.foldlM walkStep parts = some reached → walked.foldl (fun parts part =>
      if part = [] ∨ part = ['.'] then parts
      else if part = ['.', '.'] then parts.dropLast
      else parts ++ [String.ofList part]) parts = reached := by
    intro walked
    induction walked with
    | nil => exact fun parts reaches => some.inj reaches
    | cons part rest ih =>
      intro parts reaches
      obtain ⟨next, stepped, reaches⟩ := bind_eq_some_iff.mp reaches
      rw [foldl_cons]
      convert ih next reaches
      unfold walkStep at stepped
      split at stepped
      next skipped => rw [if_pos skipped, some.inj stepped]
      rename_i visible
      rw [if_neg visible]
      split at stepped
      next up =>
        split at stepped
        · cases stepped
        rw [if_pos up, some.inj stepped]
      next down => rw [if_neg down, some.inj stepped]
  exact clamped _ _ reaches

def offered (extensions parts : List String) : List String :=
  if (parts.getLast?.getD "").toList.contains '.' then
    match Text.stripSuffix? ".js" (joinPath parts) with
    | some base => [joinPath parts, base ++ ".ts", base ++ ".tsx"]
    | none => [joinPath parts]
  else
    extensions.map (fun extension => joinPath parts ++ "." ++ extension) ++
      extensions.map fun extension => joinPath parts ++ "/index." ++ extension

/-- The text that is walked: a specifier of the root is walked alone. -/
def joined (directory : List Char) (specifier : String) : String :=
  if directory = [] then normalizePath specifier else String.ofList directory ++ "/" ++ normalizePath specifier

theorem relativeCandidates_eq : relativeCandidates sourcePath specifier =
    offered (candidateExtensions (normalizePath sourcePath)) (relativeParts (joined (directoryOf sourcePath) specifier)) := by
  unfold relativeCandidates offered joined directoryOf
  by_cases atRoot : ((rsplitOnce '/' (normalizePath sourcePath).toList).map Prod.fst).getD [] = []
  all_goals simp only [atRoot, if_true, if_false]
  all_goals generalize relativeParts _ = parts
  all_goals cases Text.stripSuffix? ".js" (joinPath parts) <;> rfl

theorem relativeParts_joined (reaches : denoted sourcePath specifier = some reached) :
    relativeParts (joined (directoryOf sourcePath) specifier) = reached := by
  refine relativeParts_of_walk ?_
  unfold denoted at reaches
  unfold joined
  generalize directoryOf sourcePath = directory at reaches ⊢
  split
  next atRoot =>
    have still : walkStep [] [] = some [] := rfl
    rw [atRoot, segments, singleton_append, foldlM_cons, still, Option.bind_eq_bind, Option.bind_some] at reaches
    exact reaches
  next =>
    rw [String.toList_append, String.toList_append, String.toList_ofList]
    change (segments '/' (directory ++ ['/'] ++ _)).foldlM walkStep [] = _
    rw [append_assoc, singleton_append, segments_append]
    exact reaches

theorem candidateExtensions_cases : candidateExtensions sourcePath ≠ [] ∧
    ∀ extension ∈ candidateExtensions sourcePath, extension ∈ ["js", "jsx", "mjs", "cjs", "ts", "tsx"] := by
  unfold candidateExtensions
  split <;> decide

theorem offered_ne_nil : offered (candidateExtensions sourcePath) parts ≠ [] := by
  unfold offered
  split
  · split <;> exact cons_ne_nil _ _
  · exact append_ne_nil_of_left_ne_nil (mt map_eq_nil_iff.mp candidateExtensions_cases.1) _

theorem joinPath_front (lead : List String) :
    ∃ front, (front = "" ∨ ∃ directory, front = directory ++ "/") ∧ ∀ last, joinPath (lead ++ [last]) = front ++ last := by
  cases lead with
  | nil => exact ⟨"", .inl rfl, fun last => String.empty_append.symm⟩
  | cons first rest =>
    refine ⟨joinPath (first :: rest) ++ "/", .inr ⟨_, rfl⟩, fun last => ?_⟩
    unfold joinPath
    rw [String.intercalate_append_of_ne_nil (cons_ne_nil _ _) (cons_ne_nil _ _), String.intercalate_singleton]

theorem plain_of_long {part : String} (sound : '/' ∉ part.toList) (long : 3 ≤ part.toList.length) : PlainSegment part := by
  refine ⟨?_, ?_, ?_, sound⟩
  all_goals
    rintro rfl
    exact absurd long (by decide)

theorem stem_of_stripped {front last base tail : String} (whole : front = "" ∨ ∃ directory, front = directory ++ "/")
    (outside : '/' ∉ tail.toList) (stripped : (front ++ last).toList = base.toList ++ tail.toList) :
    ∃ stem, last = stem ++ tail ∧ base = front ++ stem := by
  rw [String.toList_append] at stripped
  rcases append_eq_append_iff.mp stripped with ⟨stem, based, split⟩ | ⟨crossing, fronted, split⟩
  · refine ⟨String.ofList stem, ?_, ?_⟩ <;> apply String.toList_injective
    · rw [String.toList_append, String.toList_ofList]
      exact split
    · rw [String.toList_append, String.toList_ofList]
      exact based
  · have empty : crossing = [] := by
      rcases whole with rfl | ⟨directory, rfl⟩
      · exact (append_eq_nil_iff.mp fronted.symm).2
      obtain empty | ⟨inner, c, rfl⟩ := eq_nil_or_concat' crossing
      · exact empty
      · rw [String.toList_append, ← append_assoc] at fronted
        cases (append_inj' fronted rfl).2
        exact absurd (split ▸ mem_append_left _ (mem_append_right _ (mem_singleton_self _))) outside
    subst empty
    rw [append_nil] at fronted
    exact ⟨"", String.toList_injective (by rw [String.toList_append]; exact split.symm),
      String.toList_injective (by rw [String.toList_append]; exact fronted.symm.trans (append_nil _).symm)⟩

theorem offered_named {extensions : List String} (known : ∀ extension ∈ extensions, extension ∈ ["js", "jsx", "mjs", "cjs", "ts", "tsx"])
    (inside : parts ≠ []) (plain : ∀ part ∈ parts, PlainSegment part) {candidate : String} (member : candidate ∈ offered extensions parts) :
    ∃ file, NamesFile parts file ∧ (∀ part ∈ file, PlainSegment part) ∧ candidate = joinPath file := by
  have tails : ∀ extension ∈ ["js", "jsx", "mjs", "cjs", "ts", "tsx"], '/' ∉ extension.toList ∧ 2 ≤ extension.toList.length := by decide +kernel
  obtain ⟨lead, last, rfl⟩ := (eq_nil_or_concat' parts).resolve_left inside
  obtain ⟨front, whole, joins⟩ := joinPath_front lead
  obtain ⟨leading, lastPlain⟩ := forall_mem_append.mp plain
  have lastPlain := lastPlain last (mem_singleton_self _)
  have seen := length_pos_of_ne_nil fun empty => lastPlain.1 (String.toList_eq_nil_iff.mp empty)
  have behind : ∀ stem tail, '/' ∉ (stem ++ tail).toList → 3 ≤ (stem ++ tail).toList.length →
      ∀ part ∈ lead ++ [stem ++ tail], PlainSegment part := fun stem tail sound long =>
    forall_mem_append.mpr ⟨leading, forall_mem_singleton.mpr (plain_of_long sound long)⟩
  unfold offered at member
  split at member
  · split at member
    next base found =>
      obtain ⟨stem, rfl, rfl⟩ := stem_of_stripped whole (by decide) (joins last ▸ Text.stripSuffix?_eq_some.mp found)
      have sound : '/' ∉ stem.toList := fun slash => lastPlain.2.2.2 (by rw [String.toList_append]; exact mem_append_left _ slash)
      rcases mem_cons.mp member with rfl | member
      · exact ⟨_, .itself, plain, rfl⟩
      have typed : ∃ extension, (extension = ".ts" ∨ extension = ".tsx") ∧ candidate = front ++ stem ++ extension := by
        rcases mem_cons.mp member with rfl | member
        · exact ⟨_, .inl rfl, rfl⟩
        · cases mem_singleton.mp member
          exact ⟨_, .inr rfl, rfl⟩
      obtain ⟨extension, typed, rfl⟩ := typed
      have short : '/' ∉ extension.toList ∧ 3 ≤ extension.toList.length := by rcases typed with rfl | rfl <;> decide
      refine ⟨_, .source extension rfl typed, behind _ _ ?_ ?_, by rw [joins, String.append_assoc]⟩
      · rw [String.toList_append]
        exact fun slash => (mem_append.mp slash).elim sound short.1
      · rw [String.toList_append, length_append]
        omega
    next =>
      cases mem_singleton.mp member
      exact ⟨_, .itself, plain, rfl⟩
  · rcases mem_append.mp member with member | member
    · obtain ⟨extension, listed, rfl⟩ := mem_map.mp member
      obtain ⟨sound, long⟩ := tails extension (known extension listed)
      refine ⟨_, .extended extension rfl, behind _ _ ?_ ?_, by rw [joins, joins, String.append_assoc, String.append_assoc, String.append_assoc]⟩
      · simp only [String.toList_append, mem_append, not_or]
        exact ⟨⟨lastPlain.2.2.2, by decide⟩, sound⟩
      · simp only [String.toList_append, length_append]
        omega
    · obtain ⟨extension, listed, rfl⟩ := mem_map.mp member
      obtain ⟨sound, long⟩ := tails extension (known extension listed)
      refine ⟨_, .index extension, forall_mem_append.mpr ⟨plain, forall_mem_singleton.mpr (plain_of_long ?_ ?_)⟩, ?_⟩
      · rw [String.toList_append]
        exact fun slash => (mem_append.mp slash).elim (by decide) sound
      · rw [String.toList_append, length_append]
        exact (show 3 ≤ "index.".toList.length by decide).trans (Nat.le_add_right _ _)
      · unfold joinPath
        rw [String.intercalate_append_of_ne_nil inside (cons_ne_nil _ _), String.intercalate_singleton, String.append_assoc,
          String.append_assoc]
        rfl

/-- A relative import is resolved as it should be just if its walk stays inside the repository, and does not end at the root. -/
theorem relative_import_resolves_iff : ResolvesInside sourcePath specifier ↔
    ∃ parts, denoted sourcePath specifier = some parts ∧ parts ≠ [] := by
  constructor
  · rintro ⟨named, outside⟩
    cases reaches : denoted sourcePath specifier with
    | none => exact absurd (relativeCandidates_eq ▸ outside reaches) offered_ne_nil
    | some parts =>
      refine ⟨parts, rfl, ?_⟩
      rintro rfl
      obtain ⟨extension, rest, known⟩ : ∃ extension rest, candidateExtensions (normalizePath sourcePath) = extension :: rest :=
        exists_cons_of_ne_nil candidateExtensions_cases.1
      have member : "" ++ "." ++ extension ∈ relativeCandidates sourcePath specifier := by
        rw [relativeCandidates_eq, relativeParts_joined reaches, known]
        exact mem_cons_self
      obtain ⟨_, file, again, names, -, its⟩ := named _ member
      cases reaches.symm.trans again
      have its := congrArg String.toList its
      cases names with
      | itself => simp [joinPath] at its
      | extended _ ends | source _ ends => exact absurd ends.symm (append_ne_nil_of_right_ne_nil _ (cons_ne_nil _ _))
      | index => simp [joinPath] at its
  · rintro ⟨parts, reaches, inside⟩
    have plain : ∀ part ∈ parts, PlainSegment part := by
      refine walk_plain (fun part member => ?_) (fun _ none => absurd none not_mem_nil) reaches
      exact (mem_append.mp member).elim not_mem_segments not_mem_segments
    refine ⟨fun candidate member => ?_, fun none => by cases none.symm.trans reaches⟩
    rw [relativeCandidates_eq, relativeParts_joined reaches] at member
    obtain ⟨file, names, sound, its⟩ := offered_named candidateExtensions_cases.2 inside plain member
    exact ⟨parts, file, reaches, names, sound, its⟩

/-- From `src` two directories up there is nothing, and what is offered is at the root. -/
theorem climbing_import_counterexample : denoted "src/a.ts" "../../b" = none ∧ "b.ts" ∈ relativeCandidates "src/a.ts" "../../b" ∧
    ¬ResolvesInside "src/a.ts" "../../b" := by
  have left : denoted "src/a.ts" "../../b" = none := by decide +kernel
  have clamped : "b.ts" ∈ relativeCandidates "src/a.ts" "../../b" := by decide +kernel
  refine ⟨left, clamped, fun inside => ?_⟩
  rw [inside.outside left] at clamped
  cases clamped

end
end MindLeak.Core
