import Mathlib.Data.List.DropRight
import MindLeak.Proofs.Attribution

/-! An artifact's id names a file of the repository, as long as the paths that a step is given do. -/

namespace MindLeak.Core

open List Bool

variable {path : String} {roots : List String}

section
variable {root : String} {c d : Char}

theorem toLower_cases (c : Char) : c.isAlpha = true ∧ c.toLower.isAlpha = true ∨ c.toLower = c := by
  unfold Char.toLower
  split
  next upper =>
    refine .inl ?_
    have low := UInt32.le_iff_toNat_le.mp upper.1
    have high := UInt32.le_iff_toNat_le.mp upper.2
    simp only [Char.isAlpha, Char.isUpper, Char.isLower, or_eq_true, decide_eq_true_eq, and_eq_true, ge_iff_le,
      UInt32.le_iff_toNat_le, UInt32.toNat_add]
    simp at low high ⊢
    omega
  next => exact .inr rfl

theorem eq_of_toLower (plain : d.isAlpha = false) (same : c.toLower = d) : c = d := by
  rcases toLower_cases c with ⟨-, alpha⟩ | kept
  · rw [same, plain] at alpha
    cases alpha
  · exact kept.symm.trans same

theorem isAlpha_of_toLower (alpha : d.isAlpha = true) (same : c.toLower = d.toLower) : c.isAlpha = true := by
  rcases toLower_cases c with ⟨alpha, -⟩ | kept
  · exact alpha
  · rcases toLower_cases d with ⟨-, lower⟩ | kept'
    · rwa [← kept, same]
    · rwa [← kept, same, kept']

theorem isAbsolutePath_iff : isAbsolutePath path = true ↔
    (∃ rest, (normalizePath path).toList = '/' :: rest) ∨
      ∃ drive rest, (normalizePath path).toList = drive :: ':' :: rest ∧ drive.isAlpha = true := by
  unfold isAbsolutePath
  generalize (normalizePath path).toList = chars
  constructor
  · intro absolute
    split at absolute
    next rest => exact .inl ⟨rest, rfl⟩
    next drive rest _ => exact .inr ⟨drive, rest, rfl, absolute⟩
    next => cases absolute
  · rintro (⟨rest, rfl⟩ | ⟨drive, rest, rfl, alpha⟩)
    · rfl
    split
    next => rfl
    next same =>
      cases same
      exact alpha
    next _ other => exact absurd rfl (other drive rest)

theorem isAbsolutePath_of_root {lead : List Char} (absolute : isAbsolutePath root = true) (named : rootPrefix root = some lead)
    (under : lead <+: (normalizePath path).toList.map Char.toLower) : isAbsolutePath path = true := by
  unfold rootPrefix at named
  obtain ⟨nonempty, named⟩ := else_of_ne named nofun
  obtain rfl := Option.some_inj.mp named
  obtain ⟨more, split⟩ := under
  -- The root is what is left of it, and slashes.
  have whole := (takeWhile_append_dropWhile (p := fun c : Char => decide (c = '/')) (l := (normalizePath root).toList.reverse))
  generalize dropped : ((normalizePath root).toList.reverse.dropWhile fun c => decide (c = '/')).reverse = trimmed at nonempty split
  have whole : (normalizePath root).toList =
      trimmed ++ ((normalizePath root).toList.reverse.takeWhile fun c => decide (c = '/')).reverse := by
    rw [← dropped, ← reverse_append, whole, reverse_reverse]
  have slashes : ∀ c ∈ ((normalizePath root).toList.reverse.takeWhile fun c => decide (c = '/')).reverse, c = '/' := by
    intro c inside
    have passed := mem_takeWhile_imp (mem_reverse.mp inside)
    exact of_decide_eq_true passed
  generalize ((normalizePath root).toList.reverse.takeWhile fun c => decide (c = '/')).reverse = rest at whole slashes
  obtain ⟨first, trimmed, rfl⟩ := exists_cons_of_ne_nil nonempty
  cases chars : (normalizePath path).toList with
  | nil =>
    rw [chars] at split
    cases split
  | cons a others =>
    rw [chars, map_cons, map_cons, cons_append, cons_append] at split
    obtain ⟨head, split⟩ := List.cons.inj split
    rw [isAbsolutePath_iff, whole] at absolute
    rcases absolute with ⟨tail, same⟩ | ⟨drive, tail, same, alpha⟩
    · obtain ⟨rfl, -⟩ := List.cons.inj same
      rw [isAbsolutePath_iff, chars]
      have slash : a = '/' := eq_of_toLower (by decide) (head.symm.trans (by decide))
      exact .inl ⟨others, by rw [slash]⟩
    · rw [cons_append] at same
      obtain ⟨rfl, drive⟩ := List.cons.inj same
      cases trimmed with
      | nil =>
        have colon := slashes ':' (by rw [show rest = ':' :: tail from drive]; exact .head _)
        exact absurd colon (by decide)
      | cons second trimmed =>
        obtain ⟨rfl, -⟩ := List.cons.inj drive
        cases others with
        | nil => cases split
        | cons b others =>
          obtain ⟨next, -⟩ := List.cons.inj split
          rw [isAbsolutePath_iff, chars]
          have colon : b = ':' := eq_of_toLower (by decide) (next.symm.trans (by decide))
          exact .inr ⟨a, others, by rw [colon], isAlpha_of_toLower alpha head.symm⟩

theorem repoRelative_of_relative (relative : isAbsolutePath path = false) (absolute : ∀ root ∈ roots, isAbsolutePath root = true) :
    repoRelative path roots = normalizePath path := by
  have unmatched : matchedRoot roots ((normalizePath path).toList.map Char.toLower) = none := by
    refine List.foldlRecOn (motive := fun matched : Option Nat => matched = none) _ _ rfl fun matched none_ root inside => ?_
    subst none_
    split
    · rfl
    rename_i lead named
    rw [if_neg]
    intro under
    rw [and_eq_true] at under
    rw [isAbsolutePath_of_root (absolute root inside) named ( isPrefixOf_iff_prefix.mp under.1)] at relative
    cases relative
  unfold repoRelative
  dsimp only
  rw [unmatched]

end

variable {scanners : Scanners}

section
variable {g : Graph} {step : Step}

structure RepoFile (path : String) : Prop where
  relative : isAbsolutePath path = false
  kept : isIgnoredPath path = false

theorem repoFile_of_admissible (admissible : admissiblePath path = true) : RepoFile path := by
  unfold admissiblePath at admissible
  rw [and_eq_true, not_eq_true', not_eq_true'] at admissible
  exact ⟨admissible.2, admissible.1⟩

def NamesRepoFile (id : String) (type : NodeType) : Prop :=
  type = .artifact ∨ Text.startsWith id "artifact:" = true → ∃ path, id = artifactId path ∧ RepoFile path

theorem namesRepoFile_artifact (file : RepoFile path) : NamesRepoFile (artifactId path) .artifact :=
  fun _ => ⟨path, rfl, file⟩

theorem namesRepoFile_other {lead : String} {type : NodeType} (rest : String) (plain : type ≠ .artifact)
    (apart : (lead.toList.zip "artifact:".toList).any (fun pair => decide (pair.1 ≠ pair.2)) = true) :
    NamesRepoFile (lead ++ rest) type := by
  rintro (same | starts)
  · exact absurd same plain
  · rw [Text.startsWith_apart rest apart] at starts
    cases starts

def Operation.summary : Operation → Option IntentSummary
  | .consolidateSession (.ok summary) _ | .commitSignal _ _ _ summary => some summary
  | _ => none

structure Step.GivesRepoFiles (scanners : Scanners) (g : Graph) (step : Step) : Prop where
  commit : ∀ agent rec, step.operation = .ingestCommit agent rec →
    ∀ path ∈ rec.changedPaths step.roots.known, isAbsolutePath path = false
  file : ∀ agent path content, step.operation = .ingestFile agent path content →
    isIgnoredPath (step.roots.place path) = false → isAbsolutePath (step.roots.place path) = false →
      NamesArtifacts scanners g (step.roots.place path) content path NamesRepoFile
  repair : ∀ agent sha reason root readCommit detailBytes,
    step.operation = .repairCommit agent sha reason (some root) readCommit detailBytes →
      ∀ verified, readCommit root (Text.asciiLower (Text.trim sha)) = .ok verified →
        ∀ path ∈ verified.changedPaths step.roots.known, isAbsolutePath path = false
  summary : ∀ summary, step.operation.summary = some summary →
    ∀ file ∈ impactedFiles [] (summary.impactedFiles.take MAX_IMPACTED_FILES), RepoFile file.path

theorem repoFile_of_commit {rec : CommitRecord} {roots : List String} (listed : path ∈ rec.changedPaths roots)
    (relative : isAbsolutePath path = false) : RepoFile path := by
  unfold CommitRecord.changedPaths sortDedup at listed
  rw [mem_dedup, mem_insertionSort] at listed
  have kept := (mem_filter.mp listed).2
  rw [not_eq_true'] at kept
  exact ⟨relative, kept⟩

theorem summary_names {summary : IntentSummary} {count : Nat} {now : Int} {facts : ConsolidationFacts}
    (files : ∀ file ∈ impactedFiles [] (summary.impactedFiles.take MAX_IMPACTED_FILES), RepoFile file.path)
    (made : factsFromSummary summary count now = .ok facts) : ∀ item ∈ facts.nodes, NamesRepoFile item.id item.nodeType := by
  obtain ⟨key, intent, -, id, type, -, nodes, -⟩ := factsFromSummary_ok made
  intro item inside
  rw [nodes] at inside
  rcases mem_cons.mp inside with rfl | artifact
  · rw [id, type]
    exact namesRepoFile_other key (by decide) (by decide)
  · obtain ⟨file, listed, rfl⟩ := mem_map.mp artifact
    exact namesRepoFile_artifact (files file listed)

theorem brings_repo_files (given : step.GivesRepoFiles scanners g) : step.Brings scanners g (fun _ => True) NamesRepoFile where
  execution agent rec asked := by
    refine ⟨namesRepoFile_other _ (by decide) (by decide), fun path listed => ⟨?_, trivial⟩, fun path listed => ⟨?_, trivial⟩⟩
    · exact namesRepoFile_artifact (repoFile_of_admissible (mem_filter.mp listed).2)
    unfold ExecutionRecord.failedPaths at listed
    split at listed
    · cases listed
    exact namesRepoFile_artifact (repoFile_of_admissible (mem_filter.mp listed).2)
  commit agent rec key asked _ := by
    refine ⟨namesRepoFile_other key (by decide) (by decide), fun path listed => ⟨?_, trivial⟩⟩
    exact namesRepoFile_artifact (repoFile_of_commit listed (given.commit agent rec asked path listed))
  file agent path content asked kept relative := given.file agent path content asked kept relative
  invocation agent rec asked := namesRepoFile_other _ (by decide) (by decide)
  observed _ _ _ _ _ := trivial
  repair agent sha reason root readCommit detailBytes asked verified read path listed :=
    ⟨namesRepoFile_artifact (repoFile_of_commit listed (given.repair _ _ _ _ _ _ asked verified read path listed)), fun _ => trivial⟩
  session summary logs facts asked made :=
    ⟨summary_names (given.summary summary (by rw [asked]; rfl)) made, fun _ _ => trivial⟩
  signal lease leaseOwner candidates summary facts asked made := by
    obtain ⟨plain, made, -, nodes, -⟩ := distill_ok made
    rw [nodes]
    exact ⟨summary_names (given.summary summary (by rw [asked]; rfl)) made, fun _ _ => trivial⟩

/-- In every run whose steps are given files of the repository, every artifact is named by one, with no root left to strip. -/
theorem artifacts_are_repo_files (scanners : Scanners) (run : List Step)
    (given : ∀ earlier step later, run = earlier ++ step :: later → step.GivesRepoFiles scanners (reached scanners earlier)) :
    ∀ node ∈ (reached scanners run).nodes.rows, node.nodeType = .artifact ∨ Text.startsWith node.id "artifact:" = true →
      ∃ path, node.id = artifactId path ∧ isAbsolutePath path = false ∧ isIgnoredPath path = false ∧
        ∀ roots, (∀ root ∈ roots, isAbsolutePath root = true) → repoRelative path roots = normalizePath path := by
  have holds : (reached scanners run).Holds (fun _ => True) NamesRepoFile := by
    induction run using List.reverseRecOn with
    | nil => exact Graph.holds_empty
    | append_singleton run step ih =>
      rw [reached_append]
      have before := ih fun earlier other later same =>
        given earlier other (later ++ [step]) (by rw [same, append_assoc, cons_append])
      refine Step.holds_after (brings_repo_files (given run step [] rfl)) before ⟨fun rest => ?_, fun rest => ?_⟩ (fun name => ?_)
        fun _ _ => trivial
      all_goals exact namesRepoFile_other _ (by decide) (by decide)
  intro node inside artifact
  obtain ⟨path, id, file⟩ := holds.nodes node inside artifact
  exact ⟨path, id, file.relative, file.kept, fun roots absolute => repoRelative_of_relative file.relative absolute⟩

def commitsFile (roots : List String) : Step :=
  ⟨10, ⟨roots, none⟩, quietSensors, .ingestCommit none ⟨none, "fix", ["/r/src/a.rs"], 5⟩⟩

theorem committed_file_is_repo_file :
    (reached blankScanners [commitsFile ["/r"]]).nodeExists (artifactId "src/a.rs") = true ∧
      ∀ node ∈ (reached blankScanners [commitsFile ["/r"]]).nodes.rows,
        node.nodeType = .artifact ∨ Text.startsWith node.id "artifact:" = true →
          ∃ path, node.id = artifactId path ∧ isAbsolutePath path = false ∧ isIgnoredPath path = false ∧
            ∀ roots, (∀ root ∈ roots, isAbsolutePath root = true) → repoRelative path roots = normalizePath path := by
  refine ⟨by decide +kernel, artifacts_are_repo_files blankScanners [commitsFile ["/r"]] fun earlier step later same => ?_⟩
  rcases earlier with _ | ⟨first, earlier⟩
  · obtain ⟨rfl, -⟩ := List.cons.inj same
    refine ⟨fun agent rec asked => ?_, nofun, nofun, nofun⟩
    obtain ⟨-, rfl⟩ := Operation.ingestCommit.inj asked
    decide +kernel
  · obtain ⟨-, rest⟩ := List.cons.inj same
    cases earlier <;> cases rest

/-- A commit of a file in a checkout that is not known is written under its absolute path. -/
theorem foreign_commit_counterexample :
    ¬ ∀ (scanners : Scanners) (run : List Step), ∀ node ∈ (reached scanners run).nodes.rows,
      node.nodeType = .artifact ∨ Text.startsWith node.id "artifact:" = true →
        ∃ path, node.id = artifactId path ∧ isAbsolutePath path = false ∧ isIgnoredPath path = false ∧
          ∀ roots, (∀ root ∈ roots, isAbsolutePath root = true) → repoRelative path roots = normalizePath path := by
  intro claim
  have there : (reached blankScanners [commitsFile []]).nodeExists "artifact:/r/src/a.rs" = true := by decide +kernel
  obtain ⟨node, found⟩ := Option.isSome_iff_exists.mp there
  obtain ⟨inside, id⟩ := Table.mem_of_find? found
  have id : node.id = "artifact:/r/src/a.rs" := id
  obtain ⟨path, same, relative, -⟩ := claim blankScanners [commitsFile []] node inside (.inr (by rw [id]; decide))
  have path_ : path = "/r/src/a.rs" := by
    have lists := congrArg String.toList (same.symm.trans id)
    rw [artifactId, String.toList_append] at lists
    exact String.toList_inj.mp (@append_cancel_left _ "artifact:".toList path.toList "/r/src/a.rs".toList lists)
  rw [path_] at relative
  exact absurd relative (by decide)

end

/-! When a file's structure is the same under its absolute path and under its path in the repository. -/

/-- The path in the repository, of what lies there under a known root, with either separator. -/
structure Spelled (roots : List String) (absolute path : String) : Prop where
  below : ∃ root ∈ roots, normalizePath absolute = normalizePath root ++ "/" ++ normalizePath path
  stripped : repoRelative absolute roots = normalizePath path
  relative : isAbsolutePath path = false
  roots : ∀ root ∈ roots, isAbsolutePath root = true

section
variable {content absolute : String}

theorem normalizePath_idem (path : String) : normalizePath (normalizePath path) = normalizePath path := by
  unfold normalizePath
  rw [String.toList_ofList, map_map]
  refine congrArg String.ofList (map_congr_left fun c _ => ?_)
  dsimp only [Function.comp]
  by_cases back : c = '\\'
  · subst back
    decide
  · simp only [back, if_false]

theorem isAbsolutePath_normalize (path : String) : isAbsolutePath (normalizePath path) = isAbsolutePath path := by
  unfold isAbsolutePath
  rw [normalizePath_idem]

end
end MindLeak.Core
