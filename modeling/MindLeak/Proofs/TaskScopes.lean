import MindLeak.Library.GlobReading
import MindLeak.Lodestar.TaskScopes
import MindLeak.Proofs.Token

/-! The two readings of a declared scope. A pattern whose glob may match a text
shorter than itself is read otherwise by the covering test, which reaches nothing
shorter than the pattern's own name or the lead before its two stars. -/

namespace MindLeak.Lodestar
open Glob List Text

variable {pattern : String}

section
variable {path : String}

theorem covers_self (pattern : String) : covers pattern pattern = true := by simp [covers]

theorem covers_workflow (action : isWorkflow pattern = true) :
    covers pattern path = true ↔ path = pattern ∨ ∃ rest, path.toList = pattern.toList ++ '.' :: rest := by
  unfold covers
  split
  next same => simp [same]
  rename_i apart
  rw [workflowGoverns, decide_eq_false (Ne.symm apart), Bool.false_or, or_iff_right (Ne.symm apart)]
  cases found : stripPrefix? pattern path with
  | none =>
    constructor
    · intro impossible
      cases impossible
    rintro ⟨rest, same⟩
    have stripped : stripPrefix? pattern path = some (String.ofList ('.' :: rest)) :=
      stripPrefix?_eq_some.mpr (by rw [same, String.toList_ofList])
    cases found.symm.trans stripped
  | some rest =>
    have same := stripPrefix?_eq_some.mp found
    rw [same]
    simp only [startsWith_iff, append_cancel_left_eq]
    exact Iff.rfl

theorem covers_trailing {lead : List Char} (code : isWorkflow pattern = false) (trailing : pattern.toList = lead ++ ['*', '*']) :
    covers pattern path = true ↔ ∃ rest, path.toList = lead ++ rest := by
  have stripped : stripSuffix? "**" pattern = some (String.ofList lead) :=
    stripSuffix?_eq_some.mpr (by rw [trailing, String.toList_ofList]; rfl)
  unfold covers
  split
  next same => simp [← same, trailing]
  rw [code, if_neg (by decide), stripped]
  simp [startsWith_iff]

theorem covers_name (code : isWorkflow pattern = false) (plain : ∀ lead, pattern.toList ≠ lead ++ ['*', '*']) :
    covers pattern path = true ↔ path = pattern := by
  have kept : stripSuffix? "**" pattern = none := by
    rw [Option.eq_none_iff_forall_ne_some]
    intro lead found
    exact plain lead.toList (stripSuffix?_eq_some.mp found)
  unfold covers
  split
  next same => simp [same]
  rename_i apart
  rw [code, if_neg (by decide), kept]
  simp [Ne.symm apart]

end

variable {globs : Globset}

section
variable {tokens : List Token}

theorem intersect_one (globs : Globset) (pattern path : String) : globs.intersectPaths [path] [pattern] =
      (globs.compileScopeGlob pattern).map fun matcher => if matcher path then [path] else [] := by
  simp only [Globset.intersectPaths, Globset.matchesAny, foldlM_cons, foldlM_nil]
  cases globs.compileScopeGlob pattern with
  | error failure => rfl
  | ok matcher => cases taken : matcher path <;> simp [taken, Except.map, bind, Except.bind, pure, Except.pure] <;> rfl

theorem agree_iff (documented : globs.Documented) (pattern : String) :
    (∀ path, globs.intersectPaths [path] [pattern] = .ok (if covers pattern path then [path] else [])) ↔
      ∃ tokens, read pattern.toList = some tokens ∧ ∀ path : String, accepts tokens path.toList = covers pattern path := by
  have one (taken covered : Bool) (path : String) :
      (if taken then [path] else []) = (if covered then [path] else []) ↔ taken = covered := by
    cases taken <;> cases covered <;> simp
  simp only [intersect_one, Globset.compileScopeGlob]
  cases failure : globs.error pattern with
  | some error =>
    have unread : ¬ (read pattern.toList).isSome := by
      rw [← documented.compiles, failure]
      simp
    simp only [Except.map, reduceCtorEq, forall_const, false_iff, not_exists, not_and]
    intro tokens reads
    simp [reads] at unread
  | none =>
    obtain ⟨tokens, reads⟩ := Option.isSome_iff_exists.mp ((documented.compiles pattern).mp failure)
    simp only [Except.map, Except.ok.injEq, one, reads, Option.some.injEq, exists_eq_left']
    exact forall_congr' fun path => by rw [documented.matching _ _ _ reads]

theorem literal_of_shortest (reads : read pattern.toList = some tokens)
    (agree : ∀ path : String, accepts tokens path.toList = covers pattern path)
    (shortest : ∀ path, covers pattern path = true → pattern.toList.length ≤ path.toList.length ∧
      (path.toList.length = pattern.toList.length → path = pattern)) : isLiteral pattern.toList = true := by
  have own : accepts tokens pattern.toList = true := by rw [agree, covers_self]
  have reached (text : List Char) (accepted : accepts tokens text = true) : pattern.toList.length ≤ text.length ∧
      (text.length = pattern.toList.length → text = pattern.toList) := by
    obtain ⟨least, only⟩ := shortest (String.ofList text) (by rw [← agree, String.toList_ofList, accepted])
    rw [String.toList_ofList] at least only
    refine ⟨least, fun same => ?_⟩
    rw [← only same, String.toList_ofList]
  rcases read_short reads with ⟨ordinary, rfl⟩ | less
  · rw [isLiteral, ordinary, Bool.true_and, decide_eq_true_eq]
    intro question
    have first := (reached _ (accepts_fill (c := 'a') (by decide))).2 (fill_length _ _)
    have second := (reached _ (accepts_fill (c := 'b') (by decide))).2 (fill_length _ _)
    exact fill_ne question (first.trans second.symm)
  · obtain ⟨used, few, accepted⟩ := accepts_short own
    have least := (reached used accepted).1
    omega

theorem alike_of_trailing {lead : List Char} (reads : read pattern.toList = some tokens)
    (agree : ∀ path : String, accepts tokens path.toList = covers pattern path) (code : isWorkflow pattern = false)
    (trailing : pattern.toList = lead ++ ['*', '*']) : lead = [] ∨ ∃ front, lead = front ++ ['/'] ∧ isLiteral front = true := by
  have own : accepts tokens pattern.toList = true := by rw [agree, covers_self]
  have reached (text : List Char) : accepts tokens text = true ↔ ∃ rest, text = lead ++ rest := by
    have given := agree (String.ofList text)
    rw [String.toList_ofList] at given
    rw [given, covers_trailing code trailing, String.toList_ofList]
  rcases read_stars (trailing ▸ reads) with ⟨ordinary, shape⟩ | less | ⟨before, rfl⟩
  · have plain : '?' ∉ lead := by
      intro question
      obtain ⟨_, first⟩ := (reached _).mp (shape.accepts_fill (c := 'a') (by decide))
      obtain ⟨_, second⟩ := (reached _).mp (shape.accepts_fill (c := 'b') (by decide))
      have same (c : Char) {rest : List Char} (starts : fill c lead = lead ++ rest) : fill c lead = lead := by
        have lengths := congrArg List.length starts
        rw [fill_length, length_append] at lengths
        have nothing : rest = [] := eq_nil_of_length_eq_zero (by omega)
        rw [starts, nothing, append_nil]
      exact fill_ne question ((same _ first).trans (same _ second).symm)
    cases shape with
    | everything => exact .inl rfl
    | entries front =>
      refine .inr ⟨front, rfl, ?_⟩
      simp only [simple, all_append, Bool.and_eq_true, mem_append, not_or] at ordinary plain
      simp [isLiteral, simple, ordinary.1, plain.1]
    | segment front last inside =>
      have beneath := (reached (front ++ [last] ++ ['/'])).mpr ⟨['/'], rfl⟩
      rw [rejects_segment plain] at beneath
      cases beneath
  · obtain ⟨used, few, accepted⟩ := accepts_short own
    obtain ⟨rest, rfl⟩ := (reached used).mp accepted
    rw [length_append] at few
    omega
  · have beneath := (reached (lead ++ ['/'])).mpr ⟨['/'], rfl⟩
    rw [rejects_separator] at beneath
    cases beneath

end

section

theorem isLiteral_iff {text : List Char} : isLiteral text = true ↔ simple text = true ∧ '?' ∉ text := by
  simp [isLiteral]

theorem isLiteral_ends {text lead : List Char} (literal : isLiteral text = true) : text ≠ lead ++ ['*', '*'] := by
  rintro rfl
  simp [isLiteral, simple, special] at literal

theorem readsAlike_iff : readsAlike pattern = true ↔ isWorkflow pattern = false ∧
    (isLiteral pattern.toList = true ∨ ∃ lead, pattern.toList = lead ++ ['*', '*'] ∧
      (lead = [] ∨ ∃ front, lead = front ++ ['/'] ∧ isLiteral front = true)) := by
  simp only [readsAlike, Bool.and_eq_true, Bool.not_eq_true', Bool.or_eq_true, decide_eq_true_eq, Option.any_eq_true,
    stripSuffix?_eq_some, or_assoc]
  refine and_congr_right fun _ => or_congr_right ?_
  constructor
  · rintro (rfl | ⟨front, same, literal⟩)
    · exact ⟨[], rfl, .inl rfl⟩
    · exact ⟨front.toList ++ ['/'], by rw [same, append_assoc]; rfl, .inr ⟨front.toList, rfl, literal⟩⟩
  · rintro ⟨lead, same, rfl | ⟨front, rfl, literal⟩⟩
    · exact .inl (String.ext same)
    · exact .inr ⟨String.ofList front, by rw [same, String.toList_ofList, append_assoc]; rfl,
        by rwa [String.toList_ofList]⟩

/-- What a pattern accepts is what it covers, exactly for names, everything
beneath a named directory, and everything. -/
theorem accepts_covered_iff (pattern : String) :
    (∃ tokens, read pattern.toList = some tokens ∧ ∀ path : String, accepts tokens path.toList = covers pattern path) ↔
      readsAlike pattern = true := by
  rw [readsAlike_iff]
  constructor
  · rintro ⟨tokens, reads, agree⟩
    have long {text rest : List Char} : text.length ≤ (text ++ '.' :: rest).length ∧
        ((text ++ '.' :: rest).length = text.length → text ++ '.' :: rest = text) := by
      rw [length_append, length_cons]
      exact ⟨Nat.le_add_right _ _, fun same => by omega⟩
    cases code : isWorkflow pattern with
    | true =>
      have literal : isLiteral pattern.toList = true := by
        refine literal_of_shortest reads agree fun path reached => ?_
        rcases (covers_workflow code).mp reached with rfl | ⟨rest, same⟩
        · exact ⟨Nat.le_refl _, fun _ => rfl⟩
        · rw [same]
          exact ⟨long.1, fun equal => String.ext (same.trans (long.2 equal))⟩
      have plain := isLiteral_iff.mp literal
      rw [read_simple plain.1] at reads
      cases reads
      have child := agree (String.ofList (pattern.toList ++ ['.']))
      rw [(covers_workflow code).mpr (.inr ⟨[], String.toList_ofList⟩), accepts_plain plain.2, String.toList_ofList] at child
      simp at child
    | false =>
      refine ⟨rfl, ?_⟩
      by_cases trailing : ∃ lead, pattern.toList = lead ++ ['*', '*']
      · obtain ⟨lead, same⟩ := trailing
        exact .inr ⟨lead, same, alike_of_trailing reads agree code same⟩
      · rw [not_exists] at trailing
        refine .inl (literal_of_shortest reads agree fun path reached => ?_)
        rw [(covers_name code trailing).mp reached]
        exact ⟨Nat.le_refl _, fun _ => rfl⟩
  · rintro ⟨code, literal | ⟨lead, same, shape⟩⟩
    · obtain ⟨ordinary, plain⟩ := isLiteral_iff.mp literal
      refine ⟨_, read_simple ordinary, fun path => ?_⟩
      rw [Bool.eq_iff_iff, accepts_plain plain, covers_name code fun lead => isLiteral_ends literal, String.toList_inj]
    · rcases shape with rfl | ⟨front, rfl, literal⟩
      · refine ⟨[.recursivePrefix], same ▸ read_trailing rfl .everything, fun path => ?_⟩
        rw [Bool.eq_iff_iff, covers_trailing code same]
        simp [accepts]
      · obtain ⟨ordinary, plain⟩ := isLiteral_iff.mp literal
        have whole : simple (front ++ ['/']) = true := by
          simp only [simple, all_append] at ordinary ⊢
          rw [ordinary]
          rfl
        refine ⟨_, same ▸ read_trailing whole (.entries front), fun path => ?_⟩
        rw [Bool.eq_iff_iff, covers_trailing code same, accepts_entries plain]
        simp only [append_assoc, singleton_append]

theorem insideScope_one (pattern path : String) : insideScope [pattern] path = covers pattern path := by simp [insideScope]

/-- The merge check and the declared scope answer alike on every path exactly for
the patterns both read alike. -/
theorem merge_reads_scope_alike (documented : globs.Documented) (pattern : String) :
    (∀ path, globs.intersectPaths [path] [pattern] = .ok (if insideScope [pattern] path then [path] else [])) ↔
      readsAlike pattern = true := by
  simp only [insideScope_one]
  rw [agree_iff documented, accepts_covered_iff]

variable {scope : List String}

theorem matchesAny_alike (documented : globs.Documented)
    (alike : ∀ declared ∈ scope, readsAlike declared = true) (path : String) :
    globs.matchesAny path scope = .ok (insideScope scope path) := by
  induction scope with
  | nil => rfl
  | cons declared scope ih =>
    obtain ⟨tokens, reads, agree⟩ := (accepts_covered_iff declared).mpr (alike declared mem_cons_self)
    have compiles : globs.error declared = none := (documented.compiles declared).mpr (by rw [reads]; rfl)
    have rest := ih fun other member => alike other (mem_cons_of_mem _ member)
    have here : globs.isMatch declared path = covers declared path := by rw [documented.matching _ _ _ reads, agree]
    simp only [Globset.matchesAny, Globset.compileScopeGlob, compiles, bind, Except.bind, here, rest, insideScope,
      any_cons]
    cases covers declared path <;> rfl

/-- A scope of such patterns has one answer for a whole change: the paths that
intersect it are those the merge check finds inside. -/
theorem intersect_alike (documented : globs.Documented)
    (alike : ∀ declared ∈ scope, readsAlike declared = true) (changed : List String) :
    globs.intersectPaths changed scope = .ok (sortDedup (changed.filter (insideScope scope))) := by
  have walk (found : List String) : changed.foldlM (fun found request => do
      return if ← globs.matchesAny request scope then found ++ [request] else found) found =
        (.ok (found ++ changed.filter (insideScope scope)) : Result (List String)) := by
    induction changed generalizing found with
    | nil => simp [pure, Except.pure]
    | cons path changed ih =>
      rw [foldlM_cons, matchesAny_alike documented alike]
      change changed.foldlM _ (if insideScope scope path = true then found ++ [path] else found) = _
      rw [ih, filter_cons]
      split <;> simp
  unfold Globset.intersectPaths
  rw [walk]
  rfl

theorem verifyScope_alike (documented : globs.Documented)
    (alike : ∀ declared ∈ scope, readsAlike declared = true) (declared : scope ≠ []) (resolved : String)
    (changed : List String) :
    verifyScope resolved changed scope = .ok ⟨resolved, changed⟩ ↔
      ∃ path, ∃ found, globs.intersectPaths changed scope = .ok found ∧ path ∈ found := by
  simp only [intersect_alike documented alike, Except.ok.injEq, exists_eq_left', mem_sortDedup, mem_filter]
  unfold verifyScope
  rw [isEmpty_eq_false_iff.mpr declared]
  cases touched : changed.any (insideScope scope) with
  | true => simpa [pure, Except.pure, bind, Except.bind] using any_eq_true.mp touched
  | false =>
    simp only [any_eq_false] at touched
    refine iff_of_false (fun passed => by cases passed) ?_
    rintro ⟨path, member, inside⟩
    exact touched path member inside

end

theorem Globset.plain_documented : Globset.plain.Documented where
  compiles pattern := by
    simp only [Globset.plain]
    split <;> simp_all
  matching pattern tokens path reads := by simp [Globset.plain, Glob.isMatch, reads]

theorem merge_reads_scope_alike_beneath : Globset.plain.intersectPaths ["docs/adr/0024.md"] ["docs/**"] =
        .ok (if insideScope ["docs/**"] "docs/adr/0024.md" then ["docs/adr/0024.md"] else []) ∧
      insideScope ["docs/**"] "docs/adr/0024.md" = true :=
  ⟨(merge_reads_scope_alike Globset.plain_documented "docs/**").mpr (by decide +kernel) "docs/adr/0024.md", by decide +kernel⟩

/-- A file that a declared `src/*.rs` matches is outside the scope of its merge. -/
theorem one_star_read_twice : ¬ ∀ globs : Globset, globs.Documented → ∀ pattern path,
    globs.intersectPaths [path] [pattern] = .ok (if insideScope [pattern] path then [path] else []) := by
  intro always
  have read := always Globset.plain Globset.plain_documented "src/*.rs" "src/a.rs"
  have matched : Globset.plain.intersectPaths ["src/a.rs"] ["src/*.rs"] = .ok ["src/a.rs"] := by decide +kernel
  have outside : insideScope ["src/*.rs"] "src/a.rs" = false := by decide +kernel
  rw [matched, outside] at read
  cases read

end MindLeak.Lodestar
