import MindLeak.Proofs.Chains

/-! What a source stands for once its text has been recorded. -/

namespace MindLeak.Lodestar.KnowledgeBase

open Option Table

variable {env : Env} {decay : Decay} {k : KnowledgeBase} {statement evidence : String} {halfLifeHours : UInt64} {sourceRef actor : String} {now : Int}

theorem upsertKnowledge_row (env : Env) (decay : Decay) (k : KnowledgeBase) (statement evidence : String) (halfLifeHours : UInt64) (now : Int) :
    ∃ row, (k.upsertKnowledge env decay statement evidence halfLifeHours now).2.getKnowledge (knowledgeId env statement) = some row ∧
      row.retiredAt = (k.getKnowledge (knowledgeId env statement)).bind KnowledgeRow.retiredAt ∧
      row.statement = ((k.getKnowledge (knowledgeId env statement)).map KnowledgeRow.statement).getD statement := by
  cases was : k.getKnowledge (knowledgeId env statement) with
  | none =>
    have free : ∃ rows, k.rows.insert?
        { id := knowledgeId env statement, statement := statement, evidence := evidence, weight := FULL_WEIGHT
          halfLifeHours := halfLifeHours, confirmedAt := now, createdAt := now } = some rows := insert?_of_fresh was
    obtain ⟨rows, inserted⟩ := free
    simp only [upsertKnowledge, inserted]
    exact ⟨_, (find?_insert inserted (knowledgeId env statement)).trans (if_pos rfl), rfl, rfl⟩
  | some row =>
    have taken : k.rows.insert?
        { id := knowledgeId env statement, statement := statement, evidence := evidence, weight := FULL_WEIGHT
          halfLifeHours := halfLifeHours, confirmedAt := now, createdAt := now } = none := by
      obtain ⟨member, named⟩ := mem_of_find? was
      exact dif_neg fun fresh => fresh (List.mem_map.mpr ⟨row, member, named⟩)
    simp only [upsertKnowledge, taken, getKnowledge, find?_update]
    have named : row.id = knowledgeId env statement := (mem_of_find? was).2
    rw [show k.rows.find? (knowledgeId env statement) = some row from was, map_some, if_pos (decide_eq_true named)]
    exact ⟨_, rfl, rfl, rfl⟩

theorem retireReplaced_sources (replaced : Option String) (id : String) :
    (k.retireReplaced replaced id sourceRef actor now).2.sources = k.sources := by
  unfold retireReplaced
  split
  · rfl
  · split <;> rfl

theorem moveSource_stands (id : String) : ((k.moveSource sourceRef id now).sources.find? sourceRef).map KnowledgeSource.knowledgeId = some id := by
  have there : ∃ source, (k.sources.insertOrIgnore (⟨sourceRef, id, now⟩ : KnowledgeSource)).find? sourceRef = some source := by
    rw [find?_insertOrIgnore]
    exact ⟨_, if_pos rfl⟩
  obtain ⟨source, found⟩ := there
  have named : source.sourceRef = sourceRef := (mem_of_find? found).2
  simp only [moveSource, find?_update]
  rw [found, map_some, map_some, if_pos (decide_eq_true named)]

theorem recordSourcedKnowledge_reads (env : Env) (decay : Decay) (k : KnowledgeBase) (statement evidence : String) (halfLifeHours : UInt64)
    (sourceRef actor : String) (now : Int) :
    ∃ answer after, k.recordSourcedKnowledge env decay statement evidence halfLifeHours sourceRef actor now = .ok (answer, after) ∧
      after.getKnowledge (knowledgeId env statement) =
        (k.upsertKnowledge env decay statement evidence halfLifeHours now).2.getKnowledge (knowledgeId env statement) ∧
      (after.sources.find? sourceRef).map KnowledgeSource.knowledgeId = some (knowledgeId env statement) := by
  obtain ⟨answer, after, done, rows⟩ := recordSourcedKnowledge_ok env decay k statement evidence halfLifeHours sourceRef actor now
  refine ⟨answer, after, done, ?_, ?_⟩
  · unfold getKnowledge
    rw [rows]
    cases replaced : k.replacedBy (knowledgeId env statement) sourceRef with
    | none => rfl
    | some previous =>
      have apart : previous ≠ knowledgeId env statement := by
        have guards := (filter_eq_some_iff.mp replaced).2
        simp only [Bool.and_eq_true, decide_eq_true_eq] at guards
        exact guards.1.1
      rw [elim_some, retire]
      simp only [find?_update]
      cases found : (k.upsertKnowledge env decay statement evidence halfLifeHours now).2.rows.find? (knowledgeId env statement) with
      | none => rfl
      | some row =>
        have named : row.id = knowledgeId env statement := (mem_of_find? found).2
        rw [map_some, if_neg (by simp [named, Ne.symm apart])]
  · simp only [recordSourcedKnowledge, upsertKnowledge_id] at done
    split at done
    · cases done
    · cases done
      rw [retireReplaced_sources]
      exact moveSource_stands _

/-- A source that its text has been recorded for stands for a lesson with that text where the text was not recorded before, or its lesson
has not been retired. -/
theorem recorded_source_active_iff (env : Env) (decay : Decay) (k : KnowledgeBase) (statement evidence : String) (halfLifeHours : UInt64)
    (sourceRef actor : String) (now : Int) :
    ∃ answer after, k.recordSourcedKnowledge env decay statement evidence halfLifeHours sourceRef actor now = .ok (answer, after) ∧
      ((∃ lesson, after.activeKnowledgeForSource sourceRef = some lesson ∧ lesson.statement = statement) ↔
        ∀ was, k.getKnowledge (knowledgeId env statement) = some was → was.retiredAt = none ∧ was.statement = statement) := by
  obtain ⟨answer, after, done, row, source⟩ := recordSourcedKnowledge_reads env decay k statement evidence halfLifeHours sourceRef actor now
  obtain ⟨held, found, retired, text⟩ := upsertKnowledge_row env decay k statement evidence halfLifeHours now
  refine ⟨answer, after, done, ?_⟩
  obtain ⟨stands, there, names⟩ := map_eq_some_iff.mp source
  have active : after.activeKnowledgeForSource sourceRef = (some held).filter fun row => row.retiredAt.isNone := by
    rw [activeKnowledgeForSource, there, bind_some, names, row, found]
  have holds : (∃ lesson, after.activeKnowledgeForSource sourceRef = some lesson ∧ lesson.statement = statement) ↔
      held.retiredAt = none ∧ held.statement = statement := by
    rw [active, filter_some]
    cases ended : held.retiredAt <;> simp
  rw [holds, retired, text]
  cases was : k.getKnowledge (knowledgeId env statement) with
  | none | some => simp

def revisited (texts : List String) : KnowledgeBase :=
  texts.foldl (fun k text =>
    match k.recordSourcedKnowledge Env.plain Decay.plain text "artifact:src/a.rs" 0 "/memories/repo/notes.md#style" "ann" 1 with
    | .ok (_, after) => after
    | .error _ => k) {}

/-- The text that was recorded last is the one that no reader of the source gets. -/
theorem revisited_text_counterexample :
    ((revisited ["tabs", "spaces", "tabs"]).sources.find? "/memories/repo/notes.md#style").map KnowledgeSource.knowledgeId =
        some (knowledgeId Env.plain "tabs") ∧
      (revisited ["tabs", "spaces", "tabs"]).activeKnowledgeForSource "/memories/repo/notes.md#style" = none := by decide +kernel

end MindLeak.Lodestar.KnowledgeBase
