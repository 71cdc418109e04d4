import MindLeak.Library.Runs

/-! Batches: items handled one after another up to the first refusal, which
answers for the whole batch. -/

namespace MindLeak.Batch

open List

universe u v w x
variable {ι : Type u} {σ : Type v} {φ : Type w} {ρ : Type x}

/-- The answers of a batch that went through, in order; a refusal drops those before it. -/
def process (step : ι → σ → Except φ ρ × σ) : List ι → List ρ → σ → Except φ (List ρ) × σ
  | [], answers, state => (.ok answers, state)
  | item :: rest, answers, state =>
    match step item state with
    | (.error refusal, after) => (.error refusal, after)
    | (.ok answer, after) => process step rest (answers ++ [answer]) after

def met (step : ι → σ → Except φ ρ × σ) : List ι → σ → List (ι × σ)
  | [], _ => []
  | item :: rest, state =>
    (item, state) ::
      match step item state with
      | (.error _, _) => []
      | (.ok _, after) => met step rest after

inductive Passes (step : ι → σ → Except φ ρ × σ) : List ι → σ → List ρ → σ → Prop
  | nil {state : σ} : Passes step [] state [] state
  | cons {item : ι} {rest : List ι} {answer : ρ} {answers : List ρ} {state middle last : σ}
      (first : step item state = (.ok answer, middle)) (later : Passes step rest middle answers last) :
      Passes step (item :: rest) state (answer :: answers) last

variable {step : ι → σ → Except φ ρ × σ} {entry : ι} {items rest : List ι} {answer : ρ} {answers all : List ρ}
  {state middle last : σ} {refusal : φ}

theorem process_refused (one : step entry state = (.error refusal, last)) :
    process step (entry :: rest) answers state = (.error refusal, last) := by rw [process, one]

theorem process_passed (one : step entry state = (.ok answer, middle)) :
    process step (entry :: rest) answers state = process step rest (answers ++ [answer]) middle := by rw [process, one]

theorem met_refused (one : step entry state = (.error refusal, last)) : met step (entry :: rest) state = [(entry, state)] := by
  rw [met, one]

theorem met_passed (one : step entry state = (.ok answer, middle)) :
    met step (entry :: rest) state = (entry, state) :: met step rest middle := by rw [met, one]

theorem process_ok_iff : process step items answers state = (.ok all, last) ↔
    ∃ given, all = answers ++ given ∧ Passes step items state given last := by
  induction items generalizing answers state with
  | nil =>
    constructor
    · intro done
      cases done
      exact ⟨[], (append_nil _).symm, .nil⟩
    · rintro ⟨given, rfl, passes⟩
      cases passes
      exact congrArg (fun all => (Except.ok all, _)) (append_nil _).symm
  | cons item rest ih =>
    constructor
    · intro done
      rcases one : step item state with ⟨refusal | answer, middle⟩
      · rw [process_refused one] at done
        cases done
      rw [process_passed one] at done
      obtain ⟨given, rfl, later⟩ := ih.mp done
      exact ⟨answer :: given, by simp, .cons one later⟩
    · rintro ⟨given, rfl, passes⟩
      cases passes with
      | cons first later =>
        rw [process_passed first]
        exact ih.mpr ⟨_, by simp, later⟩

theorem process_error_iff : process step items answers state = (.error refusal, last) ↔
    ∃ before item after given middle, items = before ++ item :: after ∧ Passes step before state given middle ∧
      step item middle = (.error refusal, last) := by
  induction items generalizing answers state with
  | nil =>
    constructor
    · intro done
      cases done
    · rintro ⟨before, item, after, _, _, split, _⟩
      cases before <;> cases split
  | cons item rest ih =>
    constructor
    · intro done
      rcases one : step item state with ⟨failure | answer, middle⟩
      · rw [process_refused one] at done
        cases done
        exact ⟨[], item, rest, [], state, rfl, .nil, one⟩
      rw [process_passed one] at done
      obtain ⟨before, stopped, after, given, final, rfl, passes, refused⟩ := ih.mp done
      exact ⟨item :: before, stopped, after, answer :: given, final, rfl, .cons one passes, refused⟩
    · rintro ⟨before, stopped, after, given, final, split, passes, refused⟩
      cases passes with
      | nil =>
        cases split
        exact process_refused refused
      | cons first later =>
        cases split
        rw [process_passed first]
        exact ih.mpr ⟨_, stopped, after, _, final, rfl, later, refused⟩

theorem mem_met {found : σ} : (entry, found) ∈ met step items state ↔
    ∃ before after given, items = before ++ entry :: after ∧ Passes step before state given found := by
  induction items generalizing state with
  | nil =>
    constructor
    · intro member
      cases member
    · rintro ⟨before, _, _, split, _⟩
      cases before <;> cases split
  | cons first rest ih =>
    constructor
    · intro member
      rcases one : step first state with ⟨refusal | answer, middle⟩
      · rw [met_refused one, mem_singleton] at member
        cases member
        exact ⟨[], rest, [], rfl, .nil⟩
      rw [met_passed one] at member
      rcases mem_cons.mp member with here | later
      · cases here
        exact ⟨[], rest, [], rfl, .nil⟩
      obtain ⟨before, after, given, rfl, passes⟩ := ih.mp later
      exact ⟨first :: before, after, answer :: given, rfl, .cons one passes⟩
    · rintro ⟨before, after, given, split, passes⟩
      cases passes with
      | nil =>
        cases split
        exact mem_cons_self
      | cons one later =>
        cases split
        rw [met_passed one]
        exact mem_cons_of_mem _ (ih.mpr ⟨_, after, _, rfl, later⟩)

theorem process_keeps (good : σ → Prop) (keeps : ∀ item before, good before → good (step item before).2)
    (initial : good state) : good (process step items answers state).2 := by
  induction items generalizing answers state with
  | nil => exact initial
  | cons item rest ih =>
    have kept := keeps item state initial
    rcases one : step item state with ⟨refusal | answer, middle⟩ <;> rw [one] at kept
    · rwa [process_refused one]
    · rw [process_passed one]
      exact ih kept

variable {given : List ρ}

section
variable (passes : Passes step items state given last)
include passes

theorem Passes.keeps (good : σ → Prop)
    (keeps : ∀ item before, good before → good (step item before).2) (initial : good state) : good last := by
  induction passes with
  | nil => exact initial
  | @cons item _ _ _ state middle _ first _ ih =>
    have one := keeps item state initial
    rw [first] at one
    exact ih one

theorem Passes.answered :
    ∀ visit ∈ met step items state, ∃ answer ∈ given, (step visit.1 visit.2).1 = .ok answer := by
  induction passes with
  | nil =>
    intro visit member
    cases member
  | @cons item rest answer answers state middle last first later ih =>
    rw [met_passed first]
    refine forall_mem_cons.mpr ⟨⟨answer, mem_cons_self, by rw [first]⟩, fun visit member => ?_⟩
    obtain ⟨given, listed, did⟩ := ih visit member
    exact ⟨given, mem_cons_of_mem _ listed, did⟩

theorem Passes.item (member : entry ∈ items) :
    ∃ found answer middle rest later, (entry, found) ∈ met step items state ∧ answer ∈ given ∧
      step entry found = (.ok answer, middle) ∧ Passes step rest middle later last := by
  induction passes with
  | nil => cases member
  | @cons first rest answer answers state middle last one later ih =>
    rcases mem_cons.mp member with rfl | inside
    · exact ⟨state, answer, middle, rest, answers, mem_cons_self, mem_cons_self, one, later⟩
    obtain ⟨found, given, middle', rest', later', visited, answered, did, onward⟩ := ih inside
    refine ⟨found, given, middle', rest', later', ?_, mem_cons_of_mem _ answered, did, onward⟩
    rw [met_passed one]
    exact mem_cons_of_mem _ visited

end

end MindLeak.Batch
