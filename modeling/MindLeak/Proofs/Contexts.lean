import Mathlib.Algebra.Order.Ring.Unbundled.Rat
import Mathlib.Data.Prod.Lex
import Mathlib.Data.String.Basic
import MindLeak.Core.Context
import MindLeak.Library.Runs

/-! What is in a compiled packet: every candidate is placed once, and the budget holds where the parts
that are never candidates leave room for what was taken before they were charged. -/

namespace MindLeak.Core

open List

def Candidate.above (a b : Candidate) : Prop := b.rank < a.rank ∨ a.rank = b.rank ∧ a.id < b.id

section
variable {ν : Type} {sizes : Serialized ν} {parts : ContextParts} {maxTokens : Nat} {governing : ν} {packet : CompiledContext ν}
  {candidate : Candidate} {candidates : List Candidate} {packing : Packing}

structure Packed (sizes : Serialized ν) (parts : ContextParts) (packet : CompiledContext ν) (kept left : List Candidate) : Prop where
  disposed : (kept ++ left).Perm (parts.candidates sizes)
  once : (kept ++ left).Nodup
  facts : packet.facts.map some = (kept.filter fun c => c.source = .fact).map fun c => parts.facts[c.index]?
  workingSet : packet.workingSet.map some = (kept.filter fun c => c.source = .working).map fun c => parts.workingSet[c.index]?
  excluded : packet.budgetReport.excluded = left.map fun c => ⟨c.id, c.rank⟩
  prefers : ∀ passed ∈ left, ∀ taken ∈ kept, passed.above taken → taken.estimatedTokens < passed.estimatedTokens

structure KeepsBudget (sizes : Serialized ν) (parts : ContextParts) (maxTokens : Nat) (packet : CompiledContext ν) : Prop where
  packed : ∃ kept left, Packed sizes parts packet kept left
  counted : packet.budgetReport.tokensUsed = (packet.facts.map fun f => estimateTokens (sizes.fact f)).sum +
    (packet.workingSet.map fun w => estimateTokens (sizes.working w)).sum + packet.fixedTokens sizes packet.governing
  bounded : packet.fixedTokens sizes packet.governing ≤ maxTokens → packet.budgetReport.tokensUsed ≤ maxTokens

theorem foldl_place : candidates.foldl (Packing.place maxTokens) packing =
    let (kept, left) := greedy (·.estimatedTokens) maxTokens packing.tokensUsed candidates
    { keptFactIndices := packing.keptFactIndices ++ (kept.filter fun c => c.source = .fact).map (·.index)
      keptWorkingIndices := packing.keptWorkingIndices ++ (kept.filter fun c => c.source = .working).map (·.index)
      excluded := packing.excluded ++ left.map fun c => ⟨c.id, c.rank⟩
      tokensUsed := packing.tokensUsed + (kept.map (·.estimatedTokens)).sum } := by
  induction candidates generalizing packing with
  | nil => simp [greedy]
  | cons candidate rest ih =>
    rw [foldl_cons, ih]
    by_cases fits : packing.tokensUsed + candidate.estimatedTokens ≤ maxTokens
    · rw [greedy_fits fits]
      cases from_ : candidate.source <;> simp [Packing.place, fits, from_, Nat.add_assoc]
    · rw [greedy_passes fits]
      simp [Packing.place, fits]

theorem nodup_mapIdx {α β : Type} {items : List α} {f : Nat → α → β} (place : β → Nat) (placed : ∀ index item, place (f index item) = index) :
    (items.mapIdx f).Nodup := by
  refine pairwise_iff_getElem.mpr fun i j _ _ before same => ?_
  rw [getElem_mapIdx, getElem_mapIdx] at same
  have equal := congrArg place same
  rw [placed, placed] at equal
  omega

theorem candidates_nodup : (parts.candidates sizes).Nodup := by
  refine nodup_append.mpr ⟨nodup_mapIdx Candidate.index fun _ _ => rfl, nodup_mapIdx Candidate.index fun _ _ => rfl, ?_⟩
  rintro a fact b working rfl
  obtain ⟨_, _, rfl⟩ := mem_mapIdx.mp fact
  obtain ⟨_, _, same⟩ := mem_mapIdx.mp working
  cases congrArg Candidate.source same

theorem mem_candidates (member : candidate ∈ parts.candidates sizes) :
    (candidate.source = .fact → ∃ f, parts.facts[candidate.index]? = some f ∧ candidate.estimatedTokens = estimateTokens (sizes.fact f)) ∧
      (candidate.source = .working →
        ∃ w, parts.workingSet[candidate.index]? = some w ∧ candidate.estimatedTokens = estimateTokens (sizes.working w)) := by
  rcases mem_append.mp member with fact | working
  · obtain ⟨index, inside, rfl⟩ := mem_mapIdx.mp fact
    exact ⟨fun _ => ⟨_, List.getElem?_eq_getElem inside, rfl⟩, nofun⟩
  · obtain ⟨index, inside, rfl⟩ := mem_mapIdx.mp working
    exact ⟨nofun, fun _ => ⟨_, List.getElem?_eq_getElem inside, rfl⟩⟩

theorem filterMap_places {α : Type} {items : List α} {cost : α → Nat} {chosen : List Candidate}
    (there : ∀ c ∈ chosen, ∃ item, items[c.index]? = some item ∧ c.estimatedTokens = cost item) :
    (((chosen.map (·.index)).filterMap (items[·]?)).map some = chosen.map fun c => items[c.index]?) ∧
      (((chosen.map (·.index)).filterMap (items[·]?)).map cost).sum = (chosen.map (·.estimatedTokens)).sum := by
  induction chosen with
  | nil => exact ⟨rfl, rfl⟩
  | cons c rest ih =>
    obtain ⟨here, others⟩ := forall_mem_cons.mp there
    obtain ⟨item, found, estimated⟩ := here
    obtain ⟨listed, total⟩ := ih others
    simp only [map_cons, filterMap_cons, found, sum_cons, listed, total, estimated, and_self]

theorem sum_by_source : (candidates.map (·.estimatedTokens)).sum =
    ((candidates.filter fun c => c.source = .fact).map (·.estimatedTokens)).sum +
      ((candidates.filter fun c => c.source = .working).map (·.estimatedTokens)).sum := by
  induction candidates with
  | nil => rfl
  | cons c rest ih =>
    cases from_ : c.source <;> simp only [map_cons, sum_cons, filter_cons, from_, ih, reduceCtorEq, decide_true, decide_false,
      if_true, if_false, Bool.false_eq_true] <;> omega

theorem rankForContext_sorted : (rankForContext candidates).Pairwise fun a b => ¬b.above a := by
  refine (sorted_by_key (fun c : Candidate => toLex (OrderDual.toDual c.rank, c.id)) fun a b => ?_).imp ?_
  · rw [Prod.Lex.toLex_le_toLex]
    rfl
  intro a b ordered above
  exact not_lt.mpr ordered (Prod.Lex.toLex_lt_toLex.mpr above)

/-- What is taken and what is left out, before the fixed parts are charged. -/
def ContextParts.packed (parts : ContextParts) (sizes : Serialized ν) (maxTokens : Nat) : List Candidate × List Candidate :=
  greedy (·.estimatedTokens) maxTokens 0 (rankForContext (parts.candidates sizes))

theorem packed_perm : ((parts.packed sizes maxTokens).1 ++ (parts.packed sizes maxTokens).2).Perm (parts.candidates sizes) :=
  greedy_perm.trans (perm_insertionSort _ _)

theorem taken_there (source : Source) : ∀ c ∈ (parts.packed sizes maxTokens).1.filter fun c => c.source = source,
    c ∈ parts.candidates sizes ∧ c.source = source := by
  intro c member
  obtain ⟨taken, from_⟩ := mem_filter.mp member
  exact ⟨packed_perm.subset (mem_append_left _ taken), of_decide_eq_true from_⟩

theorem facts_there : ∀ c ∈ (parts.packed sizes maxTokens).1.filter fun c => c.source = .fact,
    ∃ f, parts.facts[c.index]? = some f ∧ c.estimatedTokens = estimateTokens (sizes.fact f) := fun c member =>
  (mem_candidates (taken_there .fact c member).1).1 (taken_there .fact c member).2

theorem working_there : ∀ c ∈ (parts.packed sizes maxTokens).1.filter fun c => c.source = .working,
    ∃ w, parts.workingSet[c.index]? = some w ∧ c.estimatedTokens = estimateTokens (sizes.working w) := fun c member =>
  (mem_candidates (taken_there .working c member).1).2 (taken_there .working c member).2

theorem compile_eq : parts.compile sizes maxTokens governing =
    { facts := (((parts.packed sizes maxTokens).1.filter fun c => c.source = .fact).map (·.index)).filterMap (parts.facts[·]?)
      workingSet := (((parts.packed sizes maxTokens).1.filter fun c => c.source = .working).map (·.index)).filterMap (parts.workingSet[·]?)
      governing
      evidence := parts.evidence
      budgetReport := ⟨maxTokens, ((parts.packed sizes maxTokens).1.map (·.estimatedTokens)).sum + parts.fixedTokens sizes governing,
        (parts.packed sizes maxTokens).2.map fun c => ⟨c.id, c.rank⟩⟩ } := by
  unfold ContextParts.compile
  rw [foldl_place]
  simp only [nil_append, Nat.zero_add]
  rfl

theorem compile_packed : Packed sizes parts (parts.compile sizes maxTokens governing) (parts.packed sizes maxTokens).1
    (parts.packed sizes maxTokens).2 := by
  rw [compile_eq]
  exact ⟨packed_perm, packed_perm.nodup_iff.mpr candidates_nodup, (filterMap_places facts_there).1, (filterMap_places working_there).1,
    rfl, fun passed out taken inside => greedy_prefers rankForContext_sorted out inside⟩

theorem compile_counted : (parts.compile sizes maxTokens governing).budgetReport.tokensUsed =
    ((parts.compile sizes maxTokens governing).facts.map fun f => estimateTokens (sizes.fact f)).sum +
      ((parts.compile sizes maxTokens governing).workingSet.map fun w => estimateTokens (sizes.working w)).sum +
        parts.fixedTokens sizes governing := by
  rw [compile_eq]
  rw [(filterMap_places facts_there).2, (filterMap_places working_there).2, sum_by_source]

/-- The budget is kept exactly where whatever fits beside the candidates above it would also fit beside the fixed
parts, if these fit at all. -/
theorem compile_keeps_budget_iff : KeepsBudget sizes parts maxTokens (parts.compile sizes maxTokens governing) ↔
    (parts.fixedTokens sizes governing ≤ maxTokens → Spares (·.estimatedTokens) (maxTokens - parts.fixedTokens sizes governing) maxTokens 0
      (rankForContext (parts.candidates sizes))) := by
  have spares : 0 + ((parts.packed sizes maxTokens).1.map (·.estimatedTokens)).sum ≤ maxTokens - parts.fixedTokens sizes governing ↔
      Spares (·.estimatedTokens) (maxTokens - parts.fixedTokens sizes governing) maxTokens 0 (rankForContext (parts.candidates sizes)) :=
    greedy_spares (Nat.zero_le _)
  have used : (parts.compile sizes maxTokens governing).budgetReport.tokensUsed =
      ((parts.packed sizes maxTokens).1.map (·.estimatedTokens)).sum + parts.fixedTokens sizes governing := by rw [compile_eq]
  constructor
  · intro kept fits
    have within := kept.bounded fits
    exact spares.mp (by omega)
  · intro spared
    refine ⟨⟨_, _, compile_packed⟩, compile_counted, fun fits => ?_⟩
    have within := spares.mpr (spared fits)
    change parts.fixedTokens sizes governing ≤ maxTokens at fits
    omega

variable {recalled : String → Nat → Result (List ScoredNode)} {math : FloatMath} {settings : GraphSettings} {g : Graph} {now : Int}
  {agent : String} {query : Option String} {recallLimit : Nat} {workingSetLimit : Option Nat}
  {evidenceWindow : Option (Option String × Int × Int)}

/-- What a compiled packet is made of, and when it keeps its budget. -/
theorem compiled_context_keeps_budget_iff (compiled : compileContext sizes recalled math settings g now agent query recallLimit
    workingSetLimit maxTokens evidenceWindow governing = .ok packet) :
    ∃ parts, contextParts recalled math settings g now agent query recallLimit workingSetLimit evidenceWindow = .ok parts ∧
      (KeepsBudget sizes parts maxTokens packet ↔ (parts.fixedTokens sizes governing ≤ maxTokens →
          Spares (·.estimatedTokens) (maxTokens - parts.fixedTokens sizes governing) maxTokens 0 (rankForContext (parts.candidates sizes)))) := by
  obtain ⟨parts, read, done⟩ := bind_ok compiled
  cases done
  exact ⟨parts, read, compile_keeps_budget_iff⟩

end

/-- A recalled file takes 32 tokens, and the governing value 6. -/
def recalledFile : ScoredNode := ⟨Node.new "artifact:a.rs" .artifact "a.rs" 0, 0, 1 / 2⟩

/-- The lengths of their JSON: the file has a content of `null`, a depth of `0` and a score of `0.5`. -/
def fileSizes : Serialized String := ⟨fun _ => some 128, fun _ => some 0, fun _ => some 0, fun json => some json.utf8ByteSize⟩

abbrev compiledFor (maxTokens : Nat) : Result (CompiledContext String) :=
  compileContext fileSizes (fun _ _ => .ok [recalledFile]) ⟨id, id, id⟩ ⟨⟨[], 1 / 20⟩, 12⟩ .empty 0 "ann" (some "file") 5 none maxTokens none
    "\x7b\"disposition\":\"proceed\"\x7d"

def fileParts : ContextParts := ⟨[recalledFile], [], none⟩

theorem compiledFor_parts : contextParts (fun _ _ => .ok [recalledFile]) ⟨id, id, id⟩ ⟨⟨[], 1 / 20⟩, 12⟩ .empty 0 "ann" (some "file") 5 none
    none = .ok fileParts := by
  decide +kernel

/-- With room for both, the packet keeps its budget. -/
theorem compiled_context_in_budget : ∃ packet, compiledFor 38 = .ok packet ∧ KeepsBudget fileSizes fileParts 38 packet := by
  obtain ⟨parts, read, keeps⟩ := compiled_context_keeps_budget_iff (show compiledFor 38 = .ok _ from rfl)
  cases compiledFor_parts.symm.trans read
  exact ⟨_, rfl, keeps.mpr fun _ => ⟨by decide, trivial⟩⟩

theorem compiled_context_counterexample : ¬∀ maxTokens packet, compiledFor maxTokens = .ok packet →
    KeepsBudget fileSizes fileParts maxTokens packet := by
  intro keeps
  have bounded := (keeps 34 _ rfl).bounded
  exact absurd (bounded (by decide +kernel)) (by decide +kernel)

end MindLeak.Core
