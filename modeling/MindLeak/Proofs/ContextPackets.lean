import Mathlib
import MindLeak.Ackplane.ContextPacket
import MindLeak.Library.Runs
import MindLeak.Library.Selection

/-! What a compiled context packet holds, in whatever order its candidates came. Optional
candidates break a packet where a running total passes `u32::MAX`, and where one that fits
belongs to another tenant. -/

namespace MindLeak.Ackplane

open List Except

section
variable {α ε : Type} {idOf : α → String} {first later : α → Except ε Unit} {duplicate : String → ε} {seen out : List String}
  {item : α} {items : List α}

theorem bind_ok_iff {β γ : Type} {first : Except ε β} {next : β → Except ε γ} {value : γ} :
    (first >>= next) = .ok value ↔ ∃ middle, first = .ok middle ∧ next middle = .ok value := by
  refine ⟨bind_ok, ?_⟩
  rintro ⟨middle, returned, done⟩
  rw [ok_bind returned, done]

theorem bind_unit_iff {γ : Type} {first : Except ε Unit} {next : Unit → Except ε γ} {value : γ} :
    (first >>= next) = .ok value ↔ first = .ok () ∧ next () = .ok value := by
  rw [bind_ok_iff]
  exact ⟨fun ⟨_, both⟩ => both, fun both => ⟨(), both⟩⟩

theorem ite_ok_iff {γ : Type} {p : Prop} [Decidable p] {error : ε} {next : Except ε γ} {value : γ} :
    (if p then .error error else next) = .ok value ↔ ¬p ∧ next = .ok value := by
  by_cases refused : p
  · simp [refused]
  · simp [refused]

theorem enterEach_cons : enterEach idOf first duplicate later seen (item :: items) = .ok out ↔
    first item = .ok () ∧ idOf item ∉ seen ∧ later item = .ok () ∧
      enterEach idOf first duplicate later (seen ++ [idOf item]) items = .ok out := by
  unfold enterEach
  rw [foldlM_cons, bind_ok_iff]
  simp only [bind_unit_iff, ite_ok_iff, ok.injEq, and_assoc]
  constructor
  · rintro ⟨middle, passed, fresh, also, rfl, done⟩
    exact ⟨passed, fresh, also, done⟩
  · rintro ⟨passed, fresh, also, done⟩
    exact ⟨_, passed, fresh, also, rfl, done⟩

theorem enterEach_ok (distinct : seen.Nodup) : enterEach idOf first duplicate later seen items = .ok out ↔
    (∀ item ∈ items, first item = .ok () ∧ later item = .ok ()) ∧ (seen ++ items.map idOf).Nodup ∧ out = seen ++ items.map idOf := by
  induction items generalizing seen with
  | nil => simp [enterEach, distinct, pure, Except.pure, eq_comm]
  | cons item items ih =>
    rw [enterEach_cons, forall_mem_cons, map_cons, append_cons seen (idOf item) (items.map idOf)]
    constructor
    · rintro ⟨passed, fresh, also, done⟩
      have extended : (seen ++ [idOf item]).Nodup := nodup_append.mpr ⟨distinct, nodup_singleton _, by
        rintro a inside b single rfl
        exact fresh (mem_singleton.mp single ▸ inside)⟩
      obtain ⟨each, nodup, rfl⟩ := (ih extended).mp done
      exact ⟨⟨⟨passed, also⟩, each⟩, nodup, rfl⟩
    · rintro ⟨⟨⟨passed, also⟩, each⟩, nodup, rfl⟩
      have extended := (nodup_append.mp nodup).1
      refine ⟨passed, fun inside => ?_, also, (ih extended).mpr ⟨each, nodup, rfl⟩⟩
      exact (nodup_append.mp extended).2.2 _ inside _ (mem_singleton_self _) rfl

theorem foldlM_checked {overflow : ε} {estimates : List Nat} {start total : Nat} (small : start ≤ U32_MAX) :
    estimates.foldlM (m := Except ε) (fun total estimate =>
      if total + estimate ≤ U32_MAX then .ok (total + estimate) else .error overflow) start = .ok total ↔ start + estimates.sum ≤ U32_MAX ∧ total = start + estimates.sum := by
  induction estimates generalizing start with
  | nil => simp [pure, Except.pure, small, eq_comm]
  | cons estimate rest ih =>
    rw [foldlM_cons, bind_ok_iff, sum_cons, ← Nat.add_assoc]
    by_cases fits : start + estimate ≤ U32_MAX
    · rw [if_pos fits]
      simp only [ok.injEq, exists_eq_left']
      exact ih fits
    · rw [if_neg fits]
      simp only [reduceCtorEq, false_and, exists_false, false_iff, not_and]
      omega

theorem checkedTotal_ok {overflow : ε} {estimates : List Nat} {total : Nat} :
    checkedTotal overflow estimates = .ok total ↔ estimates.sum ≤ U32_MAX ∧ total = estimates.sum := by
  unfold checkedTotal
  rw [foldlM_checked (Nat.zero_le U32_MAX), Nat.zero_add]

end

variable {encode : ContextPacket → List UInt8} {packet : ContextPacket}

namespace ContextPacket
variable {other : ContextPacket}

def itemIds (packet : ContextPacket) : List String :=
  packet.selected.map (·.itemId) ++ packet.budgetExcluded.map (·.itemId) ++ packet.rejected.map (·.itemId)

/-- What a packet may hold, whatever its digest. -/
structure Sound (packet : ContextPacket) : Prop where
  header : packet.toContextPacketHeader.validate = .ok ()
  within : packet.used ≤ packet.requested
  selected : ∀ selection ∈ packet.selected, checkSelection packet.scope.tenantId selection = .ok () ∧ checkMandatory selection = .ok ()
  complete : ∀ requirement ∈ ContextMandatoryRequirement.ALL, requirement ∈ packet.satisfied
  excluded : ∀ exclusion ∈ packet.budgetExcluded, exclusion.validate = .ok ()
  rejected : ∀ rejection ∈ packet.rejected, rejection.validate = .ok ()
  distinct : packet.itemIds.Nodup
  used : packet.used = (packet.selected.map (·.estimatedTokens)).sum
  small : packet.used ≤ U32_MAX

theorem validateContent_ok : packet.validateContent = .ok () ↔ packet.Sound := by
  unfold validateContent
  constructor
  · intro done
    obtain ⟨header, done⟩ := bind_unit_iff.mp done
    obtain ⟨within, done⟩ := ite_ok_iff.mp done
    obtain ⟨_, entered, done⟩ := bind_ok done
    obtain ⟨selected, distinct, rfl⟩ := (enterEach_ok nodup_nil).mp entered
    obtain ⟨complete, done⟩ := bind_unit_iff.mp done
    obtain ⟨_, entered, done⟩ := bind_ok done
    obtain ⟨excluded, distinct, rfl⟩ := (enterEach_ok distinct).mp entered
    obtain ⟨_, entered, done⟩ := bind_ok done
    obtain ⟨rejected, distinct, rfl⟩ := (enterEach_ok distinct).mp entered
    obtain ⟨total, counted, done⟩ := bind_ok done
    obtain ⟨small, rfl⟩ := checkedTotal_ok.mp counted
    have used := not_not.mp (ite_ok_iff.mp done).1
    refine ⟨header, not_lt.mp within, selected, fun requirement listed => ?_, fun item member => (excluded item member).1,
      fun item member => (rejected item member).1, distinct, used.symm, used ▸ small⟩
    by_contra absent
    cases (if_neg absent).symm.trans (forM_ok complete requirement listed)
  · intro sound
    have distinct := sound.distinct
    unfold itemIds at distinct
    have front := (nodup_append.mp distinct).1
    refine bind_unit_iff.mpr ⟨sound.header, ite_ok_iff.mpr ⟨not_lt.mpr sound.within, bind_ok_iff.mpr ⟨_, (enterEach_ok nodup_nil).mpr
      ⟨sound.selected, (nodup_append.mp front).1, rfl⟩, bind_unit_iff.mpr ⟨?_, bind_ok_iff.mpr ⟨_, (enterEach_ok (nodup_append.mp front).1).mpr
        ⟨fun item member => ⟨sound.excluded item member, rfl⟩, front, rfl⟩, bind_ok_iff.mpr ⟨_, (enterEach_ok front).mpr
          ⟨fun item member => ⟨sound.rejected item member, rfl⟩, distinct, rfl⟩, bind_ok_iff.mpr ⟨_, checkedTotal_ok.mpr
            ⟨sound.used ▸ sound.small, rfl⟩, ite_ok_iff.mpr ⟨not_not.mpr sound.used.symm, rfl⟩⟩⟩⟩⟩⟩⟩⟩
    exact forM_of_ok fun requirement listed => if_pos (sound.complete requirement listed)

theorem computedDigest_not_blank : Text.isBlank (packet.computedDigest encode) = false := by
  have each : ∀ n : Fin 16, Text.isWhitespace (hexDigit (UInt8.ofNat n)) = false := by decide
  unfold computedDigest Text.isBlank
  rw [String.toList_ofList]
  obtain ⟨byte, rest, split⟩ := exists_cons_of_length_pos
    (show 0 < (Sha256.digest (encode { packet with digest := "" })).length by rw [Sha256.length_digest]; decide)
  have high : byte.toNat / 16 < 16 := Nat.div_lt_of_lt_mul byte.toNat_lt
  have front : UInt8.ofNat (byte.toNat / 16) = byte / 16 := UInt8.toNat_inj.mp (by simp; omega)
  have visible := each ⟨_, high⟩
  rw [show UInt8.ofNat (⟨byte.toNat / 16, high⟩ : Fin 16) = byte / 16 from front] at visible
  rw [split, flatMap_cons, cons_append, all_cons, visible, Bool.false_and]

theorem seal_ok : packet.seal encode = .ok other ↔ packet.Sound ∧ other = { packet with digest := packet.computedDigest encode } := by
  unfold ContextPacket.seal
  rw [bind_unit_iff, validateContent_ok]
  refine and_congr_right fun sound => ?_
  have content : validateContent { packet with digest := packet.computedDigest encode } = .ok () := validateContent_ok.mpr
    ⟨sound.header, sound.within, sound.selected, sound.complete, sound.excluded, sound.rejected, sound.distinct, sound.used, sound.small⟩
  have valid : validate encode { packet with digest := packet.computedDigest encode } = .ok () := by
    unfold validate
    refine bind_unit_iff.mpr ⟨content, bind_unit_iff.mpr ⟨?_, if_neg (not_not.mpr rfl)⟩⟩
    unfold requireNonEmpty
    rw [computedDigest_not_blank]
    rfl
  dsimp only
  rw [bind_unit_iff, and_iff_right valid, ok.injEq, eq_comm]

theorem validate_of_seal (done : packet.seal encode = .ok other) : other.validate encode = .ok () := by
  obtain ⟨_, done⟩ := bind_unit_iff.mp done
  obtain ⟨valid, done⟩ := bind_unit_iff.mp done
  cases done
  exact valid

end ContextPacket

/-- Each candidate in rank order brings a running total that a `u32` holds. -/
def InRange (tokenBudget : Nat) : Nat → List ContextPacketCandidate → Prop
  | _, [] => True
  | used, candidate :: rest => used + candidate.estimatedTokens ≤ U32_MAX ∧
    InRange tokenBudget (if used + candidate.estimatedTokens ≤ tokenBudget then used + candidate.estimatedTokens else used) rest

instance decidableInRange {tokenBudget : Nat} : (used : Nat) → (candidates : List ContextPacketCandidate) →
    Decidable (InRange tokenBudget used candidates)
  | _, [] => .isTrue trivial
  | used, candidate :: rest =>
    have := @decidableInRange tokenBudget (if used + candidate.estimatedTokens ≤ tokenBudget then used + candidate.estimatedTokens else used) rest
    inferInstanceAs (Decidable (_ ∧ _))

variable {tokenBudget : Nat} {candidates : List ContextPacketCandidate}

section
variable {used : Nat} {candidate : ContextPacketCandidate} {selected : List ContextSelection}
  {excluded : List ContextBudgetExclusion} {out : Nat × List ContextSelection × List ContextBudgetExclusion}

theorem considerOptional_ok {packing : Nat × List ContextSelection × List ContextBudgetExclusion} :
    considerOptional tokenBudget packing candidate = .ok out ↔ packing.1 + candidate.estimatedTokens ≤ U32_MAX ∧
      out = if packing.1 + candidate.estimatedTokens ≤ tokenBudget then
          (packing.1 + candidate.estimatedTokens, packing.2.1 ++ [selectionFrom false candidate], packing.2.2)
        else (packing.1, packing.2.1, packing.2.2 ++ [exclusionFrom candidate]) := by
  unfold considerOptional
  dsimp only
  rw [ite_ok_iff, not_lt]
  split <;> simp [eq_comm]

theorem foldlM_considerOptional : candidates.foldlM (considerOptional tokenBudget) (used, selected, excluded) = .ok out ↔
    InRange tokenBudget used candidates ∧
      out = (used + ((greedy (·.estimatedTokens) tokenBudget used candidates).1.map (·.estimatedTokens)).sum,
        selected ++ (greedy (·.estimatedTokens) tokenBudget used candidates).1.map (selectionFrom false),
        excluded ++ (greedy (·.estimatedTokens) tokenBudget used candidates).2.map exclusionFrom) := by
  induction candidates generalizing used selected excluded with
  | nil => simp [InRange, greedy, pure, Except.pure, eq_comm]
  | cons candidate rest ih =>
    rw [foldlM_cons, bind_ok_iff, InRange]
    simp only [considerOptional_ok, and_assoc, exists_and_left, exists_eq_left]
    refine and_congr_right fun _ => ?_
    by_cases fits : used + candidate.estimatedTokens ≤ tokenBudget
    · rw [if_pos fits, if_pos fits, greedy_fits fits, ih]
      simp only [map_cons, sum_cons, Nat.add_assoc, append_assoc, singleton_append]
    · rw [if_neg fits, if_neg fits, greedy_passes fits, ih]
      simp only [map_cons, append_assoc, singleton_append]

end

variable {request : ContextPacketCompilationRequest}

namespace ContextPacketCompilationRequest
variable {other : ContextPacketCompilationRequest}

def mandatoryTokens (request : ContextPacketCompilationRequest) : Nat := (request.mandatory.map (·.estimatedTokens)).sum

/-- The ranked optional candidates: those that fit the budget in turn, and the others. -/
def packed (request : ContextPacketCompilationRequest) : List ContextPacketCandidate × List ContextPacketCandidate :=
  greedy (·.estimatedTokens) request.tokenBudget request.mandatoryTokens (sortOptional request.optional)

def assembled (request : ContextPacketCompilationRequest) : ContextPacket :=
  { request.toContextPacketHeader with
    digest := ""
    requested := request.tokenBudget
    used := request.mandatoryTokens + (request.packed.1.map (·.estimatedTokens)).sum
    selected := (sortMandatory request.mandatory).map (selectionFrom true) ++ request.packed.1.map (selectionFrom false)
    budgetExcluded := request.packed.2.map exclusionFrom
    rejected := sortRejected request.rejected }

/-- What the candidates have to be, in whatever order. -/
structure Admits (request : ContextPacketCompilationRequest) : Prop where
  mandatory : ∀ c ∈ request.mandatory, validateCandidate true request.issuedAt c = .ok () ∧ checkRequirement c = .ok ()
  complete : ∀ requirement ∈ ContextMandatoryRequirement.ALL, requirement ∈ request.mandatory.filterMap (·.reason.mandatoryRequirement)
  optional : ∀ c ∈ request.optional, validateCandidate false request.issuedAt c = .ok ()
  rejected : ∀ rejection ∈ request.rejected, rejection.validate = .ok ()
  distinct : (request.mandatory.map (·.itemId) ++ request.optional.map (·.itemId) ++ request.rejected.map (·.itemId)).Nodup

theorem mapError_ok {α ε φ : Type} {result : Except ε α} {wrap : ε → φ} {value : α} : result.mapError wrap = .ok value ↔ result = .ok value := by
  cases result <;> simp [Except.mapError]

theorem ids_perm : ((sortMandatory request.mandatory).map (·.itemId) ++ (sortOptional request.optional).map (·.itemId) ++
    (sortRejected request.rejected).map (·.itemId)).Perm
      (request.mandatory.map (·.itemId) ++ request.optional.map (·.itemId) ++ request.rejected.map (·.itemId)) :=
  (((perm_insertionSort _ _).map _).append ((perm_insertionSort _ _).map _)).append ((perm_insertionSort _ _).map _)

theorem validateCandidates_ok : validateCandidates (sortMandatory request.mandatory) (sortOptional request.optional)
    (sortRejected request.rejected) request.issuedAt = .ok () ↔ request.Admits := by
  have mandatory : ∀ c, c ∈ sortMandatory request.mandatory ↔ c ∈ request.mandatory := fun c => mem_insertionSort _
  have optional : ∀ c, c ∈ sortOptional request.optional ↔ c ∈ request.optional := fun c => mem_insertionSort _
  have rejected : ∀ c, c ∈ sortRejected request.rejected ↔ c ∈ request.rejected := fun c => mem_insertionSort _
  have required : ∀ requirement, requirement ∈ (sortMandatory request.mandatory).filterMap (·.reason.mandatoryRequirement) ↔
      requirement ∈ request.mandatory.filterMap (·.reason.mandatoryRequirement) := fun _ => ((perm_insertionSort _ _).filterMap _).mem_iff
  unfold validateCandidates
  constructor
  · intro done
    obtain ⟨_, entered, done⟩ := bind_ok done
    obtain ⟨checked, distinct, rfl⟩ := (enterEach_ok nodup_nil).mp entered
    obtain ⟨complete, done⟩ := bind_unit_iff.mp done
    obtain ⟨_, entered, done⟩ := bind_ok done
    obtain ⟨offered, distinct, rfl⟩ := (enterEach_ok distinct).mp entered
    obtain ⟨_, entered, done⟩ := bind_ok done
    obtain ⟨refused, distinct, rfl⟩ := (enterEach_ok distinct).mp entered
    refine ⟨fun c member => bind_unit_iff.mp (checked c ((mandatory c).mpr member)).2, fun requirement listed => ?_,
      fun c member => (offered c ((optional c).mpr member)).2, fun c member => mapError_ok.mp (refused c ((rejected c).mpr member)).2,
      ids_perm.nodup_iff.mp distinct⟩
    by_contra absent
    cases (if_neg fun there => absent ((required _).mp there)).symm.trans (forM_ok complete requirement listed)
  · intro admits
    have distinct := ids_perm.nodup_iff.mpr admits.distinct
    have front := (nodup_append.mp distinct).1
    refine bind_ok_iff.mpr ⟨_, (enterEach_ok nodup_nil).mpr ⟨fun c member =>
      ⟨rfl, bind_unit_iff.mpr (admits.mandatory c ((mandatory c).mp member))⟩, (nodup_append.mp front).1, rfl⟩, bind_unit_iff.mpr ⟨?_,
        bind_ok_iff.mpr ⟨_, (enterEach_ok (nodup_append.mp front).1).mpr ⟨fun c member =>
          ⟨rfl, admits.optional c ((optional c).mp member)⟩, front, rfl⟩, bind_ok_iff.mpr ⟨_, (enterEach_ok front).mpr ⟨fun c member =>
            ⟨rfl, mapError_ok.mpr (admits.rejected c ((rejected c).mp member))⟩, distinct, rfl⟩, rfl⟩⟩⟩⟩
    exact forM_of_ok fun requirement listed => if_pos ((required requirement).mpr (admits.complete requirement listed))

def OwnTenant (request : ContextPacketCompilationRequest) (candidates : List ContextPacketCandidate) : Prop :=
  ∀ c ∈ candidates, c.sourceScope.tenantId = request.scope.tenantId

theorem packed_perm : (request.packed.1 ++ request.packed.2).Perm request.optional := greedy_perm.trans (perm_insertionSort _ _)

theorem checkSelection_ok {tenantId : String} {selection : ContextSelection} : ContextPacket.checkSelection tenantId selection = .ok () ↔
    selection.validate = .ok () ∧ selection.sourceScope.tenantId = tenantId := by
  unfold ContextPacket.checkSelection
  rw [bind_unit_iff, ite_ok_iff, not_not, and_iff_left rfl]

variable {c : ContextPacketCandidate}

theorem validate_of_candidate {mandatory : Bool} {issuedAt : Int}
    (valid : validateCandidate mandatory issuedAt c = .ok ()) : (selectionFrom mandatory c).validate = .ok () ∧ c.estimatedTokens ≠ 0 := by
  unfold validateCandidate at valid
  obtain ⟨nonzero, valid⟩ := ite_ok_iff.mp valid
  split at valid
  · cases valid
  · exact ⟨mapError_ok.mp valid, nonzero⟩

theorem checkMandatory_of_requirement (passed : checkRequirement c = .ok ()) :
    ContextPacket.checkMandatory (selectionFrom true c) = .ok () := by
  unfold checkRequirement at passed
  unfold ContextPacket.checkMandatory selectionFrom
  split at passed
  · cases passed
  rename_i requirement its
  obtain ⟨accepts, passed⟩ := ite_then passed
  simp [its, accepts]

theorem exclusion_valid {issuedAt : Int} (valid : validateCandidate false issuedAt c = .ok ()) :
    (exclusionFrom c).validate = .ok () := by
  obtain ⟨valid, nonzero⟩ := validate_of_candidate valid
  have named := (bind_unit_iff.mp valid).1
  unfold requireNonEmpty at named
  have visible := (ite_ok_iff.mp named).1
  have each : ∀ field, requireNonEmpty field c.itemId = .ok () := fun field => if_neg visible
  unfold exclusionFrom ContextBudgetExclusion.validate ContextRankingInputs.validate
  exact bind_unit_iff.mpr ⟨each _, ite_ok_iff.mpr ⟨nonzero, bind_unit_iff.mpr ⟨each _, if_neg (not_not.mpr rfl)⟩⟩⟩

theorem satisfied_assembled : request.assembled.satisfied = (sortMandatory request.mandatory).filterMap (·.reason.mandatoryRequirement) := by
  unfold ContextPacket.satisfied assembled selectionFrom
  simp [filterMap_map]

theorem itemIds_assembled : request.assembled.itemIds.Perm
    (request.mandatory.map (·.itemId) ++ request.optional.map (·.itemId) ++ request.rejected.map (·.itemId)) := by
  unfold ContextPacket.itemIds assembled selectionFrom exclusionFrom
  simp only [map_append, map_map, Function.comp_def]
  rw [append_assoc (List.map _ (sortMandatory _)), ← map_append]
  exact (((perm_insertionSort _ _).map _).append (packed_perm.map _)).append ((perm_insertionSort _ _).map _)

theorem sum_sortMandatory : ((sortMandatory request.mandatory).map (·.estimatedTokens)).sum = request.mandatoryTokens :=
  ((perm_insertionSort _ _).map _).sum_eq

theorem used_assembled : (request.assembled.selected.map (·.estimatedTokens)).sum = request.assembled.used := by
  unfold assembled selectionFrom
  simp only [map_append, map_map, Function.comp_def, sum_append, sum_sortMandatory]

theorem sound_assembled_iff (admits : request.Admits) (within : request.assembled.used ≤ request.tokenBudget)
    (small : request.assembled.used ≤ U32_MAX) : request.assembled.Sound ↔ request.toContextPacketHeader.validate = .ok () ∧
      request.OwnTenant (request.mandatory ++ request.packed.1) := by
  constructor
  · intro sound
    refine ⟨sound.header, fun c member => ?_⟩
    rcases mem_append.mp member with mandatory | kept
    · exact (checkSelection_ok.mp (sound.selected (selectionFrom true c) (mem_append_left _ (mem_map_of_mem
        ((mem_insertionSort _).mpr mandatory)))).1).2
    · exact (checkSelection_ok.mp (sound.selected (selectionFrom false c) (mem_append_right _ (mem_map_of_mem kept))).1).2
  · rintro ⟨header, own⟩
    refine ⟨header, within, fun selection member => ?_, fun requirement listed => ?_, fun exclusion member => ?_, fun rejection member => ?_,
      itemIds_assembled.nodup_iff.mpr admits.distinct, used_assembled.symm, small⟩
    · rcases mem_append.mp member with mandatory | kept
      · obtain ⟨c, listed, rfl⟩ := mem_map.mp mandatory
        have inside := (mem_insertionSort _).mp listed
        obtain ⟨valid, slot⟩ := admits.mandatory c inside
        exact ⟨checkSelection_ok.mpr ⟨(validate_of_candidate valid).1, own c (mem_append_left _ inside)⟩, checkMandatory_of_requirement slot⟩
      · obtain ⟨c, listed, rfl⟩ := mem_map.mp kept
        have inside := packed_perm.subset (mem_append_left _ listed)
        exact ⟨checkSelection_ok.mpr ⟨(validate_of_candidate (admits.optional c inside)).1, own c (mem_append_right _ listed)⟩, rfl⟩
    · rw [satisfied_assembled]
      exact ((perm_insertionSort _ _).filterMap _).mem_iff.mpr (admits.complete requirement listed)
    · obtain ⟨c, listed, rfl⟩ := mem_map.mp member
      exact exclusion_valid (admits.optional c (packed_perm.subset (mem_append_right _ listed)))
    · exact admits.rejected rejection ((mem_insertionSort _).mp member)

theorem inRange_total {tokenBudget used : Nat} {candidates : List ContextPacketCandidate} (inRange : InRange tokenBudget used candidates)
    (small : used ≤ U32_MAX) : used + ((greedy (·.estimatedTokens) tokenBudget used candidates).1.map (·.estimatedTokens)).sum ≤ U32_MAX := by
  induction candidates generalizing used with
  | nil => exact small
  | cons c rest ih =>
    obtain ⟨here, inRange⟩ := inRange
    by_cases fits : used + c.estimatedTokens ≤ tokenBudget
    · rw [if_pos fits] at inRange
      rw [greedy_fits fits, map_cons, sum_cons, ← Nat.add_assoc]
      exact ih inRange here
    · rw [if_neg fits] at inRange
      rw [greedy_passes fits]
      exact ih inRange small

structure Compiles (request : ContextPacketCompilationRequest) : Prop where
  admits : request.Admits
  small : request.mandatoryTokens ≤ U32_MAX
  affordable : request.mandatoryTokens ≤ request.tokenBudget
  inRange : InRange request.tokenBudget request.mandatoryTokens (sortOptional request.optional)
  header : request.toContextPacketHeader.validate = .ok ()
  own : request.OwnTenant (request.mandatory ++ request.packed.1)

theorem compile_sealed (compiled : compileContextPacket encode request = .ok packet) : packet.validate encode = .ok () := by
  unfold compileContextPacket at compiled
  obtain ⟨_, compiled⟩ := bind_unit_iff.mp compiled
  obtain ⟨_, _, compiled⟩ := bind_ok compiled
  obtain ⟨_, compiled⟩ := ite_ok_iff.mp compiled
  obtain ⟨_, _, compiled⟩ := bind_ok compiled
  exact ContextPacket.validate_of_seal (mapError_ok.mp compiled)

theorem compile_ok : compileContextPacket encode request = .ok packet ↔
    request.Compiles ∧ packet = { request.assembled with digest := request.assembled.computedDigest encode } := by
  unfold compileContextPacket
  dsimp only
  rw [bind_unit_iff, validateCandidates_ok, bind_ok_iff]
  simp only [checkedTotal_ok, sum_sortMandatory, and_assoc, exists_and_left, exists_eq_left, ite_ok_iff, not_lt, bind_ok_iff,
    foldlM_considerOptional, mapError_ok, nil_append]
  constructor
  · rintro ⟨admits, small, affordable, inRange, done⟩
    obtain ⟨sound, rfl⟩ := ContextPacket.seal_ok.mp done
    obtain ⟨header, own⟩ := (sound_assembled_iff admits (greedy_within affordable) (inRange_total inRange small)).mp sound
    exact ⟨⟨admits, small, affordable, inRange, header, own⟩, rfl⟩
  · rintro ⟨⟨admits, small, affordable, inRange, header, own⟩, rfl⟩
    exact ⟨admits, small, affordable, inRange, ContextPacket.seal_ok.mpr
      ⟨(sound_assembled_iff admits (greedy_within affordable) (inRange_total inRange small)).mpr ⟨header, own⟩, rfl⟩⟩

end ContextPacketCompilationRequest

def ContextPacketCandidate.RanksAbove (a b : ContextPacketCandidate) : Prop :=
  b.relevance < a.relevance ∨ a.relevance = b.relevance ∧ a.itemId < b.itemId

instance : DecidableRel ContextPacketCandidate.RanksAbove := fun a b =>
  inferInstanceAs (Decidable (b.relevance < a.relevance ∨ a.relevance = b.relevance ∧ a.itemId < b.itemId))

namespace ContextPacketCompilationRequest
variable {others : List ContextPacketCandidate}

def rankKey (c : ContextPacketCandidate) : ℕᵒᵈ ×ₗ String := toLex (OrderDual.toDual c.relevance, c.itemId)

theorem rankKey_le {a b : ContextPacketCandidate} :
    (b.relevance < a.relevance ∨ a.relevance = b.relevance ∧ a.itemId ≤ b.itemId) ↔ rankKey a ≤ rankKey b := by
  unfold rankKey
  rw [Prod.Lex.toLex_le_toLex]
  rfl

theorem ranksAbove_iff {a b : ContextPacketCandidate} : a.RanksAbove b ↔ rankKey a < rankKey b := by
  unfold rankKey
  rw [Prod.Lex.toLex_lt_toLex]
  rfl

theorem sortOptional_ranked (distinct : (candidates.map (·.itemId)).Nodup) : (sortOptional candidates).Pairwise ContextPacketCandidate.RanksAbove := by
  have sorted : (sortOptional candidates).Pairwise fun a b => rankKey a ≤ rankKey b := by
    unfold sortOptional
    exact sorted_by_key rankKey fun _ _ => rankKey_le
  have same : (sortOptional candidates).Perm candidates := perm_insertionSort _ _
  have apart := pairwise_map.mp ((same.map (·.itemId)).nodup_iff.mpr distinct)
  refine (sorted.and apart).imp ?_
  rintro a b ⟨ordered, other⟩
  exact ranksAbove_iff.mpr (lt_of_le_of_ne ordered fun same => other (congrArg (fun key => (ofLex key).2) same))

theorem sorts_alike {c : ContextPacketCompilationRequest} (distinct : (request.mandatory.map (·.itemId) ++ request.optional.map (·.itemId) ++
      request.rejected.map (·.itemId)).Nodup) (mandatory : request.mandatory.Perm c.mandatory) (optional : request.optional.Perm c.optional)
    (rejected : request.rejected.Perm c.rejected) : sortMandatory c.mandatory = sortMandatory request.mandatory ∧
      sortOptional c.optional = sortOptional request.optional ∧ sortRejected c.rejected = sortRejected request.rejected := by
  obtain ⟨front, third, _⟩ := nodup_append.mp distinct
  obtain ⟨first, second, _⟩ := nodup_append.mp front
  unfold sortMandatory sortOptional sortRejected
  refine ⟨(sort_eq_of_perm ContextPacketCandidate.itemId (fun _ _ => Iff.rfl) (fun a inA b inB => inj_on_of_nodup_map first inA inB) mandatory).symm,
    (sort_eq_of_perm rankKey (fun _ _ => rankKey_le) (fun a inA b inB same => ?_) optional).symm,
    (sort_eq_of_perm ContextCandidateRejection.itemId (fun _ _ => Iff.rfl) (fun a inA b inB => inj_on_of_nodup_map third inA inB) rejected).symm⟩
  exact inj_on_of_nodup_map second inA inB (congrArg (fun key => (ofLex key).2) same)

structure Yields (encode : ContextPacket → List UInt8) (request : ContextPacketCompilationRequest) (packet : ContextPacket) : Prop where
  stable : ∀ mandatory optional rejected, request.mandatory.Perm mandatory → request.optional.Perm optional → request.rejected.Perm rejected →
    compileContextPacket encode { request with mandatory, optional, rejected } = .ok packet
  disposed : ∃ kept left : List ContextPacketCandidate, (kept ++ left).Perm request.optional ∧
    packet.selected.Perm (request.mandatory.map (selectionFrom true) ++ kept.map (selectionFrom false)) ∧
    packet.budgetExcluded = left.map exclusionFrom ∧ packet.rejected.Perm request.rejected ∧
    ∀ c ∈ request.optional, c ∈ left ↔ request.tokenBudget <
      request.mandatoryTokens + ((kept.filter (·.RanksAbove c)).map (·.estimatedTokens)).sum + c.estimatedTokens
  once : packet.itemIds.Nodup
  used : packet.used = (packet.selected.map (·.estimatedTokens)).sum
  within : packet.used ≤ request.tokenBudget
  valid : packet.validate encode = .ok ()

theorem compile_stable (compiled : compileContextPacket encode request = .ok packet) (mandatory optional : List ContextPacketCandidate)
    (rejected : List ContextCandidateRejection) (first : request.mandatory.Perm mandatory) (second : request.optional.Perm optional)
    (third : request.rejected.Perm rejected) : compileContextPacket encode { request with mandatory, optional, rejected } = .ok packet := by
  obtain ⟨compiles, rfl⟩ := compile_ok.mp compiled
  have admits := compiles.admits
  obtain ⟨sameFirst, sameSecond, sameThird⟩ := sorts_alike (c := { request with mandatory, optional, rejected }) admits.distinct first second third
  have tokens : mandatoryTokens { request with mandatory, optional, rejected } = request.mandatoryTokens := (first.map _).sum_eq.symm
  have packing : packed { request with mandatory, optional, rejected } = request.packed := by
    unfold packed
    rw [tokens, sameSecond]
  have same : assembled { request with mandatory, optional, rejected } = request.assembled := by
    unfold assembled
    rw [tokens, packing, sameFirst, sameThird]
  refine compile_ok.mpr ⟨⟨⟨fun c member => admits.mandatory c (first.mem_iff.mpr member), fun requirement listed => ?_,
    fun c member => admits.optional c (second.mem_iff.mpr member), fun rejection member => admits.rejected rejection (third.mem_iff.mpr member),
    (((first.map _).append (second.map _)).append (third.map _)).nodup_iff.mp admits.distinct⟩, ?_, ?_, ?_, compiles.header, ?_⟩, by rw [same]⟩
  · exact (first.filterMap _).mem_iff.mp (admits.complete requirement listed)
  · rw [tokens]
    exact compiles.small
  · rw [tokens]
    exact compiles.affordable
  · rw [tokens, sameSecond]
    exact compiles.inRange
  · rw [packing]
    intro c member
    rcases mem_append.mp member with inside | kept
    · exact compiles.own c (mem_append_left _ (first.mem_iff.mpr inside))
    · exact compiles.own c (mem_append_right _ kept)

theorem compiles_iff : (∃ packet, compileContextPacket encode request = .ok packet) ↔ request.Compiles :=
  ⟨fun ⟨_, compiled⟩ => (compile_ok.mp compiled).1, fun compiles => ⟨_, compile_ok.mpr ⟨compiles, rfl⟩⟩⟩

theorem inRange_mem {tokenBudget used : Nat} {c : ContextPacketCandidate} (inRange : InRange tokenBudget used candidates)
    (offered : c ∈ candidates) : used + c.estimatedTokens ≤ U32_MAX := by
  induction candidates generalizing used with
  | nil => cases offered
  | cons first rest ih =>
    obtain ⟨here, inRange⟩ := inRange
    rcases mem_cons.mp offered with rfl | offered
    · exact here
    · have later := ih inRange offered
      split at later <;> omega

variable {extra : List ContextPacketCandidate}

/-- What more a request needs once it compiles without optional candidates. -/
theorem compiles_with (base : Compiles { request with optional := [] }) (valid : ∀ c ∈ extra, validateCandidate false request.issuedAt c = .ok ())
    (fresh : (request.mandatory.map (·.itemId) ++ extra.map (·.itemId) ++ request.rejected.map (·.itemId)).Nodup)
    (affordable : request.mandatoryTokens ≤ tokenBudget) : Compiles { request with optional := extra, tokenBudget } ↔
      InRange tokenBudget request.mandatoryTokens (sortOptional extra) ∧
        request.OwnTenant (greedy (·.estimatedTokens) tokenBudget request.mandatoryTokens (sortOptional extra)).1 := by
  constructor
  · exact fun compiles => ⟨compiles.inRange, fun c kept => compiles.own c (mem_append_right _ kept)⟩
  rintro ⟨inRange, own⟩
  refine ⟨⟨base.admits.mandatory, base.admits.complete, valid, base.admits.rejected, fresh⟩, base.small, affordable, inRange, base.header,
    fun c member => ?_⟩
  rcases mem_append.mp member with mandatory | kept
  · exact base.own c (mem_append_left _ mandatory)
  · exact own c kept

def offeredContext (itemId tenantId : String) (estimatedTokens : Nat) : ContextPacketCandidate :=
  ⟨itemId, .knowledge, "ref", ⟨tenantId, "repo-1", none, none, none⟩, ⟨"human:ada", 0, none⟩, ⟨0, none⟩, "v1", "text", .workingSet, estimatedTokens, 1⟩

def envelope : List ContextPacketCandidate :=
  [(.targetIdentity, .requiredTargetIdentity, "m1"), (.taskLease, .requiredTaskLease, "m2"), (.objective, .requiredObjective, "m3"),
    (.acceptance, .requiredAcceptance, "m4"), (.constitution, .requiredConstitution, "m5"), (.policy, .requiredPolicy, "m6"),
    (.safetyControl, .requiredSafetyControl, "m7"), (.evidenceCondition, .requiredEvidenceCondition, "m8")].map fun entry =>
      { offeredContext entry.2.2 "tenant-1" 1 with itemKind := entry.1, reason := entry.2.1 }

def contextRequest (tokenBudget : Nat) (optional : List ContextPacketCandidate) : ContextPacketCompilationRequest :=
  { packetId := "packet-1", protocolVersion := "1", scope := ⟨"tenant-1", "repo-1", "task-1", "goal-1", "session-1"⟩, projectId := none,
    compilerVersion := "1", issuedAt := 0, expiresAt := 60, ledgerPosition := 0, projectionPosition := 0, tokenBudget, mandatory := envelope,
    optional, rejected := [] }

theorem contextRequest_compiles (affordable : 8 ≤ tokenBudget)
    (offered : (∀ c ∈ extra, validateCandidate false 0 c = .ok ()) ∧
      (envelope.map ContextPacketCandidate.itemId ++ extra.map ContextPacketCandidate.itemId ++ []).Nodup ∧
      InRange tokenBudget 8 (sortOptional extra) ∧
      ∀ c ∈ (greedy (·.estimatedTokens) tokenBudget 8 (sortOptional extra)).1, c.sourceScope.tenantId = "tenant-1") :
    Compiles (contextRequest tokenBudget extra) := by
  obtain ⟨valid, fresh, inRange, own⟩ := offered
  obtain ⟨mandatory, complete, header, tenant⟩ :
      (∀ c ∈ envelope, validateCandidate true 0 c = .ok () ∧ checkRequirement c = .ok ()) ∧
      (∀ requirement ∈ ContextMandatoryRequirement.ALL, requirement ∈ envelope.filterMap (·.reason.mandatoryRequirement)) ∧
      (contextRequest 0 []).toContextPacketHeader.validate = .ok () ∧ ∀ c ∈ envelope, c.sourceScope.tenantId = "tenant-1" := by
    decide +kernel
  have small : 8 ≤ U32_MAX := by decide
  exact ⟨⟨mandatory, complete, valid, fun _ none => absurd none not_mem_nil, fresh⟩, small, affordable, inRange, header,
    forall_mem_append.mpr ⟨tenant, own⟩⟩

theorem compiled_packet_meets_specification (compiled : compileContextPacket encode request = .ok packet) : request.Yields encode packet := by
  have valid := compile_sealed compiled
  have stable := compile_stable compiled
  obtain ⟨⟨admits, small, affordable, _, _, _⟩, rfl⟩ := compile_ok.mp compiled
  have once := itemIds_assembled.nodup_iff.mpr admits.distinct
  unfold ContextPacket.itemIds at once
  refine ⟨stable, ⟨request.packed.1, request.packed.2, packed_perm, ((perm_insertionSort _ _).map _).append_right _, rfl,
    perm_insertionSort _ _, fun c offered => ?_⟩, once, ?_, greedy_within affordable, valid⟩
  · have second := (nodup_append.mp (nodup_append.mp admits.distinct).1).2.1
    exact mem_passed_iff (fun a b above back => lt_asymm (ranksAbove_iff.mp above) (ranksAbove_iff.mp back)) (sortOptional_ranked second)
      ((mem_insertionSort _).mpr offered)
  · dsimp only
    exact used_assembled.symm

theorem compiled_packet_in_budget : ∃ packet, Yields (fun _ => []) (contextRequest 10 [offeredContext "b" "tenant-1" 2, offeredContext "a" "tenant-1" 4])
    packet ∧ packet.budgetExcluded.map (·.itemId) = ["a"] ∧ packet.used = 10 :=
  have compiles := contextRequest_compiles (by decide) (by decide +kernel)
  ⟨_, compiled_packet_meets_specification (compile_ok.mpr ⟨compiles, rfl⟩), by decide +kernel⟩

/-- Whatever is offered can be left out, and whether it may be offered is not a matter of room. -/
structure OnlyLeavesOut (encode : ContextPacket → List UInt8) (request : ContextPacketCompilationRequest)
    (extra : List ContextPacketCandidate) : Prop where
  compiles : ∃ packet, compileContextPacket encode { request with optional := extra } = .ok packet
  admissible : ∀ c ∈ extra, ∀ tokenBudget, request.mandatoryTokens ≤ tokenBudget → tokenBudget ≤ U32_MAX →
    ((∃ packet, compileContextPacket encode { request with optional := [c], tokenBudget } = .ok packet) ↔
      ∃ packet, compileContextPacket encode { request with optional := [c] } = .ok packet)

/-- Optional context never breaks a packet just as long as it is all of the packet's tenant,
and no total on the way is past what a `u32` holds. -/
theorem optional_context_only_left_out_iff (base : ∃ packet, compileContextPacket encode { request with optional := [] } = .ok packet)
    (valid : ∀ c ∈ extra, validateCandidate false request.issuedAt c = .ok ())
    (fresh : (request.mandatory.map (·.itemId) ++ extra.map (·.itemId) ++ request.rejected.map (·.itemId)).Nodup) :
    request.OnlyLeavesOut encode extra ↔ (∀ c ∈ extra, c.sourceScope.tenantId = request.scope.tenantId) ∧
      InRange request.tokenBudget request.mandatoryTokens (sortOptional extra) := by
  have base := compiles_iff.mp base
  have alone : ∀ c ∈ extra, ∀ tokenBudget, request.mandatoryTokens ≤ tokenBudget →
      ((∃ packet, compileContextPacket encode { request with optional := [c], tokenBudget } = .ok packet) ↔
        request.mandatoryTokens + c.estimatedTokens ≤ U32_MAX ∧
          (request.mandatoryTokens + c.estimatedTokens ≤ tokenBudget → c.sourceScope.tenantId = request.scope.tenantId)) := by
    intro c offered tokenBudget affordable
    have single : (request.mandatory.map (·.itemId) ++ [c].map (·.itemId) ++ request.rejected.map (·.itemId)).Nodup :=
      fresh.sublist ((((singleton_sublist.mpr offered).map _).append_left _).append_right _)
    rw [compiles_iff, compiles_with base (fun other listed => mem_singleton.mp listed ▸ valid c offered) single affordable]
    have sorted : sortOptional [c] = [c] := rfl
    rw [sorted]
    by_cases fits : request.mandatoryTokens + c.estimatedTokens ≤ tokenBudget <;> simp [InRange, OwnTenant, greedy, fits]
  have whole : Compiles { request with optional := extra } ↔ InRange request.tokenBudget request.mandatoryTokens (sortOptional extra) ∧
      request.OwnTenant (greedy (·.estimatedTokens) request.tokenBudget request.mandatoryTokens (sortOptional extra)).1 :=
    compiles_with base valid fresh base.affordable
  constructor
  · rintro ⟨compiles, admissible⟩
    have inRange := (whole.mp (compiles_iff.mp compiles)).1
    refine ⟨fun c offered => ?_, inRange⟩
    -- With no room to spare it is left out, so with all the room there is it has to be taken.
    have small := inRange_mem inRange ((mem_insertionSort _).mpr offered)
    have left := (alone c offered _ le_rfl).mpr ⟨small, fun fits => ?_⟩
    · have taken := (admissible c offered U32_MAX base.small le_rfl).mpr ((admissible c offered _ le_rfl base.small).mp left)
      exact ((alone c offered U32_MAX base.small).mp taken).2 small
    · exact absurd (validate_of_candidate (valid c offered)).2 (by omega)
  · rintro ⟨own, inRange⟩
    refine ⟨compiles_iff.mpr (whole.mpr ⟨inRange, fun c kept => own c ((mem_insertionSort _).mp (mem_of_taken kept))⟩), ?_⟩
    intro c offered tokenBudget affordable _
    have small := inRange_mem inRange ((mem_insertionSort _).mpr offered)
    rw [alone c offered _ affordable]
    exact iff_of_true ⟨small, fun _ => own c offered⟩ ((alone c offered _ base.affordable).mpr ⟨small, fun _ => own c offered⟩)

theorem contextRequest_base : Compiles (contextRequest 10 []) :=
  contextRequest_compiles (by decide) (by decide +kernel)

theorem optional_context_left_out : OnlyLeavesOut (fun _ => []) (contextRequest 10 []) [offeredContext "b" "tenant-1" 2, offeredContext "a" "tenant-1" 4] :=
  (optional_context_only_left_out_iff (compiles_iff.mpr contextRequest_base) (by decide +kernel) (by decide +kernel)).mpr
    (by decide +kernel)

/-- What does not fit breaks the packet if it is large enough, and what fits breaks it where it would not if it did not. -/
theorem optional_context_counterexample : (∃ packet, compileContextPacket (fun _ => []) (contextRequest 10 []) = .ok packet) ∧
    (∀ c ∈ [offeredContext "a" "tenant-1" U32_MAX, offeredContext "a" "tenant-2" 1], validateCandidate false 0 c = .ok ()) ∧
    compileContextPacket (fun _ => []) (contextRequest 10 [offeredContext "a" "tenant-1" U32_MAX]) = .error .tokenBudgetOverflow ∧
    compileContextPacket (fun _ => []) (contextRequest 10 [offeredContext "a" "tenant-2" 1]) = .error (.packet (.sourceTenantMismatch "a")) ∧
    ∃ packet, compileContextPacket (fun _ => []) (contextRequest 8 [offeredContext "a" "tenant-2" 1]) = .ok packet :=
  have least := compiles_iff.mpr (contextRequest_compiles (by decide) (by decide +kernel))
  (fun facts : _ ∧ _ ∧ _ => ⟨compiles_iff.mpr contextRequest_base, facts.1, facts.2.1, facts.2.2, least⟩) (by decide +kernel)

end ContextPacketCompilationRequest
end MindLeak.Ackplane
