import MindLeak.Ackplane.Ledger
import MindLeak.Ackplane.Sync

/-! A stream's positions under any interleaving of its appends. What a transaction
knows of its stream it knows because it has the head; its existence check it made
before. -/

namespace MindLeak.Ackplane

open List Table Function

namespace LedgerStore

def positions (ledger : LedgerStore) (stream : Stream) : List Int :=
  (ledger.records.rows.filter fun row => decide (row.envelope.key.stream = stream)).map LedgerRecord.streamPosition

end LedgerStore

def counted (n : Nat) : List Int := (List.range n).map fun (i : Nat) => (i : Int) + 1

theorem counted_succ (n : Nat) : counted (n + 1) = counted n ++ [(n : Int) + 1] := by
  simp [counted, range_succ]

theorem mem_counted {n : Nat} {position : Int} (member : position ∈ counted n) : position ≤ n := by
  obtain ⟨i, inside, rfl⟩ := mem_map.mp member
  have bound := mem_range.mp inside
  omega

def LedgerRecord.receipt (row : LedgerRecord) : LedgerReceipt :=
  ⟨row.envelope.key, row.streamPosition, .accepted, row.envelope.payloadDigest⟩

structure LedgerStore.Numbered (ledger : LedgerStore) : Prop where
  positions : ∀ stream, ∃ n : Nat, ledger.headPosition stream = n ∧ ledger.positions stream = counted n
  receipts : ledger.receipts.rows = ledger.records.rows.map LedgerRecord.receipt

variable {envelope : EventEnvelope}

namespace LedgerStore
variable {ledger after : LedgerStore} {nextPosition : Int}

theorem numbered_empty : LedgerStore.empty.Numbered := ⟨fun _ => ⟨0, rfl, rfl⟩, rfl⟩

theorem Numbered.bounded (numbered : ledger.Numbered) {row : LedgerRecord} (member : row ∈ ledger.records.rows) :
    row.streamPosition ≤ ledger.headPosition row.envelope.key.stream := by
  obtain ⟨n, head, counted⟩ := numbered.positions row.envelope.key.stream
  have listed : row.streamPosition ∈ ledger.positions row.envelope.key.stream :=
    mem_map.mpr ⟨row, mem_filter.mpr ⟨member, by simp⟩, rfl⟩
  rw [counted] at listed
  rw [head]
  exact mem_counted listed

theorem Numbered.taken_iff (numbered : ledger.Numbered)
    (next : nextPosition = ledger.headPosition envelope.key.stream + 1) :
    ledger.taken ⟨envelope, nextPosition⟩ = true ↔ ∃ row ∈ ledger.records.rows, row.envelope.key = envelope.key := by
  unfold taken
  rw [any_eq_true]
  refine exists_congr fun row => and_congr_right fun member => ?_
  rw [Bool.or_eq_true, Bool.and_eq_true, decide_eq_true_eq, decide_eq_true_eq, decide_eq_true_eq]
  refine or_iff_left ?_
  rintro ⟨same, position⟩
  have bound := numbered.bounded member
  have here : row.streamPosition = nextPosition := position
  rw [show row.envelope.key.stream = envelope.key.stream from same] at bound
  omega

theorem headPosition_advanced (ledger : LedgerStore) (stream other : Stream) (position : Int) :
    ((ledger.lockHead stream).advanceHead stream position).headPosition other =
      if other = stream then position else ledger.headPosition other := by
  unfold headPosition advanceHead lockHead
  rw [Table.find?_update, Table.find?_insertOrIgnore]
  by_cases same : other = stream
  · subst same
    have named : Row.key (⟨other, 0⟩ : StreamHead) = other := rfl
    rw [if_pos rfl, if_pos named]
    cases found : ledger.heads.find? other with
    | none => simp
    | some head =>
      have here : head.stream = other := (mem_of_find? found).2
      simp [here]
  · have named : Row.key (⟨stream, 0⟩ : StreamHead) ≠ other := Ne.symm same
    rw [if_neg same, if_neg named]
    cases found : ledger.heads.find? other with
    | none => rfl
    | some head =>
      have here : head.stream = other := (mem_of_find? found).2
      simp [here, same]

theorem Numbered.write (numbered : ledger.Numbered) (next : nextPosition = ledger.headPosition envelope.key.stream + 1)
    (free : ∀ row ∈ ledger.records.rows, row.envelope.key ≠ envelope.key) :
    ∃ after, ledger.write envelope nextPosition = .ok after ∧ after.Numbered ∧
      after.records.rows = ledger.records.rows ++ [⟨envelope, nextPosition⟩] ∧
      ∀ stream, stream ≠ envelope.key.stream → after.headPosition stream = ledger.headPosition stream := by
  have untaken : (ledger.lockHead envelope.key.stream).taken ⟨envelope, nextPosition⟩ = false := by
    rw [Bool.eq_false_iff]
    intro taken
    obtain ⟨row, member, same⟩ := (numbered.taken_iff next).mp taken
    exact free row member same
  have fresh : ledger.receipts.find?
      (Row.key (⟨envelope.key, nextPosition, .accepted, envelope.payloadDigest⟩ : LedgerReceipt)) = none := by
    rw [Table.find?_eq_none_iff, numbered.receipts, map_map]
    intro listed
    obtain ⟨row, member, same⟩ := mem_map.mp listed
    exact free row member same
  obtain ⟨after, written⟩ : ∃ after, ledger.write envelope nextPosition = .ok after := by
    obtain ⟨receipts, inserted⟩ := Table.insert?_of_fresh fresh
    have recorded : (ledger.lockHead envelope.key.stream).insertRecord ⟨envelope, nextPosition⟩ =
        .ok { ledger.lockHead envelope.key.stream with records := ledger.records.insertOrIgnore ⟨envelope, nextPosition⟩ } := by
      rw [insertRecord, untaken]
      rfl
    rw [LedgerStore.write, recorded]
    simp only [bind, Except.bind, insertReceipt, lockHead, inserted]
    exact ⟨_, rfl⟩
  obtain ⟨_, records, receipts, heads⟩ := write_ok written
  have headed (stream : Stream) : after.headPosition stream =
      if stream = envelope.key.stream then nextPosition else ledger.headPosition stream := by
    rw [← headPosition_advanced, headPosition, heads]
    rfl
  refine ⟨after, written, ⟨fun stream => ?_, ?_⟩, records, fun stream other => by rw [headed, if_neg other]⟩
  · obtain ⟨n, head, counted⟩ := numbered.positions stream
    by_cases same : stream = envelope.key.stream
    · subst same
      refine ⟨n + 1, by rw [headed, if_pos rfl, next, head]; rfl, ?_⟩
      rw [LedgerStore.positions, records, filter_append, map_append, counted_succ, ← counted, ← head, ← next]
      simp [LedgerStore.positions]
    · refine ⟨n, by rw [headed, if_neg same, head], ?_⟩
      rw [LedgerStore.positions, records, filter_append, map_append, ← counted]
      simp [LedgerStore.positions, Ne.symm same]
  · rw [receipts, records, map_append, numbered.receipts]
    rfl

end LedgerStore

def AppendEnd.Fits (ledger : LedgerStore) (envelope : EventEnvelope) : AppendEnd → Prop
  | .answered outcome => ∃ row ∈ ledger.records.rows, row.envelope.key = envelope.key ∧
    row.envelope.payloadDigest = envelope.payloadDigest ∧ row.streamPosition = outcome.position
  | .conflict => ∃ row ∈ ledger.records.rows, row.envelope.key = envelope.key ∧
    row.envelope.payloadDigest ≠ envelope.payloadDigest
  | .violated => ∃ row ∈ ledger.records.rows, row.envelope.key = envelope.key
  | .failed => True
  | .unanswered => ledger.Holds envelope

theorem AppendEnd.Fits.grown {ledger after : LedgerStore} {envelope : EventEnvelope} {ending : AppendEnd}
    (fits : ending.Fits ledger envelope) (grows : ∀ row ∈ ledger.records.rows, row ∈ after.records.rows) :
    ending.Fits after envelope := by
  cases ending with
  | failed => trivial
  | _ =>
    obtain ⟨row, member, same⟩ := fits
    exact ⟨row, grows row member, same⟩

/-- The record of a transaction whose insert has gone through. -/
def AppendPhase.writing : AppendPhase → Option LedgerRecord
  | .recorded envelope nextPosition | .receipted envelope nextPosition | .advanced envelope nextPosition =>
    some ⟨envelope, nextPosition⟩
  | _ => none

variable {phase : AppendPhase}

theorem AppendPhase.holding_of_writing {row : LedgerRecord} (writing : phase.writing = some row) :
    phase.holding = some row := by
  cases phase <;> first | exact writing | cases writing

/-- The envelope of a transaction whose next statement is its record's insert. -/
def AppendPhase.inserts : AppendPhase → Option EventEnvelope
  | .locked envelope _ => some envelope
  | _ => none

theorem AppendPhase.inserts_eq_some {envelope : EventEnvelope} :
    phase.inserts = some envelope ↔ ∃ position, phase = .locked envelope position := by
  cases phase <;> simp [inserts]

def AppendPhase.commits : AppendPhase → Bool
  | .advanced _ _ => true
  | _ => false

theorem AppendPhase.envelope?_of_holding {row : LedgerRecord} (held : phase.holding = some row) :
    phase.envelope? = some row.envelope := by
  cases phase <;> cases held <;> rfl

namespace Appends
variable {τ : Type} [DecidableEq τ]

structure Sound (s : Appends τ) : Prop where
  numbered : s.ledger.Numbered
  held : ∀ transaction row, (s.phase transaction).holding = some row →
    s.locks row.envelope.key.stream = some transaction ∧
      row.streamPosition = s.ledger.headPosition row.envelope.key.stream + 1
  holder : ∀ stream transaction, s.locks stream = some transaction →
    ∃ row, (s.phase transaction).holding = some row ∧ row.envelope.key.stream = stream
  free : ∀ transaction row, (s.phase transaction).writing = some row →
    ∀ other ∈ s.ledger.records.rows, other.envelope.key ≠ row.envelope.key
  ended : ∀ transaction envelope ending, s.phase transaction = .finished envelope ending →
    ending.Fits s.ledger envelope

variable {s : Appends τ} {transaction : τ} {ending : AppendEnd}

@[simp] theorem moveTo_same (s : Appends τ) (transaction : τ) (phase : AppendPhase) :
    (s.moveTo transaction phase).phase transaction = phase := update_self ..

theorem moveTo_other (s : Appends τ) {transaction other : τ} (phase : AppendPhase) (apart : other ≠ transaction) :
    (s.moveTo transaction phase).phase other = s.phase other := update_of_ne apart ..

theorem Sound.moveTo (sound : s.Sound) {phase : AppendPhase} (holding : phase.holding = (s.phase transaction).holding)
    (free : ∀ row, phase.writing = some row → ∀ other ∈ s.ledger.records.rows, other.envelope.key ≠ row.envelope.key)
    (ongoing : ∀ envelope ending, phase ≠ .finished envelope ending) : (s.moveTo transaction phase).Sound where
  numbered := sound.numbered
  held := by
    intro other row held
    by_cases same : other = transaction
    · subst same
      rw [moveTo_same, holding] at held
      exact sound.held other row held
    · rw [moveTo_other s phase same] at held
      exact sound.held other row held
  holder := by
    intro stream other locked
    obtain ⟨row, held, here⟩ := sound.holder stream other locked
    refine ⟨row, ?_, here⟩
    by_cases same : other = transaction
    · subst same
      rw [moveTo_same, holding, held]
    · rw [moveTo_other s phase same, held]
  free := by
    intro other row writing
    by_cases same : other = transaction
    · subst same
      rw [moveTo_same] at writing
      exact free row writing
    · rw [moveTo_other s phase same] at writing
      exact sound.free other row writing
  ended := by
    intro other envelope ending finished
    by_cases same : other = transaction
    · subst same
      rw [moveTo_same] at finished
      exact absurd finished (ongoing envelope ending)
    · rw [moveTo_other s phase same] at finished
      exact sound.ended other envelope ending finished

theorem Sound.finish_locks (sound : s.Sound) (ledger : LedgerStore)
    (own : ∀ row, (s.phase transaction).holding = some row → row.envelope = envelope) (stream : Stream) (other : τ) :
    (({ s with ledger } : Appends τ).finish transaction envelope ending).locks stream = some other ↔
      other ≠ transaction ∧ s.locks stream = some other := by
  simp only [Appends.finish]
  split
  next holding =>
    obtain ⟨row, held⟩ := Option.isSome_iff_exists.mp holding
    have mine := (sound.held transaction row held).1
    rw [own row held] at mine
    by_cases here : stream = envelope.key.stream
    · subst here
      rw [update_self, mine, Option.some.injEq]
      exact iff_of_false nofun fun taken => taken.1 taken.2.symm
    · rw [update_of_ne here]
      refine (and_iff_right_of_imp ?_).symm
      rintro locked rfl
      obtain ⟨row', held', there⟩ := sound.holder stream other locked
      rw [own row' held'] at there
      exact here there.symm
  next idle =>
    refine (and_iff_right_of_imp ?_).symm
    rintro locked rfl
    obtain ⟨row, held, _⟩ := sound.holder stream other locked
    exact idle (by rw [held]; rfl)

theorem Sound.finish (sound : s.Sound) (ledger : LedgerStore)
    (own : ∀ row, (s.phase transaction).holding = some row → row.envelope = envelope)
    (numbered : ledger.Numbered) (grows : ∀ row ∈ s.ledger.records.rows, row ∈ ledger.records.rows)
    (added : ∀ row ∈ ledger.records.rows, row ∈ s.ledger.records.rows ∨ s.locks row.envelope.key.stream = some transaction)
    (heads : ∀ stream, s.locks stream ≠ some transaction → ledger.headPosition stream = s.ledger.headPosition stream)
    (fits : ending.Fits ledger envelope) : (({ s with ledger } : Appends τ).finish transaction envelope ending).Sound := by
  have phase (other : τ) (apart : other ≠ transaction) :
      (({ s with ledger } : Appends τ).finish transaction envelope ending).phase other = s.phase other :=
    update_of_ne apart ..
  have ended : (({ s with ledger } : Appends τ).finish transaction envelope ending).phase transaction =
    .finished envelope ending := update_self ..
  refine ⟨numbered, ?_, ?_, ?_, ?_⟩
  · intro other row held
    by_cases same : other = transaction
    · subst same
      rw [ended] at held
      cases held
    · rw [phase other same] at held
      obtain ⟨locked, next⟩ := sound.held other row held
      refine ⟨(sound.finish_locks ledger own ..).mpr ⟨same, locked⟩, ?_⟩
      rw [next]
      exact congrArg (· + 1) (heads _ (by rw [locked]; exact fun mine => same (Option.some.inj mine))).symm
  · intro stream other locked
    obtain ⟨apart, before⟩ := (sound.finish_locks ledger own stream other).mp locked
    rw [phase other apart]
    exact sound.holder stream other before
  · intro other row writing
    by_cases same : other = transaction
    · subst same
      rw [ended] at writing
      cases writing
    · rw [phase other same] at writing
      intro earlier member equal
      rcases added earlier member with old | mine
      · exact sound.free other row writing earlier old equal
      · have locked := (sound.held other row (AppendPhase.holding_of_writing writing)).1
        rw [show row.envelope.key.stream = earlier.envelope.key.stream by rw [equal], mine] at locked
        exact same (Option.some.inj locked).symm
  · intro other envelope' ending' finished
    by_cases same : other = transaction
    · subst same
      cases ended.symm.trans finished
      exact fits
    · rw [phase other same] at finished
      exact (sound.ended other envelope' ending' finished).grown grows

theorem Sound.finish_unchanged (sound : s.Sound)
    (own : ∀ row, (s.phase transaction).holding = some row → row.envelope = envelope)
    (fits : ending.Fits s.ledger envelope) : (s.finish transaction envelope ending).Sound :=
  sound.finish s.ledger own sound.numbered (fun _ member => member) (fun _ member => .inl member) (fun _ _ => rfl) fits

theorem Sound.lock (sound : s.Sound) (unseen : s.phase transaction = .unseen envelope)
    (free : s.locks envelope.key.stream = none) :
    ({ s.moveTo transaction (.locked envelope (s.ledger.headPosition envelope.key.stream)) with
        locks := Function.update s.locks envelope.key.stream (some transaction) } : Appends τ).Sound := by
  refine ⟨sound.numbered, ?_, ?_, ?_, ?_⟩
  · intro other row held
    by_cases same : other = transaction
    · subst same
      simp only [moveTo_same, AppendPhase.holding, Option.some.injEq] at held
      subst held
      exact ⟨update_self .., rfl⟩
    · simp only [moveTo_other s _ same] at held
      obtain ⟨locked, next⟩ := sound.held other row held
      have elsewhere : row.envelope.key.stream ≠ envelope.key.stream := by
        intro here
        rw [here, free] at locked
        cases locked
      exact ⟨by simp only [update_of_ne elsewhere, locked], next⟩
  · intro stream other locked
    by_cases here : stream = envelope.key.stream
    · subst here
      simp only [update_self, Option.some.injEq] at locked
      subst locked
      exact ⟨⟨envelope, s.ledger.headPosition envelope.key.stream + 1⟩, by simp only [moveTo_same, AppendPhase.holding], rfl⟩
    · simp only [update_of_ne here] at locked
      obtain ⟨row, held, there⟩ := sound.holder stream other locked
      refine ⟨row, ?_, there⟩
      have apart : other ≠ transaction := by
        rintro rfl
        rw [unseen] at held
        cases held
      simp only [moveTo_other s _ apart, held]
  · intro other row writing
    by_cases same : other = transaction
    · subst same
      simp only [moveTo_same] at writing
      cases writing
    · simp only [moveTo_other s _ same] at writing
      exact sound.free other row writing
  · intro other envelope' ending finished
    by_cases same : other = transaction
    · subst same
      simp only [moveTo_same] at finished
      cases finished
    · simp only [moveTo_other s _ same] at finished
      exact sound.ended other envelope' ending finished

omit [DecidableEq τ] in
theorem Sound.commit_ledger (sound : s.Sound) {nextPosition : Int}
    (advanced : s.phase transaction = .advanced envelope nextPosition) :
    (s.commit envelope nextPosition).ledger.Numbered ∧
      (s.commit envelope nextPosition).ledger.records.rows = s.ledger.records.rows ++ [⟨envelope, nextPosition⟩] ∧
      ∀ stream, stream ≠ envelope.key.stream →
        (s.commit envelope nextPosition).ledger.headPosition stream = s.ledger.headPosition stream := by
  have holding : (s.phase transaction).holding = some ⟨envelope, nextPosition⟩ := by rw [advanced]; rfl
  have writing : (s.phase transaction).writing = some ⟨envelope, nextPosition⟩ := by rw [advanced]; rfl
  obtain ⟨_, next⟩ := sound.held _ _ holding
  obtain ⟨after, written, numbered, rows, heads⟩ := sound.numbered.write next (sound.free _ _ writing)
  simp only [commit, written, Except.toOption, Option.getD_some]
  exact ⟨numbered, rows, heads⟩

theorem Sound.commit (sound : s.Sound) {nextPosition : Int} (advanced : s.phase transaction = .advanced envelope nextPosition)
    (fits : ∀ ledger : LedgerStore, ⟨envelope, nextPosition⟩ ∈ ledger.records.rows → ending.Fits ledger envelope) :
    ((s.commit envelope nextPosition).finish transaction envelope ending).Sound := by
  obtain ⟨numbered, rows, heads⟩ := sound.commit_ledger advanced
  have holding : (s.phase transaction).holding = some ⟨envelope, nextPosition⟩ := by rw [advanced]; rfl
  have locked := (sound.held _ _ holding).1
  refine sound.finish (s.commit envelope nextPosition).ledger ?_ numbered ?_ ?_ ?_ (fits _ ?_)
  · intro row held
    cases holding.symm.trans held
    rfl
  · intro row member
    rw [rows]
    exact mem_append_left _ member
  · intro row member
    rw [rows, mem_append, mem_singleton] at member
    rcases member with old | rfl
    · exact .inl old
    · exact .inr locked
  · intro stream other
    refine heads stream ?_
    rintro rfl
    exact other locked
  · rw [rows]
    exact mem_append_right _ (mem_singleton.mpr rfl)

theorem Sound.step (sound : s.Sound) (transaction : τ) : (s.step transaction).Sound := by
  unfold Appends.step
  cases phase : s.phase transaction with
  | idle | finished => exact sound
  | begun envelope =>
    have own : ∀ row, (s.phase transaction).holding = some row → row.envelope = envelope := by
      intro row held
      rw [phase] at held
      cases held
    simp only
    split
    next outcome there =>
      obtain ⟨row, found, answered⟩ := LedgerStore.existing_eq_some.mp there
      obtain ⟨member, key⟩ := mem_of_find? found
      split at answered
      on_goal 2 => cases answered
      rename_i same
      cases answered
      exact sound.finish_unchanged own ⟨row, member, key, same, rfl⟩
    next failure there =>
      obtain ⟨row, found, answered⟩ := LedgerStore.existing_eq_some.mp there
      obtain ⟨member, key⟩ := mem_of_find? found
      split at answered
      · cases answered
      rename_i differs
      exact sound.finish_unchanged own ⟨row, member, key, differs⟩
    next =>
      refine sound.moveTo (by rw [phase]; rfl) ?_ ?_
      · intro row writing
        cases writing
      · intro envelope ending finished
        cases finished
  | unseen envelope =>
    simp only
    split
    next => exact sound
    next free => exact sound.lock phase free
  | locked envelope position =>
    have holding : (s.phase transaction).holding = some ⟨envelope, position + 1⟩ := by rw [phase]; rfl
    have taken_iff : s.ledger.taken ⟨envelope, position + 1⟩ = true ↔ _ :=
      sound.numbered.taken_iff (sound.held _ _ holding).2
    simp only
    split
    next taken =>
      refine sound.finish_unchanged ?_ (taken_iff.mp taken)
      intro row held
      cases holding.symm.trans held
      rfl
    next free =>
      refine sound.moveTo (by rw [phase]; rfl) ?_ ?_
      · intro row writing other member same
        cases writing
        exact free (taken_iff.mpr ⟨other, member, same⟩)
      · intro envelope ending finished
        cases finished
  | recorded envelope nextPosition =>
    simp only
    split
    next found =>
      refine sound.finish_unchanged ?_ ?_
      · intro row held
        rw [phase] at held
        cases held
        rfl
      · obtain ⟨receipt, found⟩ := Option.isSome_iff_exists.mp found
        obtain ⟨member, key⟩ := mem_of_find? found
        rw [sound.numbered.receipts] at member
        obtain ⟨row, recorded, rfl⟩ := mem_map.mp member
        exact ⟨row, recorded, key⟩
    next =>
      refine sound.moveTo (by rw [phase]; rfl) (sound.free transaction · ∘ ?_) ?_
      · intro writing
        rw [phase]
        exact writing
      · intro envelope ending finished
        cases finished
  | receipted envelope nextPosition =>
    refine sound.moveTo (by rw [phase]; rfl) (sound.free transaction · ∘ ?_) ?_
    · intro writing
      rw [phase]
      exact writing
    · intro envelope ending finished
      cases finished
  | advanced envelope nextPosition =>
    exact sound.commit phase fun ledger member => ⟨_, member, rfl, rfl, rfl⟩

theorem Sound.apply (sound : s.Sound) (op : AppendOp τ) : (s.apply op).Sound := by
  cases op with
  | start transaction envelope =>
    simp only [Appends.apply]
    split
    next idle =>
      refine sound.moveTo (by rw [idle]; rfl) ?_ ?_
      · intro row writing
        cases writing
      · intro envelope ending finished
        cases finished
    next => exact sound
  | step transaction => exact sound.step transaction
  | fail transaction =>
    simp only [Appends.apply]
    split
    next envelope ongoing =>
      refine sound.finish_unchanged ?_ trivial
      intro row held
      rw [AppendPhase.envelope?_of_holding held] at ongoing
      exact Option.some.inj ongoing
    next => exact sound
  | commitUnheard transaction =>
    simp only [Appends.apply]
    split
    next envelope nextPosition advanced =>
      exact sound.commit advanced fun ledger member => ⟨_, member, rfl, rfl⟩
    next => exact sound

theorem sound_start : (appends τ).start.Sound where
  numbered := LedgerStore.numbered_empty
  held := by
    intro transaction row held
    cases held
  holder := by
    intro stream transaction locked
    cases locked
  free := by
    intro transaction row writing
    cases writing
  ended := by
    intro transaction envelope ending finished
    cases finished

structure Integrity (s : Appends τ) : Prop where
  positions : ∀ stream, ∃ n : Nat, s.ledger.headPosition stream = n ∧ s.ledger.positions stream = counted n
  keys : (s.ledger.records.rows.map fun row => row.envelope.key).Nodup
  /-- Whoever ended by itself, and whose record is there, was answered with its position. -/
  retries : ∀ transaction envelope ending, s.phase transaction = .finished envelope ending →
    ending ≠ .failed → ending ≠ .unanswered →
    ∀ row ∈ s.ledger.records.rows, row.envelope.key = envelope.key → row.envelope.payloadDigest = envelope.payloadDigest →
      ∃ outcome, ending.answer envelope = .ok outcome ∧ outcome.position = row.streamPosition

def Atomic (entry : Entry (Appends τ) (AppendOp τ)) : Prop :=
  entry.after.ledger = entry.before.ledger ∨ ∃ transaction envelope ending position,
    entry.op = .step transaction ∧ entry.after.phase transaction = .finished envelope ending ∧
      ending.answer envelope = .ok (.accepted position)

def First (s : Appends τ) : AppendOp τ → Prop
  | .step transaction => ∀ envelope ∈ (s.phase transaction).inserts, ¬s.ledger.Holds envelope
  | _ => True

def Heard (s : Appends τ) : AppendOp τ → Prop
  | .commitUnheard transaction => (s.phase transaction).commits = false
  | _ => True

instance (s : Appends τ) : (op : AppendOp τ) → Decidable (s.First op)
  | .step transaction => inferInstanceAs (Decidable (∀ envelope ∈ (s.phase transaction).inserts, _))
  | .start _ _ | .fail _ | .commitUnheard _ => isTrue trivial

instance (s : Appends τ) : (op : AppendOp τ) → Decidable (s.Heard op)
  | .commitUnheard transaction => inferInstanceAs (Decidable ((s.phase transaction).commits = false))
  | .start _ _ | .fail _ | .step _ => isTrue trivial

def Unrefused (s : Appends τ) : Prop :=
  ∀ transaction envelope, s.phase transaction = .finished envelope .violated → ¬s.ledger.Holds envelope

omit [DecidableEq τ] in
theorem Sound.integrity_iff (sound : s.Sound) : s.Integrity ↔ s.Unrefused := by
  constructor
  · rintro integrity transaction envelope violated ⟨row, member, key, digest⟩
    obtain ⟨outcome, answered, _⟩ := integrity.retries transaction envelope .violated violated (by decide) (by decide)
      row member key digest
    cases answered
  · intro unrefused
    refine ⟨sound.numbered.positions, s.ledger.records.unique, ?_⟩
    intro transaction envelope ending finished sent heard row member key digest
    have fits := sound.ended transaction envelope ending finished
    -- The one record of the key is the one the transaction met.
    have only : ∀ other ∈ s.ledger.records.rows, other.envelope.key = envelope.key → other = row := by
      intro other inside same
      have found := Table.find?_of_mem member
      have found' := Table.find?_of_mem inside
      rw [show Row.key other = Row.key row from same.trans key.symm, found] at found'
      exact (Option.some.inj found').symm
    cases ending with
    | answered outcome =>
      obtain ⟨other, inside, same, _, position⟩ := fits
      rw [only other inside same] at position
      exact ⟨outcome, rfl, position.symm⟩
    | conflict =>
      obtain ⟨other, inside, same, differs⟩ := fits
      rw [only other inside same] at differs
      exact absurd digest differs
    | violated => exact absurd ⟨row, member, key, digest⟩ (unrefused transaction envelope finished)
    | failed => exact absurd rfl sent
    | unanswered => exact absurd rfl heard

theorem apply_ledger (s : Appends τ) (op : AppendOp τ) : (s.apply op).ledger = s.ledger ∨
    ∃ transaction envelope nextPosition, s.phase transaction = .advanced envelope nextPosition ∧
      (s.apply op).ledger = (s.commit envelope nextPosition).ledger ∧
      (op = .step transaction ∧ (s.apply op).phase transaction = .finished envelope (.answered (.accepted nextPosition)) ∨
        op = .commitUnheard transaction) := by
  cases op with
  | start | fail =>
    left
    simp only [apply]
    split <;> rfl
  | commitUnheard transaction =>
    simp only [apply]
    split
    next envelope nextPosition advanced => exact .inr ⟨transaction, envelope, nextPosition, advanced, rfl, .inr rfl⟩
    next => exact .inl rfl
  | step transaction =>
    simp only [apply, step]
    split
    next => exact .inl rfl
    next =>
      left
      split <;> rfl
    next =>
      left
      split <;> rfl
    next =>
      left
      split <;> rfl
    next =>
      left
      split <;> rfl
    next => exact .inl rfl
    next envelope nextPosition advanced =>
      exact .inr ⟨transaction, envelope, nextPosition, advanced, rfl, .inl ⟨rfl, update_self ..⟩⟩
    next => exact .inl rfl

/-- An index refuses an append at its record's insert only: behind it the key is its own. -/
theorem Sound.apply_violated (sound : s.Sound) {op : AppendOp τ}
    (violated : (s.apply op).phase transaction = .finished envelope .violated) :
    s.phase transaction = .finished envelope .violated ∨
      op = .step transaction ∧ ∃ position, s.phase transaction = .locked envelope position := by
  cases op with
  | start | fail | commitUnheard =>
    simp only [Appends.apply] at violated
    split at violated
    next =>
      exact .inl (updated_of_ne violated (by simp))
    next => exact .inl violated
  | step other =>
    simp only [Appends.apply, Appends.step] at violated
    cases phase : s.phase other with
    | idle | finished =>
      simp only [phase] at violated
      exact .inl violated
    | begun sent =>
      simp only [phase] at violated
      split at violated <;> rcases updated_cases violated with old | ⟨_, moved⟩ <;> first | exact .inl old | cases moved
    | unseen sent =>
      simp only [phase] at violated
      split at violated
      · exact .inl violated
      exact .inl (updated_of_ne violated (by simp))
    | locked sent position =>
      simp only [phase] at violated
      split at violated <;> rcases updated_cases violated with old | ⟨rfl, moved⟩ <;> first | exact .inl old | cases moved
      exact .inr ⟨rfl, position, phase⟩
    | recorded sent nextPosition =>
      have free := sound.free other ⟨sent, nextPosition⟩ (by rw [phase]; rfl)
      simp only [phase] at violated
      split at violated
      next found =>
        obtain ⟨receipt, found⟩ := Option.isSome_iff_exists.mp found
        obtain ⟨member, key⟩ := mem_of_find? found
        rw [sound.numbered.receipts] at member
        obtain ⟨row, recorded, rfl⟩ := mem_map.mp member
        exact absurd key (free row recorded)
      next =>
        exact .inl (updated_of_ne violated (by simp))
    | receipted | advanced =>
      simp only [phase] at violated
      exact .inl (updated_of_ne violated (by simp))

theorem Sound.step_held (sound : s.Sound) {position : Int} (locked : s.phase transaction = .locked envelope position)
    (held : s.ledger.Holds envelope) :
    (s.step transaction).phase transaction = .finished envelope .violated ∧ (s.step transaction).ledger = s.ledger := by
  have holding : (s.phase transaction).holding = some ⟨envelope, position + 1⟩ := by rw [locked]; rfl
  obtain ⟨row, member, key, _⟩ := held
  have taken : s.ledger.taken ⟨envelope, position + 1⟩ = true :=
    (sound.numbered.taken_iff (sound.held _ _ holding).2).mpr ⟨row, member, key⟩
  simp only [Appends.step, locked, taken, if_true]
  exact ⟨update_self .., rfl⟩

theorem Sound.apply_unrefused (sound : s.Sound) (unrefused : s.Unrefused) (op : AppendOp τ) :
    (s.apply op).Unrefused ↔ s.First op := by
  constructor
  · intro kept
    cases op with
    | step transaction =>
      intro envelope inserts held
      obtain ⟨position, locked⟩ := AppendPhase.inserts_eq_some.mp inserts
      obtain ⟨violated, same⟩ := sound.step_held locked held
      refine kept transaction envelope violated ?_
      rw [show (s.apply (.step transaction)).ledger = s.ledger from same]
      exact held
    | _ => trivial
  · rintro first transaction envelope violated ⟨row, member, key, digest⟩
    rcases sound.apply_violated violated with old | ⟨rfl, position, locked⟩
    · rcases s.apply_ledger op with same | ⟨other, sent, nextPosition, advanced, committed, _⟩
      · rw [same] at member
        exact unrefused transaction envelope old ⟨row, member, key, digest⟩
      · rw [committed, (sound.commit_ledger advanced).2.1, mem_append, mem_singleton] at member
        rcases member with earlier | rfl
        · exact unrefused transaction envelope old ⟨row, earlier, key, digest⟩
        · -- The key it was refused for is in the ledger; the one committed was free.
          obtain ⟨there, inside, same⟩ := sound.ended transaction envelope .violated old
          exact sound.free other _ (by rw [advanced]; rfl) there inside (same.trans key.symm)
    · rcases s.apply_ledger (.step transaction) with same | ⟨other, sent, nextPosition, advanced, _, ⟨again, _⟩ | again⟩
      · rw [same] at member
        exact first envelope (AppendPhase.inserts_eq_some.mpr ⟨position, locked⟩) ⟨row, member, key, digest⟩
      · cases again
        cases locked.symm.trans advanced
      · cases again

/-- Only the answer can be lost of a commit, which else is the accepted append's. -/
theorem Sound.atomic_iff (sound : s.Sound) (op : AppendOp τ) : Atomic ⟨s, op, s.apply op⟩ ↔ s.Heard op := by
  constructor
  · intro atomic
    cases op with
    | commitUnheard transaction =>
      simp only [Heard]
      cases phase : s.phase transaction with
      | advanced envelope nextPosition =>
        have rows := (sound.commit_ledger phase).2.1
        have committed : (s.apply (.commitUnheard transaction)).ledger = (s.commit envelope nextPosition).ledger := by
          simp only [Appends.apply, phase]
          rfl
        rcases atomic with same | ⟨_, _, _, _, stepped, _⟩
        · rw [← committed, same] at rows
          simpa using congrArg List.length rows
        · cases stepped
      | _ => rfl
    | _ => trivial
  · intro heard
    rcases s.apply_ledger op with same | ⟨transaction, envelope, nextPosition, advanced, _, ⟨rfl, ended⟩ | rfl⟩
    · exact .inl same
    · exact .inr ⟨transaction, envelope, _, nextPosition, rfl, ended, rfl⟩
    · simp only [Heard, advanced, AppendPhase.commits] at heard
      cases heard

/-- Streams keep their integrity exactly as long as every insert comes before any other
commit of its record, and every commit is heard of. -/
theorem appends_keep_integrity {history : List (Entry (Appends τ) (AppendOp τ))} (run : (appends τ).Run history s) :
    ((∀ seen ∈ (appends τ).visited history, seen.Integrity) ∧ ∀ entry ∈ history, Atomic entry) ↔
      ∀ entry ∈ history, entry.before.First entry.op ∧ entry.before.Heard entry.op := by
  have sound := run.visited_good Sound sound_start fun _ op before => before.apply op
  have first := run.visited_good_iff (fun seen => seen.Sound ∧ seen.Unrefused) First ⟨sound_start, by
    intro transaction envelope violated
    cases violated⟩ fun _ op ⟨before, unrefused⟩ => by
      exact (and_iff_right (before.apply op)).trans (before.apply_unrefused unrefused op)
  rw [forall₂_and, ← first]
  refine and_congr ?_ ?_
  · exact forall₂_congr fun seen member => by rw [(sound seen member).integrity_iff, and_iff_right (sound seen member)]
  refine forall₂_congr fun entry member => ?_
  obtain ⟨before, left⟩ := run.entry_good Sound sound_start (fun _ op before => before.apply op) member
  rw [← before.atomic_iff entry.op]
  unfold Atomic
  rw [left]
  rfl

end Appends

theorem appends_replay {τ : Type} [DecidableEq τ] (ops : List (Appends τ → AppendOp τ)) :
    (appends τ).Replays ops :=
  Machine.replay_run fun _ _ _ _ _ => trivial

def sentEnvelope : EventEnvelope where
  key := ⟨"acme", "repo", "node-1", 1⟩
  payload := [1]
  payloadDigest := [2]
  schemaVersion := "v1"
  occurredAt := 0
  payloadType := "event"
  previousEnvelopeDigest := none
  signingKeyId := none
  signature := none
  provenance := .unverifiedAttribution

def starting (transaction : Bool) : Appends Bool → AppendOp Bool := fun _ => .start transaction sentEnvelope

def stepping (transaction : Bool) : Appends Bool → AppendOp Bool := fun _ => .step transaction

def retried : List (Appends Bool → AppendOp Bool) :=
  [stepping false, starting false] ++ List.replicate 6 (stepping true) ++ [starting true]

theorem retry_keeps_integrity :
    (∀ seen ∈ (appends Bool).visited ((appends Bool).replay retried).1, seen.Integrity) ∧
      ∀ entry ∈ ((appends Bool).replay retried).1, Appends.Atomic entry :=
  (Appends.appends_keep_integrity (appends_replay retried)).mpr (by decide +kernel)

def raced : List (Appends Bool → AppendOp Bool) :=
  List.replicate 2 (stepping false) ++ List.replicate 5 (stepping true) ++ [stepping false, stepping true, starting false, starting true]

theorem racing_retry_is_refused : ¬∀ history (s : Appends Bool), (appends Bool).Run history s →
      (∀ seen ∈ (appends Bool).visited history, seen.Integrity) ∧ ∀ entry ∈ history, Appends.Atomic entry := by
  intro always
  have run := appends_replay raced
  have integrity := (always _ _ run).1 _ run.current_visited
  obtain ⟨outcome, answered, _⟩ := integrity.retries false sentEnvelope .violated (by decide +kernel) (by decide) (by decide)
    ⟨sentEnvelope, 1⟩ (by decide +kernel) rfl rfl
  cases answered

end MindLeak.Ackplane
