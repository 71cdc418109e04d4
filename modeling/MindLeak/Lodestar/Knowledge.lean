import MindLeak.Lodestar.Store

/-! Durable lessons: recorded under the hash of their text, reconfirmed, retired
or replaced, and pruned when their weight has decayed. A source is the identity
an editable note keeps across versions of its text. Weights and half-lives are
the bits of double-precision numbers. -/

namespace MindLeak.Lodestar

/-- What the store does with floating-point weights. -/
structure Decay where
  /-- `MIN(1.0, weight + 0.1)`. -/
  reinforced : UInt64 → UInt64
  /-- `effective_weight(weight, half_life_hours, confirmed_at, now)`. -/
  effectiveWeight : UInt64 → UInt64 → Int → Int → UInt64
  /-- At or above `ACTIVE_THRESHOLD`. -/
  active : UInt64 → Bool
  /-- Below `ACTIVE_THRESHOLD`. -/
  faded : UInt64 → Bool

/-- A stand-in to work runs by hand: nothing fades. -/
def Decay.plain : Decay where
  reinforced weight := weight
  effectiveWeight weight _ _ _ := weight
  active _ := true
  faded _ := false

def FULL_WEIGHT : UInt64 := 0x3FF0000000000000

structure KnowledgeRow where
  (id statement evidence : String)
  (weight halfLifeHours : UInt64)
  (confirmedAt createdAt : Int)
  retiredAt : Option Int := none
  retiredBy : Option String := none
  retiredReason : Option String := none
  supersededBy : Option String := none
  deriving DecidableEq

/-- The one row a logical source currently stands for. -/
structure KnowledgeSource where
  (sourceRef knowledgeId : String)
  updatedAt : Int

instance : Row KnowledgeRow String := ⟨KnowledgeRow.id⟩
instance : Row KnowledgeSource String := ⟨KnowledgeSource.sourceRef⟩

structure KnowledgeBase where
  rows : Table KnowledgeRow := .empty
  sources : Table KnowledgeSource := .empty

namespace KnowledgeBase

def getKnowledge (k : KnowledgeBase) (id : String) : Option KnowledgeRow := k.rows.find? id

def knowledgeId (env : Env) (statement : String) : String := "knowledge:" ++ env.shortHash statement

/-- The same text reconfirms its row, retired or not, and leaves the retirement. -/
def upsertKnowledge (env : Env) (decay : Decay) (k : KnowledgeBase) (statement evidence : String)
    (halfLifeHours : UInt64) (now : Int) : String × KnowledgeBase :=
  let id := knowledgeId env statement
  let row : KnowledgeRow :=
    { id := id, statement := statement, evidence := evidence, weight := FULL_WEIGHT, halfLifeHours := halfLifeHours
      confirmedAt := now, createdAt := now }
  match k.rows.insert? row with
  | some rows => (id, { k with rows })
  | none => (id, { k with
      rows := k.rows.update (fun row => decide (row.id = id)) fun row =>
        { row with
          weight := decay.reinforced row.weight, evidence := evidence, halfLifeHours := halfLifeHours
          confirmedAt := now } })

def recordKnowledge (env : Env) (decay : Decay) (k : KnowledgeBase) (statement evidence : String)
    (halfLifeHours : UInt64) (now : Int) : KnowledgeBase :=
  (k.upsertKnowledge env decay statement evidence halfLifeHours now).2

/-- `UPDATE knowledge SET … WHERE id = ?1 AND retired_at IS NULL`: who ended the
lesson, when and why. -/
def withdraw (k : KnowledgeBase) (id human reason : String) (now : Int) : KnowledgeBase :=
  { k with
    rows := k.rows.update (fun row => decide (row.id = id) && row.retiredAt.isNone) fun row =>
      { row with retiredAt := some now, retiredBy := some human, retiredReason := some reason } }

/-- The same with what replaced it, or NULL. -/
def retire (k : KnowledgeBase) (id human reason : String) (supersededBy : Option String) (now : Int) : KnowledgeBase :=
  { k with
    rows := k.rows.update (fun row => decide (row.id = id) && row.retiredAt.isNone) fun row =>
      { row with
        retiredAt := some now, retiredBy := some human, retiredReason := some reason, supersededBy := supersededBy } }

def carriers (k : KnowledgeBase) (id : String) : Nat :=
  k.sources.rows.countP fun source => decide (source.knowledgeId = id)

def moveSource (k : KnowledgeBase) (sourceRef id : String) (now : Int) : KnowledgeBase :=
  { k with
    sources := (k.sources.insertOrIgnore ⟨sourceRef, id, now⟩).update (fun source => decide (source.sourceRef = sourceRef))
      fun source => { source with knowledgeId := id, updatedAt := now } }

def retireReplaced (k : KnowledgeBase) (replaced : Option String) (id sourceRef actor : String) (now : Int) :
    Option String × KnowledgeBase :=
  match replaced with
  | none => (none, k)
  | some previous =>
    if k.carriers previous = 0 ∧ ((k.getKnowledge previous).any fun row => row.retiredAt.isNone) = true then
      (some previous, k.retire previous actor s!"source {sourceRef} was updated" (some id) now)
    else (none, k)

def recordSourcedKnowledge (env : Env) (decay : Decay) (k : KnowledgeBase) (statement evidence : String)
    (halfLifeHours : UInt64) (sourceRef actor : String) (now : Int) :
    Result ((KnowledgeRow × Option String) × KnowledgeBase) :=
  let previous := (k.sources.find? sourceRef).map KnowledgeSource.knowledgeId
  let (id, k) := k.upsertKnowledge env decay statement evidence halfLifeHours now
  let replaced := previous.filter fun previous => decide (previous ≠ id)
  let (superseded, k) := (k.moveSource sourceRef id now).retireReplaced replaced id sourceRef actor now
  match k.getKnowledge id with
  | none => .error (.invalid "knowledge vanished after insert")
  | some row => .ok ((row, superseded), k)

def activeKnowledgeForSource (k : KnowledgeBase) (sourceRef : String) : Option KnowledgeRow :=
  ((k.sources.find? sourceRef).bind fun source => k.getKnowledge source.knowledgeId).filter fun row =>
    row.retiredAt.isNone

def retireKnowledgeSource (k : KnowledgeBase) (sourceRef actor reason : String) (now : Int) :
    Result ((KnowledgeRow × Bool) × KnowledgeBase) :=
  match k.sources.find? sourceRef with
  | none => .error (.notFound sourceRef)
  | some source =>
    let id := source.knowledgeId
    let k : KnowledgeBase := { k with sources := k.sources.delete fun source => decide (source.sourceRef = sourceRef) }
    let retired := decide (k.carriers id = 0) && (k.getKnowledge id).any fun row => row.retiredAt.isNone
    let k := if retired then k.withdraw id actor reason now else k
    match k.getKnowledge id with
    | none => .error (.notFound id)
    | some row => .ok ((row, retired), k)

def reconfirmKnowledge (decay : Decay) (k : KnowledgeBase) (id : String) (now : Int) : KnowledgeBase :=
  { k with
    rows := k.rows.update (fun row => decide (row.id = id)) fun row =>
      { row with confirmedAt := now, weight := decay.reinforced row.weight } }

/-- A dangling replacement would leave a reader with nowhere to go. -/
def checkSuccessor (k : KnowledgeBase) (id : String) : Option String → Result Unit
  | none => .ok ()
  | some successor =>
    if successor = id then .error (.invalid s!"knowledge cannot supersede itself: {id}")
    else if (k.getKnowledge successor).isNone then .error (.notFound successor)
    else .ok ()

/-- The lesson and its successor are read at one moment, the row is retired at a
later one. -/
def retireKnowledge (seen k : KnowledgeBase) (id human reason : String) (supersededBy : Option String) (now : Int) :
    Result KnowledgeBase :=
  if (seen.getKnowledge id).isNone then .error (.notFound id)
  else do
    seen.checkSuccessor id supersededBy
    if (k.getKnowledge id).any fun row => row.retiredAt.isNone then return k.retire id human reason supersededBy now
    else throw (.invalid s!"knowledge already retired: {id}")

def prunes (decay : Decay) (now : Int) (row : KnowledgeRow) : Bool :=
  decay.faded (decay.effectiveWeight row.weight row.halfLifeHours row.confirmedAt now)

def pruneKnowledge (decay : Decay) (k : KnowledgeBase) (now : Int) : KnowledgeBase :=
  { rows := k.rows.delete (prunes decay now)
    sources := k.sources.delete fun source =>
      (k.getKnowledge source.knowledgeId).any (prunes decay now) }

end KnowledgeBase
end MindLeak.Lodestar
