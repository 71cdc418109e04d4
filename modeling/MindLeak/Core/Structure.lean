import MindLeak.Core.Graph

/-! The structural snapshot of one artifact, and the artifacts that are only named so far. -/

namespace MindLeak.Core

def STRUCTURE_EXTRACTOR_VERSION : Nat := 2

/-- An artifact that an import names, and the artifacts that it may turn out to be. -/
structure ArtifactStub where
  nodeId : String
  candidateIds : List String

def artifactPath (id : String) : String := (Text.stripPrefix? "artifact:" id).getD id

def symbolPrefix (artifactId : String) : String := "symbol:" ++ artifactPath artifactId ++ ":"

def sourceBelongsToOwner (sourceId ownerId : String) : Bool :=
  decide (sourceId = ownerId) || Text.startsWith sourceId (symbolPrefix ownerId)

def structuralSourceBelongsToOwner (edge : Edge) (ownerId : String) : Bool := sourceBelongsToOwner edge.sourceId ownerId

/-- What `length` and `substr` of SQL read of a text: no further than to its first NUL. -/
def sqlText (text : String) : List Char := text.toList.takeWhile fun c => decide (c ≠ Char.ofNat 0)

def sqlStartsWith (text lead : String) : Bool := decide ((sqlText text).take (sqlText lead).length = lead.toList)

def isLegacy (ownerId : String) (row : EdgeRow) : Bool :=
  row.ownerId.isNone &&
    (decide (row.key.relation = .contains ∧ row.key.sourceId = ownerId) ||
      decide (row.key.relation = .calls) && sqlStartsWith row.key.sourceId (symbolPrefix ownerId))

def EdgeRow.ownedBy (row : EdgeRow) (ownerId : String) : EdgeRow := { row with ownerId := some ownerId }

namespace Graph
variable (g : Graph)

def isReal (id : String) : Bool := g.nodeExists id && (g.artifactStubs.find? id).isNone

/-- The stubs that this artifact may be the file of. -/
def aliases (ownerId : String) : List String :=
  ((g.stubCandidates.rows.filter fun row => decide (row.candidateId = ownerId ∧ row.stubId ≠ ownerId)).map (·.stubId)).dedup

def adopt (ownerId : String) : Graph := { g with edges := g.edges.update (isLegacy ownerId) (·.ownedBy ownerId) }

def ownedKeys (ownerId : String) : List EdgeKey :=
  (g.edges.rows.filter fun row => decide (row.ownerId = some ownerId)).map (·.key)

/-- The version of the extractor, beside the artifact that must be there. -/
def recordStructure (ownerId : String) : Result Graph :=
  if g.nodeExists ownerId then
    .ok { g with structureVersions := g.structureVersions.put ⟨ownerId, STRUCTURE_EXTRACTOR_VERSION⟩ }
  else .error .sqlite

def insertStub (stub : ArtifactStub) : Result Graph :=
  if (g.artifactStubs.find? stub.nodeId).isSome || g.nodeExists stub.nodeId then
    .ok { g with
      artifactStubs := g.artifactStubs.insertOrIgnore ⟨stub.nodeId⟩
      stubCandidates := stub.candidateIds.foldl (fun table id => table.insertOrIgnore ⟨stub.nodeId, id⟩) g.stubCandidates }
  else .error .sqlite

def insertStubs (stubs : List ArtifactStub) : Result Graph := stubs.foldlM insertStub g

/-- `DELETE FROM nodes` of one, where it passes and no edge touches it. -/
def reapOne (passes : Node → Bool) (id : String) : Graph :=
  match g.nodes.find? id with
  | some node => if passes node && g.isolated id then g.deleteNode id else g
  | none => g

def redirect (passes : EdgeRow → Bool) (target : String) : Graph :=
  (g.edges.rows.filter passes).foldl (fun g row =>
    { g with edges := g.edges.insertOrIgnore { row with key := { row.key with targetId := target } } }) g

def importsOf (id : String) (row : EdgeRow) : Bool := decide (row.key.targetId = id ∧ row.key.relation = .imports)

def isReference (row : EdgeRow) : Bool :=
  decide (row.key.relation = .calls ∨ row.key.relation = .extends ∨ row.key.relation = .implements)

/-- What refers to a symbol of a stub refers to the file's symbol of that name, or to nothing. -/
def promoteSymbol (stubId realId oldTarget : String) : Graph :=
  let references := fun row : EdgeRow => decide (row.key.targetId = oldTarget) && isReference row
  let newTarget := symbolPrefix realId ++ String.ofList (oldTarget.toList.drop (symbolPrefix stubId).length)
  let promoted := if g.nodeExists newTarget then g.redirect references newTarget else g
  (promoted.deleteEdges references).reapOne (fun node => decide (node.nodeType = .symbol)) oldTarget

def structuralTargets (stubId : String) : List String :=
  ((g.edges.rows.filter fun row => isReference row && sqlStartsWith row.key.targetId (symbolPrefix stubId)).map
    (·.key.targetId)).dedup

def promoteArtifactStub (realId stubId : String) : Graph :=
  let promoted := (g.redirect (importsOf stubId) realId).deleteEdges (importsOf stubId)
  ((promoted.structuralTargets stubId).foldl (fun g target => g.promoteSymbol stubId realId target) promoted).reapOne
    (fun _ => true) stubId

def deleteOrphanArtifactStubs : Graph := g.reap fun node => (g.artifactStubs.find? node.id).isSome

/-- Ends of edges that may be left alone when the edges go. -/
def staleNodeIds (existing : List EdgeKey) : List String :=
  ((existing.flatMap fun key => [key.sourceId, key.targetId]).filter fun id =>
    Text.startsWith id "symbol:" || Text.startsWith id "package:").dedup

def replaceStructure (ownerId : String) (nodes : List Node) (edges : List Edge) (artifactStubs : List ArtifactStub) :
    Result (WriteOutcome × Graph) :=
  match edges.find? fun edge => !structuralSourceBelongsToOwner edge ownerId with
  | some edge =>
    let source := edge.sourceId
    .error (.other s!"structural edge source {source} does not belong to {ownerId}")
  | none => do
    let aliases := g.aliases ownerId
    let g := g.deleteStub ownerId
    -- Read before the nodes are written: what the snapshot itself brings is not real.
    let unreal := artifactStubs.filter fun stub => !g.isReal stub.nodeId
    let g := g.adopt ownerId
    let existing := g.ownedKeys ownerId
    let desired := edges.map Edge.key
    let (nodesCreated, g) := g.upsertNodes nodes
    let g ← g.recordStructure ownerId
    let g ← g.insertStubs unreal
    let g := g.deleteEdges fun row => decide (row.key ∈ existing ∧ row.key ∉ desired ∧ row.ownerId = some ownerId)
    let (edgesCreated, g) ← g.upsertEdges edges (some ownerId)
    let g := aliases.foldl (promoteArtifactStub · ownerId) g
    let g := (staleNodeIds existing).foldl
      (reapOne · fun node => decide (node.nodeType = .symbol ∨ node.nodeType = .package)) g
    .ok ({ WriteOutcome.none with nodesCreated, edgesCreated }, g.deleteOrphanArtifactStubs)

def transaction {α : Type} (body : Graph → Result (α × Graph)) : Result α × Graph :=
  match body g with
  | .ok (answer, after) => (.ok answer, after)
  | .error error => (.error error, g)

end Graph
end MindLeak.Core
