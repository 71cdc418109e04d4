import MindLeak.Core.Extract
import MindLeak.Library.Statements

/-! Repair of file identities: nodes that are named by absolute paths are merged into the ones that the
repository's other writers name. Each statement is committed by itself. -/

namespace MindLeak.Core

inductive Endpoint where
  | source | target

def Endpoint.of : Endpoint → EdgeKey → String
  | .source, key => key.sourceId
  | .target, key => key.targetId

def Endpoint.set : Endpoint → String → EdgeKey → EdgeKey
  | .source, id, key => { key with sourceId := id }
  | .target, id, key => { key with targetId := id }

def EdgeRow.absorb (row excluded : EdgeRow) : EdgeRow where
  key := row.key
  weight := min 1 (row.weight + 1 / 20 * excluded.reinforcementCount)
  halfLifeHours := if excluded.updatedAt > row.updatedAt then excluded.halfLifeHours else row.halfLifeHours
  updatedAt := max row.updatedAt excluded.updatedAt
  firstSeen := min row.firstSeen excluded.firstSeen
  reinforcementCount := row.reinforcementCount + excluded.reinforcementCount
  ownerId := row.ownerId.or excluded.ownerId

def labelFor (id : String) : String := ((Text.splitOnce ':' id).map Prod.snd).getD id

namespace Graph

def insertNode (g : Graph) (fromId toId : String) : Graph :=
  match g.nodes.find? fromId with
  | none => g
  | some excluded =>
    match g.nodes.find? toId with
    | none => { g with nodes := g.nodes.put { excluded with id := toId, label := labelFor toId } }
    | some row =>
      { g with nodes := g.nodes.put { row with
          createdAt := min row.createdAt excluded.createdAt
          lastAccessedAt := max row.lastAccessedAt excluded.lastAccessedAt
          content := row.content.or excluded.content } }

def insertCopy (g : Graph) (row : EdgeRow) : Result Graph :=
  match g.edges.find? row.key with
  | some old => .ok { g with edges := g.edges.put (old.absorb row) }
  | none =>
    -- The foreign keys.
    if g.nodeExists row.key.sourceId && g.nodeExists row.key.targetId then .ok { g with edges := g.edges.put row } else .error .sqlite

/-- `INSERT INTO edges SELECT … FROM edges`: the rows are those before the first insert. -/
def copyEdges (g : Graph) (column : Endpoint) (fromId toId : String) : Result Graph :=
  (g.edges.rows.filter fun row => column.of row.key = fromId).foldlM
    (fun g row => g.insertCopy { row with key := column.set toId row.key }) g

def moveOwner (g : Graph) (fromId toId : String) : Graph :=
  { g with edges := g.edges.update (fun row => row.ownerId = some fromId) ({ · with ownerId := some toId }) }

end Graph

structure RepairOutcome where
  (nodesRewritten nodesMerged : Nat)

structure RepairStore where
  graph : Graph
  /-- The node that is still there beside copies of its edges, and of which. Nothing reads it. -/
  copied : Option (String × List Endpoint)

abbrev RepairProgram (α : Type) : Type := Statements RepairStore MindLeakError α

namespace Repair
open Core.Graph

def select {α : Type} (view : Graph → α) : RepairProgram α := Statements.query fun s => view s.graph

def execute (copied : Option (String × List Endpoint)) (run : Graph → Result Graph) : RepairProgram Unit :=
  Statements.execute fun s => (run s.graph).map fun graph => ((), ⟨graph, copied⟩)

/-- Returns whether `to` existed already. -/
def mergeNode (fromId toId : String) : RepairProgram Bool := do
  let existed ← select (·.nodeExists toId)
  execute none fun g => .ok (g.insertNode fromId toId)
  execute (some (fromId, [.source])) (·.copyEdges .source fromId toId)
  execute (some (fromId, [.source, .target])) (·.copyEdges .target fromId toId)
  execute (some (fromId, [.source, .target])) fun g => .ok (g.moveOwner fromId toId)
  execute none fun g => .ok (g.deleteNode fromId)
  .pure existed

def count (outcome : RepairOutcome) (existed : Bool) : RepairOutcome :=
  ⟨outcome.nodesRewritten + 1, if existed then outcome.nodesMerged + 1 else outcome.nodesMerged⟩

structure FileId where
  (lead path suffix : String)

def FileId.at (id : FileId) (path : String) : String := id.lead ++ ":" ++ path ++ id.suffix

/-- A symbol id is `symbol:<path>:<name>`; only the path is rewritten. -/
def fileId? (id : String) : Option FileId :=
  (Text.splitOnce ':' id).bind fun (lead, rest) =>
    if lead = "symbol" then (rsplitOnce ':' rest.toList).map fun (path, name) => ⟨lead, String.ofList path, ":" ++ String.ofList name⟩
    else some ⟨lead, rest, ""⟩

def fileIds (g : Graph) : List String :=
  (g.nodes.rows.map Node.id).filter fun id => Text.likePrefix id "artifact:" || Text.likePrefix id "symbol:"

def rewritten? (root id : String) : Option String :=
  (fileId? id).bind fun file =>
    let relative := repoRelative file.path [root]
    if relative ≠ file.path then some (file.at relative) else none

def absolutePathNodes (root : String) (g : Graph) : List (String × String) :=
  (fileIds g).filterMap fun id => (rewritten? root id).map fun toId => (id, toId)

/-- A filesystem root, or a drive's. -/
def isAbsolutePath (path : String) : Bool :=
  match path.toList with
  | '/' :: _ => true
  | drive :: ':' :: '/' :: _ => drive.isAlpha
  | _ => false

def absoluteIds (g : Graph) : List (String × FileId) :=
  (fileIds g).filterMap fun id => ((fileId? id).filter fun file => isAbsolutePath file.path).map fun file => (id, file)

def candidates (path : String) : List String :=
  let parts := (segments '/' path.toList).filter fun part => part ≠ []
  ((parts.tails.drop 1).filter fun parts => parts ≠ []).map fun parts => String.ofList (List.intercalate ['/'] parts)

def firstKnown (file : FileId) : List String → RepairProgram (Option String)
  | [] => .pure none
  | candidate :: shorter => do
    let known ← select (·.nodeExists (file.at candidate))
    if known then .pure (some candidate) else firstKnown file shorter

def longestKnownSuffix (file : FileId) : RepairProgram (Option String) := firstKnown file (candidates file.path)

def mergeNodes : List (String × String) → RepairOutcome → RepairProgram RepairOutcome
  | [], outcome => .pure outcome
  | (fromId, toId) :: rest, outcome =>
    if fromId = toId then mergeNodes rest outcome
    else do
      let existed ← mergeNode fromId toId
      mergeNodes rest (count outcome existed)

def collapseIds : List (String × FileId) → RepairOutcome → RepairProgram RepairOutcome
  | [], outcome => .pure outcome
  | (fromId, file) :: rest, outcome => do
    match ← longestKnownSuffix file with
    | none => collapseIds rest outcome
    | some relative =>
      if file.at relative = fromId then collapseIds rest outcome
      else do
        let existed ← mergeNode fromId (file.at relative)
        collapseIds rest (count outcome existed)

def ownerIds (g : Graph) : List String := (g.edges.rows.filterMap EdgeRow.ownerId).dedup

def ownerRewrites : List String → RepairProgram (List (String × String))
  | [] => .pure []
  | owner :: rest =>
    match Text.splitOnce ':' owner with
    | none => ownerRewrites rest
    | some (lead, path) =>
      if isAbsolutePath path then do
        match ← longestKnownSuffix ⟨lead, path, ""⟩ with
        | none => ownerRewrites rest
        | some relative => do
          let rewrites ← ownerRewrites rest
          let toId := lead ++ ":" ++ relative
          .pure (if toId ≠ owner then (owner, toId) :: rewrites else rewrites)
      else ownerRewrites rest

def moveOwners : List (String × String) → RepairProgram Unit
  | [] => .pure ()
  | (fromId, toId) :: rest => do
    execute none fun g => .ok (g.moveOwner fromId toId)
    moveOwners rest

def reclaimAbsoluteOwnership : RepairProgram Unit := do
  let owners ← select ownerIds
  let rewrites ← ownerRewrites owners
  moveOwners rewrites

def collapseKnownDuplicates (outcome : RepairOutcome) : RepairProgram RepairOutcome := do
  let ids ← select absoluteIds
  let outcome ← collapseIds ids outcome
  reclaimAbsoluteOwnership
  .pure outcome

def trimRoot (root : String) : String :=
  String.ofList ((root.toList.reverse.dropWhile fun c => c = '/' || c = '\\').reverse)

def repairWorkspacePaths (root : String) : RepairProgram RepairOutcome :=
  let root := trimRoot root
  if root.isEmpty then .pure ⟨0, 0⟩
  else do
    let duplicates ← select (absolutePathNodes root)
    let outcome ← mergeNodes duplicates ⟨0, 0⟩
    collapseKnownDuplicates outcome

end Repair
end MindLeak.Core
