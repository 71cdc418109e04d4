import MindLeak.Core.Graph
import MindLeak.Library.Runs

/-! The embedding index beside the graph: a vector for each node and model, and
the calls that fill it, which read their work, wait for the model, and write. -/

namespace MindLeak.Core

variable {φ : Type}

/-- A component stands for one `f32`: the index only stores them. -/
structure EmbeddingRow (φ : Type) where
  (nodeId model : String)
  dim : Nat
  vector : List φ
  updatedAt : Int

instance : Row (EmbeddingRow φ) (String × String) := ⟨fun row => (row.nodeId, row.model)⟩

def Node.text (node : Node) : String :=
  match node.content with
  | some content => node.label ++ "\n" ++ content
  | none => node.label

/-- `chunks`: runs of the size, and what is left over. -/
def chunksFrom {α : Type} (size : Nat) (current : List α) : List α → List (List α)
  | [] => if current.isEmpty then [] else [current]
  | item :: rest =>
    if current.length = size then current :: chunksFrom size [item] rest else chunksFrom size (current ++ [item]) rest

def chunks {α : Type} (size : Nat) (items : List α) : List (List α) := chunksFrom size [] items

/-- `LIMIT ?` bound to a `usize` cast to `i64`: a negative bound is none. -/
def limited {α : Type} (limit : Nat) (rows : List α) : List α := if 2 ^ 63 ≤ limit then rows else rows.take limit

/-- One `index_nodes` call under way: the chunks not yet sent to the model, the
vectors it sent back that are not yet written, and the writes that took. -/
structure IndexCall (φ : Type) where
  call : Nat
  model : String
  chunks : List (List (String × String))
  ready : List (String × List φ) := []
  indexed : Nat := 0
  failed : Bool := false

instance : Row (IndexCall φ) Nat := ⟨IndexCall.call⟩

def IndexCall.returned (call : IndexCall φ) : Option Nat :=
  if call.failed || !call.chunks.isEmpty || !call.ready.isEmpty then none else some call.indexed

structure EmbeddingIndex (φ : Type) where
  graph : Graph := .empty
  embeddings : Table (EmbeddingRow φ) := .empty
  calls : Table (IndexCall φ) := .empty

inductive IndexOp where
  | upsert (node : Node)
  | delete (ids : List String)
  | begin (call : Nat) (model : String) (limit batch : Nat) (order : List (String × String) → List (String × String))
  | embed (call : Nat) (reachable : Bool)
  | write (call : Nat) (now : Int)

namespace EmbeddingIndex

def upsertNode (s : EmbeddingIndex φ) (node : Node) : EmbeddingIndex φ := { s with graph := (s.graph.upsertNode node).2 }

def deleteNodes (s : EmbeddingIndex φ) (ids : List String) : EmbeddingIndex φ :=
  { s with
    graph := { s.graph with nodes := s.graph.nodes.delete fun node => decide (node.id ∈ ids) }
    embeddings := s.embeddings.delete fun row => decide (row.nodeId ∈ ids) }

def upsertIfNodeExists (s : EmbeddingIndex φ) (nodeId model : String) (vector : List φ) (now : Int) :
    Bool × EmbeddingIndex φ :=
  if s.graph.nodeExists nodeId then
    (true, { s with embeddings := s.embeddings.put ⟨nodeId, model, vector.length, vector, now⟩ })
  else (false, s)

/-- `WHERE id NOT IN (SELECT node_id FROM embeddings WHERE model = ?1)`, before its limit. -/
def nodesMissingEmbeddings (s : EmbeddingIndex φ) (model : String) : List (String × String) :=
  (s.graph.nodes.rows.filter fun node =>
    !s.embeddings.rows.any fun row => decide (row.nodeId = node.id ∧ row.model = model)).map fun node => (node.id, node.text)

/-- The work a call takes on is read once, in whatever order the query returns it. -/
def beginCall (s : EmbeddingIndex φ) (call : Nat) (model : String) (limit batch : Nat)
    (order : List (String × String) → List (String × String)) : EmbeddingIndex φ :=
  { s with
    calls := s.calls.put
      { call, model, chunks := Core.chunks batch (limited limit (order (s.nodesMissingEmbeddings model))) } }

/-- The next chunk's texts go to the model, which answers a vector each or fails the call. -/
def embedChunk (embedding : String → String → List φ) (s : EmbeddingIndex φ) (call : Nat) (reachable : Bool) :
    EmbeddingIndex φ :=
  match s.calls.find? call with
  | none => s
  | some underway =>
    if underway.failed || !underway.ready.isEmpty then s
    else match underway.chunks with
      | [] => s
      | chunk :: rest =>
        if reachable then
          { s with
            calls := s.calls.put
              { underway with
                chunks := rest
                ready := chunk.map fun item => (item.1, embedding underway.model item.2) } }
        else { s with calls := s.calls.put { underway with failed := true } }

def writeVector (s : EmbeddingIndex φ) (call : Nat) (now : Int) : EmbeddingIndex φ :=
  match s.calls.find? call with
  | none => s
  | some underway =>
    match underway.ready with
    | [] => s
    | item :: rest =>
      let (written, s) := s.upsertIfNodeExists item.1 underway.model item.2 now
      { s with
        calls := s.calls.put
          { underway with ready := rest, indexed := if written then underway.indexed + 1 else underway.indexed } }

def perform (embedding : String → String → List φ) (s : EmbeddingIndex φ) : IndexOp → EmbeddingIndex φ
  | .upsert node => s.upsertNode node
  | .delete ids => s.deleteNodes ids
  | .begin call model limit batch order => s.beginCall call model limit batch order
  | .embed call reachable => s.embedChunk embedding call reachable
  | .write call now => s.writeVector call now

end EmbeddingIndex

/-- Calls and writers in any order; a model embeds a text the same way each time,
and answers a batch in input order. -/
def embeddingIndex (embedding : String → String → List φ) : Machine (EmbeddingIndex φ) IndexOp where
  start := {}
  enabled _
    | .begin _ _ _ batch order => 0 < batch ∧ ∀ rows, (order rows).Perm rows
    | _ => True
  apply s op := s.perform embedding op

end MindLeak.Core
