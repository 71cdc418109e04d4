import Mathlib.Algebra.Order.Field.Rat
import Mathlib.Data.List.Induction
import Mathlib.Tactic.Linarith
import Mathlib.Tactic.Ring
import MindLeak.Proofs.Growth

/-! What is left of an edge's calls, in whatever order they come. -/

namespace MindLeak.Core
open List

namespace EdgeKey
variable {g : Graph} {key : EdgeKey} {weight : Rat} {halfLifeHours : Nat} {first : Int} {rest : List Int}

def call (key : EdgeKey) (weight : Rat) (halfLifeHours : Nat) (time : Int) : Edge :=
  ⟨key.sourceId, key.targetId, key.relation, weight, halfLifeHours, time⟩

def reinforced (key : EdgeKey) (weight : Rat) (halfLifeHours : Nat) (first : Int) (rest : List Int) : EdgeRow :=
  rest.foldl (fun row time => row.reinforce (key.call weight halfLifeHours time) none) ((key.call weight halfLifeHours first).row none)

/-- What one more call makes of the row there is. -/
def settle (found : Option EdgeRow) (edge : Edge) : Option EdgeRow := some (found.elim (edge.row none) (·.reinforce edge none))

def between : EdgeKey := ⟨"artifact:a", "artifact:b", .imports⟩

end EdgeKey
end MindLeak.Core
