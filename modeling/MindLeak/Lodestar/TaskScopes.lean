import MindLeak.Library.Glob
import MindLeak.Lodestar.Waivers

/-! Declared path scopes read twice: as globs, where scopes are declared and
compared, and as covering tokens, where a merge is taken as evidence. -/

namespace MindLeak.Lodestar

/-- The glob library, separators literal. -/
structure Globset where
  /-- Why a pattern does not compile, if it does not. -/
  error : String → Option String
  isMatch : String → String → Bool

structure Globset.Documented (globs : Globset) : Prop where
  compiles : ∀ pattern, globs.error pattern = none ↔ (Glob.read pattern.toList).isSome
  matching : ∀ pattern tokens path, Glob.read pattern.toList = some tokens →
    globs.isMatch pattern path = Glob.accepts tokens path.toList

/-- A library that does what it documents. -/
def Globset.plain : Globset where
  error pattern := if (Glob.read pattern.toList).isSome then none else some "unreadable"
  isMatch pattern path := Glob.isMatch pattern.toList path.toList

namespace Globset

def compileScopeGlob (globs : Globset) (pattern : String) : Result (String → Bool) :=
  match globs.error pattern with
  | some error => .error (.invalid s!"invalid task scope glob '{pattern}': {error}")
  | none => .ok (globs.isMatch pattern)

def matchesAny (globs : Globset) (request : String) : List String → Result Bool
  | [] => .ok false
  | declaration :: declared => do
    let matcher ← globs.compileScopeGlob declaration
    if matcher request then return true else globs.matchesAny request declared

def intersectPaths (globs : Globset) (requested declared : List String) : Result (List String) := do
  let found ← requested.foldlM (fun found request => do
    return if ← globs.matchesAny request declared then found ++ [request] else found) []
  return sortDedup found

end Globset

structure MergeProof where
  commit : String
  changedPaths : List String

def insideScope (scope : List String) (path : String) : Bool := scope.any fun declared => covers declared path

def verifyScope (resolved : String) (changedPaths scope : List String) : Result MergeProof := do
  if scope.isEmpty then
    throw (.invalid (s!"task declared no path scope, so nothing ties {resolved} to it; " ++
      "declare paths when claiming, or complete with an evidence bundle instead"))
  if !changedPaths.any (insideScope scope) then
    throw (.invalid (s!"{resolved} touches nothing inside this task's declared scope; " ++
      "a merge that changed none of the task's paths is somebody else's work"))
  return ⟨resolved, changedPaths⟩

def isLiteral (pattern : List Char) : Bool := Glob.simple pattern && decide ('?' ∉ pattern)

def readsAlike (pattern : String) : Bool :=
  !isWorkflow pattern &&
    (isLiteral pattern.toList || decide (pattern = "**") ||
      (Text.stripSuffix? "/**" pattern).any fun front => isLiteral front.toList)

end MindLeak.Lodestar
