import Mathlib.Data.List.Sort
import MindLeak.Core.Graph
import MindLeak.Library.Sha256

/-! What paths and texts become before they name anything in the graph. -/

namespace MindLeak.Core

/-- The first `count` characters of a text, with a mark where it goes on. -/
def clamp (text : String) (count : Nat) : String :=
  if text.length ≤ count then text else String.ofList (text.toList.take count) ++ " …"

def hexDigit (value : Nat) : Char := if value < 10 then Char.ofNat (48 + value) else Char.ofNat (87 + value)

def shortHash (input : String) : String :=
  String.ofList (((Sha256.digest input.toUTF8.data.toList).take 6).flatMap fun byte =>
    [hexDigit (byte.toNat / 16), hexDigit (byte.toNat % 16)])

def normalizePath (path : String) : String := String.ofList (path.toList.map fun c => if c = '\\' then '/' else c)

/-- `root`, with one slash at its end; nothing where nothing is left of it. -/
def rootPrefix (root : String) : Option (List Char) :=
  let root := ((normalizePath root).toList.reverse.dropWhile (· = '/')).reverse
  if root = [] then none else some (root.map Char.toLower ++ ['/'])

def matchedRoot (roots : List String) (candidate : List Char) : Option Nat :=
  roots.foldl (fun matched root =>
    match rootPrefix root with
    | none => matched
    | some lead =>
      if lead.isPrefixOf candidate && matched.all (· < lead.length) then some lead.length else matched) none

def repoRelative (path : String) (roots : List String) : String :=
  let normalized := normalizePath path
  match matchedRoot roots (normalized.toList.map Char.toLower) with
  | some length => String.ofList (normalized.toList.drop length)
  | none => normalized

def isAbsolutePath (path : String) : Bool :=
  match (normalizePath path).toList with
  | '/' :: _ => true
  | drive :: ':' :: _ => drive.isAlpha
  | _ => false

def IGNORED_SEGMENTS : List String :=
  [".git", "target", "node_modules", "dist", "coverage", ".mindleak", ".lodestar", ".vscode-test"]

def segments (separator : Char) : List Char → List (List Char)
  | [] => [[]]
  | c :: rest =>
    if c = separator then [] :: segments separator rest
    else
      match segments separator rest with
      | [] => [[c]]
      | first :: others => (c :: first) :: others

def isIgnoredPath (path : String) : Bool :=
  (segments '/' (normalizePath path).toList).any fun segment => decide (String.ofList segment ∈ IGNORED_SEGMENTS)

/-- In order, each once. -/
def sortDedup {α : Type} [LE α] [DecidableLE α] [DecidableEq α] (items : List α) : List α := (items.insertionSort (· ≤ ·)).dedup

def textLines (text : String) : List String :=
  let pieces := segments '\n' text.toList
  let pieces := if pieces.getLast? = some [] then pieces.dropLast else pieces
  pieces.map fun piece => String.ofList (if piece.getLast? = some '\r' then piece.dropLast else piece)

/-! Executions, commits and tool calls as facts of the graph, and whose work they are. -/

/-- What the ingesters match and ask with code outside the repository. -/
structure Sensors where
  fileLines : String → List (String × String)
  /-- The captures of `File "path", line N`. -/
  pythonTracebacks : String → List (String × String)
  readsLastExitCode : String → Bool
  /-- The quoted form of a text in a diagnostic. -/
  debug : String → String
  /-- Whether a hash names a commit here, where that can be told. -/
  commitResolver : Option (String → Option Bool)

structure ExecutionRecord where
  command : String
  exitCode : Int
  output : String
  cwd : Option String
  changedFiles : List String
  timestamp : Int

structure CommitRecord where
  sha : Option String
  message : String
  changedFiles : List String
  timestamp : Int

structure ToolInvocationRecord where
  (toolName argumentExcerpt : String)
  timestamp : Int

def parseU32 (text : String) : Option Nat :=
  let value := text.toList.foldl (fun value c => value * 10 + (c.toNat - '0'.toNat)) 0
  if text.isEmpty || text.toList.any (fun c => !c.isDigit) || decide (4294967296 ≤ value) then none else some value

section
variable (sensors : Sensors)

def parseErrorLocations (output : String) : List (String × Nat) :=
  let found := (sensors.fileLines output ++ sensors.pythonTracebacks output).filterMap fun (path, line) =>
    (parseU32 line).map fun line => (normalizePath path, line)
  (found.insertionSort fun a b => a.1 < b.1 ∨ a.1 = b.1 ∧ a.2 ≤ b.2).dedup

def ExecutionRecord.id (rec : ExecutionRecord) : String := "execution:" ++ shortHash (rec.command ++ "|" ++ toString rec.timestamp)

def ExecutionRecord.content (rec : ExecutionRecord) : String :=
  "exit=" ++ toString rec.exitCode ++ "\n" ++ (rec.cwd.elim "" fun cwd => "cwd=" ++ cwd ++ "\n") ++ clamp rec.output 2000

def ExecutionRecord.node (rec : ExecutionRecord) : Node :=
  (Node.new rec.id .execution (clamp rec.command 80) rec.timestamp).withContent rec.content

/-- A file may be named in the graph. -/
def admissiblePath (path : String) : Bool := !isIgnoredPath path && !isAbsolutePath path

def ExecutionRecord.changedPaths (rec : ExecutionRecord) (roots : List String) : List String :=
  (sortDedup (rec.changedFiles.map (repoRelative · roots))).filter admissiblePath

/-- The files that a failed command's output names; a file is there once for each of its lines. -/
def ExecutionRecord.failedPaths (rec : ExecutionRecord) (roots : List String) : List String :=
  if rec.exitCode = 0 then []
  else ((parseErrorLocations sensors rec.output).map fun (path, _) => repoRelative path roots).filter admissiblePath

def artifactId (path : String) : String := "artifact:" ++ path

def artifactNode (path : String) (now : Int) : Node := Node.new (artifactId path) .artifact path now

def ingestExecution (rec : ExecutionRecord) (now : Int) (roots : List String) (agent : Option String) (g : Graph) :
    Result (WriteOutcome × Graph) := do
  let changed := rec.changedPaths roots
  let failed := rec.failedPaths sensors roots
  let nodes := rec.node :: (changed ++ failed).map (artifactNode · now)
  let edges := changed.map (fun path => Edge.new rec.id (artifactId path) .modified rec.timestamp) ++
    failed.map fun path => Edge.new rec.id (artifactId path) .failedOn rec.timestamp
  let (outcome, g) ← g.upsertFacts nodes edges (agent.map fun agent => ⟨agent, [rec.id], now⟩)
  .ok ({ outcome with nodeIds := outcome.nodeIds ++ [rec.id] }, g)

end

section

def behind (marker : List Char) : List Char → Option Nat
  | [] => if marker = [] then some 0 else none
  | c :: rest =>
    if marker.isPrefixOf (c :: rest) then some marker.length else (behind marker rest).map (· + 1)

def dropRepeated (lead : List Char) : Nat → List Char → List Char
  | 0, text => text
  | count + 1, text => if lead.isPrefixOf text then dropRepeated lead count (text.drop lead.length) else text

def RATIONALE_MARKERS : List String := ["DECISION:", "HACK:", "WHY:", "NOTE:", "FIXME:"]

def extractRationale (message : String) : List String :=
  (textLines message).flatMap fun line =>
    let chars := (Text.trim line).toList
    let chars := (dropRepeated ['/', '/'] chars.length chars).dropWhile (· = '#')
    let trimmed := (Text.trim (String.ofList chars)).toList
    RATIONALE_MARKERS.filterMap fun marker =>
      match behind marker.toList (trimmed.map Char.toUpper) with
      | none => none
      | some from_ =>
        let rest := Text.trim (String.ofList (trimmed.drop from_))
        if rest.isEmpty then none else some (marker ++ " " ++ rest)

def CommitRecord.intentNode (rec : CommitRecord) (intentId : String) : Node :=
  let firstLine := Text.trim ((textLines rec.message).head?.getD "")
  let rationale := extractRationale rec.message
  let content := if rationale = [] then rec.message else rec.message ++ "\n---\n" ++ String.intercalate "\n" rationale
  (Node.new intentId .intent (clamp firstLine 80) rec.timestamp).withContent content

def CommitRecord.changedPaths (rec : CommitRecord) (roots : List String) : List String :=
  sortDedup ((rec.changedFiles.map (repoRelative · roots)).filter fun path => !isIgnoredPath path)

def isFullCommitSha (sha : String) : Bool :=
  decide (sha.utf8ByteSize = 40 ∨ sha.utf8ByteSize = 64) && sha.toList.all Text.isAsciiHexDigit

variable (sensors : Sensors)

def CommitRecord.commitKey (rec : CommitRecord) : Result String :=
  match rec.sha with
  | some sha =>
    let sha := Text.trim sha
    if !isFullCommitSha sha then
      .error (.invalidArgument ("sha " ++ sensors.debug sha ++ " is not a full commit hash; pass all 40 (or 64) " ++
        "hex characters, because an abbreviation would create a " ++
        "second intent node for a commit already ingested under its full hash"))
    else
      let sha := Text.asciiLower sha
      if (sensors.commitResolver.bind fun resolves => resolves sha) = some false then
        .error (.invalidArgument ("sha " ++ sensors.debug sha ++ " is well formed but names no commit in this " ++
          "checkout; provenance must cite a commit that exists, so " ++
          "pass the exact output of `git rev-parse <ref>` rather than a hash composed or recalled"))
      else .ok sha
  | none => .ok (shortHash (rec.message ++ "|" ++ toString rec.timestamp))

def intentId (commitKey : String) : String := "intent:" ++ commitKey

def writeCommit (rec : CommitRecord) (commitId : String) (now : Int) (roots : List String) (g : Graph) :
    Result (WriteOutcome × Graph) := do
  let changed := rec.changedPaths roots
  let nodes := rec.intentNode commitId :: changed.map (artifactNode · now)
  let edges := changed.map fun path => Edge.new commitId (artifactId path) .refactored rec.timestamp
  let (outcome, g) ← g.upsertFacts nodes edges none
  .ok ({ outcome with nodeIds := outcome.nodeIds ++ [commitId] }, g)

def ingestCommit (rec : CommitRecord) (now : Int) (roots : List String) (g : Graph) : Result (WriteOutcome × Graph) := do
  let commitKey ← rec.commitKey sensors
  writeCommit rec (intentId commitKey) now roots g

end

section

inductive ShellHygieneViolation where
  | pipedPowerShellCmdlet | lastExitCode

def ShellHygieneViolation.asStr : ShellHygieneViolation → String
  | .pipedPowerShellCmdlet => "piped_powershell_cmdlet"
  | .lastExitCode => "last_exit_code"

def NATIVE_COMMANDS : List String :=
  ["git", "cargo", "npm", "npx", "node", "python", "python3", "dotnet", "gh", "yarn", "pnpm", "make"]

def POWERSHELL_CMDLETS : List String :=
  ["select-object", "select-string", "foreach-object", "where-object", "get-childitem", "remove-item", "test-path",
    "format-table", "format-list", "sort-object", "group-object", "measure-object", "out-string", "tee-object",
    "get-content", "set-content", "new-item", "copy-item", "move-item", "rename-item"]

def firstToken (segment : List Char) : Option (List Char) :=
  let token := (segment.dropWhile Text.isWhitespace).takeWhile fun c => !Text.isWhitespace c
  if token = [] then none else some token

def unquoted (token : List Char) : List Char :=
  let isQuote := fun c : Char => decide (c = '"' ∨ c = '\'')
  ((token.dropWhile isQuote).reverse.dropWhile isQuote).reverse

def isNativeCommand (token : List Char) : Bool :=
  let bare := String.ofList ((unquoted (token.dropWhile (· = '&'))).map Char.toLower)
  NATIVE_COMMANDS.any fun native => decide (bare = native ∨ bare = native ++ ".exe")

def isPowershellCmdlet (token : List Char) : Bool := decide (String.ofList ((unquoted token).map Char.toLower) ∈ POWERSHELL_CMDLETS)

variable (sensors : Sensors)

def classifyCommand (command : String) : Option ShellHygieneViolation :=
  if sensors.readsLastExitCode command then some .lastExitCode
  else
    let pieces := segments '|' command.toList
    -- The side that is piped onto is never the first.
    if 2 ≤ pieces.length ∧ (pieces.filterMap firstToken).any isNativeCommand ∧
        ((pieces.drop 1).filterMap firstToken).any isPowershellCmdlet then
      some .pipedPowerShellCmdlet
    else none

def ToolInvocationRecord.id (rec : ToolInvocationRecord) : String :=
  "tool_invocation:" ++ shortHash (rec.toolName ++ "|" ++ rec.argumentExcerpt ++ "|" ++ toString rec.timestamp)

def ToolInvocationRecord.node (rec : ToolInvocationRecord) : Node :=
  let violation := (classifyCommand sensors rec.argumentExcerpt).elim "" fun violation => "violation=" ++ violation.asStr ++ "\n"
  (Node.new rec.id .toolInvocation (clamp rec.argumentExcerpt 80) rec.timestamp).withContent
    ("tool=" ++ rec.toolName ++ "\n" ++ violation ++ clamp rec.argumentExcerpt 2000)

def ingestToolInvocation (rec : ToolInvocationRecord) (g : Graph) : Result (WriteOutcome × Graph) := do
  let (outcome, g) ← g.upsertFacts [rec.node sensors] [] none
  .ok ({ outcome with
    nodeIds := outcome.nodeIds ++ [rec.id]
    violation := (classifyCommand sensors rec.argumentExcerpt).map ShellHygieneViolation.asStr }, g)

end
end MindLeak.Core
