import Mathlib.Data.List.Destutter
import MindLeak.Core.Ingest

/-! What a file declares, and where the files that it names would lie. -/

namespace MindLeak.Core

/-- A definition that a file has. -/
structure Symbol where
  (name qualifiedName kind : String)
  line : Nat

/-- A call, by the qualified name of the caller; the callee is one of the file's own or a name from elsewhere. -/
structure Call where
  (caller callee : String)

structure Extraction where
  symbols : List Symbol
  (calls callReferences : List Call)

structure ImportBinding where
  (imported localName : String)
  deriving DecidableEq

inductive ImportTarget where
  | artifactCandidates (paths : List String)
  | rustCrate (name : String) (segments : List String)
  | package (name : String)
  deriving DecidableEq

structure Import where
  target : ImportTarget
  bindings : List ImportBinding

inductive HierarchyRelation where
  | «extends» | implements

structure Hierarchy where
  (source target : String)
  relation : HierarchyRelation

structure Dependency where
  (name importName : String)
  localManifest : Option String
  deriving DecidableEq

structure RustCrate where
  (name rootPath : String)

inductive ManifestKind where
  | packageJson | goMod | requirementsTxt

/-- What lexers, patterns and parsers read off a content alone. An error is what follows the path in its text. -/
structure Scanners where
  /-- The definitions and calls, by the extension of the file. -/
  ast : String → String → Extraction
  javascriptImports : String → List (String × List ImportBinding)
  javascriptHierarchy : String → List Hierarchy
  /-- The names of `mod x;`. -/
  rustModules : String → List String
  rustUses : String → List String
  /-- The import name of a library, and its root beside the manifest. -/
  cargoCrate : String → Except String (Option (String × String))
  /-- The name, the import name and the path of each dependency. -/
  cargoDependencies : String → Except String (List (String × String × Option String))
  listedDependencies : ManifestKind → String → Except String (List String)

section

/-- `rsplit(separator).next()`. -/
def afterLast (separator : Char) (text : List Char) : List Char :=
  (text.reverse.takeWhile fun c => decide (c ≠ separator)).reverse

/-- `rsplit_once`. -/
def rsplitOnce (separator : Char) (text : List Char) : Option (List Char × List Char) :=
  if separator ∈ text then
    some (((text.reverse.dropWhile fun c => decide (c ≠ separator)).drop 1).reverse, afterLast separator text)
  else none

def trimEndMatches (c : Char) (text : List Char) : List Char := (text.reverse.dropWhile (· = c)).reverse

def extensionOf (path : String) : String := Text.asciiLower (String.ofList (afterLast '.' path.toList))

def fromFirst (marker : List Char) : List Char → Option (List Char)
  | [] => if marker = [] then some [] else none
  | c :: rest => if marker.isPrefixOf (c :: rest) then some (c :: rest) else fromFirst marker rest

def throughLast (marker text : List Char) : Option (List Char) := (fromFirst marker.reverse text.reverse).map List.reverse

/-- `split("::")`. -/
def splitColons : List Char → List (List Char)
  | [] => [[]]
  | ':' :: ':' :: rest => [] :: splitColons rest
  | c :: rest =>
    match splitColons rest with
    | [] => [[c]]
    | first :: others => (c :: first) :: others

def joinPath (parts : List String) : String := String.intercalate "/" parts

end

section

def supportsJavascript (path : String) : Bool := decide (extensionOf path ∈ ["ts", "tsx", "js", "jsx", "mjs", "cjs"])

def candidateExtensions (sourcePath : String) : List String :=
  match String.ofList (afterLast '.' sourcePath.toList) with
  | "tsx" => ["tsx", "ts", "js", "jsx", "mjs", "cjs"]
  | "ts" => ["ts", "tsx", "js", "jsx", "mjs", "cjs"]
  | "jsx" => ["jsx", "js", "tsx", "ts", "mjs", "cjs"]
  | "mjs" => ["mjs", "js", "cjs", "ts", "tsx", "jsx"]
  | "cjs" => ["cjs", "js", "mjs", "ts", "tsx", "jsx"]
  | _ => ["js", "jsx", "mjs", "cjs", "ts", "tsx"]

/-- The parts of a path, each `..` with the part before it taken away. -/
def relativeParts (joined : String) : List String :=
  (segments '/' joined.toList).foldl (fun parts part =>
    if part = [] ∨ part = ['.'] then parts
    else if part = ['.', '.'] then parts.dropLast
    else parts ++ [String.ofList part]) []

def relativeCandidates (sourcePath specifier : String) : List String :=
  let sourcePath := normalizePath sourcePath
  let directory := ((rsplitOnce '/' sourcePath.toList).map Prod.fst).getD []
  let joined := if directory = [] then normalizePath specifier else String.ofList directory ++ "/" ++ normalizePath specifier
  let parts := relativeParts joined
  let target := joinPath parts
  if (parts.getLast?.getD "").toList.contains '.' then
    match Text.stripSuffix? ".js" target with
    | some base => [target, base ++ ".ts", base ++ ".tsx"]
    | none => [target]
  else
    (candidateExtensions sourcePath).map (fun extension => target ++ "." ++ extension) ++
      (candidateExtensions sourcePath).map fun extension => target ++ "/index." ++ extension

def packageName (specifier : String) : String :=
  match segments '/' specifier.toList with
  | ('@' :: scope) :: second :: _ => String.ofList ('@' :: scope) ++ "/" ++ String.ofList second
  | first :: _ => String.ofList first
  | [] => specifier

def buildImport (path specifier : String) (bindings : List ImportBinding) : Import where
  target := if Text.startsWith specifier "." then .artifactCandidates (relativeCandidates path specifier)
    else .package (packageName specifier)
  bindings := bindings

def mergeBindings (known bindings : List ImportBinding) : List ImportBinding :=
  bindings.foldl (fun known binding => if binding ∈ known then known else known ++ [binding]) known

def mergeImport : List Import → Import → List Import
  | [], candidate => [candidate]
  | existing :: rest, candidate =>
    if existing.target = candidate.target then
      { existing with bindings := mergeBindings existing.bindings candidate.bindings } :: rest
    else existing :: mergeImport rest candidate

variable (scanners : Scanners)

def javascriptImports (path content : String) : List Import :=
  if supportsJavascript path then
    (scanners.javascriptImports content).foldl (fun imports (specifier, bindings) =>
      mergeImport imports (buildImport path specifier bindings)) []
  else []

def extractHierarchy (path content : String) : List Hierarchy :=
  if supportsJavascript path then scanners.javascriptHierarchy content else []

end

section

def TOOLCHAIN_ROOTS : List String := ["std", "core", "alloc"]

def supportsRust (path : String) : Bool := decide (extensionOf path = "rs")

structure ModuleLayout where
  (moduleDir parentDir crateDir : String)

/-- One segment less at the end. -/
def parentOf (dir : String) : String :=
  match rsplitOnce '/' (trimEndMatches '/' dir.toList) with
  | some (head, _) => String.ofList head ++ "/"
  | none => ""

def ModuleLayout.forPath (path : String) : Option ModuleLayout :=
  let norm := normalizePath path
  let (dir, file) := match rsplitOnce '/' norm.toList with
    | some (dir, file) => (String.ofList dir ++ "/", String.ofList file)
    | none => ("", norm)
  (Text.stripSuffix? ".rs" file).map fun stem =>
    let crateDir := ((throughLast "src/".toList dir.toList).map String.ofList).getD dir
    if stem ∈ ["lib", "main", "mod"] then ⟨dir, parentOf dir, crateDir⟩ else ⟨dir ++ stem ++ "/", dir, crateDir⟩

structure UseBranch where
  modules : List String
  bindings : List ImportBinding

def trimmedParts (text : List Char) : List String :=
  ((splitColons text).map fun part => Text.trim (String.ofList part)).filter fun part => !part.isEmpty

def dropColons : Nat → List Char → List Char
  | 0, text => text
  | count + 1, text => match text with
    | ':' :: ':' :: rest => dropColons count rest
    | _ => text

def pathSegments (path : List Char) : List String :=
  let path := (Text.trim (String.ofList path)).toList
  trimmedParts (dropColons path.length path.reverse).reverse

def aliasedName (item : String) : String × String :=
  match behind " as ".toList item.toList with
  | some rest => (Text.trim (String.ofList (item.toList.take (rest - 4))), Text.trim (String.ofList (item.toList.drop rest)))
  | none => (Text.trim item, Text.trim item)

def isItemName (name : String) : Bool :=
  !name.isEmpty && decide (name ≠ "self" ∧ name ≠ "*") && name.toList.all fun c => c.isAlphanum || decide (c = '_')

def itemBindings (imported localName : String) : List ImportBinding :=
  if isItemName imported then [⟨imported, localName⟩] else []

def simpleBranch (segments : List String) : UseBranch :=
  match segments.getLast? with
  | none => ⟨segments, []⟩
  | some last =>
    let (imported, localName) := aliasedName last
    if isItemName imported then ⟨segments.dropLast ++ [imported], [⟨imported, localName⟩]⟩ else ⟨segments, []⟩

/-- The items between the commas of a group, a group within one left whole. -/
def splitGroup : Nat → List Char → List Char → List (List Char)
  | _, item, [] => [item]
  | depth, item, c :: rest =>
    if c = ',' ∧ depth = 0 then item :: splitGroup 0 [] rest
    else splitGroup (if c = '{' then depth + 1 else if c = '}' then depth - 1 else depth) (item ++ [c]) rest

def mergeBranch : List UseBranch → UseBranch → List UseBranch
  | [], branch => [branch]
  | existing :: rest, branch =>
    if existing.modules = branch.modules then
      { existing with bindings := mergeBindings existing.bindings branch.bindings } :: rest
    else existing :: mergeBranch rest branch

/-- What stands behind an opening brace, up to the closing ones at the end. -/
def groupBody (text : List Char) : List Char := trimEndMatches '}' (text.reverse.dropWhile Text.isWhitespace).reverse

/-- The fuel is the length of the item, which a group within it falls short of. -/
def expandGroupItem : Nat → List String → List UseBranch → List Char → List UseBranch
  | 0, _, branches, _ => branches
  | fuel + 1, lead, branches, raw =>
    let item := (Text.trim (String.ofList raw)).toList
    match fromFirst ['{'] item with
    | some (_ :: nested) =>
      let lead := lead ++ pathSegments (item.takeWhile fun c => decide (c ≠ '{'))
      (splitGroup 0 [] (groupBody nested)).foldl (expandGroupItem fuel lead) branches
    | _ =>
      let path := pathSegments item
      match path.getLast? with
      | none => branches
      | some last =>
        let (imported, localName) := aliasedName last
        mergeBranch branches ⟨lead ++ path.dropLast, itemBindings imported localName⟩

def groupedBranches (lead : List String) (items : List Char) : List UseBranch :=
  (splitGroup 0 [] items).foldl (fun branches item => expandGroupItem (item.length + 1) lead branches item) []

/-- The files that a module path may name, the longest first. -/
def moduleCandidates (layout : ModuleLayout) (base : String) (segments : List String) : List String :=
  let named := (segments.inits.tail.reverse).flatMap fun lead =>
    [base ++ joinPath lead ++ ".rs", base ++ joinPath lead ++ "/mod.rs"]
  let roots := if base = layout.crateDir then [base ++ "lib.rs", base ++ "main.rs"] else []
  (named ++ roots ++ [base ++ "mod.rs"]).destutter (· ≠ ·)

def climb : String → List String → String × List String
  | dir, [] => (dir, [])
  | dir, part :: rest => if part = "super" then climb (parentOf dir) rest else (dir, part :: rest)

/-- Where a module path begins, its segments from there, and the crate that it leaves for. -/
def useBase (layout : ModuleLayout) (root : String) (rest : List String) : String × List String × Option String :=
  match root with
  | "crate" => (layout.crateDir, rest, none)
  | "self" => (layout.moduleDir, rest, none)
  | "super" =>
    let (dir, rest) := climb layout.parentDir rest
    (dir, rest, none)
  | _ => ("", rest, some root)

def resolveUse (layout : ModuleLayout) (tree : String) : List Import :=
  let tree := (Text.trim tree).toList
  let group := (fromFirst ['{'] tree).map fun found => groupBody (found.drop 1)
  match trimmedParts (tree.takeWhile fun c => decide (c ≠ '{')) with
  | [] => []
  | root :: rest =>
    if root ∈ TOOLCHAIN_ROOTS then []
    else
      let (base, segments, externalCrate) := useBase layout root rest
      let branches := match group with
        | some items => groupedBranches segments items
        | none => [simpleBranch segments]
      branches.foldl (fun imports branch =>
        match externalCrate with
        | some name => mergeImport imports ⟨.rustCrate name branch.modules, branch.bindings⟩
        | none => mergeImport imports ⟨.artifactCandidates (moduleCandidates layout base branch.modules), branch.bindings⟩) []

variable (scanners : Scanners)

def rustImports (path content : String) : List Import :=
  if supportsRust path then
    match ModuleLayout.forPath path with
    | none => []
    | some layout =>
      let modules := (scanners.rustModules content).foldl (fun imports name =>
        mergeImport imports
          ⟨.artifactCandidates [layout.moduleDir ++ name ++ ".rs", layout.moduleDir ++ name ++ "/mod.rs"], []⟩) []
      (scanners.rustUses content).foldl (fun imports tree => (resolveUse layout tree).foldl mergeImport imports) modules
  else []

end

section

def fileName (path : String) : String := String.ofList (afterLast '/' (normalizePath path).toList)

/-- A path beside the manifest, as long as it stays within the repository. -/
def manifestRelativePath (manifestPath relative : String) : Option String :=
  let relative := (normalizePath relative).toList
  let elsewhere := match relative with
    | '/' :: _ => true
    | drive :: ':' :: _ => decide (drive.toNat < 128)
    | _ => false
  if elsewhere then none
  else
    let directory := match rsplitOnce '/' manifestPath.toList with
      | some (directory, _) => segments '/' directory
      | none => []
    let reached := (segments '/' relative).foldlM (fun parts part =>
      if part = [] ∨ part = ['.'] then some parts
      else if part = ['.', '.'] then (if parts = [] then none else some parts.dropLast)
      else some (parts ++ [part])) directory
    reached.bind fun parts => if parts = [] then none else some (joinPath (parts.map String.ofList))

variable (scanners : Scanners)

def rustCrate (path content : String) : Result (Option RustCrate) :=
  let path := normalizePath path
  if fileName path ≠ "Cargo.toml" then .ok none
  else match scanners.cargoCrate content with
    | .error detail => .error (.other ("invalid " ++ path ++ detail))
    | .ok none => .ok none
    | .ok (some (name, relativeRoot)) => .ok ((manifestRelativePath path relativeRoot).map fun rootPath => ⟨name, rootPath⟩)

def Dependency.before (a b : Dependency) : Prop :=
  a.name < b.name ∨ a.name = b.name ∧ (a.importName < b.importName ∨ a.importName = b.importName ∧
    match a.localManifest, b.localManifest with
    | none, _ => True
    | some _, none => False
    | some first, some second => first ≤ second)

instance : DecidableRel Dependency.before := fun a b => by
  unfold Dependency.before
  cases a.localManifest <;> cases b.localManifest <;> infer_instance

def cargoDependency (path : String) : String × String × Option String → Dependency
  | (name, importName, relative) =>
    ⟨name, importName, (relative.bind (manifestRelativePath path)).map fun manifest => manifest ++ "/Cargo.toml"⟩

def dependencySet (dependencies : List Dependency) : List Dependency := (dependencies.insertionSort Dependency.before).dedup

def manifestKind (fileName : String) : Option ManifestKind :=
  if fileName = "package.json" then some .packageJson
  else if fileName = "go.mod" then some .goMod
  else if fileName = "requirements.txt" ∨
      (Text.startsWith fileName "requirements-" ∧ (Text.stripSuffix? ".txt" fileName).isSome) then some .requirementsTxt
  else none

def manifestDependencies (path content : String) : Result (Option (List Dependency)) :=
  let refused := fun detail : String => MindLeakError.other ("invalid " ++ path ++ detail)
  if fileName path = "Cargo.toml" then
    match scanners.cargoDependencies content with
    | .error detail => .error (refused detail)
    | .ok found => .ok (some (dependencySet (found.map (cargoDependency path))))
  else match manifestKind (fileName path) with
    | none => .ok none
    | some kind =>
      match scanners.listedDependencies kind content with
      | .error detail => .error (refused detail)
      | .ok names => .ok (some (dependencySet (names.map fun name => ⟨name, name, none⟩)))

end

section

def MAX_DOC_LINES : Nat := 8
def MAX_CONTEXT_CHARS : Nat := 400

def isAttribute (line : String) : Bool := Text.startsWith line "#[" || Text.startsWith line "#!["

def isDocComment (line : String) : Bool :=
  Text.startsWith line "//" || Text.startsWith line "/*" || Text.startsWith line "*" || Text.startsWith line "\"\"\"" ||
    Text.startsWith line "#" && !Text.startsWith line "#[" && !Text.startsWith line "#!"

/-- The comment above a line, the nearest first; attributes stand between. -/
def docLines : Nat → List String → List String
  | 0, _ => []
  | _, [] => []
  | room + 1, above :: rest =>
    let candidate := Text.trim above
    if isAttribute candidate then docLines (room + 1) rest
    else if isDocComment candidate then candidate :: docLines room rest
    else []

def symbolContext (content : String) (line : Nat) : String :=
  let lines := textLines content
  match if line = 0 then none else lines[line - 1]? with
  | none => ""
  | some declaration =>
    let kept := (docLines MAX_DOC_LINES (lines.take (line - 1)).reverse).reverse ++ [Text.trim declaration]
    String.ofList ((String.intercalate "\n" kept).toList.take MAX_CONTEXT_CHARS)

end
end MindLeak.Core
