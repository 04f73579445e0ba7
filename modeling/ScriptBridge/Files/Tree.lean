/-
  ScriptBridge/Files/Tree.lean
  ============================
  **A tree of files to read from.**

  A path is followed segment by segment from the root.  A segment in a file is
  not a directory, a name that a directory does not hold is missing, and only a
  file has octets.
-/
import ScriptBridge.Data.Assoc
import ScriptBridge.Files.Path
import ScriptBridge.Text.Utf8

namespace ScriptBridge

/-- Why something could not be read. -/
inductive ReadError where
  | missing
  | isDirectory
  | notDirectory
  | notText
  /-- The path leaves the assets directory. -/
  | outside (path : String)
  /-- No asset of that path is in memory. -/
  | noAsset (path : String)
deriving DecidableEq, Repr

def ReadError.message : ReadError → String
  | .missing => "No such file or directory (os error 2)"
  | .isDirectory => "Is a directory (os error 21)"
  | .notDirectory => "Not a directory (os error 20)"
  | .notText => "stream did not contain valid UTF-8"
  | .outside path => "asset path " ++ path ++ " leaves the assets directory"
  | .noAsset path => "no asset " ++ path

/-- A file or a directory with its entries in order of their names. -/
inductive FileTree where
  | file (octets : List UInt8)
  | directory (entries : List (String × FileTree))
deriving Repr, Inhabited

namespace FileTree

def emptyDirectory : FileTree := .directory []

def isDirectory : FileTree → Bool
  | .directory _ => true
  | .file _ => false

/-- Follows segments from a node; `above` are the directories that it lies in, innermost first. -/
def follow (above : List FileTree) (node : FileTree) : List String → Except ReadError FileTree
  | [] => .ok node
  | segment :: rest =>
    match node with
    | .file _ => .error .notDirectory
    | .directory entries =>
      if segment = "" ∨ segment = "." then follow above node rest
      else if segment = ".." then
        match above with
        | [] => follow [] node rest
        | outer :: above => follow above outer rest
      else
        match Assoc.find? segment entries with
        | none => .error .missing
        | some inner => follow (node :: above) inner rest

/-- The node at an absolute path. -/
def find (root : FileTree) (path : String) : Except ReadError FileTree :=
  if path = "" then .error .missing else follow [] root (Path.segments path)

def read (root : FileTree) (path : String) : Except ReadError (List UInt8) :=
  match root.find path with
  | .ok (.file octets) => .ok octets
  | .ok (.directory _) => .error .isDirectory
  | .error e => .error e

def readText (root : FileTree) (path : String) : Except ReadError String :=
  match root.read path with
  | .error e => .error e
  | .ok octets =>
    match Utf8.decode octets with
    | .ok cs => .ok (String.ofList cs)
    | .error _ => .error .notText

/-- Something is at the path. -/
def holds (root : FileTree) (path : String) : Bool :=
  match root.find path with
  | .ok _ => true
  | .error _ => false

def holdsFile (root : FileTree) (path : String) : Bool :=
  match root.find path with
  | .ok (.file _) => true
  | _ => false

/-- Puts a node below a directory, making the directories on the way. -/
def put (node : FileTree) : List String → FileTree → FileTree
  | [], _ => node
  | name :: rest, .directory entries =>
    let inner := (Assoc.find? name entries).getD emptyDirectory
    .directory (Assoc.insert name (put node rest inner) entries)
  | name :: rest, .file _ => .directory [(name, put node rest emptyDirectory)]

def putDirectory : List String → FileTree → FileTree
  | [], .directory entries => .directory entries
  | [], .file _ => emptyDirectory
  | name :: rest, .directory entries =>
    let inner := (Assoc.find? name entries).getD emptyDirectory
    .directory (Assoc.insert name (putDirectory rest inner) entries)
  | name :: rest, .file _ => .directory [(name, putDirectory rest emptyDirectory)]

/-- Makes every directory that a path leads through, itself left out. -/
def putDirectoriesTo (path : String) (tree : FileTree) : FileTree :=
  let segments := Path.segments path
  (List.range segments.length).foldl
    (fun tree n => putDirectory (Path.lexical (segments.take n)) tree) tree

mutual

/-- The paths of all files of one name in a node, directories in order of their names. -/
def filesNamed (name path : String) : FileTree → List String
  | .file _ => []
  | .directory entries => filesNamedIn name path entries

def filesNamedIn (name path : String) : List (String × FileTree) → List String
  | [] => []
  | (entry, .file _) :: rest =>
    (if entry = name then [path ++ "/" ++ entry] else []) ++ filesNamedIn name path rest
  | (entry, .directory entries) :: rest =>
    filesNamedIn name (path ++ "/" ++ entry) entries ++ filesNamedIn name path rest

end

end FileTree
end ScriptBridge
