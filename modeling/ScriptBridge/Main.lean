/-
  ScriptBridge/Main.lean
  ======================
  **The program.**

  It reads the script and everything below the assets directory, and prints the
  transcript.
-/
import ScriptBridge.CommandLine.Run
import ScriptBridge.Script.Run

namespace ScriptBridge

/-- Reads everything below a path, which may be missing, into a tree. -/
partial def loadBelow (path : String) (tree : FileTree) : IO FileTree := do
  let place := (← IO.currentDir) / path
  let names := Path.lexical (Path.segments path)
  if ← place.isDir then
    let mut tree := FileTree.putDirectory names (tree.putDirectoriesTo path)
    for entry in ← place.readDir do
      tree ← loadBelow (Path.join path entry.fileName) tree
    return tree
  else if ← place.pathExists then
    let octets ← IO.FS.readBinFile place
    return FileTree.put (.file octets.toList) names (tree.putDirectoriesTo path)
  else return tree

/-- Runs the program with some arguments; the result is the exit code. -/
def runProgram (args : List String) : IO UInt32 := do
  let directory := toString (← IO.currentDir)
  let files ←
    match CommandLine.Arguments.read args with
    | .error _ => pure FileTree.emptyDirectory
    | .ok a => do
      let files ← loadBelow (a.scriptPath directory) .emptyDirectory
      loadBelow (a.assetsPath directory) files
  let transcript := CommandLine.transcript files scriptLanguage .first directory args
  for line in transcript.lines do
    IO.println line.text
  return transcript.code

end ScriptBridge

def main (args : List String) : IO UInt32 := ScriptBridge.runProgram args
