import Codemod.Command.Program

/-!
# The executable

The executable takes a picture of the files that a command line is about, runs
the program on it, and then writes to the system what the program changed in the
picture. Permission bits are not part of the picture: a changed file is written
in place, which keeps them.
-/
namespace Codemod.Main

open Files

/-- The bytes of a file, none when it cannot be read. -/
def bytesOf (path : String) : IO ByteArray := do
  try IO.FS.readBinFile path catch _ => return ByteArray.empty

/-- The picture with a path and, for a directory, everything below it; the contents of files are
left out. Links below a directory are shown as what they lead to. -/
partial def addShape (tree : Tree) (path : String) : IO Tree := do
  try
    let found ← IO.FS.realPath path
    if ← found.isDir then
      let tree := tree.plant (Path.reduce false path) .directory
      (← found.readDir).foldlM (fun tree entry => addShape tree (path ++ "/" ++ entry.fileName)) tree
    else return tree.plant (Path.reduce false path) (.file ByteArray.empty 0o644)
  catch _ => return tree

/-- The picture with the contents of a file, if it shows that file. -/
def addContents (tree : Tree) (path : String) : IO Tree := do
  match tree.find path true with
  | .ok (place, .file _ mode) => return tree.put place (.file (← bytesOf path) mode)
  | _ => return tree

/-- The picture with files and their contents. -/
def addFiles (tree : Tree) (paths : List String) : IO Tree :=
  paths.foldlM (fun tree path => do addContents (← addShape tree path) path) tree

/-- The variables that the program looks at. -/
def readEnvironment : IO Config.Environment := do
  let values ← ["TSFIX_FIXES", "TSFIX_MAX_PASSES"].mapM fun name => do
    return (← IO.getEnv name).map fun value => (name, value)
  return values.filterMap id

/-- Everything on the standard input. -/
partial def readInput (stream : IO.FS.Stream) (done : List ByteArray) : IO (List ByteArray) := do
  let chunk ← stream.read 65536
  if chunk.isEmpty then return done.reverse else readInput stream (chunk :: done)

/-- The picture of the files that a command line is about. -/
def picture (arguments : Command.Arguments) (around : Command.Surroundings) : IO Tree := do
  let resolve := Path.resolve around.cwd
  let configs := (arguments.options.config.map resolve).toList ++ Config.fileNames.map resolve
  let inputs := arguments.paths.map resolve
  let tree ← addFiles (({} : Tree).plant (Path.reduce false around.cwd) .directory) configs
  let tree ← inputs.foldlM addShape tree
  match Command.plan arguments.options around tree with
  | .error _ => return tree
  | .ok plan =>
    match discover tree plan.config.extensions plan.config.ignore inputs with
    | .error _ => return tree
    | .ok found => found.files.foldlM addContents tree

/-- The bytes of a file that a picture shows at a place. -/
def shownAt? (tree : Tree) (place : Place) : Option (Array UInt8) :=
  match tree.at? place with
  | some (.file content _) => some content.data
  | _ => none

/-- Writes the files that differ between two pictures. -/
def store (before after : Tree) : IO Unit :=
  after.entries.forM fun (place, entry) => do
    if let .file content _ := entry then
      if shownAt? before place != some content.data then
        IO.FS.writeBinFile ("/" ++ Path.ofParts place) content

end Codemod.Main

open Codemod in
/-- Runs the program on the words of its command line. -/
def main (words : List String) : IO UInt32 := do
  let standard ← IO.getStdin
  let arguments := (Command.readArguments words).toOption
  let wantsInput := arguments.any (·.paths.isEmpty)
  let around : Command.Surroundings :=
    { cwd := (← IO.currentDir).toString
      environment := ← Codemod.Main.readEnvironment
      registry := Registry.builtin
      input := .ok (← if wantsInput then Codemod.Main.readInput standard [] else pure [])
      token := toString (← IO.rand 10000000 99999999) }
  let before ← match arguments with
    | some arguments => Codemod.Main.picture arguments around
    | none => pure {}
  let finish := Command.run words around before
  let display : Log.Display :=
    { terminal := ← (← IO.getStderr).isTty
      plain := ((← IO.getEnv "NO_COLOR").getD "") != ""
      debug := ((← IO.getEnv "DEBUG").getD "") != "" }
  Codemod.Main.store before finish.tree
  IO.print finish.output
  (display.lines finish.messages).forM fun line => IO.eprintln line
  let code := match finish.stop with
    | some stop => stop.exitCode
    | none => finish.code
  return code.toUInt32
