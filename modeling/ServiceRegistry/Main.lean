import ServiceRegistry.CommandLine.Run

/-!
# The command line

Takes a snapshot of the files and variables that a command line depends on, carries out the command
on the snapshot and writes what it leaves. A file or folder that cannot be read is not in the
snapshot, so the command finds it missing.
-/

namespace ServiceRegistry.Snapshot

/-- The parts of a path up to each of its slashes, and the whole path. -/
def stages (p : Path) : List Path :=
  (List.range p.length).filterMap (fun n => if p[n]? = some '/' then some (p.take n) else none) ++
    [p]

/-- Adds what stands at a path. -/
def addNode (t : FileTree) (p : Path) : IO FileTree := do
  let text := String.ofList p
  if let .ok content ← (IO.FS.readBinFile text).toBaseIO then
    return t.write p content.toList
  let .ok resolved ← (IO.FS.realPath text).toBaseIO | return t
  return if ← resolved.isDir then t.makeFolder p else t

/-- Adds what stands at a path and all the folders on the way to it. -/
def addPath (t : FileTree) (p : Path) : IO FileTree := (stages p).foldlM addNode t

/-- The names in a folder; none if it cannot be listed. -/
def names (p : Path) : IO (List String) := do
  let .ok resolved ← (IO.FS.realPath (String.ofList p)).toBaseIO | return []
  let .ok entries ← resolved.readDir.toBaseIO | return []
  return entries.toList.map (·.fileName)

/-- Adds a folder with the files and folders that stand directly in it. -/
def addFolder (t : FileTree) (p : Path) : IO FileTree := do
  let t ← addPath t p
  (← names p).foldlM (fun t name => addNode t (p.join name.toList)) t

/-- The variables that a command line depends on; the service that is located is one of them. -/
def variableNames (a : Arguments) : List String :=
  let service := match a.command with
    | .locate service => [String.ofList (service.toList.takeWhile (· != '='))]
    | _ => []
  ["HOME", "XDG_CONFIG_HOME", Settings.debugVariable, Settings.descriptorFolderVariable] ++ service

/-- Reads the variables that a command line depends on. -/
def readEnvironment (a : Arguments) : IO Environment :=
  (variableNames a).foldlM (fun e name => return e.set name (← IO.getEnv name)) .empty

/-- Adds the settings files that a command line can name. -/
def addSettings (a : Arguments) (around : Surroundings) : IO Surroundings := do
  let paths := (Settings.folders around).map (·.filePath Settings.fileName)
  let files ← (paths ++ a.config.toList).foldlM addPath around.files
  return { around with files }

/-- Adds the folders that a command line takes as modules, as far as a scan goes. -/
def addModules (a : Arguments) (s : Settings) (around : Surroundings) : IO Surroundings := do
  let files ← a.modules.foldlM
    (fun t root => do
      let t ← addPath t (root.join Manifest.fileName)
      addFolder t (root.join s.descriptorFolder.toList))
    around.files
  return { around with files }

/-- The home folder that a line of the account database names for a user. -/
def homeOf? (user line : String) : Option Path :=
  match line.splitOn ":" with
  | [_, _, number, _, _, home, _] => if number = user then some home.toList else none
  | _ => none

/-- The home folder of the account under which the program runs, if it can be told. -/
def readAccountHome : IO (Option Path) := do
  let .ok status ← (IO.FS.readFile "/proc/self/status").toBaseIO | return none
  let .ok accounts ← (IO.FS.readFile "/etc/passwd").toBaseIO | return none
  let user? := (status.splitOn "\n").findSome? fun line =>
    match line.splitOn "\t" with
    | "Uid:" :: user :: _ => some user
    | _ => none
  return user?.bind fun user => (accounts.splitOn "\n").findSome? (homeOf? user)

/-- The files and variables that a command line depends on. -/
def take (a : Arguments) : IO Surroundings := do
  let here := (← IO.currentDir).toString.toList
  let workingFolder := (Path.parts here).filter (!·.isEmpty)
  let files := ({} : FileTree).ensureFolders workingFolder
  let around ← addSettings a {
    files := { files with workingFolder, accountHome := ← readAccountHome }
    environment := ← readEnvironment a }
  match a.settings around with
  | .ok s => addModules a s around
  | .error _ => return around

end ServiceRegistry.Snapshot

open ServiceRegistry in
/-- Carries out a command line. -/
def main (texts : List String) : IO UInt32 := do
  match Arguments.parse texts with
  | .error e =>
    IO.eprintln (e.detail?.getD
      "usage: locator [OPTION]... scan|locate ID|locate-all ID|ids --module DIR...")
    return Outcome.failureCode.toUInt32
  | .ok a =>
    let outcome := a.run (← Snapshot.take a)
    IO.print outcome.output
    IO.eprint outcome.errorOutput
    return outcome.exitCode.toUInt32
