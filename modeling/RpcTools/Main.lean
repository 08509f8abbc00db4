/-
Module: RpcTools.Main
Purpose: The program and the plugin, with input and output.
Main exports: main
-/
import RpcTools.Program

/-!
A run is prepared by looking at what is found along the paths that it may follow.  The
run itself is a function of that, and what it changed is done afterwards.
-/

namespace RpcTools.Session

/-- The path of a location. -/
def absolutePath (location : Location) : String :=
  "/" ++ Text.joinWith "/" location

/-- The locations that names lead through. -/
def locationsAlong (location : Location) : List String → List Location
  | [] => []
  | name :: rest =>
      let next :=
        if name = "." then location
        else if name = ".." then location.dropLast
        else location ++ [name]
      next :: locationsAlong next rest

/-- What is found at a location; only a directory has a path that ends in a dot. -/
def entryAt (location : Location) : IO (Option Entry) := do
  let path := absolutePath location
  try
    let _ ← IO.FS.Handle.mk (path ++ "/.") .read
    pure (some .directory)
  catch _ =>
    try
      pure (some (.file (← IO.FS.readBinFile path).toList))
    catch _ => pure none

/-- The files with what is found along a path. -/
def lookAlong (files : FileSystem) (path : String) : IO FileSystem := do
  let start := if Path.isAbsolute path then [] else files.here
  let mut seen := files
  for location in locationsAlong start (Path.steps path) do
    match ← entryAt location with
    | some entry => seen := seen.put location entry
    | none => pure ()
  pure seen

/-- Does what was done to the files since they were looked at, oldest first. -/
def apply (before after : FileSystem) : IO Unit :=
  for (location, entry) in
      (after.entries.take (after.entries.length - before.entries.length)).reverse do
    match entry with
    | .directory => IO.FS.createDirAll (absolutePath location)
    | .file content => IO.FS.writeBinFile (absolutePath location) content.toByteArray

/-- A variable counts as set to yes unless it is `0`. -/
def saysYes (name : String) : IO (Option Bool) := do
  pure ((← IO.getEnv name).map (· != "0"))

/-- Whether what is printed may be coloured. -/
def mayColor : IO Bool := do
  if (← saysYes "CLICOLOR_FORCE") == some true then pure true
  else if (← saysYes "NO_COLOR").isSome then pure false
  else pure (((← saysYes "CLICOLOR").getD true) && (← (← IO.getStdout).isTty))

/-- The path of the directory that holds the configurations of programs. -/
def configHome : IO (Option String) := do
  match (← IO.getEnv "XDG_CONFIG_HOME").filter Path.isAbsolute with
  | some path => pure (some path)
  | none => pure ((← IO.getEnv "HOME").map (Path.join · ".config"))

/-- The surroundings, before anything was looked at. -/
def surroundings : IO Environment := do
  pure
    { files := ⟨[], Path.steps (toString (← IO.currentDir)), []⟩
      configHome := ← configHome
      colored := ← mayColor }

/-- The surroundings after a look along paths. -/
def look (environment : Environment) (paths : List String) : IO Environment := do
  pure { environment with files := ← paths.foldlM lookAlong environment.files }

/-- The surroundings as far as a command may need them. -/
def lookForCommand (environment : Environment) : Command → IO Environment
  | .generate inputs output => do
      let read ← look environment
        (inputs.config.toList ++ environment.defaultConfigPath.toList ++
          [inputs.descriptorSet] ++ output.toList)
      match (read.dryRun inputs).result with
      | .ok (some generated) => look read [read.targetPath output generated.path]
      | _ => pure read
  | .inspect inputs =>
      look environment
        (inputs.config.toList ++ environment.defaultConfigPath.toList ++
          [inputs.descriptorSet])
  | .completions _ => pure environment

/-- The surroundings as far as an answer to a request may need them. -/
def lookForRequest (environment : Environment) (input : Wire.Bytes) : IO Environment :=
  let named : Option String := do
    let request ← (Descriptor.readRequest input).toOption
    let options ← (PluginOptions.ofParameter (request.parameter.getD "")).toOption
    options.config
  look environment (named.toList ++ environment.defaultConfigPath.toList)

/-- Tells and does what a run came to. -/
def finish (verbose : Bool) (before : FileSystem) (outcome : Outcome) : IO UInt32 := do
  apply before outcome.files
  for event in outcome.events do
    if verbose || event.level != .debug then
      IO.eprintln event.line
  let output ← IO.getStdout
  output.write outcome.printed.toByteArray
  output.flush
  match outcome.complaint with
  | some complaint => IO.eprintln complaint
  | none => pure ()
  pure (UInt32.ofNat outcome.status.code)

/-- Reads all input that there is. -/
def readInput (input : IO.FS.Stream) : IO ByteArray := do
  let mut bytes := ByteArray.empty
  repeat
    let more ← input.read 65536
    if more.isEmpty then break
    bytes := bytes ++ more
  pure bytes

/-- Answers a compiler's request. -/
def plugin (environment : Environment) : IO UInt32 := do
  let input := (← readInput (← IO.getStdin)).toList
  let environment ← lookForRequest environment input
  finish false environment.files (environment.runPlugin input)

/-- Runs a command line. -/
def program (environment : Environment) (words : List String) : IO UInt32 := do
  let designatedConfig ← IO.getEnv "AGENT_TOOLS_CONFIG"
  let (environment, verbose) ←
    match CommandLine.ofArguments designatedConfig words with
    | .ok line => pure (← lookForCommand environment line.command, line.verbose)
    | .error _ => pure (environment, false)
  finish verbose environment.files (environment.runProgram designatedConfig words)

/-- Whether the program was called by the plugin's name. -/
def calledAsPlugin : IO Bool := do
  pure ((Path.steps (toString (← IO.appPath))).getLast? == some Environment.pluginName)

/-- Runs the program, or the plugin. -/
def run (words : List String) : IO UInt32 := do
  let environment ← surroundings
  if ← calledAsPlugin then plugin environment else program environment words

end RpcTools.Session

def main (words : List String) : IO UInt32 :=
  RpcTools.Session.run words
