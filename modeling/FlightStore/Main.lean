/-
The host tool as a program.

It takes a picture of the files that the command may need, hands it to `invoke` together with the input, and puts the
outcome into effect: what changed is written back, output and failure are printed.
-/
import FlightStore.Host.Command

namespace FlightStore.Host

/-- a path through these names -/
def pathOf : List String → String
  | "/" :: names => "/" ++ "/".intercalate names
  | names => "/".intercalate names

/-- the places that a path leads through, the working directory excepted -/
def placesOn (place : List String) : List String → List (List String)
  | [] => []
  | name :: rest =>
    let next := Files.enter place name
    next :: placesOn next rest

/-- the place where nothing is kept -/
def nullPlace : List String := ["/", "dev", "null"]

/-- what stands at a place -/
def look (place : List String) : IO (Option Entry) := do
  if place = nullPlace then return some .null
  try
    let bytes ← IO.FS.readBinFile (pathOf place)
    return some (.file bytes.toList)
  catch
    | .inappropriateType _ 21 _ => return some .directory
    | _ => return none

/-- adds what stands on the way to a file, and the file -/
def picture (fs : Files) (path : String) : IO Files :=
  (placesOn [] (Files.names path)).foldlM (fun fs place => do
    if (fs.entry? place).isSome then return fs
    match ← look place with
    | some entry => return ⟨(place, entry) :: fs.entries⟩
    | none => return fs) fs

/-- writes back what is new or different, directories first -/
def putBack (before after : Files) : IO Unit := do
  for (place, entry) in after.entries.reverse do
    match entry with
    | .null => pure ()
    | .directory => if (before.entry? place).isNone then IO.FS.createDirAll (pathOf place)
    | .file bytes =>
      let same := match before.entry? place with
        | some (.file old) => old == bytes
        | _ => false
      unless same do IO.FS.writeBinFile (pathOf place) ⟨bytes.toArray⟩

/-- the file of the preferences, in the user's directory for configuration -/
def preferencesFile : IO String := do
  let directory ← match ← IO.getEnv "XDG_CONFIG_HOME" with
    | some d => if d.startsWith "/" then pure d else pure ((← IO.getEnv "HOME").getD "" ++ "/.config")
    | none => pure ((← IO.getEnv "HOME").getD "" ++ "/.config")
  return directory ++ "/fcconf/config.json"

/-- everything that an input still has to give -/
def readAll (input : IO.FS.Stream) : IO (List UInt8) := do
  let mut bytes := ByteArray.empty
  let mut more := true
  while more do
    let chunk ← input.read 65536
    bytes := bytes ++ chunk
    more := !chunk.isEmpty
  return bytes.toList

/-- prints an outcome; the result is the exit code -/
def announce (o : Outcome) : IO UInt32 := do
  let output ← IO.getStdout
  output.write ⟨o.output.toArray⟩
  output.flush
  match o.ending with
  | .done => pure ()
  | .failed f => IO.eprintln ("Error: " ++ f.text)
  | .refused => IO.eprintln "error: invalid arguments"
  return UInt32.ofNat o.ending.code

/-- one invocation -/
def runTool (args : List String) : IO UInt32 := do
  let path ← preferencesFile
  match readArguments args with
  | some (.run request) =>
    let fs ← picture ⟨[]⟩ path
    let fs ← (request.paths (.load fs path)).foldlM picture fs
    let input ← if request.command.readsInput then readAll (← IO.getStdin) else pure []
    let outcome := invoke path args input fs
    putBack fs outcome.files
    announce outcome
  | _ => announce (invoke path args [] ⟨[]⟩)

end FlightStore.Host

def main (args : List String) : IO UInt32 := FlightStore.Host.runTool args
