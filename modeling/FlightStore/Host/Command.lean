/-
The commands of the host tool, as functions from the files before to an outcome.

Commands on a device start it from the image file, with the sensor and the target of the preferences and the command
line. All of them but `reset` load what is stored; without a usable image they go on with the defaults.
-/
import FlightStore.Device.Lifecycle
import FlightStore.Device.Profiles
import FlightStore.Host.Arguments
import FlightStore.Host.Conversion
import FlightStore.Host.Outcome
import FlightStore.Host.Preferences
import FlightStore.Host.Report
import FlightStore.Text.Capitals

namespace FlightStore.Host

/-- what commands on a device work on -/
structure Job where
  image : String
  sensor : SensorModel
  target : Target

/-- the image to work on if nobody names one -/
def defaultImage : String := "eeprom.bin"

/-- the command line wins over the preferences -/
def jobOf (p : Preferences) (args : Arguments) : Job where
  image := (args.image.or p.imagePath).getD defaultImage
  sensor := args.sensor.getD p.sensor
  target := p.target

/-! ## Commands on a device -/

/-- a device before it has read its image -/
def Job.start (j : Job) (fs : Files) : Device ImageFile := .start j.target ⟨fs, j.image⟩ j.sensor

/-- a device that runs on its image -/
def Job.resume (j : Job) (fs : Files) : Device ImageFile := (j.start fs).load.2

/-- whether the image of a device is intact, in a word -/
def imageStatus (d : Device ImageFile) : String := status (Storage.intact d.storage).result

/-- tells whether the image is intact, and which repairs the settings stored in it need -/
def check (j : Job) (fs : Files) : Outcome :=
  let d := j.resume fs
  let line := "Image " ++ j.image ++ ": " ++ imageStatus d
  if (Storage.intact d.storage).result then
    match (Storage.load j.target (.defaults j.target) d.storage).result with
    | .error e => .failed (.storage e) [line] fs
    | .ok stored => .done (line :: repairLines (d.setSettings stored).repairSettings.1) fs
  else .done [line] fs

/-- writes the repaired settings back -/
def save (j : Job) (fs : Files) : Outcome :=
  let d := (j.resume fs).save
  .done (beepLines d.calls ++ ["Settings saved: " ++ imageStatus d]) d.storage.files

/-- writes the defaults, or those of the target -/
def reset (custom : Bool) (j : Job) (fs : Files) : Outcome :=
  match (j.start fs).reset custom with
  | (false, _) => .failed .noCustomDefaults [] fs
  | (true, d) => .done ["Settings reset: " ++ imageStatus d] d.storage.files

/-- switches profiles and stores that -/
def switch (select : Device ImageFile → Device ImageFile) (j : Job) (fs : Files) : Outcome :=
  let d := select (j.resume fs)
  let beeps := beepLines d.calls
  match d.write with
  | (.error e, d) => .failed (.storage e) beeps d.storage.files
  | (.ok (), d) =>
    .done (beeps ++ ["Active PID profile " ++ toString d.activePid ++ ", rate profile " ++ toString d.activeRate ++ "."])
      d.storage.files

/-- every feature and its state -/
def featureLines (d : Device ImageFile) : List String :=
  Feature.list.map (featureLine d.target.capabilities d.settings.features)

/-- a feature by its name, in any case -/
def feature (name : String) : Except Failure Feature :=
  match Choice.ofName? (Text.capitals name) with
  | some f => .ok f
  | none => .error (.unknownFeature name)

/-- what is enabled after some features were enabled and then others disabled -/
def switchFeatures (fs : FeatureSet) (enable disable : List String) : Except Failure FeatureSet := do
  let on ← enable.mapM feature
  let off ← disable.mapM feature
  return off.foldl .erase (on.foldl (fun s f => s.insert f) fs)

/-- switches features, if there are any to switch, and lists them all -/
def features (enable disable : List String) (j : Job) (fs : Files) : Outcome :=
  let d := j.resume fs
  if enable.isEmpty ∧ disable.isEmpty then .done (featureLines d) fs
  else
    match switchFeatures d.settings.features enable disable with
    | .error e => .failed e [] fs
    | .ok s =>
      match d.writeWithFeatures s with
      | (.error e, d) => .failed (.storage e) [] d.storage.files
      | (.ok (), d) => .done (featureLines d) d.storage.files

/-- prints the settings as they are activated -/
def printSettings (j : Job) (fs : Files) : Outcome := .done [(j.resume fs).settings.toJson.pretty] fs

/-! ## Commands without a device -/

/-- adds the directories that a file stands in -/
def makeParents (fs : Files) (path : String) : Files := fs.makeDirectories [] (Files.names path).dropLast

/-- remembers what the command line says -/
def config (path : String) (p : Preferences) (args : Arguments) (board : Option String) (fs : Files) : Outcome :=
  let text := (p.update args.image args.sensor board).toText
  match fs.write path (Outcome.utf8 text) with
  | .error e => .failed (.file e) [] fs
  | .ok fs => .done [text] fs

/-- opens what a conversion reads; without a path it is the input of the tool -/
def openSource (fs : Files) : Option String → Except FileError Unit
  | none => .ok ()
  | some path => fs.openable path

/-- reads what a conversion reads -/
def readSource (input : List UInt8) (fs : Files) : Option String → Except FileError (List UInt8)
  | none => .ok input
  | some path => fs.read path

/-- writes a file; without a path there is none to write -/
def writeSink (fs : Files) (bytes : List UInt8) : Option String → Except FileError Files
  | none => .ok fs
  | some path => fs.write path bytes

/-- opens the source, empties the sink, and only then converts, so that a failure leaves an empty file behind -/
def convert (conversion : List UInt8 → Except Failure (List UInt8)) (readFailure : FileError → Failure)
    (source sink : Option String) (input : List UInt8) (fs : Files) : Outcome :=
  match openSource fs source with
  | .error e => .failed (.file e) [] fs
  | .ok () =>
    match writeSink fs [] sink with
    | .error e => .failed (.file e) [] fs
    | .ok fs =>
      match (readSource input fs source).mapError readFailure >>= conversion with
      | .error e => .failed e [] fs
      | .ok bytes =>
        match writeSink fs bytes sink with
        | .error e => .failed (.file e) [] fs
        | .ok fs => ⟨.done, if sink.isNone then bytes else [], fs⟩

/-! ## Invocations -/

/-- carries out a command -/
def Arguments.run (args : Arguments) (path : String) (p : Preferences) (input : List UInt8) (fs : Files) : Outcome :=
  let j := jobOf p args
  match args.command with
  | .check => check j fs
  | .save => save j fs
  | .reset custom => reset custom j fs
  | .profile index => switch (·.selectPid index) j fs
  | .rateProfile index => switch (·.selectRate index) j fs
  | .autoProfile cells => switch (·.autoSelect cells) j fs
  | .features enable disable => features enable disable j fs
  | .print => printSettings j fs
  | .config board => config path p args board fs
  | .imageToJson source sink =>
    convert (fun bytes => (jsonOfImage j.target bytes).map Outcome.utf8) .file source sink input fs
  | .jsonToImage source sink =>
    convert (fun bytes => (imageOfJson bytes).map Image.bytes) (fun _ => .json) source sink input fs

/-- the files that a command works on, besides the preferences -/
def Arguments.paths (args : Arguments) (p : Preferences) : List String :=
  match args.command with
  | .imageToJson source sink => source.toList ++ sink.toList
  | .jsonToImage source sink => source.toList ++ sink.toList
  | .config _ => []
  | _ => [(jobOf p args).image]

/-- whether a command reads the input of the tool -/
def Command.readsInput : Command → Bool
  | imageToJson source _ => source.isNone
  | jsonToImage source _ => source.isNone
  | _ => false

/-- the name and version of the tool -/
def versionLine : String := "fc_config 0.1.0"

/-- an invocation; the preferences are in the file at `path`, whose directories are made if they are missing -/
def invoke (path : String) (args : List String) (input : List UInt8) (fs : Files) : Outcome :=
  match readArguments args with
  | none => ⟨.refused, [], fs⟩
  | some .version => .done [versionLine] fs
  | some (.run args) =>
    let fs := makeParents fs path
    args.run path (.load fs path) input fs

end FlightStore.Host
