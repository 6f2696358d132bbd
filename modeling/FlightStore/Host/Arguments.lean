/-
The command line of the host tool.

Options may stand before the command or, each command having its own, behind it. A long option takes its value after an
equals sign or as the next argument, a short one also without anything in between; short options without a value can be
joined. The next argument is a value unless it starts with a dash (a dash alone is a value). Behind `--` everything is
positional. Asking for the version ends the reading, if there was no fault before it: an unknown option, an unknown
sensor, or something else in the place of a command. Whether an option is used too often or lacks its value is asked at
the end only.
-/
import FlightStore.Loop.Timing
import FlightStore.Text.Digits

namespace FlightStore.Host

/-! ## Reading switches -/

/-- an option, by its long name without dashes and its letter -/
structure Switch where
  long : String
  letter : Char
  takesValue : Bool

/-- what an argument stands for; an option that should have a value may lack it -/
inductive Item where
  | option (long : String) (value : Option String)
  | positional (value : String)
deriving DecidableEq, Repr

/-- what one argument stands for, and the option that waits for the next argument as its value -/
structure Reading where
  items : List Item
  waiting : Option String

/-- an option written out: its name, and a value after an equals sign -/
def readLong (switches : List Switch) (body : List Char) : Option Reading :=
  let name := String.ofList (body.takeWhile (· ≠ '='))
  let attached := body.dropWhile (· ≠ '=')
  match switches.find? (fun s => s.long = name), attached with
  | none, _ => none
  | some s, [] => if s.takesValue then some ⟨[], some s.long⟩ else some ⟨[.option s.long none], none⟩
  | some s, _ :: value =>
    if s.takesValue then some ⟨[.option s.long (some (String.ofList value))], none⟩ else none

/-- a value joined to a letter, perhaps with an equals sign between them -/
def joinedValue : List Char → String
  | '=' :: value => String.ofList value
  | value => String.ofList value

/-- letters behind one dash; nothing counts after the letter of the switch `last` -/
def readLetters (switches : List Switch) (last : Option String) : List Char → Option Reading
  | [] => some ⟨[], none⟩
  | c :: cs =>
    match switches.find? (fun s => s.letter = c) with
    | none => none
    | some s =>
      if s.takesValue then
        if cs.isEmpty then some ⟨[], some s.long⟩ else some ⟨[.option s.long (some (joinedValue cs))], none⟩
      else if last = some s.long then some ⟨[.option s.long none], none⟩
      else
        match readLetters switches last cs with
        | none => none
        | some r => some { r with items := .option s.long none :: r.items }

/-- one argument that is neither a command nor a value; it is positional only where that is `allowed` -/
def readArgument (switches : List Switch) (last : Option String) (allowed : Bool) (arg : String) : Option Reading :=
  match arg.toList with
  | '-' :: '-' :: body => readLong switches body
  | '-' :: c :: cs => readLetters switches last (c :: cs)
  | _ => if allowed then some ⟨[.positional arg], none⟩ else none

/-- whether an argument cannot be the value of an option -/
def looksLikeOption (arg : String) : Bool :=
  match arg.toList with
  | '-' :: _ :: _ => true
  | _ => false

/-- the items of a command line up to a command, and the command with the arguments behind it -/
structure Scan where
  items : List Item
  command : Option (String × List String)

/-- puts items in front -/
def Scan.after (s : Scan) (items : List Item) : Scan := { s with items := items ++ s.items }

/-- whether one of the items is an option -/
def hasOption (long : String) (items : List Item) : Bool := items.any fun
  | .option l _ => l = long
  | .positional _ => false

/-- an option that waited for its value in vain -/
def lacking (waiting : Option String) : List Item := (waiting.map fun long => .option long none).toList

/-- reads arguments one after the other, the first of them perhaps as the value of an option that waits for it; the switch
`last` ends the reading, and nothing positional stands in front of a command -/
def scan (switches : List Switch) (commands : List String) (last waiting : Option String) : List String → Option Scan
  | [] => some ⟨lacking waiting, none⟩
  | arg :: rest =>
    match if looksLikeOption arg then none else waiting with
    | some long => (scan switches commands last none rest).map (·.after [.option long (some arg)])
    | none =>
      if arg ∈ commands then some ⟨[], some (arg, rest)⟩
      else if arg = "--" then some ⟨lacking waiting ++ rest.map .positional, none⟩
      else
        match readArgument switches last commands.isEmpty arg with
        | none => none
        | some r =>
          let items := lacking waiting ++ r.items
          if last.any (hasOption · items) then some ⟨items, none⟩
          else (scan switches commands last r.waiting rest).map (·.after items)

/-! ## Looking items up -/

/-- the values of every use of an option -/
def uses (long : String) (items : List Item) : List (Option String) := items.filterMap fun
  | .option l v => if l = long then some v else none
  | .positional _ => none

def positionals (items : List Item) : List String := items.filterMap fun
  | .option _ _ => none
  | .positional v => some v

/-- the value of an option that may be used once -/
def single? (long : String) (items : List Item) : Option (Option String) :=
  match uses long items with
  | [] => some none
  | [some v] => some (some v)
  | _ => none

/-- whether an option without a value is used, which it may be once -/
def flag? (long : String) (items : List Item) : Option Bool :=
  match uses long items with
  | [] => some false
  | [_] => some true
  | _ => none

/-- the values of an option that may be used many times; a use may lack its value if another one has one -/
def many? (long : String) (items : List Item) : Option (List String) :=
  let values := (uses long items).filterMap id
  if values.isEmpty ∧ ¬ (uses long items).isEmpty then none else some values

/-! ## Commands -/

inductive Command where
  /-- list the repairs that the stored settings need -/
  | check
  /-- load, repair and write back -/
  | save
  | reset (custom : Bool)
  | profile (index : UInt8)
  | rateProfile (index : UInt8)
  | autoProfile (cells : UInt8)
  | features (enable disable : List String)
  /-- print the settings -/
  | print
  /-- remember image, sensor and board -/
  | config (board : Option String)
  | imageToJson (input output : Option String)
  | jsonToImage (input output : Option String)
deriving DecidableEq, Repr

/-- what the command line asks for -/
structure Arguments where
  image : Option String
  sensor : Option SensorModel
  command : Command
deriving DecidableEq, Repr

inductive Request where
  | version
  | run (args : Arguments)
deriving DecidableEq, Repr

/-- a number of one byte, perhaps after a plus sign -/
def byte? (s : String) : Option UInt8 :=
  match Text.decimalValue? (Text.afterPlus s.toList) with
  | some n => if n < 256 then some (UInt8.ofNat n) else none
  | none => none

/-- one positional argument that is a number -/
def byteArgument? (items : List Item) : Option UInt8 :=
  match positionals items with
  | [v] => byte? v
  | _ => none

/-- no positional arguments at all -/
def noArgument? (items : List Item) : Option Unit := if (positionals items).isEmpty then some () else none

/-- the paths under which a system offers the input of a tool -/
def inputPaths : List String := ["/dev/stdin", "/dev/fd/0", "/proc/self/fd/0"]

/-- the paths under which a system offers the output of a tool -/
def outputPaths : List String := ["/dev/stdout", "/dev/fd/1", "/proc/self/fd/1"]

/-- a path, or none if it is one of those that mean the same as none -/
def pathBeyond (streams : List String) (path : String) : Option String := if path ∈ streams then none else some path

/-- at most two positional arguments, for what is read and what is written -/
def pathArguments? (items : List Item) : Option (Option String × Option String) :=
  match positionals items with
  | [] => some (none, none)
  | [input] => some (pathBeyond inputPaths input, none)
  | [input, output] => some (pathBeyond inputPaths input, pathBeyond outputPaths output)
  | _ => none

/-- the commands by their names, with their switches and the meaning of their items -/
def commands : List (String × List Switch × (List Item → Option Command)) :=
  [("check", [], fun is => do noArgument? is; return .check),
    ("save", [], fun is => do noArgument? is; return .save),
    ("reset", [⟨"custom", 'c', false⟩], fun is => do noArgument? is; return .reset (← flag? "custom" is)),
    ("profile", [], fun is => (byteArgument? is).map .profile),
    ("rate-profile", [], fun is => (byteArgument? is).map .rateProfile),
    ("auto-profile", [], fun is => (byteArgument? is).map .autoProfile),
    ("features", [⟨"enable", 'e', true⟩, ⟨"disable", 'd', true⟩], fun is => do
      noArgument? is
      return .features (← many? "enable" is) (← many? "disable" is)),
    ("show", [], fun is => do noArgument? is; return .print),
    ("config", [⟨"board", 'b', true⟩], fun is => do noArgument? is; return .config (← single? "board" is)),
    ("bin2json", [], fun is => (pathArguments? is).map fun (i, o) => .imageToJson i o),
    ("json2bin", [], fun is => (pathArguments? is).map fun (i, o) => .jsonToImage i o)]

/-- a command with its own arguments -/
def readCommand (name : String) (args : List String) : Option Command := do
  let (switches, meaning) ← commands.lookup name
  let s ← scan switches [] none none args
  meaning s.items

/-- the options in front of the command -/
def globalSwitches : List Switch := [⟨"image", 'i', true⟩, ⟨"sensor", 's', true⟩, ⟨"version", 'V', false⟩]

/-- a sensor by its name; each use has to be right, the last one counts -/
def sensor? (items : List Item) : Option (Option SensorModel) := do
  let models ← (uses "sensor" items).mapM fun
    | some name => (Choice.ofNameAnyCase? name : Option SensorModel).map some
    | none => some none
  match models.getLast? with
  | none => return none
  | some none => none
  | some model => return model

/-- reads a whole command line; `none` if it is refused -/
def readArguments (args : List String) : Option Request := do
  let s ← scan globalSwitches (commands.map (·.1)) (some "version") none args
  if hasOption "version" s.items then
    let _ ← (uses "sensor" s.items).mapM fun v => (v.elim (some .none) Choice.ofNameAnyCase? : Option SensorModel)
    return .version
  let command ← match s.command with
    | none => some .check
    | some (name, rest) => readCommand name rest
  noArgument? s.items
  return .run ⟨← single? "image" s.items, ← sensor? s.items, command⟩

end FlightStore.Host
