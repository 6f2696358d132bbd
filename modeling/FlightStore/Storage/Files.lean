/-
Files: a tree of directories, and a medium that keeps its image in one of them.

A path is read as names between slashes; it starts at the working directory, or at the root if it starts with a slash.
Every name but the last has to be a directory. Writing creates a file or replaces its content, but creates no
directories. Names and paths are limited in length, and no name holds a NUL.
-/
import FlightStore.Storage.Basic

namespace FlightStore

/-- what stands at a path -/
inductive Entry where
  | file (bytes : List UInt8)
  | directory
  /-- what is written here is gone at once -/
  | null

/-- why a file cannot be read or written -/
inductive FileError where
  | notFound
  | notADirectory
  | isADirectory
  | nulInName
  | nameTooLong
  /-- a file that holds an image has exactly its size -/
  | wrongSize (found : Nat)
deriving DecidableEq, Repr

/-- a tree of directories: what stands at which names -/
structure Files where
  entries : List (List String × Entry)

namespace Files

/-- the names of a path, the root being a name of its own -/
def names (path : String) : List String :=
  (if path.startsWith "/" then ["/"] else []) ++ (path.splitOn "/").filter (· ≠ "")

/-- whether a path can only stand for a directory -/
def endsAsDirectory (path : String) : Bool := path.endsWith "/"

/-- what stands at these names; the root, the working directory and those around it are always there -/
def entry? (fs : Files) (names : List String) : Option Entry :=
  if names = ["/"] ∨ names.all (· = "..") then some .directory else fs.entries.lookup names

/-- the directory around a place -/
def around (place : List String) : List String :=
  if place = ["/"] then place else if place.all (· = "..") then place ++ [".."] else place.dropLast

/-- where a name leads from a directory -/
def enter (place : List String) (name : String) : List String :=
  if name = "." then place else if name = ".." then around place else place ++ [name]

/-- the most bytes that a name has -/
def longestName : Nat := 255

/-- the most bytes that a path has -/
def longestPath : Nat := 4095

/-- looks at a place, whose last name may be too long to be there -/
def look (fs : Files) (place : List String) : Except FileError (Option Entry) :=
  if place.getLast?.any (longestName < ·.utf8ByteSize) then .error .nameTooLong else .ok (fs.entry? place)

/-- where names lead from a directory; all but the last have to be directories -/
def follow (fs : Files) (place : List String) : List String → Except FileError (List String)
  | [] => .ok place
  | [last] => .ok (enter place last)
  | name :: rest =>
    match fs.look (enter place name) with
    | .error e => .error e
    | .ok none => .error .notFound
    | .ok (some .directory) => fs.follow (enter place name) rest
    | .ok (some _) => .error .notADirectory

/-- where a path leads -/
def locate (fs : Files) (path : String) : Except FileError (List String) :=
  if '\u0000' ∈ path.toList then .error .nulInName
  else if path = "" then .error .notFound
  else if longestPath < path.utf8ByteSize then .error .nameTooLong
  else fs.follow [] (names path)

/-- opens a path for reading; directories can be opened but not read -/
def openable (fs : Files) (path : String) : Except FileError Unit :=
  match fs.locate path with
  | .error e => .error e
  | .ok place =>
    match fs.look place with
    | .error e => .error e
    | .ok none => .error .notFound
    | .ok (some .directory) => .ok ()
    | .ok (some _) => if endsAsDirectory path then .error .notADirectory else .ok ()

/-- the bytes of a file -/
def read (fs : Files) (path : String) : Except FileError (List UInt8) :=
  match fs.openable path with
  | .error e => .error e
  | .ok () =>
    match (fs.locate path).toOption.bind fs.entry? with
    | some (.file bytes) => .ok bytes
    | some .null => .ok []
    | _ => .error .isADirectory

/-- puts a file at these names -/
def put (fs : Files) (place : List String) (bytes : List UInt8) : Files :=
  ⟨(place, .file bytes) :: fs.entries.filter (fun e => e.1 ≠ place)⟩

/-- creates a file with these bytes, or replaces its content -/
def write (fs : Files) (path : String) (bytes : List UInt8) : Except FileError Files :=
  match fs.locate path with
  | .error e => .error e
  | .ok place =>
    if endsAsDirectory path then .error .isADirectory
    else
      match fs.look place with
      | .error e => .error e
      | .ok (some .directory) => .error .isADirectory
      | .ok (some .null) => .ok fs
      | .ok _ => .ok (fs.put place bytes)

/-- adds the directories of a chain that are not there yet -/
def makeDirectories (fs : Files) : (place : List String) → List String → Files
  | _, [] => fs
  | place, name :: rest =>
    match fs.entry? (enter place name) with
    | some _ => fs.makeDirectories (enter place name) rest
    | none => makeDirectories ⟨(enter place name, .directory) :: fs.entries⟩ (enter place name) rest

end Files

/-- an image in a file -/
structure ImageFile where
  files : Files
  path : String

instance : Storage ImageFile FileError where
  read m :=
    (match m.files.read m.path with
      | .error e => .error e
      | .ok bytes =>
        match Image.ofBytes? bytes with
        | some i => .ok i
        | none => .error (.wrongSize bytes.length), m)
  write i m :=
    match m.files.write m.path i.bytes with
    | .error e => (.error e, m)
    | .ok files => (.ok (), { m with files })

end FlightStore
