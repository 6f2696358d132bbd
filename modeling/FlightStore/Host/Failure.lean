/-
Failures of a command and the text they are reported with: the kind and, where there is more to say, its details. Text
from the user appears in quotes, with control characters and other characters that do not print written by their
number.
-/
import FlightStore.Storage.Files
import FlightStore.Text.Printable

namespace FlightStore.Host

inductive Failure where
  /-- a file cannot be opened, read or written -/
  | file (error : FileError)
  /-- the image file cannot be read or written -/
  | storage (error : StorageError FileError)
  /-- an image is at fault -/
  | image (error : ImageError)
  /-- text is not JSON, or not that of settings -/
  | json
  | noCustomDefaults
  | unknownFeature (name : String)
  | wrongImageSize (found : Nat)
deriving DecidableEq

/-! ## Quoted text -/

/-- one character inside quotes -/
def quotedChar (c : Char) : List Char :=
  if c = '\u0000' then ['\\', '0']
  else if c = '\t' then ['\\', 't']
  else if c = '\n' then ['\\', 'n']
  else if c = '\r' then ['\\', 'r']
  else if c = '"' then ['\\', '"']
  else if c = '\\' then ['\\', '\\']
  else if !Text.isPrintable c then '\\' :: 'u' :: '\x7b' :: (Text.hex c.toNat ++ ['\x7d'])
  else [c]

def quoted (s : String) : String := "\"" ++ String.ofList (s.toList.flatMap quotedChar) ++ "\""

/-! ## Texts -/

/-- a record of named parts -/
def parts (name : String) (ps : List (String × String)) : String :=
  name ++ " \x7b " ++ ", ".intercalate (ps.map fun (k, v) => k ++ ": " ++ v) ++ " \x7d"

/-- an error of the operating system -/
def systemError (code : Nat) (kind message : String) : String :=
  parts "Os" [("code", toString code), ("kind", kind), ("message", quoted message)]

/-- an error of the tool itself -/
def toolError (kind message : String) : String := parts "Custom" [("kind", kind), ("error", quoted message)]

def fileErrorText : FileError → String
  | .notFound => systemError 2 "NotFound" "No such file or directory"
  | .notADirectory => systemError 20 "NotADirectory" "Not a directory"
  | .isADirectory => systemError 21 "IsADirectory" "Is a directory"
  | .nulInName =>
    parts "Error" [("kind", "InvalidInput"), ("message", quoted "file name contained an unexpected NUL byte")]
  | .nameTooLong => systemError 36 "InvalidFilename" "File name too long"
  | .wrongSize found =>
    toolError "InvalidData" ("expected " ++ toString Image.size ++ " bytes, found " ++ toString found)

def imageErrorText : ImageError → String
  | .magic => "Magic"
  | .formatVersion v => "FormatVersion(" ++ toString v.toNat ++ ")"
  | .checksum => "Crc"
  | .truncated => "Truncated"
  | .overflow => "Overflow"

def storageErrorText : StorageError FileError → String
  | .medium e => "Backend(" ++ fileErrorText e ++ ")"
  | .image e => imageErrorText e
  | .verify => "Verify"

def Failure.text : Failure → String
  | file e => fileErrorText e
  | storage e => storageErrorText e
  | image e => imageErrorText e
  | json => "Json"
  | noCustomDefaults => toolError "Unsupported" "No custom defaults for this target."
  | unknownFeature name => toolError "InvalidInput" ("Unknown feature " ++ name ++ ".")
  | wrongImageSize found =>
    toolError "InvalidData" ("Expected " ++ toString Image.size ++ " bytes, found " ++ toString found ++ ".")

end FlightStore.Host
