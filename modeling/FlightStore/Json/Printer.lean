/-
The written form of a JSON value: indented by two spaces for each level, one item or member a line, nothing between
the brackets of empty containers. Text is written with the short escapes, `\u00xx` for the other control characters,
and all else as it is.
-/
import FlightStore.Json.Value
import FlightStore.Text.Digits

namespace FlightStore.Json

open FlightStore.Text

/-- a control character without a short escape, as four digits -/
def unicodeEscape (c : Char) : List Char :=
  let digits := hex c.toNat
  '\\' :: 'u' :: (List.replicate (4 - digits.length) '0' ++ digits)

/-- one character inside quotes -/
def escape (c : Char) : List Char :=
  if c = '"' then ['\\', '"']
  else if c = '\\' then ['\\', '\\']
  else if c = '\u0008' then ['\\', 'b']
  else if c = '\u000c' then ['\\', 'f']
  else if c = '\n' then ['\\', 'n']
  else if c = '\r' then ['\\', 'r']
  else if c = '\t' then ['\\', 't']
  else if c.toNat < 0x20 then unicodeEscape c
  else [c]

/-- text in quotes -/
def quote (s : String) : List Char := '"' :: (s.toList.flatMap escape ++ ['"'])

def integer : Int → List Char
  | .ofNat n => decimal n
  | .negSucc n => '-' :: decimal (n + 1)

/-- the start of a line at a level -/
def newline (level : Nat) : List Char := '\n' :: List.replicate (2 * level) ' '

mutual

/-- the written form of a value that starts at a level -/
def chars (level : Nat) : Json → List Char
  | .null => "null".toList
  | .bool true => "true".toList
  | .bool false => "false".toList
  | .int i => integer i
  | .real lexeme => lexeme.toList
  | .str s => quote s
  | .broken => "null".toList
  | .arr [] => ['[', ']']
  | .arr (j :: js) => itemChars (level + 1) '[' (j :: js) ++ newline level ++ [']']
  | .obj [] => ['\x7b', '\x7d']
  | .obj (m :: ms) => memberChars (level + 1) '\x7b' (m :: ms) ++ newline level ++ ['\x7d']

/-- items, each on a line of its own after a mark: the bracket before the first, a comma before the others -/
def itemChars (level : Nat) (mark : Char) : List Json → List Char
  | [] => []
  | j :: js => mark :: (newline level ++ chars level j ++ itemChars level ',' js)

/-- members, each on a line of its own after a mark, as for items -/
def memberChars (level : Nat) (mark : Char) : List (String × Json) → List Char
  | [] => []
  | (name, j) :: ms =>
    mark :: (newline level ++ quote name ++ ':' :: ' ' :: (chars level j ++ memberChars level ',' ms))

end

/-- the written form of a value -/
def pretty (j : Json) : String := String.ofList (chars 0 j)

end FlightStore.Json
