/-
Reading JSON from bytes.

`parse` accepts exactly one value with blanks (space, tab, line feed, carriage return) around it. Text between quotes
may hold any bytes but control characters; if they are not UTF-8, or an escape names half of a surrogate pair, the
text is `broken`. Numbers follow the JSON grammar: no plus sign, no leading zeros, digits on both sides of the point.

The recursion is bounded by a budget that `parse` derives from the length of the text: two steps for each byte.
-/
import FlightStore.Json.Value
import FlightStore.Text.Digits

namespace FlightStore.Json

open FlightStore.Text

def isSpace (b : UInt8) : Bool := b = 0x20 || b = 0x09 || b = 0x0a || b = 0x0d

def skipSpaces (bs : List UInt8) : List UInt8 := bs.dropWhile isSpace

/-! ## Numbers -/

def isDigit (b : UInt8) : Bool := 0x30 ≤ b && b ≤ 0x39

/-- the digits at the start and what follows them -/
def spanDigits (bs : List UInt8) : List UInt8 × List UInt8 := (bs.takeWhile isDigit, bs.dropWhile isDigit)

/-- the value of digits in base ten -/
def digitsValue (ds : List UInt8) : Nat := ds.foldl (fun n d => n * 10 + (d.toNat - 0x30)) 0

/-- a whole number without a sign: a zero alone, or digits that do not start with one -/
def natural? (bs : List UInt8) : Option (List UInt8 × List UInt8) :=
  match spanDigits bs with
  | ([], _) => none
  | (0x30 :: _ :: _, _) => none
  | (ds, rest) => some (ds, rest)

/-- a point with digits after it, or nothing -/
def fraction? : List UInt8 → Option (List UInt8 × List UInt8)
  | 0x2e :: bs =>
    match spanDigits bs with
    | ([], _) => none
    | (ds, rest) => some (0x2e :: ds, rest)
  | bs => some ([], bs)

/-- the sign of an exponent, or nothing -/
def exponentSign : List UInt8 → List UInt8 × List UInt8
  | 0x2b :: bs => ([0x2b], bs)
  | 0x2d :: bs => ([0x2d], bs)
  | bs => ([], bs)

/-- the digits of an exponent, behind a letter and a sign that were read already -/
def exponentDigits? (letter : UInt8) (bs : List UInt8) : Option (List UInt8 × List UInt8) :=
  match spanDigits (exponentSign bs).2 with
  | ([], _) => none
  | (ds, rest) => some (letter :: (exponentSign bs).1 ++ ds, rest)

/-- an exponent, or nothing -/
def exponent? : List UInt8 → Option (List UInt8 × List UInt8)
  | 0x65 :: bs => exponentDigits? 0x65 bs
  | 0x45 :: bs => exponentDigits? 0x45 bs
  | bs => some ([], bs)

/-- a lexeme of ASCII characters as text -/
def lexeme (bs : List UInt8) : String := String.ofList (bs.map fun b => Char.ofNat b.toNat)

/-- a number after its sign -/
def unsigned? (negative : Bool) (bs : List UInt8) : Option (Json × List UInt8) := do
  let (whole, bs) ← natural? bs
  let (frac, bs) ← fraction? bs
  let (expo, bs) ← exponent? bs
  let isWhole := frac.isEmpty && expo.isEmpty && !(negative && whole == [0x30])
  if isWhole then
    let n : Int := digitsValue whole
    return (.int (if negative then -n else n), bs)
  return (.real (lexeme ((if negative then [0x2d] else []) ++ whole ++ frac ++ expo)), bs)

/-- a number -/
def number? : List UInt8 → Option (Json × List UInt8)
  | 0x2d :: bs => unsigned? true bs
  | bs => unsigned? false bs

/-! ## Text -/

/-- the value of a digit of base sixteen -/
def hexByte? (b : UInt8) : Option Nat := hexDigit? (Char.ofNat b.toNat)

/-- the value of four digits of base sixteen -/
def hex4? (a b c d : UInt8) : Option Nat := do
  let a ← hexByte? a
  let b ← hexByte? b
  let c ← hexByte? c
  let d ← hexByte? d
  return ((a * 16 + b) * 16 + c) * 16 + d

/-- the byte that a short escape stands for -/
def shortEscape? (b : UInt8) : Option UInt8 :=
  if b = 0x22 || b = 0x5c || b = 0x2f then some b
  else if b = 0x62 then some 0x08
  else if b = 0x66 then some 0x0c
  else if b = 0x6e then some 0x0a
  else if b = 0x72 then some 0x0d
  else if b = 0x74 then some 0x09
  else none

def isHighSurrogate (n : Nat) : Bool := 0xd800 ≤ n && n < 0xdc00

def isLowSurrogate (n : Nat) : Bool := 0xdc00 ≤ n && n < 0xe000

/-- the character that a pair of surrogates stands for -/
def ofSurrogates (high low : Nat) : Char := Char.ofNat (0x10000 + (high - 0xd800) * 0x400 + (low - 0xdc00))

/-- bytes in front of the content of a text; `none` is content that is not Unicode -/
def prepend (bytes : List UInt8) (scanned : Option (List UInt8) × List UInt8) : Option (List UInt8) × List UInt8 :=
  (scanned.1.map (bytes ++ ·), scanned.2)

/-- content that is not Unicode, whatever follows -/
def spoil (scanned : Option (List UInt8) × List UInt8) : Option (List UInt8) × List UInt8 := (none, scanned.2)

/-- the content of a text up to its closing quote, with the escapes resolved, and what follows the quote -/
def content? : List UInt8 → Option (Option (List UInt8) × List UInt8)
  | [] => none
  | 0x22 :: bs => some (some [], bs)
  | 0x5c :: 0x75 :: a :: b :: c :: d :: bs =>
    match hex4? a b c d with
    | none => none
    | some n =>
      if isHighSurrogate n then
        match bs with
        | 0x5c :: 0x75 :: a' :: b' :: c' :: d' :: bs' =>
          match hex4? a' b' c' d' with
          | none => none
          | some m =>
            if isLowSurrogate m then (content? bs').map (prepend (String.utf8EncodeChar (ofSurrogates n m)))
            else (content? (0x5c :: 0x75 :: a' :: b' :: c' :: d' :: bs')).map spoil
        | bs => (content? bs).map spoil
      else if isLowSurrogate n then (content? bs).map spoil
      else (content? bs).map (prepend (String.utf8EncodeChar (Char.ofNat n)))
  | 0x5c :: e :: bs =>
    match shortEscape? e with
    | none => none
    | some b => (content? bs).map (prepend [b])
  | b :: bs => if b < 0x20 then none else (content? bs).map (prepend [b])

/-- bytes as text, if they are UTF-8 -/
def utf8? (bytes : List UInt8) : Option String := String.fromUTF8? (ByteArray.mk bytes.toArray)

/-- a text after its opening quote; the inner `none` is one that is not Unicode -/
def text? (bs : List UInt8) : Option (Option String × List UInt8) :=
  (content? bs).map fun (content, rest) => (content.bind utf8?, rest)

/-! ## Values -/

/-- an object, broken if one of its names is -/
def ofMembers (ms : List (Option String × Json)) : Json :=
  match ms.mapM fun (name, j) => name.map (·, j) with
  | some ms => .obj ms
  | none => .broken

/-- the rest after a fixed word -/
def word? (w : List UInt8) (j : Json) (bs : List UInt8) : Option (Json × List UInt8) :=
  if w.isPrefixOf bs then some (j, bs.drop w.length) else none

mutual

/-- a value at the start of the text, and what follows it -/
def value? : Nat → List UInt8 → Option (Json × List UInt8)
  | 0, _ => none
  | budget + 1, bs =>
    match skipSpaces bs with
    | 0x7b :: bs =>
      match skipSpaces bs with
      | 0x7d :: bs => some (.obj [], bs)
      | bs => (members? budget bs).map fun (ms, rest) => (ofMembers ms, rest)
    | 0x5b :: bs =>
      match skipSpaces bs with
      | 0x5d :: bs => some (.arr [], bs)
      | bs => (items? budget bs).map fun (js, rest) => (.arr js, rest)
    | 0x22 :: bs =>
      (text? bs).map fun (s, rest) => (match s with | some s => .str s | none => .broken, rest)
    | 0x6e :: bs => word? [0x75, 0x6c, 0x6c] .null bs
    | 0x74 :: bs => word? [0x72, 0x75, 0x65] (.bool true) bs
    | 0x66 :: bs => word? [0x61, 0x6c, 0x73, 0x65] (.bool false) bs
    | bs => number? bs

/-- the items of an array that has some, up to its closing bracket -/
def items? : Nat → List UInt8 → Option (List Json × List UInt8)
  | 0, _ => none
  | budget + 1, bs =>
    match value? budget bs with
    | none => none
    | some (j, bs) =>
      match skipSpaces bs with
      | 0x2c :: bs => (items? budget bs).map fun (js, rest) => (j :: js, rest)
      | 0x5d :: bs => some ([j], bs)
      | _ => none

/-- the members of an object that has some, up to its closing brace -/
def members? : Nat → List UInt8 → Option (List (Option String × Json) × List UInt8)
  | 0, _ => none
  | budget + 1, bs =>
    match skipSpaces bs with
    | 0x22 :: bs =>
      match text? bs with
      | none => none
      | some (name, bs) =>
        match skipSpaces bs with
        | 0x3a :: bs =>
          match value? budget bs with
          | none => none
          | some (j, bs) =>
            match skipSpaces bs with
            | 0x2c :: bs => (members? budget bs).map fun (ms, rest) => ((name, j) :: ms, rest)
            | 0x7d :: bs => some ([(name, j)], bs)
            | _ => none
        | _ => none
    | _ => none

end

/-- reads a text that holds one value and nothing else -/
def parse (bytes : List UInt8) : Option Json :=
  match value? (2 * bytes.length + 2) bytes with
  | some (j, rest) => if (skipSpaces rest).isEmpty then some j else none
  | none => none

/-- reads a text given as characters -/
def parseText (s : String) : Option Json := parse s.toUTF8.toList

end FlightStore.Json
