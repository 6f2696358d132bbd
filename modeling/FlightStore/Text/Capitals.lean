/-
Capital letters, as far as names in ASCII need them.

Letters of ASCII have their capitals. Beyond ASCII, only the ten characters whose capitals are letters of ASCII are
changed; no other character turns into a part of such a name.
-/
namespace FlightStore.Text

/-- the capitals of one character -/
def capitalsOf : Char → List Char
  | 'ß' => ['S', 'S']
  | 'ı' => ['I']
  | 'ſ' => ['S']
  | '\ufb00' => ['F', 'F']
  | '\ufb01' => ['F', 'I']
  | '\ufb02' => ['F', 'L']
  | '\ufb03' => ['F', 'F', 'I']
  | '\ufb04' => ['F', 'F', 'L']
  | '\ufb05' => ['S', 'T']
  | '\ufb06' => ['S', 'T']
  | c => [c.toUpper]

/-- a text in capitals -/
def capitals (s : String) : String := String.ofList (s.toList.flatMap capitalsOf)

end FlightStore.Text
