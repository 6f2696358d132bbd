/-
Blank characters: those with the Unicode property White_Space. `trim` takes them off both ends of a text.
-/
namespace FlightStore.Text

/-- the characters with the property White_Space -/
def blanks : List Char :=
  ['\u0009', '\u000a', '\u000b', '\u000c', '\u000d', '\u0020', '\u0085', '\u00a0', '\u1680', '\u2000', '\u2001', '\u2002',
    '\u2003', '\u2004', '\u2005', '\u2006', '\u2007', '\u2008', '\u2009', '\u200a', '\u2028', '\u2029', '\u202f', '\u205f',
    '\u3000']

def isBlank (c : Char) : Bool := blanks.contains c

/-- the text without the blanks at its end -/
def trimEnd (cs : List Char) : List Char := (cs.reverse.dropWhile isBlank).reverse

/-- the text without the blanks at its two ends -/
def trim (cs : List Char) : List Char := trimEnd (cs.dropWhile isBlank)

end FlightStore.Text
