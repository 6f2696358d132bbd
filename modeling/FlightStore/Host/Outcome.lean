/-
What an invocation of the host tool leaves behind: how it ended, what it wrote to its output, and the files.

Lines that were written before a failure stay written, and so do files.
-/
import FlightStore.Host.Failure

namespace FlightStore.Host

inductive Ending where
  | done
  | failed (failure : Failure)
  /-- the command line makes no sense -/
  | refused
deriving DecidableEq

/-- the exit code -/
def Ending.code : Ending → Nat
  | done => 0
  | failed _ => 1
  | refused => 2

structure Outcome where
  ending : Ending
  output : List UInt8
  files : Files

namespace Outcome

/-- the bytes of a text -/
def utf8 (text : String) : List UInt8 := text.toUTF8.toList

/-- the bytes of lines, each ended by a line feed -/
def lineBytes (lines : List String) : List UInt8 := lines.flatMap fun l => utf8 l ++ utf8 "\n"

/-- done, with these lines written -/
def done (lines : List String) (files : Files) : Outcome := ⟨.done, lineBytes lines, files⟩

/-- failed, with these lines written before -/
def failed (failure : Failure) (lines : List String) (files : Files) : Outcome :=
  ⟨.failed failure, lineBytes lines, files⟩

end Outcome
end FlightStore.Host
