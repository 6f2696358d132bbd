/-
Melodies that confirm what a user does: one short beep for each pulse, with pauses between them.

Pitches are tuned in equal temperament around an A of 440 Hz in octave four.
-/
import FlightStore.Choice

namespace FlightStore

/-- the steps of an octave -/
inductive Semitone where
  | c
  | cSharp
  | d
  | dSharp
  | e
  | f
  | fSharp
  | g
  | gSharp
  | a
  | aSharp
  | b
deriving DecidableEq, Repr

namespace Semitone

/-- every step, from the lowest -/
def list : List Semitone := [.c, .cSharp, .d, .dSharp, .e, .f, .fSharp, .g, .gSharp, .a, .aSharp, .b]

def index (s : Semitone) : Nat := list.idxOf s

/-- the ratio of a step to the start of its octave, one twelfth root of two for each step -/
def ratios : List Float32 :=
  [1.0, 1.0594631, 1.122462, 1.1892071, 1.259921, 1.3348399, 1.4142136, 1.4983071, 1.587401, 1.6817929, 1.7817974,
    1.8877486]

end Semitone

structure Pitch where
  semitone : Semitone
  octave : UInt8
deriving DecidableEq, Repr

namespace Pitch

/-- number of semitones above the A of octave four -/
def offset (p : Pitch) : Int := (p.octave.toNat * 12 + p.semitone.index : Nat) - (4 * 12 + Semitone.a.index : Nat)

/-- two to the power of a number of octaves, if the power fits a word of 32 bits -/
def octaveScale? (octaves : Int) : Option Float32 :=
  if octaves.natAbs < 32 then
    let power := (UInt32.ofNat (1 <<< octaves.natAbs)).toFloat32
    some (if 0 ≤ octaves then power else 1.0 / power)
  else none

/-- the frequency (Hz), if it is not too many octaves away -/
def frequency? (p : Pitch) : Option Float32 :=
  (octaveScale? (Int.fdiv p.offset 12)).map fun scale =>
    440.0 * Semitone.ratios.getD (Int.fmod p.offset 12).toNat 1.0 * scale

end Pitch

/-- a tone or a pause -/
structure Note where
  pitch : Option Pitch
  /-- in milliseconds -/
  duration : Nat
deriving DecidableEq, Repr

abbrev Melody := List Note

namespace Melody

/-- duration of a beep (ms) -/
def beepDuration : Nat := 20

/-- pause after a beep (ms) -/
def beepGap : Nat := 200

/-- no more beeps than these are played -/
def maxBeeps : Nat := 32

/-- one beep and the pause after it -/
def beep : Melody := [⟨some ⟨.c, 6⟩, beepDuration⟩, ⟨none, beepGap⟩]

/-- the melody for a number of pulses -/
def confirmation (pulses : Nat) : Melody := (List.replicate (min pulses maxBeeps) beep).flatten

/-- duration of a melody (ms) -/
def duration (m : Melody) : Nat := m.foldl (fun total note => total + note.duration) 0

end Melody
end FlightStore
