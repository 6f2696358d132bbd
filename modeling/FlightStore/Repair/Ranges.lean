/-
Repair of single values that are out of range.

The share of the motor output is 1 to 100, the byte of a cell selector has to have a meaning, the denominators of the
loops are clamped, the masks of the beeper hold only events they can hold, and on a board with a table for the video
transmitter band, channel and power lie in that table.
-/
import FlightStore.Board.Target
import FlightStore.Loop.Timing
import FlightStore.Repair.Fixed

namespace FlightStore.Repair

/-- a number brought into a range -/
def clamp (lo hi v : UInt8) : UInt8 := if v < lo then lo else if hi < v then hi else v

def fixProfileRanges (p : PidProfile) : Fixed PidProfile := do
  let outputLimit ← .assignIf (p.outputLimit = 0 ∨ 100 < p.outputLimit) p.outputLimit 100
  let cellByte ← .assignIf (CellSelector.ofByte? p.cellByte = none) p.cellByte CellSelector.stayByte
  return { p with outputLimit, cellByte }

def fixBeeper (b : Beeper) : Fixed Beeper := do
  let off ← .assignIf (¬ b.off ⊆ .declared) b.off .empty
  let beaconOff ← .assignIf (¬ b.beaconOff ⊆ beaconEvents) b.beaconOff .empty
  let beaconTone ← .assignIf (¬ (beaconToneMin ≤ b.beaconTone ∧ b.beaconTone ≤ beaconToneMax)) b.beaconTone beaconToneMin
  return { b with off, beaconOff, beaconTone }

/-- a channel past the table is dropped, and with it the frequency if a band was chosen -/
def fixVtxChannel (t : VtxTable) (v : Vtx) : Fixed Vtx :=
  if t.channels < v.channel then do
    let channel ← .assign v.channel 0
    let frequency ← .assignIf (0 < v.band) v.frequency 0
    return { v with channel, frequency }
  else pure v

/-- a band past the table is dropped, and with it the frequency -/
def fixVtxBand (t : VtxTable) (v : Vtx) : Fixed Vtx :=
  if t.bands < v.band then do
    let band ← .assign v.band 0
    let frequency ← .assign v.frequency 0
    return { v with band, frequency }
  else pure v

/-- a power level past the table is dropped -/
def fixVtxPower (t : VtxTable) (v : Vtx) : Fixed Vtx := do
  let power ← .assignIf (t.powerLevels < v.power) v.power 0
  return { v with power }

def fixVtx (t : VtxTable) (v : Vtx) : Fixed Vtx := do
  let v ← fixVtxChannel t v
  let v ← fixVtxBand t v
  fixVtxPower t v

/-- brings single values into their ranges -/
def fixRanges (caps : Capabilities) (s : Settings) : Fixed Settings := do
  let pidProfiles ← .slots fixProfileRanges s.pidProfiles
  let syncDenom ← .assign s.gyro.syncDenom (clamp 1 Timing.maxSyncDenom s.gyro.syncDenom)
  let processDenom ← .assign s.pidLoop.processDenom (clamp 1 Timing.maxProcessDenom s.pidLoop.processDenom)
  let beeper ← fixBeeper s.beeper
  let vtx ← if .vtxTable ∈ caps then fixVtx s.vtxTable s.vtx else pure s.vtx
  return { s with pidProfiles, gyro := { s.gyro with syncDenom }, pidLoop := { processDenom }, beeper, vtx }

end FlightStore.Repair
