import FlightStore.Board.Capability
import FlightStore.Board.Target
import FlightStore.Bounded
import FlightStore.Choice
import FlightStore.Craft.System
import FlightStore.Device.Basic
import FlightStore.Device.Call
import FlightStore.Device.Lifecycle
import FlightStore.Device.Profiles
import FlightStore.Equipment.Beeper
import FlightStore.Equipment.Melody
import FlightStore.Equipment.Recording
import FlightStore.Equipment.Rescue
import FlightStore.FlagSet.Basic
import FlightStore.FlagSet.Text
import FlightStore.Host.Arguments
import FlightStore.Host.Command
import FlightStore.Host.Conversion
import FlightStore.Host.Failure
import FlightStore.Host.Outcome
import FlightStore.Host.Preferences
import FlightStore.Host.Report
import FlightStore.Image.Basic
import FlightStore.Image.Checksum
import FlightStore.Image.Record
import FlightStore.Image.Settings
import FlightStore.Json.Form
import FlightStore.Json.Parser
import FlightStore.Json.Printer
import FlightStore.Json.Value
import FlightStore.Loop.Gyro
import FlightStore.Loop.Timing
import FlightStore.Main
import FlightStore.Modes.Activation
import FlightStore.Motors.Motor
import FlightStore.Ports.Serial
import FlightStore.Profiles.CellCount
import FlightStore.Profiles.Pid
import FlightStore.Profiles.Rates
import FlightStore.Radio.Feature
import FlightStore.Radio.Receiver
import FlightStore.Repair.Filters
import FlightStore.Repair.Fixed
import FlightStore.Repair.Links
import FlightStore.Repair.Motors
import FlightStore.Repair.Pass
import FlightStore.Repair.Peripherals
import FlightStore.Repair.Radio
import FlightStore.Repair.Ranges
import FlightStore.Schema
import FlightStore.Settings.Basic
import FlightStore.Settings.Defaults
import FlightStore.Settings.Group
import FlightStore.Storage.Basic
import FlightStore.Storage.Files
import FlightStore.Storage.Memory
import FlightStore.Text.Blank
import FlightStore.Text.Capitals
import FlightStore.Text.Digits
import FlightStore.Wire.Codec
import FlightStore.Wire.Varint
import FlightStore.Proofs.FlagSets
import FlightStore.Proofs.FlagText
import FlightStore.Proofs.Repair.Settled
import FlightStore.Proofs.Repair.Ports
import FlightStore.Proofs.Repair.Features
import FlightStore.Proofs.Repair.Filters
import FlightStore.Proofs.Repair.Ranges
import FlightStore.Proofs.Repair.Motors
import FlightStore.Proofs.Repair.Links
import FlightStore.Proofs.Repair.Peripherals
import FlightStore.Proofs.Repair.Fixpoint
import FlightStore.Proofs.Repair.Stages
import FlightStore.Proofs.Repair.RadioInput
import FlightStore.Proofs.Loop.Timing
import FlightStore.Proofs.Repair.Pacing
import FlightStore.Proofs.Repair.Consistency
import FlightStore.Proofs.Wire.Codec
import FlightStore.Proofs.Settings.Parts
import FlightStore.Proofs.Settings.Resets
import FlightStore.Proofs.Settings.Stored
import FlightStore.Proofs.Image.Encode
import FlightStore.Proofs.Image.Decoding
import FlightStore.Proofs.Image.RoundTrip
import FlightStore.Proofs.Storage.Load
import FlightStore.Proofs.Device.Frames
import FlightStore.Proofs.Image.Framing
import FlightStore.Proofs.Image.Checked
import FlightStore.Proofs.Repair.Checked
import FlightStore.Proofs.Device.Checked
import FlightStore.Proofs.Device.Boot
import FlightStore.Proofs.Device.Survival
import FlightStore.Proofs.Device.Writing
import FlightStore.Proofs.Device.Saving
import FlightStore.Proofs.Device.Runs
import FlightStore.Proofs.Device.Sampling
import FlightStore.Proofs.Device.Slots
import FlightStore.Proofs.Device.Handover
import FlightStore.Proofs.Device.Reachable
import FlightStore.Proofs.Image.Register
import FlightStore.Proofs.Device.Recovery
import FlightStore.Proofs.Image.Corruption
import FlightStore.Proofs.Json.Lexemes
import FlightStore.Proofs.Json.Reading
import FlightStore.Proofs.Json.Forms
import FlightStore.Proofs.Settings.Written
import FlightStore.Proofs.Storage.Media
import FlightStore.Proofs.Host.Conversion
import FlightStore.Proofs.Repair.Report
import FlightStore.Proofs.Device.Battery
import FlightStore.Proofs.Device.Telemetry
import FlightStore.Proofs.Repair.Tuning
import FlightStore.Proofs.Device.Resets
import FlightStore.Proofs.Wire.Delimited
import FlightStore.Proofs.Settings.Table
import FlightStore.Proofs.Repair.Frame
import FlightStore.Proofs.Host.Overwriting
import FlightStore.Proofs.Board.Identifier
import FlightStore.Proofs.Loop.Threshold
