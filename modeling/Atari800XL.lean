import Atari800XL.Cpu.Bench
import Atari800XL.Host.Model
import Atari800XL.Main
import Atari800XL.Proofs.Cpu.Runs
import Atari800XL.Proofs.Memory.Cell
import Atari800XL.Proofs.Memory.Overlay
import Atari800XL.Proofs.Cpu.Morphism
import Atari800XL.Proofs.FileDevice.Footprint
import Atari800XL.Proofs.Schedule
import Atari800XL.Proofs.Word
import Atari800XL.Proofs.Disk.Overwrite
import Atari800XL.Proofs.Disk.Answers
import Atari800XL.Proofs.Machine.Board
import Atari800XL.Proofs.Machine.Observed
import Atari800XL.Proofs.Machine.Session
import Atari800XL.Proofs.Machine.Invariant
import Atari800XL.Proofs.Machine.Halting
import Atari800XL.Proofs.Machine.Replies
import Atari800XL.Proofs.Machine.Programs
import Atari800XL.Proofs.Machine.Deliveries
import Atari800XL.Proofs.Cpu.Time
import Atari800XL.Proofs.FileDevice.Time
import Atari800XL.Proofs.Machine.Service
import Atari800XL.Proofs.Machine.Running
import Atari800XL.Proofs.Disk.Drives
import Atari800XL.Proofs.Disk.Edits
import Atari800XL.Proofs.Disk.RoundTrip
import Atari800XL.Proofs.FileDevice.Block
import Atari800XL.Proofs.FileDevice.Ownership
import Atari800XL.Proofs.FileDevice.Stream
import Atari800XL.Proofs.Files.Order
import Atari800XL.Proofs.FileDevice.Effect
import Atari800XL.Proofs.FileDevice.Commands
import Atari800XL.Proofs.FileDevice.Lock
import Atari800XL.Proofs.FileDevice.Failure
import Atari800XL.Proofs.FileDevice.Snapshot
import Atari800XL.Proofs.Pokey.Noise
import Atari800XL.Proofs.Pokey.Silence
import Atari800XL.Proofs.Cpu.Related
import Atari800XL.Proofs.Machine.Silence
import Atari800XL.Proofs.Machine.Tapped
import Atari800XL.Proofs.Machine.Beside
import Atari800XL.Proofs.Machine.Unheard
import Atari800XL.Proofs.Disk.Sectors
import Atari800XL.Proofs.Machine.Ahead
import Atari800XL.Proofs.Machine.Companion
import Atari800XL.Proofs.Machine.Clock
import Atari800XL.Proofs.Antic.Interpreter
import Atari800XL.Proofs.Antic.Refinement
import Atari800XL.Proofs.Machine.InStep
import Atari800XL.Proofs.Machine.Fittings
import Atari800XL.Proofs.Machine.Reset
import Atari800XL.Proofs.Pokey.Interrupts
import Atari800XL.Proofs.Machine.Timers
import Atari800XL.Proofs.Machine.ListInterrupts
import Atari800XL.Proofs.Machine.Ending
import Atari800XL.Proofs.Cpu.OpcodeMatrix
import Atari800XL.Proofs.Cpu.Operand
import Atari800XL.Proofs.Cpu.Targets
import Atari800XL.Proofs.Cpu.Activity
import Atari800XL.Proofs.Cpu.Timing
import Atari800XL.Proofs.Cpu.Footprint
import Atari800XL.Proofs.FileDevice.Convention
import Atari800XL.Proofs.FileDevice.Delivery
import Atari800XL.Proofs.FileDevice.Records
import Atari800XL.Proofs.FileDevice.Refinement
import Atari800XL.Proofs.Cpu.Requests
import Atari800XL.Proofs.Machine.Requests
import Atari800XL.Proofs.Machine.Ports
import Atari800XL.Proofs.Disk.Slots
import Atari800XL.Proofs.Machine.Lines
import Atari800XL.Proofs.Machine.Frames
import Atari800XL.Proofs.Pokey.ShiftRegister
import Atari800XL.Proofs.Pokey.Pieces
import Atari800XL.Proofs.Pokey.Underflows
import Atari800XL.Proofs.Files.Matching
import Atari800XL.Proofs.FileDevice.NamedFiles
import Atari800XL.Proofs.Files.Watching
import Atari800XL.Proofs.Cpu.NumberSystem
import Atari800XL.Proofs.Cpu.LongArithmetic
import Atari800XL.Proofs.Cpu.Departures
import Atari800XL.Proofs.Gtia.Coverage
import Atari800XL.Proofs.Gtia.Composition
import Atari800XL.Proofs.Gtia.Collisions
import Atari800XL.Proofs.Gtia.Priority
import Atari800XL.Proofs.Antic.Raster
import Atari800XL.Proofs.Antic.Scrolling
import Atari800XL.Proofs.Cpu.Combined
import Atari800XL.Proofs.FileDevice.Listing
import Atari800XL.Proofs.FileDevice.Catalogue
import Atari800XL.Proofs.FileDevice.Renaming
import Atari800XL.Proofs.Disk.Checksum
import Atari800XL.Proofs.Disk.Blank
import Atari800XL.Proofs.FileDevice.StoredNames
import Atari800XL.Proofs.Ring
import Atari800XL.Proofs.Files.Language
import Atari800XL.Proofs.Antic.ColorClocks
import Atari800XL.Proofs.Disk.Receiver
import Atari800XL.Proofs.Schedule.Operations
import Atari800XL.Proofs.Cpu.StatusBits
import Atari800XL.Proofs.Machine.StatusBits
import Atari800XL.Proofs.Machine.Pictures
