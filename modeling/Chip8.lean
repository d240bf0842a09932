import Chip8.CallStack
import Chip8.CommandLine
import Chip8.Console
import Chip8.Console.Input
import Chip8.Device
import Chip8.Fault
import Chip8.Font
import Chip8.Hex
import Chip8.Instruction
import Chip8.Instruction.Text
import Chip8.Keyboard
import Chip8.Keypad
import Chip8.Machine
import Chip8.Machine.Cycle
import Chip8.Machine.Execute
import Chip8.Machine.Notes
import Chip8.Main
import Chip8.Memory
import Chip8.Note
import Chip8.Opcode
import Chip8.Picture
import Chip8.Random
import Chip8.Registers
import Chip8.Report
import Chip8.Rig
import Chip8.Rig.Notes
import Chip8.Scheduler
import Chip8.Sink
import Chip8.Terminal
import Chip8.Timing
import Chip8.Proofs.Checks
import Chip8.Proofs.Host
import Chip8.Proofs.Abort
import Chip8.Proofs.Retry
import Chip8.Proofs.Nesting
import Chip8.Proofs.Returns
import Chip8.Proofs.Footprint
import Chip8.Proofs.Drive
import Chip8.Proofs.Tone
import Chip8.Proofs.Timers
import Chip8.Proofs.Speed
import Chip8.Proofs.Countdown
import Chip8.Proofs.Drawings
import Chip8.Proofs.Beats
import Chip8.Proofs.Waiting
import Chip8.Proofs.Encoding
import Chip8.Proofs.Refusals
import Chip8.Proofs.Cadence
import Chip8.Proofs.EventLoop
import Chip8.Proofs.Cells
import Chip8.Proofs.OpcodeTable
import Chip8.Proofs.Draws
import Chip8.Proofs.Screens
import Chip8.Proofs.Successors
import Chip8.Proofs.Addresses
import Chip8.Proofs.Pixels
import Chip8.Proofs.Polls
import Chip8.Proofs.Collisions
import Chip8.Proofs.LitPixels
import Chip8.Proofs.Arithmetic
import Chip8.Proofs.Stores
import Chip8.Proofs.ByteStore
import Chip8.Proofs.KeyHistory
import Chip8.Proofs.Decays
import Chip8.Proofs.Flow
import Chip8.Proofs.Assembly
import Chip8.Proofs.Glyphs
import Chip8.Proofs.SpeedChanges
import Chip8.Proofs.Rates
