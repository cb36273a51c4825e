import Periphery.Table
import Periphery.Ledger
import Periphery.History
import Periphery.Race
import Periphery.Bytes.ByteMemory
import Periphery.Bytes.LittleEndian
import Periphery.Bytes.TerminatedText
import Periphery.Bytes.DecimalText
import Periphery.Routine.Basic
import Periphery.Routine.Session
import Periphery.Routine.Thread
import Periphery.Routine.Progress
import Periphery.Routine.Simulation
import Periphery.Routine.Script
import Periphery.Routine.Parallel
import Periphery.Routine.View
import Periphery.Syscall
import Periphery.HostKernel
import Periphery.Mmio.Device
import Periphery.Mmio.Construction
import Periphery.Mmio.Translation
import Periphery.Mmio.WindowBounds
import Periphery.Mmio.PhysicalRefinement
import Periphery.Mmio.Bits
import Periphery.Mmio.Threads
import Periphery.Mmio.Races
import Periphery.Gpio.Pin
import Periphery.Gpio.Request
import Periphery.Gpio.LineHandle
import Periphery.Gpio.Configuration
import Periphery.Gpio.Call
import Periphery.Gpio.Descriptors
import Periphery.Gpio.Ownership
import Periphery.Gpio.FailedClose
import Periphery.Gpio.Level
import Periphery.Gpio.Disturbance
import Periphery.Gpio.Label
import Periphery.Gpio.Report
import Periphery.Gpio.Decoding
import Periphery.Spi.Device
import Periphery.Spi.RegisterFile
import Periphery.Spi.Settings
import Periphery.Spi.Isolation
import Periphery.Spi.Races
import Periphery.Spi.Transfer
import Periphery.Spi.Conversation
import Periphery.Spi.Printing
import Periphery.I2C.Device
import Periphery.I2C.Transfer
import Periphery.Serial.Device
import Periphery.CharacterDevice.Device
import Periphery.Resources.Acquisition
import Periphery.Resources.Accounting
import Periphery.Stream.Buffer
import Periphery.Stream.Expression
import Periphery.Stream.Transfer
import Periphery.Stream.Port
import Periphery.Stream.Rounds
import Periphery.Stream.Waiting
import Periphery.Stream.Endpoint
import Periphery.Stream.Session
import Periphery.Stream.Terminal
import Periphery.Stream.Line
import Periphery.Stream.Pieces
import Periphery.Stream.Writing
import Periphery.Stream.Reading
import Periphery.Stream.Filling
import Periphery.Stream.Deadline
import Periphery.Stream.Waits
import Periphery.Stream.HangUp
import Periphery.Stream.Untimed
import Periphery.Stream.Counting
import Periphery.Stream.Readiness
import Periphery.Serial.Transparency
import Periphery.Serial.Settings
import Periphery.Routine.Failure
import Periphery.Failures
import Periphery.Merge
import Periphery.Routine.Crowd
import Periphery.Stream.Writers
import Periphery.Stream.Readers
