import Pyramulator.Data.Transition
import Pyramulator.Sim.Accounting
import Pyramulator.Sim.Order
import Pyramulator.Sim.Horizon
import Pyramulator.Sim.Drivers
import Pyramulator.Sim.Renumber
import Pyramulator.Dram.BulkAgreement
import Pyramulator.Dram.Refinement
import Pyramulator.Memory.Answers
import Pyramulator.Dram.CoreIds
import Pyramulator.Dram.Flush
import Pyramulator.Dram.NeverAhead
import Pyramulator.Hardware.PipeFailure
import Pyramulator.Metrics.Totals
import Pyramulator.Benchmark.Coalescing
import Pyramulator.Benchmark.Window
import Pyramulator.Benchmark.PeakRate
import Pyramulator.Hardware.PipeOrder
import Pyramulator.Hardware.PipeReentrancy
import Pyramulator.Memory.ClockDrift
import Pyramulator.Memory.DriveRuns
import Pyramulator.Memory.Overflow
import Pyramulator.Memory.BulkSends
import Pyramulator.Memory.Agreement
import Pyramulator.Dram.WallClock
import Pyramulator.Dram.BurstBound
import Pyramulator.Dram.EndToEnd
import Pyramulator.Examples.CopyRuns
import Pyramulator.Examples.SpmmRuns
import Pyramulator.Metrics.RegistryRuns
import Pyramulator.Memory.ValidConfigs
import Pyramulator.Benchmark.LatencyComplete
import Pyramulator.Memory.UnrolledRuns
