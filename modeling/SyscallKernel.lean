import SyscallKernel.Machine.Program
import SyscallKernel.Machine.Script
import SyscallKernel.Session.Console
import SyscallKernel.Session.Files
import SyscallKernel.Session.Memory
import SyscallKernel.Session.Processes
import SyscallKernel.Proofs.Memory.Ranges
import SyscallKernel.Proofs.Memory.Stores
import SyscallKernel.Proofs.Memory.Contents
import SyscallKernel.Proofs.Memory.Views
import SyscallKernel.Proofs.Memory.FirstFaults
import SyscallKernel.Proofs.Sessions
import SyscallKernel.Proofs.Memory.Mirrors
import SyscallKernel.Proofs.Memory.Flat
import SyscallKernel.Proofs.Memory.LastStores
import SyscallKernel.Proofs.Memory.Strings
import SyscallKernel.Proofs.File.Descriptors
import SyscallKernel.Proofs.File.Arena
import SyscallKernel.Proofs.File.Linking
import SyscallKernel.Proofs.File.Operations
import SyscallKernel.Proofs.File.Patches
import SyscallKernel.Proofs.File.Accounting
import SyscallKernel.Proofs.File.Objects
import SyscallKernel.Proofs.File.Refinement
import SyscallKernel.Proofs.File.Simulation
import SyscallKernel.Proofs.File.Releases
import SyscallKernel.Proofs.File.Handling
import SyscallKernel.Proofs.File.Stepping
import SyscallKernel.Proofs.File.Slots
import SyscallKernel.Proofs.File.Events
import SyscallKernel.Proofs.File.Issues
import SyscallKernel.Proofs.File.Reasons
import SyscallKernel.Proofs.File.Bindings
import SyscallKernel.Proofs.File.BoundSessions
import SyscallKernel.Proofs.Process.Records
import SyscallKernel.Proofs.Process.Forest
import SyscallKernel.Proofs.Process.Registration
import SyscallKernel.Proofs.Process.Termination
import SyscallKernel.Proofs.Process.Joining
import SyscallKernel.Proofs.Process.Numbering
import SyscallKernel.Proofs.Process.History
import SyscallKernel.Proofs.Process.Waiters
import SyscallKernel.Proofs.Process.Memory
import SyscallKernel.Proofs.Process.Remembering
import SyscallKernel.Proofs.Process.Verdict
import SyscallKernel.Proofs.Process.Descent
import SyscallKernel.Proofs.Kernel.Consistency
import SyscallKernel.Proofs.Kernel.Transfers
import SyscallKernel.Proofs.Kernel.Lifecycle
import SyscallKernel.Proofs.Kernel.Calls
import SyscallKernel.Proofs.Kernel.Links
import SyscallKernel.Proofs.Kernel.Acts
import SyscallKernel.Proofs.Kernel.Bookkeeping
import SyscallKernel.Proofs.Machine.Attempts
import SyscallKernel.Proofs.Machine.Runs
import SyscallKernel.Proofs.Machine.References
import SyscallKernel.Proofs.Process.Dealings
import SyscallKernel.Proofs.Kernel.Buffers
import SyscallKernel.Proofs.Kernel.Conduct
import SyscallKernel.Proofs.Kernel.Refusals
import SyscallKernel.Proofs.Kernel.Outcomes
import SyscallKernel.Proofs.Kernel.Answers
import SyscallKernel.Proofs.Kernel.Turns
import SyscallKernel.Proofs.Machine.Interleaving
import SyscallKernel.Proofs.Machine.Waiting
import SyscallKernel.Proofs.Machine.Wakeups
import SyscallKernel.Proofs.Machine.Deadlock
import SyscallKernel.Proofs.Machine.Atomicity
import SyscallKernel.Proofs.Process.Root
import SyscallKernel.Proofs.Kernel.Deeds
import SyscallKernel.Proofs.Kernel.Halting
import SyscallKernel.Proofs.Kernel.Standstill
import SyscallKernel.Proofs.Kernel.Demands
import SyscallKernel.Proofs.Kernel.Streams
import SyscallKernel.Proofs.Kernel.ConsoleCalls
import SyscallKernel.Proofs.Kernel.Wiring
import SyscallKernel.Proofs.Kernel.Consoles
import SyscallKernel.Proofs.Machine.Aftermath
import SyscallKernel.Proofs.Machine.Authority
import SyscallKernel.Proofs.Machine.Traffic
import SyscallKernel.Proofs.Process.Teardown
import SyscallKernel.Proofs.Process.Custody
import SyscallKernel.Proofs.Kernel.Cursors
import SyscallKernel.Proofs.Kernel.Pointers
import SyscallKernel.Proofs.Kernel.FileReads
import SyscallKernel.Proofs.Kernel.FileNames
import SyscallKernel.Proofs.Kernel.ArgumentVectors
import SyscallKernel.Proofs.Kernel.ProgramStarts
import SyscallKernel.Proofs.Kernel.FileWrites
import SyscallKernel.Proofs.Kernel.Custody
import SyscallKernel.Proofs.Kernel.JoinCalls
import SyscallKernel.Proofs.Machine.Acts
import SyscallKernel.Proofs.Machine.Teardown
import SyscallKernel.Proofs.Machine.FileReads
import SyscallKernel.Proofs.Machine.FileWrites
import SyscallKernel.Proofs.Machine.JoinCalls
import SyscallKernel.Proofs.Strict.Words
import SyscallKernel.Proofs.Strict.Memory
import SyscallKernel.Proofs.Strict.Arguments
import SyscallKernel.Proofs.Strict.Files
import SyscallKernel.Proofs.Strict.Processes
import SyscallKernel.Proofs.Strict.Transfers
import SyscallKernel.Proofs.Strict.Kernel
import SyscallKernel.Proofs.Strict.Services
import SyscallKernel.Proofs.Machine.Hazards
