import ManagedRuntime.Console
import ManagedRuntime.Dispatch.Blueprint
import ManagedRuntime.Dispatch.Image
import ManagedRuntime.Dispatch.Static
import ManagedRuntime.Environment
import ManagedRuntime.Exception.Code
import ManagedRuntime.Exception.Record
import ManagedRuntime.Exception.Report
import ManagedRuntime.Exception.Strand
import ManagedRuntime.Fault
import ManagedRuntime.Heap.Array
import ManagedRuntime.Heap.Basic
import ManagedRuntime.Inspector
import ManagedRuntime.Journal.Basic
import ManagedRuntime.Journal.Filter
import ManagedRuntime.Journal.Logger
import ManagedRuntime.Machine.EntryPoints
import ManagedRuntime.Machine.Exceptions
import ManagedRuntime.Machine.Memory
import ManagedRuntime.Machine.Monitors
import ManagedRuntime.Machine.Starting
import ManagedRuntime.Machine.State
import ManagedRuntime.Main
import ManagedRuntime.Memory.Block
import ManagedRuntime.Memory.Layout
import ManagedRuntime.Memory.Record
import ManagedRuntime.Memory.Word
import ManagedRuntime.Monitor.Basic
import ManagedRuntime.Native.EntryPoints
import ManagedRuntime.Native.Float
import ManagedRuntime.Native.Registry
import ManagedRuntime.Proofs.Dispatch.Acceptance
import ManagedRuntime.Proofs.Dispatch.Faults
import ManagedRuntime.Proofs.Dispatch.Fields
import ManagedRuntime.Proofs.Dispatch.Lookups
import ManagedRuntime.Proofs.Dispatch.RoundTrip
import ManagedRuntime.Proofs.Dispatch.Static
import ManagedRuntime.Proofs.Exception.Backtrace
import ManagedRuntime.Proofs.Exception.Bottom
import ManagedRuntime.Proofs.Exception.Carried
import ManagedRuntime.Proofs.Exception.Counters
import ManagedRuntime.Proofs.Exception.Endings
import ManagedRuntime.Proofs.Exception.Instructions
import ManagedRuntime.Proofs.Exception.Propagation
import ManagedRuntime.Proofs.Exception.Regions
import ManagedRuntime.Proofs.Exception.Report
import ManagedRuntime.Proofs.Exception.Reporting
import ManagedRuntime.Proofs.Exception.Simulation
import ManagedRuntime.Proofs.Exception.Structured
import ManagedRuntime.Proofs.Exception.Translation
import ManagedRuntime.Proofs.Exception.Writers
import ManagedRuntime.Proofs.Heap.Allocation
import ManagedRuntime.Proofs.Heap.Offsets
import ManagedRuntime.Proofs.Heap.Renaming
import ManagedRuntime.Proofs.Heap.Statistics
import ManagedRuntime.Proofs.Journal.Levels
import ManagedRuntime.Proofs.Lookup
import ManagedRuntime.Proofs.Machine.Allocation
import ManagedRuntime.Proofs.Machine.Changes
import ManagedRuntime.Proofs.Machine.Consultations
import ManagedRuntime.Proofs.Machine.EntryPoints
import ManagedRuntime.Proofs.Machine.Guise
import ManagedRuntime.Proofs.Machine.Monitors
import ManagedRuntime.Proofs.Machine.Ownership
import ManagedRuntime.Proofs.Machine.Requests
import ManagedRuntime.Proofs.Machine.Statistics
import ManagedRuntime.Proofs.Machine.StrictMonitors
import ManagedRuntime.Proofs.Machine.Strictness
import ManagedRuntime.Proofs.Machine.Tables
import ManagedRuntime.Proofs.Machine.Users
import ManagedRuntime.Proofs.Monitor.Balance
import ManagedRuntime.Proofs.Monitor.Consistency
import ManagedRuntime.Proofs.Monitor.Handover
import ManagedRuntime.Proofs.Monitor.Leniency
import ManagedRuntime.Proofs.Monitor.Likeness
import ManagedRuntime.Proofs.Monitor.Misuse
import ManagedRuntime.Proofs.Monitor.Moves
import ManagedRuntime.Proofs.Monitor.Notification
import ManagedRuntime.Proofs.Monitor.Phases
import ManagedRuntime.Proofs.Monitor.Renaming
import ManagedRuntime.Proofs.Monitor.Requests
import ManagedRuntime.Proofs.Monitor.Sections
import ManagedRuntime.Proofs.Monitor.Strictness
import ManagedRuntime.Proofs.Runs
import ManagedRuntime.Proofs.Scenario.Allocation
import ManagedRuntime.Proofs.Scenario.Backtraces
import ManagedRuntime.Proofs.Scenario.Bearing
import ManagedRuntime.Proofs.Scenario.Bottoms
import ManagedRuntime.Proofs.Scenario.Calls
import ManagedRuntime.Proofs.Scenario.Changes
import ManagedRuntime.Proofs.Scenario.Commuting
import ManagedRuntime.Proofs.Scenario.Consultations
import ManagedRuntime.Proofs.Scenario.Copies
import ManagedRuntime.Proofs.Scenario.Core
import ManagedRuntime.Proofs.Scenario.Counters
import ManagedRuntime.Proofs.Scenario.Course
import ManagedRuntime.Proofs.Scenario.Deeds
import ManagedRuntime.Proofs.Scenario.Degraded
import ManagedRuntime.Proofs.Scenario.EndOfStack
import ManagedRuntime.Proofs.Scenario.Endings
import ManagedRuntime.Proofs.Scenario.Exceptions
import ManagedRuntime.Proofs.Scenario.Exits
import ManagedRuntime.Proofs.Scenario.Guise
import ManagedRuntime.Proofs.Scenario.Observing
import ManagedRuntime.Proofs.Scenario.Outlook
import ManagedRuntime.Proofs.Scenario.Parallel
import ManagedRuntime.Proofs.Scenario.Persistence
import ManagedRuntime.Proofs.Scenario.Replies
import ManagedRuntime.Proofs.Scenario.Requests
import ManagedRuntime.Proofs.Scenario.Rerouting
import ManagedRuntime.Proofs.Scenario.Routes
import ManagedRuntime.Proofs.Scenario.Starting
import ManagedRuntime.Proofs.Scenario.Surroundings
import ManagedRuntime.Proofs.Scenario.Synchronized
import ManagedRuntime.Proofs.Scenario.Tokens
import ManagedRuntime.Proofs.Scenario.Turns
import ManagedRuntime.Proofs.Scenario.Updates
import ManagedRuntime.Proofs.Settings.Grammar
import ManagedRuntime.Proofs.Thread.Answers
import ManagedRuntime.Proofs.Thread.Completion
import ManagedRuntime.Proofs.Thread.Tokens
import ManagedRuntime.Reference
import ManagedRuntime.Scenario.Calls
import ManagedRuntime.Scenario.Event
import ManagedRuntime.Scenario.Host
import ManagedRuntime.Scenario.Instruction
import ManagedRuntime.Scenario.MethodCode
import ManagedRuntime.Scenario.Objects
import ManagedRuntime.Scenario.Placement
import ManagedRuntime.Scenario.Run
import ManagedRuntime.Scenario.State
import ManagedRuntime.Scenario.Threads
import ManagedRuntime.Settings.Basic
import ManagedRuntime.Settings.Cell
import ManagedRuntime.Settings.Parser
import ManagedRuntime.Text.Blank
import ManagedRuntime.Text.Boundary
import ManagedRuntime.Text.Case
import ManagedRuntime.Text.Combining
import ManagedRuntime.Text.Hexadecimal
import ManagedRuntime.Text.Letter
import ManagedRuntime.Text.Pattern.Automaton
import ManagedRuntime.Text.Pattern.Basic
import ManagedRuntime.Text.Pattern.CharSet
import ManagedRuntime.Text.Pattern.Class
import ManagedRuntime.Text.Pattern.Escape
import ManagedRuntime.Text.Pattern.Flags
import ManagedRuntime.Text.Pattern.Parser
import ManagedRuntime.Text.Pattern.Search
import ManagedRuntime.Text.Quoted
import ManagedRuntime.Text.Unprintable
import ManagedRuntime.Text.Utf8
import ManagedRuntime.Thread.Completion
import ManagedRuntime.Thread.Token
