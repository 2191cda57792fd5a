import RefreshRate.Android.Actuator
import RefreshRate.Android.Command
import RefreshRate.Android.Device
import RefreshRate.Bus.Bench
import RefreshRate.Bus.Registry
import RefreshRate.Config.Basic
import RefreshRate.Config.File
import RefreshRate.Config.Line
import RefreshRate.Config.Reader
import RefreshRate.Controller.State
import RefreshRate.Controller.World
import RefreshRate.Daemon.CommandLine
import RefreshRate.Daemon.Run
import RefreshRate.Daemon.Session
import RefreshRate.Executor.Basic
import RefreshRate.Executor.Bench
import RefreshRate.Executor.Crew
import RefreshRate.File
import RefreshRate.FileTree
import RefreshRate.Gate
import RefreshRate.Handle
import RefreshRate.Log
import RefreshRate.Main
import RefreshRate.Proofs.Android.Effects
import RefreshRate.Proofs.Bus.Delivery
import RefreshRate.Proofs.Bus.Ending
import RefreshRate.Proofs.Bus.Reentrancy
import RefreshRate.Proofs.Bus.Scripted
import RefreshRate.Proofs.Config.Accepted
import RefreshRate.Proofs.Config.Grammar
import RefreshRate.Proofs.Config.Meaning
import RefreshRate.Proofs.Config.Notices
import RefreshRate.Proofs.Config.Written
import RefreshRate.Proofs.Controller.Activity
import RefreshRate.Proofs.Controller.Alarm
import RefreshRate.Proofs.Controller.Applied
import RefreshRate.Proofs.Controller.Beat
import RefreshRate.Proofs.Controller.Coalescing
import RefreshRate.Proofs.Controller.Dropped
import RefreshRate.Proofs.Controller.Forcing
import RefreshRate.Proofs.Controller.GateHistory
import RefreshRate.Proofs.Controller.GestureExit
import RefreshRate.Proofs.Controller.Handles
import RefreshRate.Proofs.Controller.Loop
import RefreshRate.Proofs.Controller.Offscreen
import RefreshRate.Proofs.Controller.OnDevice
import RefreshRate.Proofs.Controller.Override
import RefreshRate.Proofs.Controller.Reaction
import RefreshRate.Proofs.Controller.Ready
import RefreshRate.Proofs.Controller.Reordering
import RefreshRate.Proofs.Controller.Rest
import RefreshRate.Proofs.Controller.Routes
import RefreshRate.Proofs.Controller.Run
import RefreshRate.Proofs.Controller.Settled
import RefreshRate.Proofs.Controller.SplitFiring
import RefreshRate.Proofs.Controller.Strand
import RefreshRate.Proofs.Controller.Switching
import RefreshRate.Proofs.Executor.Attended
import RefreshRate.Proofs.Executor.Conservation
import RefreshRate.Proofs.Executor.Course
import RefreshRate.Proofs.Executor.Drain
import RefreshRate.Proofs.Executor.Handles
import RefreshRate.Proofs.Executor.PassOrder
import RefreshRate.Proofs.Executor.Script
import RefreshRate.Proofs.Handle.Course
import RefreshRate.Proofs.Handle.Validity
import RefreshRate.Proofs.Rule.Validation
import RefreshRate.Proofs.Service.Shutdown
import RefreshRate.Proofs.Signal.Feed
import RefreshRate.Proofs.Signal.Grammar
import RefreshRate.Proofs.Signal.TopicKey
import RefreshRate.Proofs.Text.Encoding
import RefreshRate.Proofs.Text.Lines
import RefreshRate.Proofs.Text.Numeral
import RefreshRate.Proofs.Text.Words
import RefreshRate.Proofs.Timer.Backlog
import RefreshRate.Proofs.Timer.Conservation
import RefreshRate.Proofs.Timer.Due
import RefreshRate.Proofs.Timer.Handles
import RefreshRate.Proofs.Timer.Lateness
import RefreshRate.Proofs.Timer.LoopBench
import RefreshRate.Proofs.Timer.LoopOrder
import RefreshRate.Proofs.Timer.LoopRun
import RefreshRate.Proofs.Timer.Operation
import RefreshRate.Proofs.Timer.Panic
import RefreshRate.Proofs.Timer.Record
import RefreshRate.Proofs.Timer.Register
import RefreshRate.Proofs.Timer.RegisterBench
import RefreshRate.Proofs.Timer.Sweep
import RefreshRate.Proofs.Timer.Tick
import RefreshRate.Proofs.Timer.Watch
import RefreshRate.Rule.Basic
import RefreshRate.Rule.Packages
import RefreshRate.Rule.Table
import RefreshRate.Service
import RefreshRate.Signal.Basic
import RefreshRate.Signal.Feed
import RefreshRate.Signal.Line
import RefreshRate.Signal.Log
import RefreshRate.Signal.Topic
import RefreshRate.Text.Blank
import RefreshRate.Text.Decimal
import RefreshRate.Text.Elapsed
import RefreshRate.Text.Quoted
import RefreshRate.Text.Utf8
import RefreshRate.Text.Visible
import RefreshRate.Timer.Bench
import RefreshRate.Timer.Host
import RefreshRate.Timer.Loop
import RefreshRate.Timer.Register
import RefreshRate.Timer.Table
