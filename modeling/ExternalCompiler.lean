import ExternalCompiler.Config.Written
import ExternalCompiler.Files
import ExternalCompiler.Instance
import ExternalCompiler.Main
import ExternalCompiler.Proofs.Interleaving
import ExternalCompiler.ScopedFlag
import ExternalCompiler.Session.Run
import ExternalCompiler.Proofs.Bootstrap.Course
import ExternalCompiler.Proofs.Bootstrap.Exit
import ExternalCompiler.Proofs.Bootstrap.Overlap
import ExternalCompiler.Proofs.Bootstrap.Seeding
import ExternalCompiler.Proofs.Bootstrap.Seeds
import ExternalCompiler.Proofs.Queue.Discipline
import ExternalCompiler.Proofs.Worker.Hooks
import ExternalCompiler.Proofs.Queue.Acceptance
import ExternalCompiler.Proofs.Worker.Waiting
import ExternalCompiler.Proofs.Bootstrap.Exclusion
import ExternalCompiler.Proofs.Alone
import ExternalCompiler.Proofs.Bootstrap.Handled
import ExternalCompiler.Proofs.Startup
import ExternalCompiler.Proofs.Account
import ExternalCompiler.Proofs.Counting
import ExternalCompiler.Proofs.Simulation.Runtime
import ExternalCompiler.Proofs.Worker.Jobs
import ExternalCompiler.Proofs.Queue.Parties
import ExternalCompiler.Proofs.Worker.Pool
import ExternalCompiler.Proofs.Worker.Connection
import ExternalCompiler.Proofs.Worker.Crew
import ExternalCompiler.Proofs.Simulation.MainThread
import ExternalCompiler.Proofs.Simulation.Threads
import ExternalCompiler.Proofs.Simulation.Schedule
import ExternalCompiler.Proofs.Simulation.Report
import ExternalCompiler.Proofs.Simulation.Totals
import ExternalCompiler.Proofs.Recording
import ExternalCompiler.Proofs.Shutdown
import ExternalCompiler.Proofs.Toml.Lines
import ExternalCompiler.Proofs.Worker.Attachment
import ExternalCompiler.Proofs.Config.RoundTrip
import ExternalCompiler.Proofs.CommandLine.Overrides
import ExternalCompiler.Proofs.Bootstrap.Polling
import ExternalCompiler.Proofs.Worker.Idling
import ExternalCompiler.Proofs.Bootstrap.Spared
import ExternalCompiler.Proofs.Queue.Ownership
import ExternalCompiler.Proofs.Bootstrap.Progress
import ExternalCompiler.Proofs.Bootstrap.Truncation
import ExternalCompiler.Proofs.Simulation.Failure
import ExternalCompiler.Proofs.Times
import ExternalCompiler.Proofs.Bootstrap.Nesting
