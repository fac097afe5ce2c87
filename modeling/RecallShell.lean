import RecallShell.CommandLine
import RecallShell.Main
import RecallShell.Proofs.Command.Spelling
import RecallShell.Proofs.History.Codec
import RecallShell.Proofs.History.Loading
import RecallShell.Proofs.Host.Buffering
import RecallShell.Proofs.Host.Terminator
import RecallShell.Proofs.Host.Workstation
import RecallShell.Proofs.Launch.Attribution
import RecallShell.Proofs.Launch.Handover
import RecallShell.Proofs.Session.Attention
import RecallShell.Proofs.Session.Budget
import RecallShell.Proofs.Session.Confinement
import RecallShell.Proofs.Session.Dealing
import RecallShell.Proofs.Session.Ending
import RecallShell.Proofs.Session.Erasure
import RecallShell.Proofs.Session.Errand
import RecallShell.Proofs.Session.Handling
import RecallShell.Proofs.Session.Piping
import RecallShell.Proofs.Session.Repeat
import RecallShell.Proofs.Session.Report
import RecallShell.Proofs.Session.Restart
import RecallShell.Proofs.Session.Split
import RecallShell.Proofs.Session.Waiting
import RecallShell.Proofs.Sink.Emission
