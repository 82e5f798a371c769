import GroupRunner.Main
import GroupRunner.Programs.Behaviour
import GroupRunner.Programs.Launch
import GroupRunner.Proofs.CommandLine
import GroupRunner.Proofs.Config
import GroupRunner.Proofs.Execution.Pruning
import GroupRunner.Proofs.Execution.Unstarted
import GroupRunner.Proofs.FileSystem.Removal
import GroupRunner.Proofs.Program.Listing
import GroupRunner.Proofs.Report.Distinctness
import GroupRunner.Proofs.Report.Items
import GroupRunner.Proofs.Report.Storing
import GroupRunner.Proofs.Suite.Confinement
import GroupRunner.Proofs.Suite.Muting
import GroupRunner.Proofs.Suite.Refinement
import GroupRunner.Proofs.Suite.Repetition
import GroupRunner.Proofs.Execution.Slight
import GroupRunner.Proofs.Discovery.Precondition
import GroupRunner.Proofs.Report.Wording
import GroupRunner.Proofs.Time.Rounding
import GroupRunner.Proofs.Time.Seconds
import GroupRunner.Proofs.Capture
import GroupRunner.Proofs.IgnoreSet
