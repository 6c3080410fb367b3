import CheckRouter.Main
import CheckRouter.Proofs.Time
import CheckRouter.Proofs.Waiting
import CheckRouter.Proofs.Checking
import CheckRouter.Proofs.Pool.Course
import CheckRouter.Proofs.Pool.Worker
import CheckRouter.Proofs.Pool.Verdict
import CheckRouter.Proofs.Pool.Refinement
import CheckRouter.Proofs.Partition
import CheckRouter.Proofs.Paths
import CheckRouter.Proofs.Launches
import CheckRouter.Proofs.Scan
import CheckRouter.Proofs.Issue.Grammar
import CheckRouter.Proofs.Issue.Printing
import CheckRouter.Proofs.EmptyScan
import CheckRouter.Proofs.Grouping
import CheckRouter.Proofs.Supervision
import CheckRouter.Proofs.Calls
import CheckRouter.Proofs.Pool.Custody
import CheckRouter.Proofs.Discipline
import CheckRouter.Proofs.Stages
import CheckRouter.Proofs.Configuration
import CheckRouter.Proofs.Anchors
import CheckRouter.Proofs.Sources
import CheckRouter.Proofs.Ends
import CheckRouter.Proofs.Answers
import CheckRouter.Proofs.Independence
import CheckRouter.Proofs.Recall
import CheckRouter.Proofs.Precancelled
import CheckRouter.Proofs.FileOrder
import CheckRouter.Proofs.Environments
import CheckRouter.Proofs.ExitStatus
import CheckRouter.Proofs.Report
import CheckRouter.Proofs.Issue.Output
import CheckRouter.Proofs.Issue.Refusals
import CheckRouter.Proofs.Issue.Source
import CheckRouter.Proofs.Precedence
import CheckRouter.Proofs.ShellWords
import CheckRouter.Proofs.Programs
import CheckRouter.Proofs.Availability
import CheckRouter.Proofs.Encoding
import CheckRouter.Proofs.Toml.Readers
import CheckRouter.Proofs.Toml.Documents
import CheckRouter.Proofs.ProjectFiles
import CheckRouter.Proofs.Cancellation
import CheckRouter.Proofs.Issue.Summary
import CheckRouter.Proofs.Resolution
import CheckRouter.Proofs.Agreement
