import Fixtures.Main
import Fixtures.Proofs.Batch.Run
import Fixtures.Proofs.Batch.Accounting
import Fixtures.Proofs.Batch.Abort
import Fixtures.Proofs.Batch.Ignore
import Fixtures.Proofs.Batch.Failures
import Fixtures.Proofs.Options.Policy
import Fixtures.Proofs.Generate.Policy
import Fixtures.Proofs.Report.Reader
import Fixtures.Proofs.Report.RoundTrip
import Fixtures.Proofs.Collect
import Fixtures.Proofs.Batch.Incremental
import Fixtures.Proofs.Generate.Faults
import Fixtures.Proofs.Options.Flags
import Fixtures.Proofs.Generate.DryRun
import Fixtures.Proofs.Options.Entries
import Fixtures.Proofs.Options.Grammar
import Fixtures.Proofs.Options.Accepted
import Fixtures.Proofs.Options.Verbose
import Fixtures.Proofs.Batch.Echo
import Fixtures.Proofs.Generate.Verbose
import Fixtures.Proofs.Batch.Outcomes
import Fixtures.Proofs.Generate.Summary
import Fixtures.Proofs.Generate.Plan
import Fixtures.Proofs.FileSystem.Walk
import Fixtures.Proofs.FileSystem.Filed
import Fixtures.Proofs.Batch.Effects
import Fixtures.Proofs.Generate.Writes
import Fixtures.Proofs.Batch.Refusal
import Fixtures.Proofs.Artifact
import Fixtures.Proofs.Batch.Recollect
import Fixtures.Proofs.Path.Components
import Fixtures.Proofs.Artifact.Child
import Fixtures.Proofs.ParserCommand
import Fixtures.Proofs.Options.Environment
import Fixtures.Proofs.Options.Reachable
import Fixtures.Proofs.Generate.NoScripts
import Fixtures.Proofs.Batch.Transcript
import Fixtures.Proofs.Batch.Composition
import Fixtures.Proofs.Table
import Fixtures.Proofs.Generate.Delivery
