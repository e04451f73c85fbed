import CheckPlan.Main
import CheckPlan.Session
import CheckPlan.Proofs.Assignment.Abbreviation
import CheckPlan.Proofs.Problem.Located
import CheckPlan.Proofs.Plan.Sorted
import CheckPlan.Proofs.Assignment.LargerCatalog
import CheckPlan.Proofs.Assignment.Continuation
import CheckPlan.Proofs.Output.Blocks
import CheckPlan.Proofs.Assignment.Slice
import CheckPlan.Proofs.Session.Current
import CheckPlan.Proofs.Output.Hosts
import CheckPlan.Proofs.Catalog.WrittenOut
import CheckPlan.Proofs.Plan.WellFormed
import CheckPlan.Proofs.Output.LineFeeds
import CheckPlan.Proofs.Output.Separation
import CheckPlan.Proofs.Assignment.QuotedLine
import CheckPlan.Proofs.Report.DisplayLine
import CheckPlan.Proofs.Text.Bytes
import CheckPlan.Proofs.Problem.Cut
import CheckPlan.Proofs.Report.Marked
import CheckPlan.Proofs.Files.Lawful
import CheckPlan.Proofs.Run.Parts
import CheckPlan.Proofs.Run.AllOrNothing
import CheckPlan.Proofs.Assignment.Mentioned
import CheckPlan.Proofs.Catalog.Arranged
import CheckPlan.Proofs.Output.UsedBodies
import CheckPlan.Proofs.Template.AtOnce
import CheckPlan.Proofs.Output.Stamp
import CheckPlan.Proofs.Reference.Grammar
import CheckPlan.Proofs.Run.AtTime
import CheckPlan.Proofs.CommandLine.Layers
import CheckPlan.Proofs.CommandLine.ClockFree
import CheckPlan.Proofs.Catalog.Headers
import CheckPlan.Proofs.Reference.Spelling
import CheckPlan.Proofs.Assignment.Layout
import CheckPlan.Proofs.Output.CommentBlock
import CheckPlan.Proofs.Catalog.History
import CheckPlan.Proofs.Text.Partition
