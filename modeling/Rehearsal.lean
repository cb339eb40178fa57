import Rehearsal.Proofs.Run.Trace
import Rehearsal.Registry.Builder
import Rehearsal.Registry.Description
import Rehearsal.Report.Document
import Rehearsal.Settings.Load
import Rehearsal.Suite
import Rehearsal.Proofs.Run.HookCalls
import Rehearsal.Proofs.Run.StepCalls
import Rehearsal.Proofs.Run.Lifecycle
import Rehearsal.Proofs.Run.FailureMode
import Rehearsal.Proofs.Journaled.DependsOn
import Rehearsal.Proofs.Run.SelfContained
import Rehearsal.Proofs.Run.Window
import Rehearsal.Proofs.Run.SuiteBoundary
import Rehearsal.Proofs.Run.Concurrent
import Rehearsal.Proofs.Run.LostWorkers
import Rehearsal.Proofs.Run.Chain
import Rehearsal.Proofs.Run.Conservation
import Rehearsal.Proofs.Regex.Execution
import Rehearsal.Proofs.Regex.Language
import Rehearsal.Proofs.Pattern.Placeholders
import Rehearsal.Proofs.Pattern.WholeText
import Rehearsal.Proofs.Report.Verdict
import Rehearsal.Proofs.Run.Records
import Rehearsal.Proofs.Run.DryRun
import Rehearsal.Proofs.Run.Narration
import Rehearsal.Proofs.Run.Story
import Rehearsal.Proofs.Run.Preselection
import Rehearsal.Proofs.Run.Isolation
import Rehearsal.Proofs.Tag.Reading
import Rehearsal.Proofs.Run.Strictness
import Rehearsal.Proofs.Run.WorkerBound
import Rehearsal.Proofs.Settings.Resolution
import Rehearsal.Proofs.Tag.Normal
import Rehearsal.Proofs.Run.Matches
import Rehearsal.Proofs.Pattern.Grammar
import Rehearsal.Proofs.Pattern.Numbers
import Rehearsal.Proofs.Run.Classification
import Rehearsal.Proofs.Model.Substitution
import Rehearsal.Proofs.Model.Expansion
import Rehearsal.Proofs.Registry.Lookup
import Rehearsal.Proofs.Arguments.Taking
import Rehearsal.Proofs.Run.BrokenChain
import Rehearsal.Proofs.Settings.Usable
import Rehearsal.Proofs.Model.HandOver
import Rehearsal.Proofs.Model.Columns
import Rehearsal.Proofs.Report.Merging
