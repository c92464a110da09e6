import HistoryTree.Main
import HistoryTree.Proofs.Expansion.Trace
import HistoryTree.Source.Memory
import HistoryTree.Source.Script
import HistoryTree.Proofs.Expansion.Steps
import HistoryTree.Proofs.History.Meaning
import HistoryTree.Proofs.History.Coherence
import HistoryTree.Proofs.History.Portrait
import HistoryTree.Proofs.History.Depiction
import HistoryTree.Proofs.Expansion.Acceptance
import HistoryTree.Proofs.Expansion.Contents
import HistoryTree.Proofs.Expansion.Failure
import HistoryTree.Proofs.Expansion.Cycles
import HistoryTree.Proofs.Expansion.Depth
import HistoryTree.Proofs.Expansion.Subtrees
import HistoryTree.Proofs.Expansion.Course
import HistoryTree.Proofs.Expansion.Guards
import HistoryTree.Proofs.Task.Walk
import HistoryTree.Proofs.Projection.SubTasks
import HistoryTree.Proofs.Expansion.Bounds
import HistoryTree.Proofs.Expansion.Success
import HistoryTree.Proofs.History.Offspring
import HistoryTree.Proofs.Expansion.Totals
import HistoryTree.Proofs.History.Interleaving
import HistoryTree.Proofs.History.Growth
import HistoryTree.Proofs.Expansion.Exchange
import HistoryTree.Proofs.Expansion.Prefixes
import HistoryTree.Proofs.Source.Addresses
import HistoryTree.Proofs.Event.Extension
import HistoryTree.Proofs.CommandLine.Trees
import HistoryTree.Proofs.Expansion.Consistency
import HistoryTree.Proofs.Expansion.Omission
import HistoryTree.Proofs.Source.Agreement
import HistoryTree.Proofs.Source.Confinement
import HistoryTree.Proofs.Expansion.Origins
import HistoryTree.Proofs.Task.Preorder
import HistoryTree.Proofs.Task.Labels
import HistoryTree.Proofs.CommandLine.Reports
import HistoryTree.Proofs.Execution.References
import HistoryTree.Proofs.Expansion.Cancellation
