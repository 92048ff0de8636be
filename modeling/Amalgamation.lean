import Amalgamation.Main
import Amalgamation.Proofs.Directive.Trimming
import Amalgamation.Proofs.Directive.Marks
import Amalgamation.Proofs.Feature.Names
import Amalgamation.Proofs.Blocks.Scans
import Amalgamation.Proofs.Blocks.Agreement
import Amalgamation.Proofs.Blocks.Boundary
import Amalgamation.Proofs.Inclusion.Agenda
import Amalgamation.Proofs.Blocks.Faults
import Amalgamation.Proofs.Inclusion.Nesting
import Amalgamation.Proofs.Inclusion.Simulation
import Amalgamation.Proofs.Inclusion.Policy
import Amalgamation.Proofs.Inclusion.Cycles
import Amalgamation.Proofs.FileTree.Locations
import Amalgamation.Proofs.Inclusion.Duplicates
import Amalgamation.Proofs.Inclusion.Flattening
import Amalgamation.Proofs.Inclusion.Header
import Amalgamation.Proofs.Directive.Continuations
import Amalgamation.Proofs.Feature.Conditions
import Amalgamation.Proofs.Source.Origins
import Amalgamation.Proofs.Inclusion.Sources
import Amalgamation.Proofs.Bundle.DebugSources
import Amalgamation.Proofs.Inclusion.Writing
import Amalgamation.Proofs.Inclusion.Leftover
import Amalgamation.Proofs.Bundle.Entries
import Amalgamation.Proofs.Inclusion.Containment
import Amalgamation.Proofs.Feature.Selections
import Amalgamation.Proofs.Source.Readings
import Amalgamation.Proofs.Source.Selections
import Amalgamation.Proofs.Feature.Grammar
import Amalgamation.Proofs.Feature.Canonical
import Amalgamation.Proofs.Blocks.Closing
import Amalgamation.Proofs.Blocks.Pairs
import Amalgamation.Proofs.Source.Dropped
import Amalgamation.Proofs.Directive.Borders
import Amalgamation.Proofs.Source.Verdict
import Amalgamation.Proofs.Source.Remaining
import Amalgamation.Proofs.Blocks.Diagnosis
import Amalgamation.Proofs.Feature.Beginnings
import Amalgamation.Proofs.Blocks.Repeated
import Amalgamation.Proofs.Selector.Words
import Amalgamation.Proofs.Feature.Progress
import Amalgamation.Proofs.Feature.Unfinished
import Amalgamation.Proofs.Blocks.Layout
import Amalgamation.Proofs.Blocks.BlockComments
import Amalgamation.Proofs.Directive.Definitions
import Amalgamation.Proofs.Source.Lines
import Amalgamation.Proofs.Source.Switches
import Amalgamation.Proofs.Selector.Comments
import Amalgamation.Proofs.FileTree.Changes
import Amalgamation.Proofs.FileTree.Names
import Amalgamation.Proofs.Bundle.Writing
import Amalgamation.Proofs.SortedList
import Amalgamation.Proofs.Feature.ShortNames
import Amalgamation.Proofs.Blocks.Gates
import Amalgamation.Proofs.FileTree.Order
import Amalgamation.Proofs.FileTree.WellFormed
import Amalgamation.Proofs.Check.Discovery
import Amalgamation.Proofs.Pattern.Spans
import Amalgamation.Proofs.Pattern.Matching
import Amalgamation.Proofs.Pattern.Lookahead
import Amalgamation.Proofs.Pattern.Reading
import Amalgamation.Proofs.Pattern.Grouping
import Amalgamation.Proofs.Pattern.Engine
import Amalgamation.Proofs.Pattern.Exemptions
import Amalgamation.Proofs.Blocks.Lockstep
import Amalgamation.Proofs.Feature.Tokens
