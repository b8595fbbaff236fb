import Rulebook.Proofs.Agreement
import Rulebook.Proofs.Bodies
import Rulebook.Proofs.Building
import Rulebook.Proofs.Calendar
import Rulebook.Proofs.Canonical
import Rulebook.Proofs.Characters
import Rulebook.Proofs.Clauses
import Rulebook.Proofs.Comparison
import Rulebook.Proofs.Conjunction
import Rulebook.Proofs.Conservation
import Rulebook.Proofs.Counters
import Rulebook.Proofs.Decimals
import Rulebook.Proofs.Depth
import Rulebook.Proofs.Digits
import Rulebook.Proofs.Directives
import Rulebook.Proofs.Doubles
import Rulebook.Proofs.Envelope
import Rulebook.Proofs.Evaluation
import Rulebook.Proofs.Fields
import Rulebook.Proofs.Filters
import Rulebook.Proofs.Groups
import Rulebook.Proofs.Growth
import Rulebook.Proofs.Handling
import Rulebook.Proofs.History
import Rulebook.Proofs.Infix
import Rulebook.Proofs.Instants
import Rulebook.Proofs.Integers
import Rulebook.Proofs.Interleaving
import Rulebook.Proofs.JsonNumbers
import Rulebook.Proofs.JsonNumerals
import Rulebook.Proofs.JsonText
import Rulebook.Proofs.JsonTokens
import Rulebook.Proofs.Layout
import Rulebook.Proofs.Lexemes
import Rulebook.Proofs.Listing
import Rulebook.Proofs.Longest
import Rulebook.Proofs.Lookup
import Rulebook.Proofs.Members
import Rulebook.Proofs.Nesting
import Rulebook.Proofs.Nodes
import Rulebook.Proofs.Numerals
import Rulebook.Proofs.Parentheses
import Rulebook.Proofs.Patterns
import Rulebook.Proofs.Placement
import Rulebook.Proofs.Policy
import Rulebook.Proofs.Positions
import Rulebook.Proofs.Printing
import Rulebook.Proofs.Refusals
import Rulebook.Proofs.Rounding
import Rulebook.Proofs.Routing
import Rulebook.Proofs.Saving
import Rulebook.Proofs.Scaling
import Rulebook.Proofs.Scan
import Rulebook.Proofs.Sharing
import Rulebook.Proofs.Spacing
import Rulebook.Proofs.Splitting
import Rulebook.Proofs.Steps
import Rulebook.Proofs.Templates
import Rulebook.Proofs.Trace
import Rulebook.Proofs.Transmission
import Rulebook.Proofs.Values
import Rulebook.Proofs.Verdicts
import Rulebook.Proofs.Visits
import Rulebook.Proofs.Written
import Rulebook.Rule.Evaluate
import Rulebook.Rule.Store
import Rulebook.Rule.Wire
import Rulebook.Service.Exchange
import Rulebook.Settings.Load
import Rulebook.Telemetry.Exposition
import Rulebook.Telemetry.Filter
import Rulebook.Telemetry.Setup
