import Unparsing.Index
import Unparsing.Quoted
import Unparsing.Grammar.TokenKind
import Unparsing.Grammar.NodeType
import Unparsing.Grammar.Parser
import Unparsing.Grammar.Basic
import Unparsing.Grammar.Yield
import Unparsing.Grammar.Agreement
import Unparsing.Diagnostic.Basic
import Unparsing.Diagnostic.Queue
import Unparsing.Problem
import Unparsing.Token.Table
import Unparsing.Token.Run
import Unparsing.Unparser.Node
import Unparsing.Derivation.Basic
import Unparsing.Session.Survey
import Unparsing.Session.Basic
import Unparsing.Build
import Unparsing.Proofs.General.Lists
import Unparsing.Proofs.General.Computations
import Unparsing.Proofs.Token.Table
import Unparsing.Proofs.Token.RunTable
import Unparsing.Proofs.Token.Parallel
import Unparsing.Proofs.Unparser.Cover
import Unparsing.Proofs.Unparser.Compatible
import Unparsing.Proofs.Unparser.Merge
import Unparsing.Proofs.Derivation.Oblivious
import Unparsing.Proofs.Derivation.Shape
import Unparsing.Proofs.Grammar.Built
import Unparsing.Proofs.Session.Recording
import Unparsing.Proofs.Session.Consistency
import Unparsing.Proofs.Session.Merging
import Unparsing.Proofs.Session.Outcome
import Unparsing.Proofs.Build
import Unparsing.Proofs.Grammar.Agreement
import Unparsing.Proofs.Token.Sorted
import Unparsing.Proofs.Unparser.Listing
import Unparsing.Proofs.Order
import Unparsing.Proofs.Derivation.Written
import Unparsing.Proofs.Loss
import Unparsing.Proofs.Grammar.NodeCreation
import Unparsing.Proofs.Grammar.Pairs
import Unparsing.Proofs.Grammar.Fewer
import Unparsing.Proofs.Derivation.Problems
import Unparsing.Proofs.Session.Mode
import Unparsing.Proofs.Mode
import Unparsing.Proofs.Unparser.Refusal
import Unparsing.Proofs.Refusal
import Unparsing.Proofs.Grammar.Ancestry
import Unparsing.Proofs.Grammar.Yield
import Unparsing.Proofs.Grammar.Choice
import Unparsing.Proofs.Grammar.Visiting
import Unparsing.Proofs.Grammar.Results
import Unparsing.Proofs.Derivation.Facing
import Unparsing.Proofs.Derivation.Slots
import Unparsing.Proofs.Session.Disabled
import Unparsing.Proofs.Session.Calls
import Unparsing.Proofs.GivenUp
import Unparsing.Proofs.Runs
import Unparsing.Proofs.Diagnostic.Queue
import Unparsing.Proofs.Session.Producers
import Unparsing.Proofs.Producers
import Unparsing.Proofs.Diagnostic.Calls
import Unparsing.Proofs.Session.Settings
import Unparsing.Proofs.Session.Reports
import Unparsing.Proofs.Session.Warnings
import Unparsing.Proofs.Reports
import Unparsing.Proofs.Derivation.Outcomes
import Unparsing.Proofs.Fields
import Unparsing.Proofs.Derivation.Stepwise
import Unparsing.Proofs.Derivation.Row
import Unparsing.Proofs.Rows
import Unparsing.Proofs.History
import Unparsing.Proofs.Extraction
import Unparsing.Proofs.Unparser.Laws
import Unparsing.Proofs.Combining
import Unparsing.Proofs.Agreement
import Unparsing.Proofs.Creation
import Unparsing.Proofs.Reflexivity
import Unparsing.Proofs.Choices
import Unparsing.Proofs.References
import Unparsing.Proofs.Canonical
import Unparsing.Proofs.Token.Requests
import Unparsing.Proofs.Grammar.Taxonomy
import Unparsing.Proofs.Derivation.Wrapping
import Unparsing.Proofs.Wrapping
import Unparsing.Proofs.Session.Problems
import Unparsing.Proofs.Session.Declared
import Unparsing.Proofs.Arena.Basic
import Unparsing.Proofs.Arena.Queries
import Unparsing.Proofs.Arena.Agreement
import Unparsing.Proofs.Arena.Derivation
import Unparsing.Proofs.Arena.Session
import Unparsing.Proofs.Termination
import Unparsing.Proofs.Diagnostic.Kept
import Unparsing.Proofs.Unparser.Places
import Unparsing.Proofs.Derivation.InPlace
import Unparsing.Proofs.Places
import Unparsing.Proofs.Token.Numbering
import Unparsing.Proofs.Token.Congruence
