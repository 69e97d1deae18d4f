import CnfSearch.Main
import CnfSearch.Proofs.AssignmentOrder
import CnfSearch.Proofs.Enumeration
import CnfSearch.Proofs.Evaluation
import CnfSearch.Proofs.FirstWitness
import CnfSearch.Proofs.Grammar
import CnfSearch.Proofs.Traversal
import CnfSearch.Proofs.Reading
import CnfSearch.Proofs.ClauseGrammar
import CnfSearch.Proofs.TextVerdict
import CnfSearch.Proofs.Continuation
import CnfSearch.Proofs.TextPrefix
import CnfSearch.Proofs.Rows
import CnfSearch.Proofs.Correspondence
import CnfSearch.Proofs.ProblemLines
import CnfSearch.Proofs.Revision
import CnfSearch.Proofs.BlockStart
import CnfSearch.Proofs.Layout
import CnfSearch.Proofs.RoundTrip
import CnfSearch.Proofs.PartialEvaluation
import CnfSearch.Proofs.Listing
import CnfSearch.Proofs.ReaderInvariant
import CnfSearch.Proofs.Faultless
import CnfSearch.Proofs.NamedValues
import CnfSearch.Proofs.Answers
import CnfSearch.Proofs.ClauseSets
import CnfSearch.Proofs.Relabeling
import CnfSearch.Proofs.LeastValuation
import CnfSearch.Proofs.IndependentParts
import CnfSearch.Proofs.Jumps
import CnfSearch.Proofs.Transcript
import CnfSearch.Proofs.LineAccount
import CnfSearch.Proofs.CommandLine
import CnfSearch.Proofs.Spelling
import CnfSearch.Proofs.SortedSupport
import CnfSearch.Proofs.Printing
