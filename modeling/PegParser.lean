import PegParser.Main
import PegParser.Proofs.Grammar.Printing
import PegParser.Proofs.Grammar.Refactoring
import PegParser.Proofs.Grammar.Reordering
import PegParser.Proofs.Parse.Coverage
import PegParser.Proofs.Parse.Derivation
import PegParser.Proofs.Parse.Failures
import PegParser.Proofs.Parse.Spans
import PegParser.Proofs.Token.Matches
import PegParser.Session
import PegParser.Proofs.Session
import PegParser.Proofs.Diagnostic
import PegParser.Proofs.Parse.Bounds
import PegParser.Proofs.Json.RoundTrip
import PegParser.Proofs.Tree.Codec
import PegParser.Proofs.Expression.Printing
import PegParser.Proofs.Expression.Agreement
import PegParser.Proofs.Expression.Completion
import PegParser.Proofs.Parse.Extent
import PegParser.Proofs.CommandLine.Parse
import PegParser.Proofs.Parse.Repetition
import PegParser.Proofs.Grammar.Resolution
import PegParser.Proofs.Tree.Listing
import PegParser.Proofs.Position.Counting
import PegParser.Proofs.Parse.Alignment
