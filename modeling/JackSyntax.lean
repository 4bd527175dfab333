import JackSyntax.Analysis.Batch
import JackSyntax.FileSystem.Operations
import JackSyntax.Main
import JackSyntax.Proofs.Parsing.RoundTrip
import JackSyntax.Proofs.Parsing.FirstError
import JackSyntax.Proofs.Lexing.Separators
import JackSyntax.Proofs.Parsing.TokensOnly
import JackSyntax.Proofs.Parsing.NestingLimit
import JackSyntax.Proofs.Lexing.Positions
import JackSyntax.Proofs.Parsing.LineNumbers
import JackSyntax.Proofs.Lexing.Calls
import JackSyntax.Proofs.Lexing.LineEndings
import JackSyntax.Proofs.Parsing.EndOfInput
import JackSyntax.Proofs.Markup.Documents
import JackSyntax.Proofs.Markup.Listings
import JackSyntax.Proofs.Parsing.Outputs
import JackSyntax.Proofs.Parsing.GluedKeywords
import JackSyntax.Proofs.CommandLine.Collisions
import JackSyntax.Proofs.CommandLine.Isolation
import JackSyntax.Proofs.CommandLine.Footprint
import JackSyntax.Proofs.CommandLine.Failures
import JackSyntax.Proofs.CommandLine.Leftovers
import JackSyntax.Proofs.CommandLine.Accounts
import JackSyntax.Proofs.CommandLine.Records
import JackSyntax.Proofs.CommandLine.Announcements
import JackSyntax.Proofs.CommandLine.Printing
import JackSyntax.Proofs.Lexing.Lossless
import JackSyntax.Proofs.Markup.Indentation
import JackSyntax.Proofs.Analysis.OutputPaths
import JackSyntax.Proofs.Analysis.Resolution
import JackSyntax.Proofs.Markup.EscapedTexts
import JackSyntax.Proofs.Descent.Productions
import JackSyntax.Proofs.Descent.Brackets
import JackSyntax.Proofs.Descent.Moments
import JackSyntax.Proofs.Descent.Rules
import JackSyntax.Proofs.Descent.CallDepth
import JackSyntax.Proofs.Descent.Balance
