import StatementLexer.Main
import StatementLexer.Source.Cursor
import StatementLexer.Token.Desk
import StatementLexer.Proofs.Lexeme.Shift
import StatementLexer.Proofs.Report.Cuts
import StatementLexer.Proofs.Session.Documents
import StatementLexer.Proofs.Token.Rendering
import StatementLexer.Proofs.Source.Lookup
import StatementLexer.Proofs.Token.Occurrences
import StatementLexer.Proofs.Token.Rules
import StatementLexer.Proofs.Token.Summary
import StatementLexer.Proofs.Source.Reading
import StatementLexer.Proofs.Decimal.Range
import StatementLexer.Proofs.Lexeme.Invariant
import StatementLexer.Proofs.Report.Alignment
import StatementLexer.Proofs.Session.Overflow
import StatementLexer.Proofs.Report.Identity
