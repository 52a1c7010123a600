import QueryTree.Conversion
import QueryTree.Direct
import QueryTree.Node.Document
import QueryTree.Postgres.Connection
import QueryTree.Program
import QueryTree.Scripted
import QueryTree.Proofs.Session.ScopeRun
import QueryTree.Proofs.Session.EngineRun
import QueryTree.Proofs.Session.Nesting
import QueryTree.Proofs.Session.ScopeOutcome
import QueryTree.Proofs.Postgres.NestedAtomicity
import QueryTree.Proofs.Statement.ConditionMeaning
import QueryTree.Proofs.Statement.StatementLayout
import QueryTree.Proofs.Statement.WhereClause
import QueryTree.Proofs.Statement.RequestNames
import QueryTree.Proofs.Statement.QuotedSections
import QueryTree.Proofs.Statement.PlaceholderOrder
import QueryTree.Proofs.Statement.MaskedRequest
import QueryTree.Proofs.Session.BlindBackend
import QueryTree.Proofs.Session.ValueBlindness
import QueryTree.Proofs.Session.ExecutedNodes
import QueryTree.Proofs.Session.StatementCalls
import QueryTree.Proofs.Session.StatementFailure
import QueryTree.Proofs.Session.ParentChoice
import QueryTree.Proofs.Session.CursorContent
import QueryTree.Proofs.Session.Materialization
import QueryTree.Proofs.Statement.UnreadFragments
import QueryTree.Proofs.Session.GeneratedAgreement
import QueryTree.Proofs.Session.Course
import QueryTree.Proofs.Session.SuspendedCalls
import QueryTree.Proofs.Session.Brackets
import QueryTree.Proofs.Session.Cancellation
import QueryTree.Proofs.Session.ScopeStack
import QueryTree.Proofs.Session.FailedTransaction
import QueryTree.Proofs.Statement.ConditionGrammar
import QueryTree.Proofs.Statement.RequestGrammar
import QueryTree.Proofs.Statement.DialectAgreement
import QueryTree.Proofs.Postgres.BatchSelect
import QueryTree.Proofs.Statement.Wildcards
import QueryTree.Proofs.Statement.UsedConditions
import QueryTree.Proofs.Postgres.ParameterOrder
import QueryTree.Proofs.Statement.IdentifierGrammar
import QueryTree.Proofs.Statement.FragmentOrder
import QueryTree.Proofs.Session.CommandEntry
import QueryTree.Proofs.Session.LoggedCommands
import QueryTree.Proofs.Postgres.ScalarBytes
import QueryTree.Proofs.Postgres.NumericBytes
import QueryTree.Proofs.Postgres.StoredValues
import QueryTree.Proofs.Text.LongestBeginning
import QueryTree.Proofs.Text.DigitRuns
import QueryTree.Proofs.Document.DecimalText
import QueryTree.Proofs.Document.HexText
import QueryTree.Proofs.Document.TimeText
import QueryTree.Proofs.Document.NumeralText
import QueryTree.Proofs.Document.DocumentText
import QueryTree.Proofs.Document.DocumentValue
import QueryTree.Proofs.Document.ValueDocument
import QueryTree.Proofs.Document.NodeDocument
