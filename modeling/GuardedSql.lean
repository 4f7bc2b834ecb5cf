import GuardedSql.Main
import GuardedSql.BoundSql
import GuardedSql.Proofs.Keyword.Spelling
import GuardedSql.Proofs.Filter.Grammar
import GuardedSql.Proofs.Statement.Grammar
import GuardedSql.Proofs.Statement.Language
import GuardedSql.Proofs.Statement.Literals
import GuardedSql.Proofs.BoundSql.Filling
import GuardedSql.Proofs.Statement.Inline
import GuardedSql.Proofs.BoundSql.Concatenation
import GuardedSql.Proofs.Filter.Unambiguous
import GuardedSql.Proofs.Filter.FirstFault
import GuardedSql.Proofs.Statement.Placeholders
import GuardedSql.Proofs.Statement.Widening
import GuardedSql.Proofs.Statement.Unambiguous
import GuardedSql.Proofs.Statement.Mentioned
import GuardedSql.Proofs.Filter.Bindings
import GuardedSql.Proofs.AllowList.RoundTrip
import GuardedSql.Proofs.Filter.Context
import GuardedSql.Proofs.Statement.FirstFault
import GuardedSql.Proofs.AllowList.Fields
import GuardedSql.Proofs.AllowList.Loading
import GuardedSql.Proofs.AllowList.Building
import GuardedSql.Proofs.Rejection.Causes
import GuardedSql.Proofs.Rejection.Wording
import GuardedSql.Proofs.Filter.Comparison
import GuardedSql.Proofs.Json.Numerals
import GuardedSql.Proofs.Json.Values
import GuardedSql.Proofs.BoundSql.Output
import GuardedSql.Proofs.CommandLine.Agreement
import GuardedSql.Proofs.Session.Events
import GuardedSql.Proofs.BoundSql.Stack
