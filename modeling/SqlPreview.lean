import SqlPreview.Main
import SqlPreview.Proofs.Context.Flattening
import SqlPreview.Proofs.Dictionary
import SqlPreview.Proofs.Expr.Arising
import SqlPreview.Proofs.Expr.Arithmetic
import SqlPreview.Proofs.Expr.Calls
import SqlPreview.Proofs.Expr.Comparison
import SqlPreview.Proofs.Expr.Decimals
import SqlPreview.Proofs.Expr.Equality
import SqlPreview.Proofs.Expr.Lexing
import SqlPreview.Proofs.Expr.Literals
import SqlPreview.Proofs.Expr.Membership
import SqlPreview.Proofs.Expr.Names
import SqlPreview.Proofs.Expr.Negation
import SqlPreview.Proofs.Expr.Offsets
import SqlPreview.Proofs.Expr.Order
import SqlPreview.Proofs.Expr.Progress
import SqlPreview.Proofs.Expr.Reading
import SqlPreview.Proofs.Expr.Replacement
import SqlPreview.Proofs.Expr.RoundTrip
import SqlPreview.Proofs.Expr.Sign
import SqlPreview.Proofs.Expr.Strings
import SqlPreview.Proofs.Expr.Writing
import SqlPreview.Proofs.Json.Decimals
import SqlPreview.Proofs.Json.Denotation
import SqlPreview.Proofs.Json.Finite
import SqlPreview.Proofs.Json.Numbers
import SqlPreview.Proofs.Json.Range
import SqlPreview.Proofs.Mapper.NormalForm
import SqlPreview.Proofs.Number.Bounds
import SqlPreview.Proofs.Number.Formats
import SqlPreview.Proofs.Number.Literal
import SqlPreview.Proofs.Number.Order
import SqlPreview.Proofs.Number.Place
import SqlPreview.Proofs.Number.Rounding
import SqlPreview.Proofs.Number.Shortest
import SqlPreview.Proofs.Number.Truncation
import SqlPreview.Proofs.Number.Written
import SqlPreview.Proofs.Params.Coercion
import SqlPreview.Proofs.Params.Inhabitants
import SqlPreview.Proofs.Params.Literal
import SqlPreview.Proofs.Params.Naming
import SqlPreview.Proofs.Params.Narrowing
import SqlPreview.Proofs.Params.Projection
import SqlPreview.Proofs.Params.Rearranged
import SqlPreview.Proofs.Params.Rereading
import SqlPreview.Proofs.Params.Undeclared
import SqlPreview.Proofs.Project.Census
import SqlPreview.Proofs.Project.Loading
import SqlPreview.Proofs.Project.Rearranged
import SqlPreview.Proofs.Result
import SqlPreview.Proofs.Source.Annotations
import SqlPreview.Proofs.Source.Balanced
import SqlPreview.Proofs.Source.Blocks
import SqlPreview.Proofs.Source.Comments
import SqlPreview.Proofs.Source.Constants
import SqlPreview.Proofs.Source.Contents
import SqlPreview.Proofs.Source.Formals
import SqlPreview.Proofs.Source.Literals
import SqlPreview.Proofs.Source.Methods
import SqlPreview.Proofs.Source.Parameters
import SqlPreview.Proofs.Source.Quotes
import SqlPreview.Proofs.Source.Rearranged
import SqlPreview.Proofs.Source.Transparency
import SqlPreview.Proofs.Source.TypeTexts
import SqlPreview.Proofs.Sql.Fragments
import SqlPreview.Proofs.Sql.Halting
import SqlPreview.Proofs.Sql.Inlining
import SqlPreview.Proofs.Sql.Leniency
import SqlPreview.Proofs.Sql.Literal
import SqlPreview.Proofs.Sql.Machine
import SqlPreview.Proofs.Sql.Names
import SqlPreview.Proofs.Sql.Nesting
import SqlPreview.Proofs.Sql.Passes
import SqlPreview.Proofs.Sql.Quoted
import SqlPreview.Proofs.Sql.Registries
import SqlPreview.Proofs.Sql.Siblings
import SqlPreview.Proofs.Sql.Squeeze
import SqlPreview.Proofs.Sql.Stripping
import SqlPreview.Proofs.Sql.Substitution
import SqlPreview.Proofs.Sql.Tests
import SqlPreview.Proofs.Sql.Words
import SqlPreview.Proofs.Text.Digits
import SqlPreview.Proofs.Text.Search
import SqlPreview.Proofs.Time.Order
import SqlPreview.Proofs.Types.Example
import SqlPreview.Proofs.Types.Lineage
import SqlPreview.Proofs.Types.Rearranged
import SqlPreview.Proofs.Types.RoundTrip
import SqlPreview.Proofs.Types.Walker
import SqlPreview.Proofs.Value.Decimals
import SqlPreview.Proofs.Value.Exact
import SqlPreview.Proofs.Value.Json
