import UrlCalculus.Expr.Engine
import UrlCalculus.Json.Reader
import UrlCalculus.Json.Text
import UrlCalculus.Proofs.Expr.Depth
import UrlCalculus.Proofs.Expr.Matching
import UrlCalculus.Proofs.Expr.Termination
import UrlCalculus.Proofs.FieldSet.Decoding
import UrlCalculus.Proofs.FieldSet.NormalForm
import UrlCalculus.Proofs.FieldSet.Recompose
import UrlCalculus.Proofs.FieldSet.SearchParams
import UrlCalculus.Proofs.Expr.Provenance
import UrlCalculus.Proofs.Expr.Extension
import UrlCalculus.Proofs.Expr.Closed
import UrlCalculus.Proofs.Record.Lookup
import UrlCalculus.Proofs.FieldSet.Writing
import UrlCalculus.Proofs.Expr.Quotation
import UrlCalculus.Proofs.Expr.Shape
import UrlCalculus.Proofs.Expr.Building
import UrlCalculus.Proofs.FieldSet.Frame
import UrlCalculus.Proofs.Record.Rereading
import UrlCalculus.Proofs.FieldSet.Groups
import UrlCalculus.Proofs.FieldSet.NumericPort
import UrlCalculus.Proofs.FieldSet.Precedence
import UrlCalculus.Proofs.FieldSet.Repeated
import UrlCalculus.Proofs.FieldSet.Merging
import UrlCalculus.Proofs.Expr.Nesting
import UrlCalculus.Proofs.Expr.Rephrasing
import UrlCalculus.Proofs.Expr.DefaultArgument
import UrlCalculus.Proofs.Expr.Duality
import UrlCalculus.Proofs.Expr.Failure
import UrlCalculus.Proofs.Expr.Height
import UrlCalculus.Proofs.Record.Criteria
import UrlCalculus.Proofs.Record.Flattening
import UrlCalculus.Proofs.SearchParams
import UrlCalculus.Proofs.Spec.Mismatch
import UrlCalculus.Proofs.Json.Place
import UrlCalculus.Proofs.Record.Writing
import UrlCalculus.Proofs.Record.ParameterNames
