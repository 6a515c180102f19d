import QueryScope.Dataset
import QueryScope.Description
import QueryScope.Schema
import QueryScope.Proofs.Expression
import QueryScope.Proofs.Scope.Reachable
import QueryScope.Proofs.Scope.InDialect
import QueryScope.Proofs.Scope.Involution
import QueryScope.Proofs.Scope.Failure
import QueryScope.Proofs.Scope.Regrouping
import QueryScope.Proofs.Scope.NormalForm
import QueryScope.Proofs.Scope.Correspondence
import QueryScope.Proofs.Rounding
import QueryScope.Proofs.ValueOrder
import QueryScope.Proofs.ExactOrder
import QueryScope.Proofs.SortOrder
import QueryScope.Proofs.InvertedCriteria
import QueryScope.Proofs.Query.Arrangement
import QueryScope.Proofs.Query.Request
import QueryScope.Proofs.Query.Paging
import QueryScope.Proofs.Schema.Access
import QueryScope.Proofs.Schema.Clash
import QueryScope.Proofs.Schema.Legality
import QueryScope.Proofs.Document
import QueryScope.Proofs.FilterDocument
import QueryScope.Proofs.QueryByExample
import QueryScope.Proofs.Scope.Sameness
import QueryScope.Proofs.OrderSpec
import QueryScope.Proofs.Schema.Reading
import QueryScope.Proofs.Schema.NormalForm
import QueryScope.Proofs.Schema.FieldOption
import QueryScope.Proofs.Decimal.Layout
