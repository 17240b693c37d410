import ContractQuery.Text.Decimal
import ContractQuery.Text.Quoted
import ContractQuery.Text.Utf8
import ContractQuery.Json.Reading
import ContractQuery.Json.Binary64
import ContractQuery.Json.Number
import ContractQuery.Json.Value
import ContractQuery.Identifier
import ContractQuery.BlockId
import ContractQuery.Micheline.Expr
import ContractQuery.Micheline.Json
import ContractQuery.Contract.Script
import ContractQuery.BigMap
import ContractQuery.NodeError
import ContractQuery.Body.Failure
import ContractQuery.Body.Content
import ContractQuery.Http.Remote
import ContractQuery.Proofs.Client.Sentinel
import ContractQuery.Proofs.Identifier
import ContractQuery.Proofs.Micheline.Acceptance
import ContractQuery.Proofs.Micheline.Unmodified
import ContractQuery.Proofs.Body.Records
import ContractQuery.Proofs.Contract.Script
import ContractQuery.Proofs.Client.Answered
import ContractQuery.Proofs.Decimal
import ContractQuery.Proofs.BlockId
import ContractQuery.Proofs.Query
import ContractQuery.Proofs.Contract.RoundTrip
import ContractQuery.Proofs.Body.Wrapper
import ContractQuery.Proofs.Client.Session
import ContractQuery.Proofs.Contract.Splitting
import ContractQuery.Proofs.BigMap
import ContractQuery.Proofs.Http.Replies
import ContractQuery.Proofs.Client.Cut
import ContractQuery.Proofs.Body.Whole
import ContractQuery.Proofs.Contract.Normal
import ContractQuery.Proofs.BlockId.Language
import ContractQuery.Proofs.NameMap
import ContractQuery.Proofs.Body.NodeError
import ContractQuery.Proofs.Micheline.Closed
import ContractQuery.Proofs.Micheline.Injective
import ContractQuery.Proofs.Body.Strings
import ContractQuery.Proofs.Decimal.Accumulation
import ContractQuery.Proofs.Body.Identifiers
import ContractQuery.Proofs.Client.Integers
import ContractQuery.Proofs.Client.Entrypoints
import ContractQuery.Proofs.Http.Url
import ContractQuery.Proofs.Identifier.Order
import ContractQuery.Proofs.Micheline.Rejection
