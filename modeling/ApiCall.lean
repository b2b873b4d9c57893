import ApiCall.Connection
import ApiCall.Directive.Document
import ApiCall.Execution
import ApiCall.Operation.Document
import ApiCall.Proofs.Assembly.Query
import ApiCall.Proofs.Body.Form
import ApiCall.Proofs.Encoding.Leaves
import ApiCall.Schema.Document
import ApiCall.Security.Document
import ApiCall.Settings.Document
import ApiCall.Proofs.Multipart.HeaderLines
import ApiCall.Proofs.Body.ContentTypes
import ApiCall.Proofs.Body.Encodings
import ApiCall.Proofs.Retry.Run
import ApiCall.Proofs.Multipart.ReadBack
import ApiCall.Proofs.Assembly.Path
import ApiCall.Proofs.Url.Path
import ApiCall.Proofs.Url.Below
import ApiCall.Proofs.Assembly.Segments
import ApiCall.Proofs.Header.LastWrite
import ApiCall.Proofs.Assembly.Headers
import ApiCall.Proofs.Assembly.Cookies
import ApiCall.Proofs.Assembly.Credentials
import ApiCall.Proofs.Assembly.Failures
import ApiCall.Proofs.Execution.ErrorKinds
import ApiCall.Proofs.Body.Urlencoded
import ApiCall.Proofs.Assembly.Order
import ApiCall.Proofs.Text.Canonical
import ApiCall.Proofs.Url.Host
import ApiCall.Proofs.Url.Authority
import ApiCall.Proofs.Assembly.Destination
import ApiCall.Calls
import ApiCall.Proofs.Retry.Isolation
import ApiCall.Proofs.Body.Entries
import ApiCall.Proofs.Body.BinaryContent
import ApiCall.Proofs.Json.Grammar
import ApiCall.Proofs.Json.Reader
import ApiCall.Proofs.Json.Document
import ApiCall.Proofs.Json.Written
import ApiCall.Proofs.Body.JsonRoundTrip
import ApiCall.Proofs.Encoding.Reach
import ApiCall.Proofs.Encoding.MemberOrder
import ApiCall.Proofs.Assembly.Arguments
import ApiCall.Proofs.Encoding.KeyPaths
import ApiCall.Proofs.Query.WireKeys
import ApiCall.Proofs.Encoding.CanonicalTexts
import ApiCall.Proofs.Assembly.PathValues
import ApiCall.Proofs.Path.Substitution
import ApiCall.Proofs.Query.StyleTable
import ApiCall.Proofs.Body.AbsentMembers
import ApiCall.Proofs.Body.FileLists
import ApiCall.Proofs.Body.JsonParts
import ApiCall.Proofs.Assembly.FullUrl
import ApiCall.Proofs.Encoding.Nesting
import ApiCall.Proofs.Assembly.SchemeChoice
import ApiCall.Proofs.Retry.Counters
import ApiCall.Proofs.Assembly.CookiePairs
import ApiCall.Proofs.Decimal.Integer
import ApiCall.Proofs.Decimal.Rounding
import ApiCall.Proofs.Decimal.Real
import ApiCall.Proofs.Encoding.Scalars
