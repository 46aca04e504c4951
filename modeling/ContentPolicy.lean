import ContentPolicy.Config
import ContentPolicy.Config.Json
import ContentPolicy.Decimal
import ContentPolicy.Directive.Emission
import ContentPolicy.Directive.Error
import ContentPolicy.Directive.Kind
import ContentPolicy.Directive.Token
import ContentPolicy.Directive.Value
import ContentPolicy.Disposition
import ContentPolicy.Error
import ContentPolicy.Exchange.Headers
import ContentPolicy.Exchange.Method
import ContentPolicy.Exchange.Request
import ContentPolicy.Exchange.Response
import ContentPolicy.Json.Document
import ContentPolicy.Json.Failure
import ContentPolicy.Json.Mismatch
import ContentPolicy.Json.Numeral
import ContentPolicy.Json.Printer
import ContentPolicy.Json.Quoted
import ContentPolicy.Json.Reader
import ContentPolicy.OrderedMap
import ContentPolicy.OrderedMap.Lemmas
import ContentPolicy.Policy
import ContentPolicy.Policy.Header
import ContentPolicy.Policy.Json
import ContentPolicy.Policy.Merge
import ContentPolicy.Record
import ContentPolicy.Service
import ContentPolicy.Source
import ContentPolicy.Source.Outline
import ContentPolicy.Text.CaseTables
import ContentPolicy.Text.Hex
import ContentPolicy.Text.Literal
import ContentPolicy.Text.Lowercase
import ContentPolicy.Text.Outline
import ContentPolicy.Text.Ranges
import ContentPolicy.Text.Split
import ContentPolicy.Text.Unprintable
import ContentPolicy.TokenSet
import ContentPolicy.Url
import ContentPolicy.Url.Blank
import ContentPolicy.Url.Error
import ContentPolicy.Url.Host
import ContentPolicy.Url.Ipv4
import ContentPolicy.Url.Ipv6
import ContentPolicy.Url.Path
import ContentPolicy.Url.Percent
import ContentPolicy.Url.Scheme
import ContentPolicy.Proofs.Merge.Value
import ContentPolicy.Proofs.Merge.Associativity
import ContentPolicy.Proofs.Header.Acceptance
import ContentPolicy.Proofs.Merge.Override
import ContentPolicy.Proofs.Merge.Validity
import ContentPolicy.Proofs.Merge.Sequence
import ContentPolicy.Proofs.Service.Step
import ContentPolicy.Proofs.Service.Resolution
import ContentPolicy.Proofs.Header.Composition
import ContentPolicy.Proofs.Header.Segments
import ContentPolicy.Proofs.Header.Reading
import ContentPolicy.Proofs.Policy.History
import ContentPolicy.Proofs.Service.Repetition
import ContentPolicy.Proofs.Service.Succession
import ContentPolicy.Proofs.Policy.RoundTrip
import ContentPolicy.Proofs.Config.Grammar
import ContentPolicy.Proofs.Merge.Idempotence
import ContentPolicy.Proofs.Merge.Widening
import ContentPolicy.Proofs.Service.Interchange
import ContentPolicy.Proofs.Service.Suppression
import ContentPolicy.Proofs.Exchange.Lookup
import ContentPolicy.Proofs.Header.Likeness
import ContentPolicy.Proofs.Header.Quoting
import ContentPolicy.Proofs.Json.Locality
import ContentPolicy.Proofs.Service.BareSources
import ContentPolicy.Proofs.Json.Begun
import ContentPolicy.Proofs.Json.Refusal
import ContentPolicy.Proofs.Policy.Misshapen
import ContentPolicy.Proofs.Config.Misshapen
