import WikiGateway.Main
import WikiGateway.Server.FrontController
import WikiGateway.Proofs.Text.Trim
import WikiGateway.Proofs.Net.Spoofing
import WikiGateway.Proofs.Request.Links
import WikiGateway.Proofs.Fields.Refinement
import WikiGateway.Proofs.Config.Reload
import WikiGateway.Proofs.Fields.StoreRuns
import WikiGateway.Proofs.Http.Cookie
import WikiGateway.Proofs.Http.HeaderLine
import WikiGateway.Proofs.Http.Response
import WikiGateway.Proofs.Request.Routing
import WikiGateway.Proofs.Server.Answer
import WikiGateway.Proofs.Server.Reload
import WikiGateway.Proofs.Request.Cookies
import WikiGateway.Proofs.Config.Problems
import WikiGateway.Proofs.Config.Sections
import WikiGateway.Proofs.Http.RequestUrl
import WikiGateway.Proofs.Request.Origin
import WikiGateway.Proofs.Net.AddressText
import WikiGateway.Proofs.Net.Listed
import WikiGateway.Proofs.Http.CookieFields
import WikiGateway.Proofs.Route.Template
import WikiGateway.Proofs.Server.RequestId
import WikiGateway.Proofs.Http.HostPort
import WikiGateway.Proofs.Text.Runs
import WikiGateway.Proofs.Decimal.Grammar
import WikiGateway.Proofs.Text.Clean
import WikiGateway.Proofs.Text.Digits
import WikiGateway.Proofs.Decimal.Saturation
import WikiGateway.Proofs.Fields.Numbers
import WikiGateway.Proofs.Http.LanguageRanges
import WikiGateway.Proofs.Http.AcceptLanguage
import WikiGateway.Proofs.Request.PathFields
import WikiGateway.Proofs.Config.Tables
import WikiGateway.Proofs.Fields.Interpolation
import WikiGateway.Proofs.Request.Interpolation
import WikiGateway.Proofs.Request.BadPath
import WikiGateway.Proofs.Http.UrlNormalForm
import WikiGateway.Proofs.Request.Queries
import WikiGateway.Proofs.Route.EntryPoints
import WikiGateway.Proofs.Net.ReadBack
import WikiGateway.Proofs.Net.PublicAddress
import WikiGateway.Proofs.Server.HeaderFields
import WikiGateway.Proofs.Server.DirectClient
import WikiGateway.Proofs.Http.Authority
import WikiGateway.Proofs.Request.CanonicalServer
import WikiGateway.Proofs.Http.RecordedLines
import WikiGateway.Proofs.Fields.WrittenOut
import WikiGateway.Proofs.Inspect.Fragments
import WikiGateway.Proofs.Route.Anchors
