import Multiway.Lib.Store
import Multiway.Lib.Firsts
import Multiway.Lib.Segments
import Multiway.Lib.Versioned
import Multiway.Lib.Source
import Multiway.Lib.Run
import Multiway.Lib.Purge
import Multiway.Lib.F64
import Multiway.Lib.Argmax
import Multiway.Lib.Weighted
import Multiway.Lib.Text
import Multiway.Lib.Json
import Multiway.Lib.MergePatch
import Multiway.Lib.Serde
import Multiway.Lib.NamePattern
import Multiway.Lib.Lines
import Multiway.Lib.Utf8
import Multiway.ProxyCore.Config
import Multiway.ProxyCore.Wire
import Multiway.ProxyCore.Routing
import Multiway.ProxyCore.RouteSpec
import Multiway.ProxyCore.DefaultMatch
import Multiway.ProxyCore.Http
import Multiway.ProxyCore.Filter
import Multiway.ProxyCore.Pipeline
import Multiway.ProxyCore.Panics
import Multiway.ProxyCore.Selection
import Multiway.ProxyCore.Redirect
import Multiway.ProxyCore.RedirectPorts
import Multiway.ProxyCore.Tls
import Multiway.ProxyCore.CertificateFallback
import Multiway.ProxyCore.Server
import Multiway.ProxyCore.Listeners
import Multiway.ProxyCore.Reload
import Multiway.ProxyCore.SharedPorts
import Multiway.ProxyCore.Upgrade
import Multiway.ProxyCore.UpgradeDetection
import Multiway.ProxyCore.ReadSplits
import Multiway.ProxyCore.KeepAlive
import Multiway.ProxyCore.PrefixedStream
import Multiway.ProxyCore.RequestHead
import Multiway.ProxyCore.HeaderFilters
import Multiway.ProxyCore.HeaderLists
import Multiway.ProxyCore.Bodies
import Multiway.ProxyCore.Framing
import Multiway.ProxyCore.HopByHop
import Multiway.ProxyCore.PathPrefix
import Multiway.ProxyCore.UrlRewrite
import Multiway.ProxyCore.UpgradeFilters
import Multiway.ProxyCore.Handshake
import Multiway.ProxyCore.HostMatching
import Multiway.ProxyCore.Hostnames
import Multiway.ProxyCore.Pool
import Multiway.ProxyCore.StaleConnections
import Multiway.Kube.Core
import Multiway.Kube.GatewayApi
import Multiway.Kube.Names
import Multiway.Kube.Runtime
import Multiway.ControlPlane.Config
import Multiway.ControlPlane.Wire
import Multiway.ControlPlane.Convert
import Multiway.ControlPlane.Durations
import Multiway.ControlPlane.Snapshot
import Multiway.ControlPlane.Validate
import Multiway.ControlPlane.Result
import Multiway.ControlPlane.Reconcile
import Multiway.ControlPlane.Represents
import Multiway.ControlPlane.Reads
import Multiway.ControlPlane.Acceptance
import Multiway.ControlPlane.ListenerPolicy
import Multiway.ControlPlane.Emitted
import Multiway.ControlPlane.Attachment
import Multiway.ControlPlane.Grants
import Multiway.ControlPlane.Verdicts
import Multiway.ControlPlane.Confidentiality
import Multiway.ControlPlane.Fetcher
import Multiway.ControlPlane.Fetched
import Multiway.ControlPlane.Sufficiency
import Multiway.ControlPlane.Executor
import Multiway.ControlPlane.Agreement
import Multiway.ControlPlane.Wiring
import Multiway.ControlPlane.PortNames
import Multiway.ControlPlane.PortNameFormat
import Multiway.ControlPlane.AdmissibleNames
import Multiway.ControlPlane.Ownership
import Multiway.ControlPlane.StatusPatch
import Multiway.ControlPlane.Quiescence
import Multiway.ControlPlane.Addresses
import Multiway.ControlPlane.FetchedRoute
import Multiway.ControlPlane.RouteStatus
import Multiway.ControlPlane.Stale
import Multiway.ControlPlane.StoredStatus
import Multiway.ControlPlane.Programmed
import Multiway.ControlPlane.Inputs
import Multiway.ControlPlane.ListenerConditions
import Multiway.ControlPlane.Triggers
import Multiway.ProxyCore.Threads
import Multiway.ProxyCore.Updates
import Multiway.ProxyCore.Shutdown
import Multiway.DataPlane.Main
import Multiway.ControlPlane.Provenance
import Multiway.ControlPlane.Jurisdiction
import Multiway.EndToEnd.WireFormat
import Multiway.EndToEnd.Certificates
import Multiway.EndToEnd.Deployment
import Multiway.EndToEnd.Destinations
import Multiway.EndToEnd.Hostnames
import Multiway.EndToEnd.Ties
import Multiway.EndToEnd.Weights
import Multiway.Lib.Script
import Multiway.ControlPlane.Execute
import Multiway.ControlPlane.Controllers
import Multiway.ControlPlane.ResultMerge
import Multiway.ControlPlane.Convergence
import Multiway.ProxyCore.Destinations
import Multiway.ProxyCore.Rounds
import Multiway.EndToEnd.Rollout
import Multiway.EndToEnd.Ungoverned
import Multiway.EndToEnd.Isolation
