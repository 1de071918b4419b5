import SparkPlug.Library.Runs
import SparkPlug.Library.Traces
import SparkPlug.Library.KeyedTable
import SparkPlug.Library.Tasks
import SparkPlug.Library.Queues
import SparkPlug.Library.Shared
import SparkPlug.Library.Tickets
import SparkPlug.Library.Scripts
import SparkPlug.Library.Text
import SparkPlug.Library.CommandLine
import SparkPlug.Library.Digits
import SparkPlug.Library.Calendar
import SparkPlug.Library.PercentEncoding
import SparkPlug.Library.Authority
import SparkPlug.Library.IdleTimer
import SparkPlug.Application
import SparkPlug.Store
import SparkPlug.Routes
import SparkPlug.Health
import SparkPlug.Proxy
import SparkPlug.World
import SparkPlug.ProxySteps
import SparkPlug.Lifecycle
import SparkPlug.Launches
import SparkPlug.Launcher
import SparkPlug.ConfigLayers
import SparkPlug.SubmitCommand
import SparkPlug.Stops
import SparkPlug.Verdicts
import SparkPlug.Routing
import SparkPlug.Sessions
import SparkPlug.SessionEnd
import SparkPlug.Coherence
import SparkPlug.Driver
import SparkPlug.DriverSession
import SparkPlug.SessionAgreement
import SparkPlug.Overrides
import SparkPlug.CreationTimes
import SparkPlug.Isolation
import SparkPlug.UpstreamCache
import SparkPlug.CacheContents
import SparkPlug.ErrorResponse
import SparkPlug.SessionMessages
import SparkPlug.FileConfigs
import SparkPlug.Prune
import SparkPlug.Answers
import SparkPlug.UpstreamLoop
import SparkPlug.LateRequests
import SparkPlug.ServerRun
import SparkPlug.CommaLists
import SparkPlug.ErrorMessages
import SparkPlug.Auth
import SparkPlug.AuthChain
import SparkPlug.CheckAudit
import SparkPlug.DeleteRetry
import SparkPlug.Listing
import SparkPlug.Shutdown
import SparkPlug.ConnectionString
import SparkPlug.Clients
import SparkPlug.IdleShutdown
import SparkPlug.Launch
import SparkPlug.Cluster
import SparkPlug.ClusterRouting
import SparkPlug.Availability
import SparkPlug.LaunchHistory
import SparkPlug.LaunchDeadline
import SparkPlug.Provenance
import SparkPlug.HttpApi
import SparkPlug.ClientCalls
import SparkPlug.AuthConfig
import SparkPlug.HttpRuns
import SparkPlug.Handshake
