import SentinelOps.Auth.LockoutLaw
import SentinelOps.Auth.LoginRace
import SentinelOps.Auth.DelayedReading
import SentinelOps.Forwarding.TunnelLaw
import SentinelOps.Commands.OwnTunnels
import SentinelOps.Persistence.SnapshotOrder
import SentinelOps.Transport.Teardown
import SentinelOps.Transport.RemoteForwards
import SentinelOps.Server.LoginProtocol
import SentinelOps.Store.Paging
import SentinelOps.Store.RedisAttempts
import SentinelOps.Store.TouchRace
import SentinelOps.Store.Cascade
import SentinelOps.Store.Sentinels
import SentinelOps.Store.TunnelRace
import SentinelOps.Security.InputLanguage
import SentinelOps.Transport.DirectForward
import SentinelOps.Policy.CacheRuns
import SentinelOps.Store.RedisAudit
import SentinelOps.Store.RedisListing
import SentinelOps.Auth.AttemptKey
import SentinelOps.Policy.Findings
import SentinelOps.Transport.KeyLogin
import SentinelOps.Commands.Listing
import SentinelOps.Commands.Registry
import SentinelOps.Config.EnvFile
import SentinelOps.Store.PostgresDsn
import SentinelOps.Security.PathTwice
import SentinelOps.Store.Cleanup
import SentinelOps.Controlplane.Certificates
import SentinelOps.Store.PostgresScan
import SentinelOps.Client.SshClient
import SentinelOps.Controlplane.ApiTunnels
