import Shardwire.Proofs.Backoff
import Shardwire.Proofs.BotClient
import Shardwire.Proofs.Buckets
import Shardwire.Proofs.Heartbeat.Schedule
import Shardwire.Proofs.Limiter.Timetable
import Shardwire.Proofs.Manager.Calls
import Shardwire.Proofs.Manager.Commands
import Shardwire.Proofs.Manager.IdentifySpacing
import Shardwire.Proofs.Manager.Isolation
import Shardwire.Proofs.Manager.Order
import Shardwire.Proofs.Manager.Overflow
import Shardwire.Proofs.Manager.Secrecy
import Shardwire.Proofs.Manager.SharedLimiter
import Shardwire.Proofs.Manager.Shutdown
import Shardwire.Proofs.Manager.Startup
import Shardwire.Proofs.Settings
import Shardwire.Proofs.Shard.Agreement
import Shardwire.Proofs.Shard.Coherence
import Shardwire.Proofs.Shard.Delivery
import Shardwire.Proofs.Shard.Greeting
import Shardwire.Proofs.Shard.Handshake
import Shardwire.Proofs.Shard.Ignorable
import Shardwire.Proofs.Shard.Latency
import Shardwire.Proofs.Shard.Lifetime
import Shardwire.Proofs.Shard.Outbound
import Shardwire.Proofs.Shard.Retry
import Shardwire.Proofs.Wire.Views
import Shardwire.Rehearsal.Bot
import Shardwire.Rehearsal.Connection
import Shardwire.Rehearsal.Counters
import Shardwire.Rehearsal.Heartbeat
import Shardwire.Rehearsal.Limiter
import Shardwire.Rehearsal.Link
import Shardwire.Rehearsal.Manager
import Shardwire.Rehearsal.Shard
import Shardwire.Report
