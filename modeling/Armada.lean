import Armada.Concurrency.Process
import Armada.Concurrency.Pool
import Armada.Concurrency.RelyGuarantee
import Armada.Concurrency.Windows
import Armada.Relational.Table
import Armada.Schema
import Armada.Prisma
import Armada.Deliveries.DeliveriesService
import Armada.Deliveries.DeliveryStopsService
import Armada.Deliveries.DeliveryConflictsService
import Armada.Conversations.MessagesService
import Armada.Requests
import Armada.Calls
import Armada.Effects
import Armada.Effects.Services
import Armada.Effects.Rows
import Armada.Properties.DeliveryLifecycle
import Armada.Properties.AcceptedDriver
import Armada.Properties.StopLifecycle
import Armada.Properties.CompletionSoundness
import Armada.Properties.DeliveredEvidence
import Armada.Properties.TerminalRoutes
import Armada.Concurrency.Sequential
import Armada.Claims
import Armada.Alone
import Armada.Outbox.Batch
import Armada.Properties.OutboxAcknowledgement
import Armada.Properties.OutboxReplay
import Armada.Properties.OutboxCoverage
import Armada.Ownership
import Armada.Properties.OutboxOwnership
import Armada.Properties.TicketResolution
import Armada.Properties.EvidenceImmutability
import Armada.Controllers
import Armada.Properties.DriverAuthority
import Armada.Chronicle
import Armada.Chronicle.Services
import Armada.Properties.AuditTrail
import Armada.Properties.RealtimeFeed
import Armada.Properties.OverrideAcceptance
import Armada.Concurrency.Charge
import Armada.Properties.RunningDeliveries
import Armada.Concurrency.Past
import Armada.Concurrency.Footprint
import Armada.Auth.Schema
import Armada.Auth.Prisma
import Armada.Sessions.SessionService
import Armada.Auth.AuthService
import Armada.Users.UsersService
import Armada.Devices.DeviceService
import Armada.Notifications.NotificationService
import Armada.Auth.JwtStrategy
import Armada.Realtime.WsJwtAuthGuard
import Armada.Realtime.RealtimeGateway
import Armada.Auth.AuthController
import Armada.Auth.Requests
import Armada.Auth.Projections
import Armada.Auth.Calls
import Armada.Sessions.Transactions
import Armada.Auth.Entitlement
import Armada.Auth.Revocations
import Armada.Auth.Footprint
import Armada.Sessions.Effects
import Armada.Properties.LogoutRoutes
import Armada.Properties.RevocationSecurity
import Armada.Properties.ValidatorAgreement
import Armada.Properties.DeviceRevocation
import Armada.Properties.SessionCap
import Armada.Sessions.Locking
import Armada.Properties.ActiveDriverSession
import Armada.Properties.TokenFamily
import Armada.Collections.KeyIndex
import Armada.Realtime.WsConnectionManagerService
import Armada.Properties.SocketIndex
import Armada.Concurrency.Turns
import Armada.Concurrency.LateRecord
import Armada.Properties.MessageOnce
import Armada.Tracking.Prisma
import Armada.Tracking.FleetService
import Armada.Properties.TelemetryOnce
import Armada.Concurrency.CheckedWrite
import Armada.Properties.LatestLocation
import Armada.Tracking.Alone
import Armada.Properties.PlausibleTrack
import Armada.Properties.FleetView
import Armada.Collections.ExpiringKeys
import Armada.Concurrency.ReplayWindow
import Armada.Communication.Prisma
import Armada.Communication.CallSessionService
import Armada.Communication.RealtimeGateway
import Armada.Communication.Requests
import Armada.Communication.Effects
import Armada.Communication.Handlers
import Armada.Communication.Calls
import Armada.Properties.CallOutcome
import Armada.Properties.CallInvite
import Armada.Properties.DriverConsent
import Armada.Communication.Signals
import Armada.Properties.SignalReplay
import Armada.E2eeKeys.Prisma
import Armada.E2eeKeys.E2eeKeysService
import Armada.Properties.PrekeySingleUse
import Armada.Properties.PrekeyCurrency
import Armada.Emergencies.EmergenciesService
import Armada.Properties.EmergencyState
import Armada.Deliveries.DeliveriesController
import Armada.Properties.DeliveryAccess
import Armada.Concurrency.Service
import Armada.Elsewhere
import Armada.Footprint
import Armada.Relational.Preserved
import Armada.Conversations.ConversationsController
import Armada.Properties.MessageParticipants
import Armada.Pod.FileStorageService
import Armada.Properties.FileReadAccess
import Armada.Conversations.ChatGateway
import Armada.Properties.ChatRelay
import Armada.Properties.DeliveryRooms
import Armada.Concurrency.Twin
import Armada.Properties.FleetIsolation
import Armada.Routes.ExhaustivePermutation
import Armada.Collections.Search
import Armada.Properties.OptimalRoute
import Armada.Routes.NearestNeighbor2Opt
import Armada.Properties.TwoOptDescent
import Armada.Properties.UnroutableLegs
import Armada.Properties.ReorderPhases
import Armada.Routes.Alone
import Armada.Routes.Recommendation
import Armada.Properties.RecommendedRoute
import Armada.Concurrency.Semaphore
import Armada.Pod.ImageNormalizerService
import Armada.Properties.ImageSlots
import Armada.Collections.InsertionMap
import Armada.Redis.RedisService
import Armada.Properties.UncertainRevocations
import Armada.Sessions.FailedTakeOver
import Armada.Properties.FailedLogin
import Armada.Collections.ExpiringCounters
import Armada.Redis.RateLimit
import Armada.Properties.CounterExpiry
import Armada.Auth.LimitedLogin
import Armada.Collections.FixedWindow
import Armada.Redis.Counting
import Armada.Properties.PasswordGuesses
import Armada.Concurrency.Outcomes
import Armada.Properties.BatchHint
import Armada.Collections.DataTree
import Armada.Common.LogSanitizer
import Armada.Properties.LogRedaction
import Armada.Node.Path
import Armada.Pod.LocalPrivateStorageAdapter
import Armada.Pod.FileRecords
import Armada.Properties.StoredFiles
import Armada.Notifications.FcmNotificationProvider
import Armada.Properties.PushReports
import Armada.Notifications.OperationalNotifications
import Armada.Properties.SentNotifications
import Armada.Auth.Registration
import Armada.Properties.LoginIdentifiers
import Armada.Concurrency.Watchdog
import Armada.Node.Timers
import Armada.Realtime.Heartbeat
import Armada.Realtime.HeartbeatTimers
import Armada.Properties.Heartbeats
import Armada.Properties.HeartbeatRuns
import Armada.Properties.RevokedSockets
import Armada.Concurrency.Locking
import Armada.Statements
import Armada.Properties.RouteHistory
import Armada.Properties.CurrentRoute
import Armada.Answers
import Armada.Properties.ReplayedAnswers
import Armada.Concurrency.RowHistory
import Armada.Properties.StopTimes
