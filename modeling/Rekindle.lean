import Rekindle.Signal.Interpretation
import Rekindle.Signal.Secrecy
import Rekindle.Client.Recipient
import Rekindle.Client.Presence
import Rekindle.Client.Splicing
import Rekindle.Client.Conversations
import Rekindle.Signal.Delivery
import Rekindle.Signal.Pinning
import Rekindle.Protocol.LogGrowth
import Rekindle.Protocol.ArrayFaults
import Rekindle.Protocol.AppendRuns
import Rekindle.Protocol.CapnpWire
import Rekindle.Protocol.RouteRuns
import Rekindle.Server.Hierarchy
import Rekindle.Server.RepresentationRuns
import Rekindle.Server.KeyHistory
import Rekindle.Server.Overlaps
import Rekindle.Server.Departures
import Rekindle.Server.Creators
import Rekindle.Server.Replays
import Rekindle.Server.RoleReferences
import Rekindle.Server.MessageHistory
import Rekindle.Community.KeyAgreement
import Rekindle.Community.RetryQueue
import Rekindle.Community.ChannelExchange
import Rekindle.Community.Readability
import Rekindle.Community.LocalHistory
import Rekindle.Server.PublishedFormats
import Rekindle.Server.HostOverlaps
import Rekindle.Server.PublicationRuns
import Rekindle.Signal.StoredStates
import Rekindle.Signal.Acceptance
import Rekindle.Signal.FailedHandshakes
import Rekindle.Client.PayloadForms
import Rekindle.Voice.SequenceBounds
import Rekindle.Voice.Stalls
import Rekindle.Voice.RestartRuns
import Rekindle.Client.WatchRuns
import Rekindle.Client.PrivateRoutes
import Rekindle.Client.PrivateRouteRuns
import Rekindle.Server.Calculation
import Rekindle.Server.StandingTimeouts
import Rekindle.Server.RestartedAnswers
import Rekindle.Server.RouteUpkeepRuns
import Rekindle.Protocol.FriendRecords
import Rekindle.Library.Loops
import Rekindle.Protocol.ChannelHistory
import Rekindle.Protocol.HistoryWalks
import Rekindle.Client.Invites
import Rekindle.Client.Demultiplexing
import Rekindle.Server.Pagination
import Rekindle.Protocol.ConversationRecords
import Rekindle.Client.RoleGating
import Rekindle.Client.Reconnections
import Rekindle.Client.ValueChanges
import Rekindle.Community.PublishedLists
import Rekindle.Client.ChatHistory
import Rekindle.Client.ProfileRotation
import Rekindle.Client.AutoAway
import Rekindle.Client.StaleHeartbeats
import Rekindle.Client.LoginAttempts
import Rekindle.Voice.CallLifecycle
import Rekindle.Server.Admission
import Rekindle.Community.Convergence
import Rekindle.Server.Announcements
