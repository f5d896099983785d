import Pootown.Api.AppendOnly
import Pootown.Api.Bookkeeping
import Pootown.Api.Books
import Pootown.Api.Calls
import Pootown.Api.Conservation
import Pootown.Api.Economy
import Pootown.Api.EmailAuth
import Pootown.Api.GameSessions
import Pootown.Api.InternalSessions
import Pootown.Api.Leaderboard
import Pootown.Api.Listings
import Pootown.Api.Outcomes
import Pootown.Api.RefreshTokens
import Pootown.Api.Replays
import Pootown.Api.RescueFrame
import Pootown.Api.Rescues
import Pootown.Api.Schema
import Pootown.Api.SeatCalls
import Pootown.Api.SeatEffects
import Pootown.Api.SeatSteps
import Pootown.Api.SeatedReservations
import Pootown.Api.Seating
import Pootown.Api.Settlement
import Pootown.Api.StatementFrames
import Pootown.Api.StatementRules
import Pootown.Api.Statements
import Pootown.Api.TicketUse
import Pootown.Contracts.GameState
import Pootown.Contracts.GameplayEvents
import Pootown.Contracts.GameplayState
import Pootown.Invariants.Authority
import Pootown.Invariants.BuildingWorth
import Pootown.Invariants.CashLedger
import Pootown.Invariants.CashLimits
import Pootown.Invariants.Ending
import Pootown.Invariants.Groups
import Pootown.Invariants.Handover
import Pootown.Invariants.JailRelease
import Pootown.Invariants.LastRoll
import Pootown.Invariants.Liquidations
import Pootown.Invariants.Moves
import Pootown.Invariants.Opening
import Pootown.Invariants.Progress
import Pootown.Invariants.Reachable
import Pootown.Invariants.Stamps
import Pootown.Invariants.Streaks
import Pootown.Invariants.Timers
import Pootown.Invariants.TradeBook
import Pootown.Invariants.TradeSwap
import Pootown.Invariants.Trades
import Pootown.Invariants.TurnBudget
import Pootown.Invariants.TurnOrder
import Pootown.Invariants.Turns
import Pootown.Invariants.Unpublished
import Pootown.Invariants.Validity
import Pootown.Invariants.Versions
import Pootown.Library.Base64
import Pootown.Library.CanonicalJson
import Pootown.Library.Checksums
import Pootown.Library.Fallible
import Pootown.Library.IsoTime
import Pootown.Library.JsonText
import Pootown.Library.Optimistic
import Pootown.Library.Pagination
import Pootown.Library.Rotation
import Pootown.Library.Runs
import Pootown.Library.Slots
import Pootown.Library.Tables
import Pootown.Library.Transactions
import Pootown.Model.Aggregate
import Pootown.Model.Commands
import Pootown.Model.Primitives
import Pootown.Model.Validity
import Pootown.Rules.Bankruptcy
import Pootown.Rules.Board
import Pootown.Rules.Building
import Pootown.Rules.Card
import Pootown.Rules.Jail
import Pootown.Rules.Movement
import Pootown.Rules.Property
import Pootown.Rules.Terminal
import Pootown.Rules.Timeout
import Pootown.Rules.Trade
import Pootown.Serialization.Corruption
import Pootown.Serialization.Envelope
import Pootown.Serialization.Fields
import Pootown.Serialization.GameplayFields
import Pootown.Serialization.GameplaySnapshot
import Pootown.Serialization.Snapshot
import Pootown.Server.Admission
import Pootown.Server.BootstrapState
import Pootown.Server.CommandHandler
import Pootown.Server.CommitChain
import Pootown.Server.Fencing
import Pootown.Server.GameRoom
import Pootown.Server.Presence
import Pootown.Server.PublicEvents
import Pootown.Server.PublicLobby
import Pootown.Server.PublicState
import Pootown.Server.Redaction
import Pootown.Server.RequestIds
import Pootown.Server.Restarts
import Pootown.Server.RoomClock
import Pootown.Server.RoomCommands
import Pootown.Server.RoomGates
import Pootown.Server.RoomSnapshots
import Pootown.Server.RoomTime
import Pootown.Server.SecureRandom
import Pootown.Server.ServedState
import Pootown.Server.Store
import Pootown.Server.StoreCalls
import Pootown.Transition.Bankruptcy
import Pootown.Transition.Card
import Pootown.Transition.Gameplay
import Pootown.Transition.Jail
import Pootown.Transition.Lifecycle
import Pootown.Transition.Play
import Pootown.Transition.Property
import Pootown.Transition.Timeout
import Pootown.Transition.Trade
import Pootown.Transition.Turn
import Pootown.Web.GameRoomClient
import Pootown.Web.RoomOwnership
