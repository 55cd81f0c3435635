import Nadi.Effect.Role
import Nadi.Effect.SideBySide
import Nadi.Data.Base64Url
import Nadi.Data.CachedLog
import Nadi.Data.Slots
import Nadi.Model.Security
import Nadi.Model.Frame
import Nadi.Model.Core
import Nadi.Model.Operations
import Nadi.Model.Http
import Nadi.Model.Apart
import Nadi.Model.Surroundings
import Nadi.EventLog
import Nadi.Capacity
import Nadi.ChannelRoutes
import Nadi.Inbox
import Nadi.Revocation
import Nadi.Stranded
import Nadi.Cells
import Nadi.CellPairs
import Nadi.CellOperations
import Nadi.Crash
import Nadi.CellThreads
import Nadi.Overtaking
import Nadi.Tokens
import Nadi.Overcommit
import Nadi.FailedPlacement
import Nadi.Answers
import Nadi.GatewayRuns
import Nadi.Tenants
import Nadi.Destroyed
import Nadi.Stopped
import Nadi.Owners
import Nadi.CellLife
import Nadi.ToolCalls
import Nadi.Undelivered
import Nadi.Replies
import Nadi.Verification
import Nadi.Jobs
import Nadi.Telling
import Nadi.Story
import Nadi.Attribution
import Nadi.Receipts
import Nadi.Balance
import Nadi.Effect.Ledger
import Nadi.EventCap
import Nadi.CommandOrder
import Nadi.Responses
import Nadi.Alike
import Nadi.Bystanders
import Nadi.Data.FileTree
import Nadi.Data.PathLimits
import Nadi.InputLimits
import Nadi.ListFiles
import Nadi.Replacement
import Nadi.Data.Sql
import Nadi.Effect.Transaction
import Nadi.Model.Database
import Nadi.Transactions
import Nadi.Handling
import Nadi.Likewise
import Nadi.OtherTenants
import Nadi.Interference
import Nadi.Data.Sorting
import Nadi.Data.Columns
import Nadi.Effect.Outcomes
import Nadi.Model.Encoding
import Nadi.Tables.Records
import Nadi.Tables.Sessions
import Nadi.Tables.Channels
import Nadi.Tables.Hosts
import Nadi.Refinement
import Nadi.Model.Timeless
import Nadi.Restarts
import Nadi.Data.Integrity
import Nadi.Effect.Interrupt
import Nadi.Model.Statements
import Nadi.Recovery
import Nadi.Memory
import Nadi.Model.Chat
import Nadi.Chat.Bot
import Nadi.Chat.Sending
import Nadi.Chat.Finding
import Nadi.Chats
import Nadi.Chat.Users
