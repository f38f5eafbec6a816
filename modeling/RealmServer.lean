import RealmServer.Lib.Transition
import RealmServer.Auth.Handlers
import RealmServer.Auth.Authentication
import RealmServer.Guilds.Roster
import RealmServer.Guilds.RosterBounds
import RealmServer.Guilds.Leader
import RealmServer.Guilds.Ranks
import RealmServer.Auctions.House
import RealmServer.Auctions.Settlement
import RealmServer.Auctions.Gold
import RealmServer.Auctions.Conservation
import RealmServer.Auctions.Restart
import RealmServer.Players.Inventory
import RealmServer.Mails.Post
import RealmServer.Mails.Storage
import RealmServer.Globals.ItemIdGenerator
import RealmServer.Guilds.Withdrawals
import RealmServer.Mails.Receiver
import RealmServer.DungeonFinding.Queue
import RealmServer.DungeonFinding.Delayed
import RealmServer.DungeonFinding.Manager
import RealmServer.DungeonFinding.Proposals
import RealmServer.DungeonFinding.Updating
import RealmServer.Network.MessageBuffer
import RealmServer.Auth.Reading
import RealmServer.Lib.Framing
import RealmServer.Network.ServerPackets
import RealmServer.Network.Sending
import RealmServer.Network.ClientPackets
import RealmServer.Network.Receiving
import RealmServer.Network.Fragmentation
import RealmServer.Network.Reassembly
import RealmServer.DungeonFinding.QueueIndex
import RealmServer.Lib.LittleEndian
import RealmServer.Packets.BaseByteBuffer
import RealmServer.Packets.ByteBuffer
import RealmServer.Packets.RoundTrip
import RealmServer.Packets.Positions
import RealmServer.Groups.Group
import RealmServer.Groups.Membership
import RealmServer.Groups.Removal
import RealmServer.Groups.SubGroups
import RealmServer.Groups.RollCounting
import RealmServer.Groups.Closings
import RealmServer.Groups.FairRolls
import RealmServer.Groups.RollRuns
import RealmServer.Sessions.PacketOrder
import RealmServer.Battlegrounds.Queue
import RealmServer.Battlegrounds.Membership
import RealmServer.Battlegrounds.Leaving
import RealmServer.Battlegrounds.Pairing
import RealmServer.Chat.Channel
import RealmServer.Chat.Ownership
import RealmServer.Reputation.Manager
import RealmServer.Reputation.Tracking
import RealmServer.Reputation.Saving
import RealmServer.Reputation.Exactness
import RealmServer.Utilities.TaskQueue
import RealmServer.Utilities.Dispatching
import RealmServer.ArenaReplays.ReplayData
import RealmServer.ArenaReplays.ReplayFile
import RealmServer.Lib.PrefixCode
import RealmServer.ArenaReplays.ReplayFormat
import RealmServer.ArenaReplays.Survival
import RealmServer.DungeonFinding.Arrangements
import RealmServer.DungeonFinding.GroupRoles
import RealmServer.Auctions.Listing
import RealmServer.Globals.IdScan
import RealmServer.Rebase.ItemRebase
import RealmServer.Lib.Ascent
import RealmServer.Pools.PoolGroup
import RealmServer.Pools.MotherPools
import RealmServer.Pools.CircularReferences
import RealmServer.Pools.ActivePoolData
import RealmServer.Pools.QuestPools
import RealmServer.Utilities.EventProcessor
import RealmServer.Utilities.EventLifetimes
import RealmServer.Battlegrounds.Matchmaking
import RealmServer.Battlegrounds.ProposalSearch
import RealmServer.Battlegrounds.BestProposal
import RealmServer.Battlegrounds.ClientIds
import RealmServer.Packets.PackedGuids
import RealmServer.Auctions.Selling
import RealmServer.Battlegrounds.ArenaTeam
import RealmServer.Battlegrounds.Filling
import RealmServer.Battlegrounds.ScheduledQueues
import RealmServer.Combat.AttackTable
import RealmServer.DungeonFinding.VoteKicks
import RealmServer.Guilds.BankMoves
import RealmServer.Guilds.BankRequests
import RealmServer.Mails.Expiry
import RealmServer.Chat.Arguments
import RealmServer.Combat.HostileReferences
import RealmServer.Combat.VictimSelection
import RealmServer.Lib.Recursion
import RealmServer.Looting.Generation
import RealmServer.Looting.Slots
import RealmServer.Looting.Termination
import RealmServer.Looting.ItemStorage
import RealmServer.Players.BuyBack
import RealmServer.Utilities.EventMap
import RealmServer.Utilities.EventOrder
import RealmServer.Chat.CommandExactness
import RealmServer.Players.AutoStore
import RealmServer.Utilities.RandomResize
import RealmServer.Packets.PackedTime
import RealmServer.Utilities.Money
import RealmServer.Globals.IdCache
import RealmServer.Database.AllOrNothing
import RealmServer.Premium.Redemptions
