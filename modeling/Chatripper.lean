import Chatripper.Lib.Bytes
import Chatripper.Lib.Utf8
import Chatripper.Lib.Flags
import Chatripper.Lib.Outcome
import Chatripper.Core.Types
import Chatripper.Python.SnakePit
import Chatripper.Core.World
import Chatripper.Irc.Utils
import Chatripper.Irc.Replies
import Chatripper.Core.Metadata
import Chatripper.Core.Account
import Chatripper.Core.Channel
import Chatripper.Irc.Modes
import Chatripper.Irc.Commands
import Chatripper.Irc.Setup
import Chatripper.Core.Registration
import Chatripper.Irc.SetupSteps
import Chatripper.Irc.Dispatch
import Chatripper.Irc.LineSteps
import Chatripper.Irc.Worker
import Chatripper.Irc.Delivery
import Chatripper.Safety
import Chatripper.Auth
import Chatripper.Nicks
import Chatripper.Links
import Chatripper.Injection
import Chatripper.TagRoundTrip
import Chatripper.Registry
import Chatripper.Directory
import Chatripper.Core.Rooms
import Chatripper.Irc.RoomSteps
import Chatripper.Irc.Site
import Chatripper.Fanout
import Chatripper.ChannelNames
import Chatripper.Membership
import Chatripper.Ghosts
import Chatripper.Presence
import Chatripper.Roster
import Chatripper.Irc.Registering
import Chatripper.Password
import Chatripper.TagRelay
import Chatripper.AccountTag
import Chatripper.Veto
import Chatripper.Irc.Settings
import Chatripper.Privileges
import Chatripper.Lib.Lines
import Chatripper.Irc.Transport
import Chatripper.Framing
import Chatripper.AfterClose
import Chatripper.Fidelity
import Chatripper.NickRace
import Chatripper.Lib.Changes
import Chatripper.Irc.Stores
import Chatripper.ChannelStores
import Chatripper.NickTracking
import Chatripper.Lib.RoundRobin
import Chatripper.Python.Modules
import Chatripper.Dispatching
import Chatripper.Python.Describe
import Chatripper.ModuleTable
import Chatripper.Slots
import Chatripper.Capabilities
import Chatripper.CapSessions
import Chatripper.Irc.Heard
import Chatripper.Confinement
import Chatripper.Python.Bridge
import Chatripper.Unmodified
import Chatripper.Irc.KeyReplies
import Chatripper.MetadataReplies
import Chatripper.Lib.TwoRuns
import Chatripper.Lib.Turned
import Chatripper.Irc.ModeWalk
import Chatripper.Confidential
import Chatripper.Core.Maps
import Chatripper.Core.Database
import Chatripper.Reload
import Chatripper.Bootstrap
import Chatripper.ModeChange
import Chatripper.ModeQuery
import Chatripper.Lib.FixedWindow
import Chatripper.Web.RateLimiter
import Chatripper.Web.SessionStore
import Chatripper.Web.Login
import Chatripper.Web.Uploads
import Chatripper.Joins
import Chatripper.History
import Chatripper.Lib.Pages
import Chatripper.Core.Tables
import Chatripper.Core.Startup
import Chatripper.Core.Loaders
import Chatripper.Restore
import Chatripper.Irc.Shelves
import Chatripper.Isolation
import Chatripper.Lib.Locks
import Chatripper.Splitting
import Chatripper.Overflow
import Chatripper.TagPrefix
import Chatripper.PartList
import Chatripper.LoginReplies
import Chatripper.Isupport
import Chatripper.Motd
import Chatripper.BulkSubscribe
import Chatripper.Locking
import Chatripper.Irc.Sent
import Chatripper.NickInUse
import Chatripper.Lib.Paths
import Chatripper.FlagSets
import Chatripper.Web.Files
import Chatripper.Paging
import Chatripper.Web.Routes
import Chatripper.Lib.Feistel
import Chatripper.Lib.Cyclic
import Chatripper.Lib.Replay
import Chatripper.Bcrypt.InitState
import Chatripper.Bcrypt.Blowfish
import Chatripper.Bcrypt.Base64
import Chatripper.Bcrypt.Hash
import Chatripper.Bcrypt.Verdicts
import Chatripper.Core.Roles
import Chatripper.Servers
import Chatripper.RoleCaches
import Chatripper.Everyone
import Chatripper.Seeding
import Chatripper.Asked
import Chatripper.Restarts
import Chatripper.Credentials
import Chatripper.Launch
import Chatripper.FirstLogin
import Chatripper.Impersonation
import Chatripper.Web.Visitors
