import ShinQlx.ArrayVec
import ShinQlx.Assoc
import ShinQlx.Authorisation
import ShinQlx.ByteText
import ShinQlx.CBuffer
import ShinQlx.CallvoteLines
import ShinQlx.ChannelDelivery
import ShinQlx.ChannelEquality
import ShinQlx.ChatMessage
import ShinQlx.ChatReply
import ShinQlx.ClientCommand
import ShinQlx.ClientConnect
import ShinQlx.ClientId
import ShinQlx.ColorTag
import ShinQlx.Command
import ShinQlx.CommandAccess
import ShinQlx.CommandInvoker
import ShinQlx.CommandLines
import ShinQlx.CommandRegistry
import ShinQlx.ConsoleDamage
import ShinQlx.ConsolePrint
import ShinQlx.CurrentLevel
import ShinQlx.Cvars
import ShinQlx.Deferral
import ShinQlx.Deferred
import ShinQlx.Dispatch
import ShinQlx.Entries
import ShinQlx.EventDispatcher
import ShinQlx.EventDispatcherManager
import ShinQlx.Filtering
import ShinQlx.FindPlayer
import ShinQlx.FirstLine
import ShinQlx.ForwardedText
import ShinQlx.FrameLog
import ShinQlx.FrameTasks
import ShinQlx.FreeClients
import ShinQlx.GameClient
import ShinQlx.GameObject
import ShinQlx.GameStart
import ShinQlx.HandleInput
import ShinQlx.HookLedger
import ShinQlx.HookRegistry
import ShinQlx.InfoString
import ShinQlx.ItemGame
import ShinQlx.ItemTable
import ShinQlx.KeyedRun
import ShinQlx.LetterCase
import ShinQlx.Levels
import ShinQlx.Loop
import ShinQlx.MirrorInvariant
import ShinQlx.NumberList
import ShinQlx.Ownership
import ShinQlx.Packing
import ShinQlx.Parallel
import ShinQlx.ParsedVariables
import ShinQlx.PatternSearch
import ShinQlx.PlayerConnect
import ShinQlx.PlayerControls
import ShinQlx.PlayerFlight
import ShinQlx.PlayerNumbers
import ShinQlx.PlayerObject
import ShinQlx.PlayerPowerups
import ShinQlx.PlayerSetters
import ShinQlx.PlayerStore
import ShinQlx.PlayerUpdate
import ShinQlx.PlayerView
import ShinQlx.PlayerWeapons
import ShinQlx.Plugin
import ShinQlx.PluginLoading
import ShinQlx.PluginManager
import ShinQlx.PluginReload
import ShinQlx.PluginUnloading
import ShinQlx.PrintItems
import ShinQlx.PrintRedirection
import ShinQlx.Python
import ShinQlx.RconAccess
import ShinQlx.RedisConnections
import ShinQlx.Regex
import ShinQlx.RegexIter
import ShinQlx.Registries
import ShinQlx.RegistryCalls
import ShinQlx.ReplaceItems
import ShinQlx.ReplyLength
import ShinQlx.Restart
import ShinQlx.RewritingDispatch
import ShinQlx.RoundEvents
import ShinQlx.Run
import ShinQlx.Scheduler
import ShinQlx.SetConfigstring
import ShinQlx.SplitLines
import ShinQlx.StartUp
import ShinQlx.StatsListener
import ShinQlx.StatsPolling
import ShinQlx.Suppression
import ShinQlx.TagRegex
import ShinQlx.TargetedMessages
import ShinQlx.TerminalColors
import ShinQlx.Text
import ShinQlx.UserinfoChange
import ShinQlx.VariableLookup
import ShinQlx.VmFunctions
import ShinQlx.VoteCaller
import ShinQlx.VoteString
import ShinQlx.WorkshopItems
