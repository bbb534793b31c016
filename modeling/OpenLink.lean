import OpenLink.Runs
import OpenLink.Actions
import OpenLink.Slots
import OpenLink.Kv
import OpenLink.Envelope
import OpenLink.MessageRegistry
import OpenLink.Session
import OpenLink.SessionSteps
import OpenLink.SessionRuns
import OpenLink.SessionHistory
import OpenLink.CpdlcServer
import OpenLink.ApplicationMessages
import OpenLink.StoredSessions
import OpenLink.Registry
import OpenLink.MessageBuilder
import OpenLink.Server
import OpenLink.Templates
import OpenLink.Rendering
import OpenLink.HoppieClient
import OpenLink.Selection
import OpenLink.Translator
import OpenLink.TemplateMatching
import OpenLink.PositionalRendering
import OpenLink.TextRoundTrip
import OpenLink.SdkClient
import OpenLink.Bridge
import OpenLink.BridgeReplies
import OpenLink.BridgeRouting
import OpenLink.SessionLaws
import OpenLink.Transactions
import OpenLink.SessionConcurrency
import OpenLink.FailedUpdates
import OpenLink.ServerFailures
import OpenLink.HandlerEffects
import OpenLink.RegistryRuns
import OpenLink.Publications
import OpenLink.MainLoop
import OpenLink.RefusedKeys
import OpenLink.Arrangements
import OpenLink.Broadcasts
import OpenLink.OfflineTransitions
import OpenLink.AircraftIdentity
import OpenLink.SessionMembers
import OpenLink.Mirroring
import OpenLink.GuiClient
import OpenLink.AtcProjection
import OpenLink.SubjectPatterns
import OpenLink.NatsSubjects
import OpenLink.AuthTokens
import OpenLink.UserPermissions
import OpenLink.Registrations
import OpenLink.BridgeEffects
import OpenLink.BridgeEcho
import OpenLink.UplinkMrns
import OpenLink.CyclicCounters
import OpenLink.TsTypes
import OpenLink.TsEnvelope
import OpenLink.TsRuntime
import OpenLink.MinSequencing
import OpenLink.ClientParity
import OpenLink.CliCommands
import OpenLink.ProducerMins
import OpenLink.SessionSetup
import OpenLink.Networks
import OpenLink.UseOpenLink
import OpenLink.Acknowledgements
import OpenLink.ResponseIntents
import OpenLink.TextParts
import OpenLink.Utf8Text
import OpenLink.Nesting
import OpenLink.HoppiePolls
import OpenLink.PollBlocks
import OpenLink.SeenMessages
import OpenLink.BridgeOutages
import OpenLink.Terminations
import OpenLink.DecodedElements
import OpenLink.Words
import OpenLink.LosslessDecoding
import OpenLink.Respelling
import OpenLink.CallsignCase
import OpenLink.GuiMessages
import OpenLink.DcduMessages
import OpenLink.AckJournal
import OpenLink.HookAcknowledgements
import OpenLink.AckAttribution
import OpenLink.PendingDialogues
import OpenLink.DialogueHistory
import OpenLink.RequestCards
import OpenLink.AtcConsole
import OpenLink.ReplyTargets
import OpenLink.Ranks
import OpenLink.FlightSelection
import OpenLink.DcduResponses
import OpenLink.DialogueLinks
import OpenLink.AppTabs
import OpenLink.OfferedIntents
import OpenLink.BestMatch
import OpenLink.SeparableTemplates
import OpenLink.DcduLayout
import OpenLink.McduElements
import OpenLink.DialogueClosure
import OpenLink.AircraftIsolation
import OpenLink.PresenceLeases
import OpenLink.RelayedTraffic
import OpenLink.SessionAuthority
import OpenLink.AircraftProjection
import OpenLink.CommandElements
import OpenLink.UplinkComposer
import OpenLink.SessionRecovery
import OpenLink.Tickets
import OpenLink.DcduScreen
import OpenLink.CockpitUnits
import OpenLink.CockpitAnswers
import OpenLink.Cascades
import OpenLink.ClientNetwork
import OpenLink.PilotDisplay
import OpenLink.DownlinkComposer
import OpenLink.ResponseMarks
import OpenLink.A320View
import OpenLink.A320Requests
import OpenLink.TabPresence
