import TunnelHost.Address.AllowedList
import TunnelHost.Address.Endpoint
import TunnelHost.Address.Ip
import TunnelHost.Address.Network
import TunnelHost.Address.Reader
import TunnelHost.Base64
import TunnelHost.Buffer
import TunnelHost.CommandLine.Arguments
import TunnelHost.CommandLine.Manual
import TunnelHost.CommandLine.Outcome
import TunnelHost.CommandLine.Run
import TunnelHost.CommandLine.SelfTest
import TunnelHost.Config.Basic
import TunnelHost.Config.File
import TunnelHost.Config.Override
import TunnelHost.Config.Policy
import TunnelHost.Config.Reader
import TunnelHost.Config.Writer
import TunnelHost.Curve25519
import TunnelHost.Decimal.Shortest
import TunnelHost.Engine
import TunnelHost.Error
import TunnelHost.Host.Basic
import TunnelHost.Host.Report
import TunnelHost.Host.Step
import TunnelHost.Json.Fault
import TunnelHost.Json.Record
import TunnelHost.Json.Scalar
import TunnelHost.Json.Skip
import TunnelHost.Json.Value
import TunnelHost.Key
import TunnelHost.Log.Directive
import TunnelHost.Log.Event
import TunnelHost.Log.Filter
import TunnelHost.Log.Handler
import TunnelHost.Log.Pattern
import TunnelHost.Log.Switchboard
import TunnelHost.Main
import TunnelHost.Noise.Device
import TunnelHost.Noise.Engine
import TunnelHost.Noise.Handshake
import TunnelHost.Noise.Message
import TunnelHost.Noise.Octet
import TunnelHost.Noise.Tunnel
import TunnelHost.Noise.Window
import TunnelHost.Outcome
import TunnelHost.Peer
import TunnelHost.PeerDefinition
import TunnelHost.Proofs.AddressGrammar
import TunnelHost.Proofs.AddressRanges
import TunnelHost.Proofs.AddressReading
import TunnelHost.Proofs.AddressWriting
import TunnelHost.Proofs.Admission
import TunnelHost.Proofs.AllowedEntries
import TunnelHost.Proofs.AllowedRoundTrip
import TunnelHost.Proofs.ArgumentWords
import TunnelHost.Proofs.Base64
import TunnelHost.Proofs.Blanks
import TunnelHost.Proofs.BoardRegistries
import TunnelHost.Proofs.Classification
import TunnelHost.Proofs.ConfigLimits
import TunnelHost.Proofs.ConfigLoading
import TunnelHost.Proofs.ConfigRoundTrip
import TunnelHost.Proofs.ConfigRules
import TunnelHost.Proofs.ConfigTexts
import TunnelHost.Proofs.CrashSafety
import TunnelHost.Proofs.DeviceAnswers
import TunnelHost.Proofs.DeviceContract
import TunnelHost.Proofs.EndToEnd
import TunnelHost.Proofs.EndpointMoves
import TunnelHost.Proofs.EndpointTexts
import TunnelHost.Proofs.EngineContract
import TunnelHost.Proofs.EnvelopeTexts
import TunnelHost.Proofs.EstateLookup
import TunnelHost.Proofs.FamilyAnnals
import TunnelHost.Proofs.FamilyOwnership
import TunnelHost.Proofs.FamilySlots
import TunnelHost.Proofs.FreshOutput
import TunnelHost.Proofs.HandleConservation
import TunnelHost.Proofs.HostCalls
import TunnelHost.Proofs.HostInvariant
import TunnelHost.Proofs.HostMotions
import TunnelHost.Proofs.HostOwners
import TunnelHost.Proofs.HostRoutes
import TunnelHost.Proofs.Invocations
import TunnelHost.Proofs.JsonGrammar
import TunnelHost.Proofs.JsonMeaning
import TunnelHost.Proofs.JsonNumbers
import TunnelHost.Proofs.JsonReading
import TunnelHost.Proofs.JsonRecords
import TunnelHost.Proofs.JsonSkipping
import TunnelHost.Proofs.JsonVerdicts
import TunnelHost.Proofs.JsonWriting
import TunnelHost.Proofs.KeyTexts
import TunnelHost.Proofs.KeyValidation
import TunnelHost.Proofs.LetterCase
import TunnelHost.Proofs.LogHistory
import TunnelHost.Proofs.LogTarget
import TunnelHost.Proofs.LogUnfolding
import TunnelHost.Proofs.Newcomers
import TunnelHost.Proofs.Numerals
import TunnelHost.Proofs.Overrides
import TunnelHost.Proofs.OversizedWrite
import TunnelHost.Proofs.PacketStream
import TunnelHost.Proofs.PeerDefinitions
import TunnelHost.Proofs.RecordMembers
import TunnelHost.Proofs.RecordOmissions
import TunnelHost.Proofs.RecordRuns
import TunnelHost.Proofs.RegistryContents
import TunnelHost.Proofs.RegistryLookup
import TunnelHost.Proofs.ReleaseAccounts
import TunnelHost.Proofs.ReleaseCascade
import TunnelHost.Proofs.ReleaseDiscipline
import TunnelHost.Proofs.Results
import TunnelHost.Proofs.Routing
import TunnelHost.Proofs.ScriptReplay
import TunnelHost.Proofs.Secrecy
import TunnelHost.Proofs.SessionAffairs
import TunnelHost.Proofs.SessionCreation
import TunnelHost.Proofs.SessionSteps
import TunnelHost.Proofs.SettingNames
import TunnelHost.Proofs.Settling
import TunnelHost.Proofs.TunnelSafety
import TunnelHost.Proofs.UsableConfig
import TunnelHost.Proofs.Veil
import TunnelHost.Proofs.VeiledHost
import TunnelHost.Proofs.WireForm
import TunnelHost.Registry.Basic
import TunnelHost.Registry.Release
import TunnelHost.Scripted
import TunnelHost.Session
import TunnelHost.Text.Alphanumeric
import TunnelHost.Text.Blank
import TunnelHost.Text.ByteOffset
import TunnelHost.Text.CaseTable
import TunnelHost.Text.CodeRange
import TunnelHost.Text.HiddenTable
import TunnelHost.Text.LetterTable
import TunnelHost.Text.LowerCase
import TunnelHost.Text.Numeral
import TunnelHost.Text.Pieces
import TunnelHost.Text.Quoted
import TunnelHost.Text.Time
