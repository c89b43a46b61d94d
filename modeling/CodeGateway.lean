import CodeGateway.Agent.Server
import CodeGateway.CommandLine.Usage
import CodeGateway.Gateway.Basic
import CodeGateway.Launch.Basic
import CodeGateway.Main
import CodeGateway.Settings.Basic
import CodeGateway.Proofs.Trimming
import CodeGateway.Proofs.Utf8
import CodeGateway.Proofs.HeaderLine
import CodeGateway.Proofs.FrameGrammar
import CodeGateway.Link.Shared
import CodeGateway.Proofs.SharedLink
import CodeGateway.Proofs.ReplyCorrelation
import CodeGateway.Link.Connection
import CodeGateway.Proofs.ConnectionClose
import CodeGateway.Proofs.LinkOperations
import CodeGateway.Agent.Serving
import CodeGateway.Session.Shared
import CodeGateway.Proofs.ExactlyOnce
import CodeGateway.Proofs.ServerOperations
import CodeGateway.Proofs.PrintedScalar
import CodeGateway.Proofs.PrintedJson
import CodeGateway.Proofs.FrameRoundTrip
import CodeGateway.Proofs.FileUrl
import CodeGateway.Proofs.DocumentName
import CodeGateway.Proofs.DocumentSync
import CodeGateway.Proofs.DocumentRenewal
import CodeGateway.Proofs.DocumentFirst
import CodeGateway.Proofs.SessionOperations
import CodeGateway.Proofs.SessionProgress
import CodeGateway.Proofs.Notification
import CodeGateway.Proofs.CallIndependence
import CodeGateway.Proofs.ServiceEnd
import CodeGateway.Proofs.GatewayOperations
import CodeGateway.Session.History
import CodeGateway.Proofs.Cancellation
import CodeGateway.Proofs.EngineContact
import CodeGateway.Proofs.AdvertisedSchema
import CodeGateway.Proofs.CommandQuery
import CodeGateway.Proofs.Reencoding
import CodeGateway.Proofs.OutputFraming
import CodeGateway.Proofs.ImmediateAnswers
import CodeGateway.Proofs.ServerRequests
import CodeGateway.Proofs.SymbolReplies
import CodeGateway.Proofs.StoppedWriter
import CodeGateway.Proofs.SessionRun
import CodeGateway.Proofs.KeptUri
import CodeGateway.Proofs.FailureReports
import CodeGateway.Proofs.HoverText
import CodeGateway.Proofs.DefinitionReply
import CodeGateway.Proofs.UnknownMembers
import CodeGateway.Proofs.CodeBlocks
import CodeGateway.Proofs.ImpactOrder
import CodeGateway.Proofs.ImpactSummary
import CodeGateway.Proofs.CallSections
import CodeGateway.Proofs.DependencySections
import CodeGateway.Proofs.ReferenceGroups
import CodeGateway.Proofs.IdentifierText
import CodeGateway.Proofs.LoadedSettings
import CodeGateway.Proofs.RelatedSymbols
