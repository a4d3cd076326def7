import Pairwise.Crypto.ConcatKdf
import Pairwise.Did.Record
import Pairwise.Message
import Pairwise.Connection.Record
import Pairwise.Connection.Routing
import Pairwise.Connection.Transition
import Pairwise.Settings
import Pairwise.Agent.Inbound
import Pairwise.Agent.InHand
import Pairwise.Proofs.Outcome
import Pairwise.Proofs.SignedDocument
import Pairwise.Proofs.Steps
import Pairwise.Proofs.Stores
import Pairwise.Proofs.ExchangeSteps
import Pairwise.Proofs.Attribution
import Pairwise.Proofs.Base58
import Pairwise.Proofs.Multiformats
import Pairwise.Proofs.Base64Url
import Pairwise.Proofs.JsonTokens
import Pairwise.Proofs.JsonText
import Pairwise.Proofs.JsonReaders
import Pairwise.Proofs.Documents
import Pairwise.Proofs.Keys
import Pairwise.Proofs.PeerDids
import Pairwise.Proofs.RoutingDocuments
import Pairwise.Proofs.Messages
import Pairwise.Proofs.Packing
import Pairwise.Proofs.DidRuns
import Pairwise.Proofs.ExchangeRuns
import Pairwise.Proofs.Conversations
import Pairwise.Proofs.Parties
import Pairwise.Proofs.Openings
import Pairwise.Proofs.Completion
import Pairwise.Proofs.Turns
import Pairwise.Proofs.Handling
import Pairwise.Proofs.Network
import Pairwise.Proofs.Endings
import Pairwise.Proofs.Redelivery
import Pairwise.Proofs.OpenInvitations
import Pairwise.Proofs.OptimisticUpdates
import Pairwise.Proofs.RotationReplay
import Pairwise.Proofs.OwnDids
import Pairwise.Proofs.RotationTurns
import Pairwise.Proofs.RotationPhases
import Pairwise.Proofs.Retention
import Pairwise.Proofs.RotationInvariant
import Pairwise.Proofs.RotationCompletion
import Pairwise.Proofs.ExchangeLinks
import Pairwise.Proofs.PeerDidCodec
import Pairwise.Proofs.ExchangeAgreement
import Pairwise.Proofs.Operations
import Pairwise.Proofs.Moves
import Pairwise.Proofs.Lifecycle
import Pairwise.Proofs.ReadDocuments
import Pairwise.Proofs.Commitments
import Pairwise.Proofs.DidStore
import Pairwise.Proofs.ForeignMessages
import Pairwise.Proofs.RotationRefusals
import Pairwise.Proofs.Onions
import Pairwise.Proofs.FailedSteps
import Pairwise.Proofs.Actions
import Pairwise.Proofs.RotationCommits
import Pairwise.Proofs.Hangups
import Pairwise.Proofs.Acceptance
import Pairwise.Proofs.AttachedDocuments
import Pairwise.Proofs.Unroutable
import Pairwise.Proofs.Answerability
import Pairwise.Proofs.PendingDids
import Pairwise.Proofs.Revisions
import Pairwise.Proofs.MadeDids
import Pairwise.Proofs.Courses
import Pairwise.Proofs.HeldDids
import Pairwise.Proofs.InvitationKeys
import Pairwise.Proofs.Threads
import Pairwise.Proofs.Reports
import Pairwise.Proofs.Severed
import Pairwise.Proofs.HeardDids
import Pairwise.Proofs.SenderChecks
import Pairwise.Proofs.Spellings
import Pairwise.Proofs.PeerDidGrammar
import Pairwise.Proofs.PeerDidDocuments
import Pairwise.Proofs.Signers
import Pairwise.Proofs.Advertisement
import Pairwise.Proofs.Addressees
import Pairwise.Proofs.KeyedSenders
import Pairwise.Proofs.RotationAnswers
import Pairwise.Proofs.FoundDids
import Pairwise.Proofs.FieldTags
import Pairwise.Proofs.SelfReferences
import Pairwise.Proofs.ReadMessages
import Pairwise.Proofs.MediatedInvitations
import Pairwise.Proofs.Fingerprints
import Pairwise.Proofs.CanonicalJson
import Pairwise.Proofs.AutomaticAnswers
import Pairwise.Proofs.StorageOrder
import Pairwise.Proofs.DerivedKeys
