import Rendezvous.Main
import Rendezvous.Relay
import Rendezvous.Server.Basic
import Rendezvous.Server.Faults
import Rendezvous.Proofs.Effects
import Rendezvous.Proofs.Contract
import Rendezvous.Proofs.Stages
import Rendezvous.Proofs.Membership
import Rendezvous.Proofs.Alike
import Rendezvous.Proofs.Isolation
import Rendezvous.Proofs.LateCalls
import Rendezvous.Proofs.Pairing
import Rendezvous.Proofs.RawValues
import Rendezvous.Proofs.Notices
import Rendezvous.Proofs.Delivery
import Rendezvous.Proofs.Provenance
import Rendezvous.Proofs.Incidents
import Rendezvous.Proofs.Ledger
import Rendezvous.Proofs.Accounts
import Rendezvous.Proofs.Alphabet
import Rendezvous.Proofs.Grammar
import Rendezvous.Proofs.Tokens
import Rendezvous.Proofs.Scanning
import Rendezvous.Proofs.Decoding
import Rendezvous.Proofs.Reading
import Rendezvous.Proofs.Surrogates
import Rendezvous.Proofs.Meaning
import Rendezvous.Proofs.Hops
import Rendezvous.Proofs.Lists
import Rendezvous.Proofs.Cascade
import Rendezvous.Proofs.Settling
import Rendezvous.Proofs.Turns
import Rendezvous.Proofs.Imitation
import Rendezvous.Proofs.HookContract
import Rendezvous.Proofs.OpenSockets
import Rendezvous.Proofs.Footprint
import Rendezvous.Proofs.Refusals
import Rendezvous.Proofs.Interjections
import Rendezvous.Proofs.Gate
import Rendezvous.Proofs.Receipts
import Rendezvous.Proofs.Hangups
import Rendezvous.Proofs.LastWords
import Rendezvous.Proofs.Disconnects
import Rendezvous.Proofs.Places
import Rendezvous.Proofs.LostReceivers
import Rendezvous.Proofs.Spellings
import Rendezvous.Proofs.Addresses
import Rendezvous.Proofs.PrintedAddresses
import Rendezvous.Proofs.ConfigurationReplies
import Rendezvous.Proofs.WrittenTexts
import Rendezvous.Proofs.Vacancies
import Rendezvous.Proofs.EarlyNotices
import Rendezvous.Proofs.FaultPositions
import Rendezvous.Proofs.Deeds
import Rendezvous.Proofs.SessionTraces
import Rendezvous.Proofs.RegistryTraces
import Rendezvous.Proofs.Writers
