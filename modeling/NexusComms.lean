import NexusComms.Basic
import NexusComms.Concurrency.Runs
import NexusComms.Concurrency.Interleaving
import NexusComms.Concurrency.Spacing
import NexusComms.Concurrency.Script
import NexusComms.Concurrency.Refinement
import NexusComms.Concurrency.Ordered
import NexusComms.Strings.Patterns
import NexusComms.Strings.Fields
import NexusComms.Strings.Normal
import NexusComms.Audit.Addresses
import NexusComms.Audit.IpFilter
import NexusComms.Storage.PooledClient
import NexusComms.Storage.LockedTable
import NexusComms.Storage.Maps
import NexusComms.Storage.KeyedQueue
import NexusComms.Storage.Frames
import NexusComms.Storage.Holding
import NexusComms.Storage.InverseIndex
import NexusComms.Storage.SlotMap
import NexusComms.Storage.Pagination
import NexusComms.Storage.Lifetimes
import NexusComms.Storage.Sweeps
import NexusComms.Storage.Ledger
import NexusComms.Sessions.Records
import NexusComms.Sessions.Requests
import NexusComms.Sessions.Chains
import NexusComms.Sessions.Outline
import NexusComms.Sessions.Steps
import NexusComms.Sessions.Interleavings
import NexusComms.Sessions.Rotation
import NexusComms.Sessions.Revocation
import NexusComms.Sessions.Ownership
import NexusComms.Sessions.Isolation
import NexusComms.Sessions.Progress
import NexusComms.Sessions.Replay
import NexusComms.Sessions.Scripts
import NexusComms.Sessions.Atomicity
import NexusComms.Sessions.Unbroken
import NexusComms.Sessions.Pages
import NexusComms.Sessions.Accounting
import NexusComms.Sessions.Linearization
import NexusComms.Sessions.Causes
import NexusComms.Accounts.Users
import NexusComms.Accounts.Lockout
import NexusComms.Accounts.Enumeration
import NexusComms.Accounts.Automaton
import NexusComms.Accounts.Deactivation
import NexusComms.Accounts.Lifetime
import NexusComms.Accounts.Emails
import NexusComms.Contacts.Service
import NexusComms.Contacts.Handshake
import NexusComms.Contacts.Acceptance
import NexusComms.Matchmaking.Queue
import NexusComms.Matchmaking.Conservation
import NexusComms.Matchmaking.Lobby
import NexusComms.Matchmaking.Waiting
import NexusComms.Matchmaking.Leaving
import NexusComms.Signaling.State
import NexusComms.Signaling.Services
import NexusComms.Signaling.Handlers
import NexusComms.Signaling.Events
import NexusComms.Signaling.Updates
import NexusComms.Signaling.Effects
import NexusComms.Signaling.Lifecycle
import NexusComms.Signaling.Clock
import NexusComms.Signaling.Answering
import NexusComms.Signaling.Outsiders
import NexusComms.Signaling.Handshake
import NexusComms.Signaling.Fifo
import NexusComms.Signaling.MissedCall
import NexusComms.Signaling.Turns
import NexusComms.Signaling.Seating
import NexusComms.Signaling.Creation
import NexusComms.Signaling.Occupancy
import NexusComms.Signaling.Confidentiality
import NexusComms.Signaling.Entries
import NexusComms.Signaling.Actors
import NexusComms.Signaling.AuditTrail
import NexusComms.Signaling.CallTables
import NexusComms.Signaling.Orphans
import NexusComms.Signaling.Participants
import NexusComms.Signaling.Pairing
import NexusComms.Signaling.History
import NexusComms.Signaling.PairScript
import NexusComms.Signaling.HalfPaired
import NexusComms.Signaling.Origins
import NexusComms.Signaling.Ledger
import NexusComms.Contacts.SharedCalls
import NexusComms.Http.Guards
import NexusComms.Http.Mutations
import NexusComms.Http.CsrfGuard
import NexusComms.Http.Csrf
import NexusComms.Sfu.Rooms
import NexusComms.Sfu.Soundness
import NexusComms.Sfu.Identity
import NexusComms.Sfu.Leftovers
import NexusComms.Sfu.Transports
import NexusComms.Sfu.Streams
import NexusComms.Sfu.Wiring
import NexusComms.Sfu.Calls
import NexusComms.Sfu.Separation
import NexusComms.Sfu.Removal
import NexusComms.Sfu.Projection
import NexusComms.Sfu.Workers
import NexusComms.Sfu.Capacity
import NexusComms.Presence.Connections
import NexusComms.Presence.Index
import NexusComms.Presence.Disconnection
import NexusComms.Presence.Departures
import NexusComms.Presence.Faults
import NexusComms.Matchmaking.SelfMatch
import NexusComms.Matchmaking.StatusBoard
import NexusComms.Matchmaking.Sequential
import NexusComms.Browser.Client
import NexusComms.Browser.Calls
import NexusComms.Browser.Honesty
import NexusComms.Browser.Agreement
import NexusComms.Frontend.WebRtc
import NexusComms.Frontend.MediaDevices
import NexusComms.Frontend.Negotiation
import NexusComms.Frontend.Pages
import NexusComms.Frontend.System
import NexusComms.Frontend.Isolation
import NexusComms.Frontend.Navigation
import NexusComms.Frontend.DirectCalls
import NexusComms.Frontend.GroupCalls
import NexusComms.Access.Authority
import NexusComms.Access.Window
