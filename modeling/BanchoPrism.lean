import BanchoPrism.Anticheat.Backfill
import BanchoPrism.Anticheat.Detection
import BanchoPrism.Anticheat.Detectors
import BanchoPrism.Anticheat.Features
import BanchoPrism.Anticheat.Flags
import BanchoPrism.Anticheat.Recorded
import BanchoPrism.Anticheat.Runs
import BanchoPrism.Anticheat.Sticky
import BanchoPrism.Anticheat.Taps
import BanchoPrism.Anticheat.Worker
import BanchoPrism.Background.Ghosts
import BanchoPrism.Background.Logouts
import BanchoPrism.Background.Supervision
import BanchoPrism.Beatmaps.Cache
import BanchoPrism.Beatmaps.CacheRuns
import BanchoPrism.Beatmaps.CacheSound
import BanchoPrism.Beatmaps.Hosted
import BanchoPrism.Beatmaps.Reconciled
import BanchoPrism.Beatmaps.Refresh
import BanchoPrism.Beatmaps.Sets
import BanchoPrism.Clans.Ownership
import BanchoPrism.Clans.Service
import BanchoPrism.Clans.Tables
import BanchoPrism.Constants.Combos
import BanchoPrism.Constants.GameMode
import BanchoPrism.Constants.Mods
import BanchoPrism.Constants.Privileges
import BanchoPrism.Conversations.Chat
import BanchoPrism.Conversations.Heard
import BanchoPrism.Conversations.Mail
import BanchoPrism.Conversations.Theorems
import BanchoPrism.Feed.ActivityFeed
import BanchoPrism.History.Games
import BanchoPrism.History.Games.Rounds
import BanchoPrism.History.Games.Theorems
import BanchoPrism.History.Games.Told
import BanchoPrism.History.Matches
import BanchoPrism.History.Matches.Theorems
import BanchoPrism.History.Scoreboard
import BanchoPrism.History.Spectating
import BanchoPrism.History.Spectating.Theorems
import BanchoPrism.Leaderboards.Live
import BanchoPrism.Leaderboards.Ranks
import BanchoPrism.Leaderboards.Rebuild
import BanchoPrism.Leaderboards.Restrictions
import BanchoPrism.Leaderboards.Staging
import BanchoPrism.Leaderboards.Theorems
import BanchoPrism.Library.Broadcast
import BanchoPrism.Library.Coroutine
import BanchoPrism.Library.Crossings
import BanchoPrism.Library.Cursor
import BanchoPrism.Library.Discounted
import BanchoPrism.Library.Edges
import BanchoPrism.Library.Fields
import BanchoPrism.Library.Floats
import BanchoPrism.Library.Groups
import BanchoPrism.Library.Indexed
import BanchoPrism.Library.Json
import BanchoPrism.Library.Keyed
import BanchoPrism.Library.Ledger
import BanchoPrism.Library.Lines
import BanchoPrism.Library.Mapping
import BanchoPrism.Library.Memo
import BanchoPrism.Library.Paging
import BanchoPrism.Library.Prog
import BanchoPrism.Library.Rosters
import BanchoPrism.Library.Rounding
import BanchoPrism.Library.Rows
import BanchoPrism.Library.Run
import BanchoPrism.Library.Seating
import BanchoPrism.Library.Select
import BanchoPrism.Library.SortedSets
import BanchoPrism.Library.Stable
import BanchoPrism.Library.Stretches
import BanchoPrism.Library.Struct
import BanchoPrism.Library.Sweep
import BanchoPrism.Library.Tasks
import BanchoPrism.Library.Text
import BanchoPrism.Library.Traces
import BanchoPrism.Library.Writes
import BanchoPrism.Library.Yields
import BanchoPrism.Linking.Completed
import BanchoPrism.Linking.OAuth
import BanchoPrism.Listings.MatchHistory
import BanchoPrism.Listings.Modes
import BanchoPrism.Listings.Queries
import BanchoPrism.Listings.Response
import BanchoPrism.Listings.Visibility
import BanchoPrism.Login.Accounts
import BanchoPrism.Login.Handler
import BanchoPrism.Login.Presence
import BanchoPrism.Login.Refused
import BanchoPrism.Login.Registry
import BanchoPrism.Login.Sessions
import BanchoPrism.Login.Theorems
import BanchoPrism.Migrations.Boots
import BanchoPrism.Multiplayer.Absorbing
import BanchoPrism.Multiplayer.Arrivals
import BanchoPrism.Multiplayer.Awards
import BanchoPrism.Multiplayer.Commands
import BanchoPrism.Multiplayer.Departing
import BanchoPrism.Multiplayer.Finishing
import BanchoPrism.Multiplayer.Freemods
import BanchoPrism.Multiplayer.Hosts
import BanchoPrism.Multiplayer.Hosts.Departures
import BanchoPrism.Multiplayer.Hosts.Theorems
import BanchoPrism.Multiplayer.Leaving
import BanchoPrism.Multiplayer.Lenient
import BanchoPrism.Multiplayer.Lenient.Commands
import BanchoPrism.Multiplayer.Lenient.Events
import BanchoPrism.Multiplayer.Lenient.Packets
import BanchoPrism.Multiplayer.Membership
import BanchoPrism.Multiplayer.Messages
import BanchoPrism.Multiplayer.Movement
import BanchoPrism.Multiplayer.Orderly
import BanchoPrism.Multiplayer.Outcomes
import BanchoPrism.Multiplayer.Packets
import BanchoPrism.Multiplayer.Plays
import BanchoPrism.Multiplayer.Points
import BanchoPrism.Multiplayer.Quiet
import BanchoPrism.Multiplayer.Quiet.Commands
import BanchoPrism.Multiplayer.Quiet.Packets
import BanchoPrism.Multiplayer.Rounds
import BanchoPrism.Multiplayer.ScoreFrames
import BanchoPrism.Multiplayer.Scrims
import BanchoPrism.Multiplayer.Seats
import BanchoPrism.Multiplayer.SeatsAgree
import BanchoPrism.Multiplayer.Sendable
import BanchoPrism.Multiplayer.Sendable.Runs
import BanchoPrism.Multiplayer.Sendable.Theorems
import BanchoPrism.Multiplayer.Settings
import BanchoPrism.Multiplayer.Step
import BanchoPrism.Multiplayer.Teams
import BanchoPrism.Packets.Client
import BanchoPrism.Packets.Codecs
import BanchoPrism.Packets.Framing
import BanchoPrism.Packets.Framing.Runs
import BanchoPrism.Packets.Framing.Theorems
import BanchoPrism.Packets.Reader
import BanchoPrism.Packets.RoundTrip
import BanchoPrism.Packets.Writer
import BanchoPrism.Passwords.Coherence
import BanchoPrism.Passwords.Serving
import BanchoPrism.Passwords.Theorems
import BanchoPrism.Privs.Account
import BanchoPrism.Privs.Theorems
import BanchoPrism.Registration.Theorems
import BanchoPrism.Relationships.Agreement
import BanchoPrism.Relationships.Operations
import BanchoPrism.Replays.Osr
import BanchoPrism.Replays.RoundTrip
import BanchoPrism.Requests.Draining
import BanchoPrism.Requests.IPResolver
import BanchoPrism.Scores.Accounting
import BanchoPrism.Scores.Accounting.Theorems
import BanchoPrism.Scores.Accuracy
import BanchoPrism.Scores.BestRow
import BanchoPrism.Scores.OsuFiles
import BanchoPrism.Scores.Persisting
import BanchoPrism.Scores.Persisting.Theorems
import BanchoPrism.Scores.Placement
import BanchoPrism.Scores.Recalculation
import BanchoPrism.Scores.ReconciledReplays
import BanchoPrism.Scores.ReplayFiles
import BanchoPrism.Scores.Score
import BanchoPrism.Scores.Table
import BanchoPrism.Scores.Weighted
import BanchoPrism.Sessions.Attendance
import BanchoPrism.Sessions.ChannelWork
import BanchoPrism.Sessions.Channels
import BanchoPrism.Sessions.Departures
import BanchoPrism.Sessions.State
import BanchoPrism.Sessions.Thinning
import BanchoPrism.Snapshots.Announced
import BanchoPrism.Snapshots.Capture
import BanchoPrism.Snapshots.Peaks
import BanchoPrism.Snapshots.Ranks
import BanchoPrism.Submissions.Archive
import BanchoPrism.Submissions.Consistent
import BanchoPrism.Submissions.Declared
import BanchoPrism.Submissions.DominantTempo
import BanchoPrism.Submissions.Files
import BanchoPrism.Submissions.ForeignScores
import BanchoPrism.Submissions.Hosting
import BanchoPrism.Submissions.Identity
import BanchoPrism.Submissions.Measures
import BanchoPrism.Submissions.Moderation
import BanchoPrism.Submissions.Naming
import BanchoPrism.Submissions.Opening
import BanchoPrism.Submissions.OsuFile
import BanchoPrism.Submissions.Quota
import BanchoPrism.Submissions.Reviewing
import BanchoPrism.Submissions.Sections
import BanchoPrism.Submissions.Service
import BanchoPrism.Submissions.Stamping
import BanchoPrism.Submissions.Store
import BanchoPrism.Submissions.Submitting
import BanchoPrism.Submissions.Tempo
import BanchoPrism.Tourneys.Pools
