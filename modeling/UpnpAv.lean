import UpnpAv.Act
import UpnpAv.Clock
import UpnpAv.Decimal.Binary
import UpnpAv.Decimal.Fixed
import UpnpAv.Decimal.Shortest
import UpnpAv.Journal
import UpnpAv.JsonText.Error
import UpnpAv.JsonText.Escape
import UpnpAv.JsonText.Numeral
import UpnpAv.JsonText.Reader
import UpnpAv.JsonText.Record
import UpnpAv.JsonText.Skip
import UpnpAv.JsonText.Token
import UpnpAv.JsonText.Written
import UpnpAv.LastChange.Board
import UpnpAv.LastChange.Document
import UpnpAv.LastChange.Reporter
import UpnpAv.Logging.Filter
import UpnpAv.Logging.Pattern
import UpnpAv.Logging.Setup
import UpnpAv.Markup.Escape
import UpnpAv.Markup.Token
import UpnpAv.MediaType.Advertised
import UpnpAv.MediaType.Aliases
import UpnpAv.MediaType.Filter
import UpnpAv.Pipeline.Basic
import UpnpAv.Pipeline.Catalog
import UpnpAv.Pipeline.Event
import UpnpAv.Pipeline.Output
import UpnpAv.Pipeline.Scripted
import UpnpAv.Pipeline.Silent
import UpnpAv.Player.Attended
import UpnpAv.Player.Basic
import UpnpAv.Player.Error
import UpnpAv.Player.Events
import UpnpAv.Player.Json
import UpnpAv.Player.Run
import UpnpAv.Player.Session
import UpnpAv.Player.Start
import UpnpAv.Player.State
import UpnpAv.Proofs.Act
import UpnpAv.Proofs.Clock
import UpnpAv.Proofs.LastChange.Board
import UpnpAv.Proofs.LastChange.Document
import UpnpAv.Proofs.LastChange.Independence
import UpnpAv.Proofs.LastChange.Nesting
import UpnpAv.Proofs.LastChange.Replication
import UpnpAv.Proofs.LastChange.Reporter
import UpnpAv.Proofs.LastChange.Subscriber
import UpnpAv.Proofs.LastChange.Transaction
import UpnpAv.Proofs.LastChange.TransactionStates
import UpnpAv.Proofs.LastChange.Truncation
import UpnpAv.Proofs.LastChange.Waiting
import UpnpAv.Proofs.Markup.Escape
import UpnpAv.Proofs.Markup.Token
import UpnpAv.Proofs.Markup.Truncation
import UpnpAv.Proofs.MediaType.Advertised
import UpnpAv.Proofs.MediaType.Aliases
import UpnpAv.Proofs.MediaType.Filter
import UpnpAv.Proofs.MediaType.Naming
import UpnpAv.Proofs.Pipeline.Catalog
import UpnpAv.Proofs.Pipeline.PhaseReports
import UpnpAv.Proofs.Pipeline.Silent
import UpnpAv.Proofs.Pipeline.Sound
import UpnpAv.Proofs.Player.AnnouncedTags
import UpnpAv.Proofs.Player.Announcements
import UpnpAv.Proofs.Player.Atomic
import UpnpAv.Proofs.Player.Buffering
import UpnpAv.Proofs.Player.CheckedLocators
import UpnpAv.Proofs.Player.ChosenPipeline
import UpnpAv.Proofs.Player.Commands
import UpnpAv.Proofs.Player.Events
import UpnpAv.Proofs.Player.Exchanges
import UpnpAv.Proofs.Player.Guards
import UpnpAv.Proofs.Player.KnownTimes
import UpnpAv.Proofs.Player.LatestTimes
import UpnpAv.Proofs.Player.Loaded
import UpnpAv.Proofs.Player.Locators
import UpnpAv.Proofs.Player.Queue
import UpnpAv.Proofs.Player.Reactions
import UpnpAv.Proofs.Player.Silence
import UpnpAv.Proofs.Player.Sound
import UpnpAv.Proofs.Player.Tags
import UpnpAv.Proofs.Player.Transport
import UpnpAv.Proofs.Player.UserPause
import UpnpAv.Proofs.Renderer.Atomic
import UpnpAv.Proofs.Renderer.Documents
import UpnpAv.Proofs.Renderer.Independence
import UpnpAv.Proofs.Renderer.ListedActions
import UpnpAv.Proofs.Renderer.OfferedTypes
import UpnpAv.Proofs.Renderer.Played
import UpnpAv.Proofs.Renderer.PlayedTrack
import UpnpAv.Proofs.Renderer.Reached
import UpnpAv.Proofs.Renderer.Settled
import UpnpAv.Proofs.Renderer.ShownTags
import UpnpAv.Proofs.Renderer.ShownTarget
import UpnpAv.Proofs.Renderer.ShownTimes
import UpnpAv.Proofs.Renderer.SoughtPosition
import UpnpAv.Proofs.Renderer.Sound
import UpnpAv.Proofs.Renderer.Step
import UpnpAv.Proofs.Renderer.TransportState
import UpnpAv.Proofs.Renderer.Untouched
import UpnpAv.Proofs.Renderer.Update
import UpnpAv.Proofs.Service.Closed
import UpnpAv.Proofs.Service.Gathering
import UpnpAv.Proofs.Service.Handover
import UpnpAv.Proofs.Service.Update
import UpnpAv.Proofs.StateTable.Changed
import UpnpAv.Proofs.StateTable.Watched
import UpnpAv.Proofs.StateTable.Written
import UpnpAv.Proofs.Track.Description
import UpnpAv.Renderer.Basic
import UpnpAv.Renderer.Error
import UpnpAv.Renderer.Run
import UpnpAv.Renderer.Session
import UpnpAv.Renderer.Start
import UpnpAv.Service.Basic
import UpnpAv.Service.Session
import UpnpAv.Service.Tables
import UpnpAv.Settings.Json
import UpnpAv.Settings.Output
import UpnpAv.Settings.Renderer
import UpnpAv.StateTable.Basic
import UpnpAv.StateTable.Watched
import UpnpAv.Text.Alphanumeric
import UpnpAv.Text.Ascii
import UpnpAv.Text.Blank
import UpnpAv.Text.Quoted
import UpnpAv.Text.Ranges
import UpnpAv.Text.Split
import UpnpAv.Text.StringSet
import UpnpAv.Text.Unshown
import UpnpAv.Track.Description
import UpnpAv.Track.Json
import UpnpAv.Track.Metadata
import UpnpAv.Track.Target
import UpnpAv.Track.Timing
import UpnpAv.Url.Address
import UpnpAv.Url.Check
import UpnpAv.Url.Domain
import UpnpAv.Url.Domain.Direction
import UpnpAv.Url.Domain.Form
import UpnpAv.Url.Domain.Joiner
import UpnpAv.Url.Domain.Mark
import UpnpAv.Url.Domain.Punycode
import UpnpAv.Url.Domain.Standing
