import LinkShot.Action.Error
import LinkShot.Action.Perform
import LinkShot.Action.Placeholder
import LinkShot.Action.RandomWord
import LinkShot.Action.Routine
import LinkShot.Action.Script
import LinkShot.Action.Trigger
import LinkShot.Binary64
import LinkShot.Binary64.Shortest
import LinkShot.Calendar
import LinkShot.CancelToken
import LinkShot.Capture.Error
import LinkShot.Capture.Geometry
import LinkShot.Capture.Grab
import LinkShot.Capture.Mode
import LinkShot.Cli.Arguments
import LinkShot.Cli.Error
import LinkShot.Cli.Help
import LinkShot.Cli.Run
import LinkShot.Cli.Switch
import LinkShot.Clipboard
import LinkShot.Config.File
import LinkShot.Config.Schema
import LinkShot.Config.Settings
import LinkShot.Daemon.Basic
import LinkShot.Daemon.Session
import LinkShot.Desktop
import LinkShot.Dialog
import LinkShot.Domain.Composed
import LinkShot.Domain.Direction
import LinkShot.Domain.Joiner
import LinkShot.Domain.Mapping
import LinkShot.Domain.Name
import LinkShot.Domain.Punycode
import LinkShot.FilePath
import LinkShot.FileTree
import LinkShot.Files
import LinkShot.Job
import LinkShot.Json.Fault
import LinkShot.Json.Number
import LinkShot.Json.Path
import LinkShot.Json.Printer
import LinkShot.Json.Reader
import LinkShot.Json.Schema
import LinkShot.Json.Tree
import LinkShot.Json.Value
import LinkShot.Main
import LinkShot.Manager.Basic
import LinkShot.Manager.Session
import LinkShot.Menu
import LinkShot.Notification
import LinkShot.OrderedMap
import LinkShot.Proofs.Action.Breakdown
import LinkShot.Proofs.Action.Cancelling
import LinkShot.Proofs.Action.Collaborators
import LinkShot.Proofs.Action.Course
import LinkShot.Proofs.Action.Notices
import LinkShot.Proofs.Action.Order
import LinkShot.Proofs.Action.Watched
import LinkShot.Proofs.CancelToken
import LinkShot.Proofs.Json.Path
import LinkShot.Proofs.Manager.Cancelling
import LinkShot.Proofs.Manager.Custody
import LinkShot.Proofs.Manager.Driving
import LinkShot.Proofs.Manager.Order
import LinkShot.Proofs.Manager.Publishing
import LinkShot.Proofs.Manager.Run
import LinkShot.Proofs.Manager.Sequential
import LinkShot.Proofs.Manager.Session
import LinkShot.Proofs.OrderedMap.Keys
import LinkShot.Proofs.Request.Framing
import LinkShot.Proofs.Template.Extraction
import LinkShot.Proofs.Template.Tokens
import LinkShot.Provider
import LinkShot.Provider.Definition
import LinkShot.Provider.File
import LinkShot.Provider.Schema
import LinkShot.Regex.Classes
import LinkShot.Regex.Parser
import LinkShot.Regex.Program
import LinkShot.Regex.Search
import LinkShot.Regex.Size
import LinkShot.Regex.Syntax
import LinkShot.Regex.Unicode.CaseFold
import LinkShot.Regex.Unicode.Category
import LinkShot.Regex.Unicode.Property
import LinkShot.Regex.Unicode.Script
import LinkShot.Registry
import LinkShot.Request.Header
import LinkShot.Request.Multipart
import LinkShot.Request.Prepared
import LinkShot.Request.Query
import LinkShot.Request.Transport
import LinkShot.Template.Extraction
import LinkShot.Template.Reference
import LinkShot.Template.Token
import LinkShot.Text.Blank
import LinkShot.Text.CharMap
import LinkShot.Text.CharSet
import LinkShot.Text.Hex
import LinkShot.Text.Number
import LinkShot.Text.Quoted
import LinkShot.Text.Split
import LinkShot.Text.Uppercase
import LinkShot.Text.Utf8
import LinkShot.Toml.Document
import LinkShot.Toml.Node
import LinkShot.Toml.Scalar
import LinkShot.Toml.Text
import LinkShot.Tool
import LinkShot.Tray
import LinkShot.UploadLog
import LinkShot.Url.Address
import LinkShot.Url.Basic
import LinkShot.Url.Error
import LinkShot.Url.Parser
import LinkShot.Url.Path
import LinkShot.Url.Text
import LinkShot.Version
import LinkShot.Proofs.Request.Query
import LinkShot.Proofs.Job
import LinkShot.Proofs.Menu
import LinkShot.Proofs.Daemon.Run
import LinkShot.Proofs.Daemon.Offers
import LinkShot.Proofs.Action.Replacement
import LinkShot.Proofs.Action.Resolution
import LinkShot.Proofs.Action.Forms
import LinkShot.Proofs.Daemon.Generations
import LinkShot.Proofs.Daemon.Loading
import LinkShot.Proofs.Registry
import LinkShot.Proofs.FileTree
import LinkShot.Proofs.FilePath
import LinkShot.Proofs.Files
import LinkShot.Proofs.Calendar
import LinkShot.Proofs.UploadLog
import LinkShot.Proofs.CancelToken.Run
import LinkShot.Proofs.CancelToken.Waking
import LinkShot.Proofs.Template.Slices
import LinkShot.Proofs.Template.Matches
import LinkShot.Proofs.Outcome
import LinkShot.Proofs.Latest
import LinkShot.Proofs.Json.Within
import LinkShot.Proofs.Provider.Contents
import LinkShot.Proofs.Provider.Judging
import LinkShot.Proofs.Json.Literals
import LinkShot.Proofs.Json.Integers
import LinkShot.Proofs.Json.RoundTrip
import LinkShot.Proofs.Template.Parts
import LinkShot.Proofs.Template.Paths
import LinkShot.Proofs.Template.References
import LinkShot.Proofs.OrderedMap.Adding
import LinkShot.Proofs.Request.Headers
import LinkShot.Proofs.Json.Trees
import LinkShot.Proofs.Provider.Members
import LinkShot.Proofs.Provider.Kinds
import LinkShot.Proofs.Provider.Typing
import LinkShot.Proofs.Request.Payload
import LinkShot.Proofs.Template.Joining
import LinkShot.Proofs.Daemon.Choosing
import LinkShot.Proofs.Text.Number
import LinkShot.Proofs.Template.Lookup
import LinkShot.Proofs.OrderedMap.Rebuilding
import LinkShot.Proofs.Tool
import LinkShot.Proofs.Capture.Calls
import LinkShot.Proofs.Binary64
import LinkShot.Proofs.Capture.Rectangle
import LinkShot.Proofs.FilePath.Home
