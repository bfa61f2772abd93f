import SourceCookie.Cache
import SourceCookie.Config.Basic
import SourceCookie.Config.Environment
import SourceCookie.Config.Json
import SourceCookie.Config.Load
import SourceCookie.Config.LoadError
import SourceCookie.Config.Path
import SourceCookie.Config.Save
import SourceCookie.Config.Schema
import SourceCookie.Config.Tree
import SourceCookie.Config.Typed
import SourceCookie.Cookie
import SourceCookie.Daemon
import SourceCookie.Date
import SourceCookie.Digest.Hmac
import SourceCookie.Digest.Sha256
import SourceCookie.Engine
import SourceCookie.Entry
import SourceCookie.Error
import SourceCookie.Event.Channel
import SourceCookie.Event.Instant
import SourceCookie.Event.Security
import SourceCookie.Event.Uuid
import SourceCookie.Keyed
import SourceCookie.Log
import SourceCookie.Log.Directive
import SourceCookie.Log.Filter
import SourceCookie.Log.Line
import SourceCookie.Main
import SourceCookie.Message
import SourceCookie.Net.Endpoint
import SourceCookie.Net.Ipv4
import SourceCookie.Net.Ipv6
import SourceCookie.Net.Prefix
import SourceCookie.Node.Basic
import SourceCookie.Node.Handle
import SourceCookie.Node.Host
import SourceCookie.Node.Inspect
import SourceCookie.Node.Operation
import SourceCookie.Node.Prepare
import SourceCookie.Node.ReceiveLoop
import SourceCookie.Number.Binary64
import SourceCookie.Proofs.Cache.Contents
import SourceCookie.Proofs.Cache.Fault
import SourceCookie.Proofs.Cache.Roster
import SourceCookie.Proofs.Cache.WellFormed
import SourceCookie.Proofs.Engine
import SourceCookie.Proofs.Exchange
import SourceCookie.Proofs.Message
import SourceCookie.Proofs.Network
import SourceCookie.Proofs.Node.Fallback
import SourceCookie.Proofs.Node.Policy
import SourceCookie.Proofs.Node.Step
import SourceCookie.Proofs.Node.Warnings
import SourceCookie.Proofs.Quota
import SourceCookie.Proofs.Renewal
import SourceCookie.Proofs.Run
import SourceCookie.Renewal
import SourceCookie.Rotation
import SourceCookie.Secret
import SourceCookie.Shutdown
import SourceCookie.Text.Alphabetic
import SourceCookie.Text.Alphanumeric
import SourceCookie.Text.Blank
import SourceCookie.Text.Cased
import SourceCookie.Text.CharClass
import SourceCookie.Text.Digits
import SourceCookie.Text.Hex
import SourceCookie.Text.Json
import SourceCookie.Text.LowerCase
import SourceCookie.Text.Numeric
import SourceCookie.Text.Offset
import SourceCookie.Text.Pattern
import SourceCookie.Text.Pattern.Bracket
import SourceCookie.Text.Pattern.Item
import SourceCookie.Text.Pattern.Mode
import SourceCookie.Text.Pattern.Nesting
import SourceCookie.Text.Quoted
import SourceCookie.Text.Visible
import SourceCookie.Timestamp
import SourceCookie.Toml.Datetime
import SourceCookie.Toml.Document
import SourceCookie.Toml.Literal
import SourceCookie.Toml.Render
import SourceCookie.Toml.Statement
import SourceCookie.Toml.Value
import SourceCookie.Proofs.Config
import SourceCookie.Proofs.Node.Endless
import SourceCookie.Proofs.Node.Inbound
import SourceCookie.Proofs.Disowning
import SourceCookie.Proofs.Timeline
import SourceCookie.Proofs.Cache.Refinement
import SourceCookie.Proofs.Generations
import SourceCookie.Proofs.Rotation
import SourceCookie.Proofs.Host
import SourceCookie.Proofs.SendFailure
import SourceCookie.Proofs.Node.Isolation
import SourceCookie.Proofs.Mesh
import SourceCookie.Proofs.Node.Findings
import SourceCookie.Proofs.Node.Reception
import SourceCookie.Proofs.Node.ComesDue
import SourceCookie.Proofs.Renewal.Table
import SourceCookie.Proofs.Node.Silence
import SourceCookie.Proofs.Forgery
import SourceCookie.Proofs.Node.Decision
import SourceCookie.Proofs.Shutdown
import SourceCookie.Proofs.Config.Merging
import SourceCookie.Proofs.Config.RoundTrip
import SourceCookie.Proofs.Config.Saving
import SourceCookie.Proofs.Toml.Quoting
import SourceCookie.Proofs.Toml.Tables
import SourceCookie.Proofs.Toml.Values
import SourceCookie.Proofs.Renewal.Burst
import SourceCookie.Proofs.Message.Reading
import SourceCookie.Proofs.Config.Validation
import SourceCookie.Proofs.Config.Sources
import SourceCookie.Proofs.Config.Settings
import SourceCookie.Proofs.Config.Variables
import SourceCookie.Proofs.Config.Layers
import SourceCookie.Proofs.Text.Digits
import SourceCookie.Proofs.Node.ReceiveLoop
import SourceCookie.Proofs.Net.Ipv6
import SourceCookie.Proofs.Net.Prefix
import SourceCookie.Proofs.Text.Json
import SourceCookie.Proofs.Date
import SourceCookie.Proofs.Event.Instant
import SourceCookie.Proofs.Event.Uuid
import SourceCookie.Proofs.Event.Security
