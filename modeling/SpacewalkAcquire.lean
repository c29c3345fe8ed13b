import SpacewalkAcquire.Message.Wire
import SpacewalkAcquire.Settings
import SpacewalkAcquire.Channel
import SpacewalkAcquire.Credentials
import SpacewalkAcquire.DocumentPath
import SpacewalkAcquire.Digest.Content
import SpacewalkAcquire.Url.Read
import SpacewalkAcquire.Server
import SpacewalkAcquire.Request
import SpacewalkAcquire.Xml.Token
import SpacewalkAcquire.XmlRpc.Call
import SpacewalkAcquire.XmlRpc.Response
import SpacewalkAcquire.Http.Redirect
import SpacewalkAcquire.Http.Charset
import SpacewalkAcquire.Session
import SpacewalkAcquire.Main
import SpacewalkAcquire.CommandLine
import SpacewalkAcquire.World
import SpacewalkAcquire.Proofs.Message.Line
import SpacewalkAcquire.Proofs.Message.RoundTrip
import SpacewalkAcquire.Proofs.Effects.Correspondence
import SpacewalkAcquire.Proofs.Effects.Program
import SpacewalkAcquire.Proofs.Session.Login
import SpacewalkAcquire.Proofs.Effects.Recorded
import SpacewalkAcquire.Proofs.Transfer.Announce
import SpacewalkAcquire.Proofs.Method.Block
import SpacewalkAcquire.Proofs.Method.Visits
import SpacewalkAcquire.Proofs.Method.Grammar
import SpacewalkAcquire.Proofs.Digest.Chunks
import SpacewalkAcquire.Proofs.Files
import SpacewalkAcquire.Proofs.Transfer.Store
import SpacewalkAcquire.Proofs.Http.Reply
import SpacewalkAcquire.Proofs.Method.Files
import SpacewalkAcquire.Proofs.World
import SpacewalkAcquire.Proofs.Url.Domain
import SpacewalkAcquire.Proofs.Url.OneLine
import SpacewalkAcquire.Proofs.Message.Framing
import SpacewalkAcquire.Proofs.Message.Sendable
import SpacewalkAcquire.Proofs.Method.Framing
import SpacewalkAcquire.Proofs.XmlRpc.Automaton
import SpacewalkAcquire.Proofs.XmlRpc.Grammar
import SpacewalkAcquire.Proofs.Session.Cache
import SpacewalkAcquire.Proofs.Text.Numeral
import SpacewalkAcquire.Proofs.Xml.Reading
import SpacewalkAcquire.Proofs.XmlRpc.Encoding
import SpacewalkAcquire.Proofs.Accounts.Errand
import SpacewalkAcquire.Proofs.Accounts.Headers
import SpacewalkAcquire.Proofs.Accounts.Ledger
import SpacewalkAcquire.Proofs.Method.Contact
import SpacewalkAcquire.Proofs.Server.Accepted
import SpacewalkAcquire.Proofs.Server.Documents
import SpacewalkAcquire.Proofs.Method.Journeys
import SpacewalkAcquire.Proofs.Method.Order
import SpacewalkAcquire.Proofs.Way
import SpacewalkAcquire.Proofs.Session.Coincide
import SpacewalkAcquire.Proofs.World.Alike
import SpacewalkAcquire.Proofs.Url.Normal
import SpacewalkAcquire.Proofs.Accounts.Trust
import SpacewalkAcquire.Proofs.Method.Named
import SpacewalkAcquire.Proofs.Transfer.Trust
import SpacewalkAcquire.Proofs.Method.Trust
import SpacewalkAcquire.Proofs.Text.Split
import SpacewalkAcquire.Proofs.Settings.Meaning
import SpacewalkAcquire.Proofs.Xml.Scanning
import SpacewalkAcquire.Proofs.XmlRpc.CutOff
import SpacewalkAcquire.Proofs.DocumentPath.Passes
import SpacewalkAcquire.Proofs.DocumentPath.Label
import SpacewalkAcquire.Proofs.XmlRpc.Call
import SpacewalkAcquire.Proofs.Method.Answer
import SpacewalkAcquire.Proofs.Message.BlankLine
import SpacewalkAcquire.Proofs.Xml.Meeting
import SpacewalkAcquire.Proofs.Xml.Pieces
import SpacewalkAcquire.Proofs.XmlRpc.Standing
import SpacewalkAcquire.Proofs.XmlRpc.Untyped
import SpacewalkAcquire.Proofs.XmlRpc.SelfClosing
import SpacewalkAcquire.Proofs.Url.HostPort
import SpacewalkAcquire.Proofs.Server.OwnAuthority
import SpacewalkAcquire.Proofs.Text.Fault
import SpacewalkAcquire.Proofs.Message.CarriageReturn
import SpacewalkAcquire.Proofs.Xml.Layout
import SpacewalkAcquire.Proofs.XmlRpc.Layout
import SpacewalkAcquire.Proofs.Accounts.Channels
import SpacewalkAcquire.Proofs.Method.BaseChannel
import SpacewalkAcquire.Proofs.Settings.Lines
import SpacewalkAcquire.Proofs.Server.FilePaths
import SpacewalkAcquire.Proofs.Digest.Standards
