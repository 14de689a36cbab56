import Bacnet.Main
import Bacnet.Proofs.Addressing
import Bacnet.Proofs.Alike
import Bacnet.Proofs.Answer
import Bacnet.Proofs.Apdu
import Bacnet.Proofs.Binary
import Bacnet.Proofs.BitString
import Bacnet.Proofs.Bounds.Partial
import Bacnet.Proofs.Bounds.Reading
import Bacnet.Proofs.Bounds.Replying
import Bacnet.Proofs.Bounds.Responder
import Bacnet.Proofs.Bounds.Writing
import Bacnet.Proofs.Bracketed
import Bacnet.Proofs.Bvll
import Bacnet.Proofs.Canonical
import Bacnet.Proofs.Capacity
import Bacnet.Proofs.Contents
import Bacnet.Proofs.Covering
import Bacnet.Proofs.Declared
import Bacnet.Proofs.Delimited
import Bacnet.Proofs.Device
import Bacnet.Proofs.Discovery
import Bacnet.Proofs.Elements
import Bacnet.Proofs.EndToEnd
import Bacnet.Proofs.Exchange
import Bacnet.Proofs.Forward
import Bacnet.Proofs.Framing
import Bacnet.Proofs.Identifier
import Bacnet.Proofs.Key
import Bacnet.Proofs.Lengths
import Bacnet.Proofs.Limit
import Bacnet.Proofs.Minimal
import Bacnet.Proofs.Network
import Bacnet.Proofs.Npdu
import Bacnet.Proofs.Octets
import Bacnet.Proofs.Parameter
import Bacnet.Proofs.Place
import Bacnet.Proofs.Progress
import Bacnet.Proofs.Question
import Bacnet.Proofs.Reader
import Bacnet.Proofs.Reading
import Bacnet.Proofs.Registration
import Bacnet.Proofs.Registry
import Bacnet.Proofs.Request
import Bacnet.Proofs.Resolution
import Bacnet.Proofs.Responder
import Bacnet.Proofs.Row
import Bacnet.Proofs.Scanning
import Bacnet.Proofs.Selectors
import Bacnet.Proofs.Service.Discovery
import Bacnet.Proofs.Service.ReadProperty
import Bacnet.Proofs.Service.ReadPropertyMultiple
import Bacnet.Proofs.Session
import Bacnet.Proofs.Setup
import Bacnet.Proofs.Spelling
import Bacnet.Proofs.Stream
import Bacnet.Proofs.Tag
import Bacnet.Proofs.Template
import Bacnet.Proofs.Template.Acceptance
import Bacnet.Proofs.Template.Agreement
import Bacnet.Proofs.Template.Building
import Bacnet.Proofs.Template.Description
import Bacnet.Proofs.Template.Identity
import Bacnet.Proofs.Template.Properties
import Bacnet.Proofs.Template.Records
import Bacnet.Proofs.Template.Typing
import Bacnet.Proofs.Text
import Bacnet.Proofs.Unicast
import Bacnet.Proofs.Value
import Bacnet.Responder.Session
