import SecureRtp.Bytes
import SecureRtp.Direction
import SecureRtp.Suite
import SecureRtp.Error
import SecureRtp.Cipher.Aes
import SecureRtp.Cipher.CounterMode
import SecureRtp.Cipher.Galois
import SecureRtp.Digest.Sha1
import SecureRtp.Digest.Hmac
import SecureRtp.Text.CharClass
import SecureRtp.Text.Unprintable
import SecureRtp.Text.Combining
import SecureRtp.Text.Record
import SecureRtp.Key.Master
import SecureRtp.Key.Derivation
import SecureRtp.Authenticator
import SecureRtp.Session.Nonce
import SecureRtp.Replay.Window
import SecureRtp.Packet.Header
import SecureRtp.Packet.Extension
import SecureRtp.Packet.Buffer
import SecureRtp.Packet.SendTime
import SecureRtp.Packet.Edit
import SecureRtp.Event
import SecureRtp.Notice
import SecureRtp.Session.Position
import SecureRtp.Session.Crypto
import SecureRtp.Session.Basic
import SecureRtp.Session.Send
import SecureRtp.Session.Receive
import SecureRtp.Listeners
import SecureRtp.Transport.Carrier
import SecureRtp.Transport.Recorder
import SecureRtp.Transport.Stats
import SecureRtp.Transport.Config
import SecureRtp.Transport.Basic
import SecureRtp.Transport.Send
import SecureRtp.Transport.Receive
import SecureRtp.Json.Reader
import SecureRtp.Json.Suite
import SecureRtp.Json.Config
import SecureRtp.Proofs.Bytes
import SecureRtp.Proofs.Cipher.Keystream
import SecureRtp.Proofs.Cipher.CounterBlocks
import SecureRtp.Proofs.Cipher.Galois
import SecureRtp.Proofs.Replay.Window
import SecureRtp.Proofs.Packet.Header
import SecureRtp.Proofs.Packet.Elements
import SecureRtp.Proofs.Packet.SendTime
import SecureRtp.Proofs.Session.HeaderMask
import SecureRtp.Proofs.Session.Keys
import SecureRtp.Proofs.Session.Seal
import SecureRtp.Proofs.Session.ControlSeal
import SecureRtp.Proofs.Session.Position
import SecureRtp.Proofs.Session.Nonce
import SecureRtp.Proofs.Session.Media
import SecureRtp.Proofs.Session.Control
import SecureRtp.Proofs.Session.Memory
import SecureRtp.Proofs.Session.Run
import SecureRtp.Proofs.Session.Isolation
import SecureRtp.Proofs.Session.Accepted
import SecureRtp.Proofs.Session.Canonical
import SecureRtp.Proofs.Session.Numbering
import SecureRtp.Proofs.Session.Delivery
import SecureRtp.Proofs.Packet.Checked
import SecureRtp.Proofs.Session.ControlDelivery
import SecureRtp.Proofs.Replay.Checked
import SecureRtp.Proofs.Session.Checked
import SecureRtp.Proofs.Session.Answers
import SecureRtp.Proofs.Transport.Run
import SecureRtp.Proofs.Transport.Activation
import SecureRtp.Proofs.Transport.Sending
import SecureRtp.Proofs.Transport.Emission
import SecureRtp.Proofs.Transport.Reconciliation
import SecureRtp.Proofs.Listeners
import SecureRtp.Proofs.Session.SendTime
import SecureRtp.Proofs.Transport.DeferredAuth
import SecureRtp.Proofs.Session.Keystream
import SecureRtp.Proofs.Session.ControlWrap
import SecureRtp.Proofs.Transport.Pairing
import SecureRtp.Proofs.Transport.Lockstep
import SecureRtp.Proofs.Transport.Listening
import SecureRtp.Proofs.Transport.FailureReports
import SecureRtp.Proofs.Transport.Nesting
import SecureRtp.Proofs.Replay.IndexSet
import SecureRtp.Proofs.Packet.Blocks
