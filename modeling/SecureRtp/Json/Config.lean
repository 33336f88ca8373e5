import SecureRtp.Json.Reader
import SecureRtp.Transport.Config

namespace SecureRtp

inductive ConfigField where
  | contentName
  | rtcpMux
  | externalAuth
  | sendTimeId
  | replayWindow
  deriving DecidableEq, Repr

namespace ConfigField

def all : List ConfigField := [contentName, rtcpMux, externalAuth, sendTimeId, replayWindow]

def name : ConfigField → String
  | contentName => "content_name"
  | rtcpMux => "rtcp_mux_enabled"
  | externalAuth => "external_auth"
  | sendTimeId => "rtp_abs_sendtime_extension_id"
  | replayWindow => "replay_window_size"

def ofName? (text : String) : Option ConfigField := all.find? (·.name = text)

def natBelow? (limit : Nat) (v : Json.Value) : Option Nat := v.nat?.filter (· < limit)

def set (c : TransportConfig) : ConfigField → Json.Value → Option TransportConfig
  | contentName, .string (some text) => some { c with contentName := text }
  | rtcpMux, .null => some { c with rtcpMux := none }
  | rtcpMux, .bool on => some { c with rtcpMux := some on }
  | externalAuth, .bool on => some { c with externalAuth := on }
  | sendTimeId, .null => some { c with sendTimeId := none }
  | sendTimeId, v => (natBelow? 256 v).map fun n => { c with sendTimeId := some (UInt8.ofNat n) }
  | replayWindow, v => (natBelow? 0x10000000000000000 v).map fun n => { c with replayWindow := UInt64.ofNat n }
  | _, _ => none

end ConfigField

namespace TransportConfig

def ofEntries? (seen : List ConfigField) (c : TransportConfig) :
    List (Option String × Json.Value) → Option TransportConfig
  | [] => some c
  | (none, _) :: _ => none
  | (some name, v) :: rest =>
    match ConfigField.ofName? name with
    | none => ofEntries? seen c rest
    | some field =>
      if field ∈ seen then none
      else
        match field.set c v with
        | some c => ofEntries? (field :: seen) c rest
        | none => none

def ofItems? (c : TransportConfig) : List ConfigField → List Json.Value → Option TransportConfig
  | _, [] => some c
  | [], _ :: _ => none
  | field :: fields, v :: rest => (field.set c v).bind fun c => ofItems? c fields rest

def ofJson? : Json.Value → Option TransportConfig
  | .object entries => ofEntries? [] {} entries
  | .array items => ofItems? {} ConfigField.all items
  | _ => none

def parse? (text : String) : Option TransportConfig := (Json.read? text).bind ofJson?

end TransportConfig

end SecureRtp
