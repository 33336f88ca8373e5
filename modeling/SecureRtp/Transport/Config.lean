import SecureRtp.Session.Basic

namespace SecureRtp

structure TransportConfig where
  contentName : String := ""
  rtcpMux : Option Bool := none
  externalAuth : Bool := false
  sendTimeId : Option UInt8 := none
  replayWindow : UInt64 := defaultReplayWindow
  deriving DecidableEq, Repr

namespace TransportConfig

def withContentName (c : TransportConfig) (name : String) : TransportConfig := { c with contentName := name }

def withRtcpMux (c : TransportConfig) (on : Bool) : TransportConfig := { c with rtcpMux := some on }

def withExternalAuth (c : TransportConfig) (on : Bool) : TransportConfig := { c with externalAuth := on }

def withSendTimeId (c : TransportConfig) (id : UInt8) : TransportConfig := { c with sendTimeId := some id }

def withReplayWindow (c : TransportConfig) (size : UInt64) : TransportConfig := { c with replayWindow := size }

end TransportConfig

end SecureRtp
