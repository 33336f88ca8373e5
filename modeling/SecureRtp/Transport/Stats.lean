import SecureRtp.Direction

namespace SecureRtp

structure Stats where
  rtpProtected : Nat := 0
  rtcpProtected : Nat := 0
  bytesProtected : Nat := 0
  rtpUnprotected : Nat := 0
  rtcpUnprotected : Nat := 0
  bytesUnprotected : Nat := 0
  protectFailures : Nat := 0
  unprotectFailures : Nat := 0
  inactiveDrops : Nat := 0
  deriving DecidableEq, Repr

namespace Stats

def countProtected (s : Stats) (kind : PacketKind) (bytes : Nat) : Stats :=
  match kind with
  | .rtp => { s with rtpProtected := s.rtpProtected + 1, bytesProtected := s.bytesProtected + bytes }
  | .rtcp => { s with rtcpProtected := s.rtcpProtected + 1, bytesProtected := s.bytesProtected + bytes }

def countUnprotected (s : Stats) (kind : PacketKind) (bytes : Nat) : Stats :=
  match kind with
  | .rtp => { s with rtpUnprotected := s.rtpUnprotected + 1, bytesUnprotected := s.bytesUnprotected + bytes }
  | .rtcp => { s with rtcpUnprotected := s.rtcpUnprotected + 1, bytesUnprotected := s.bytesUnprotected + bytes }

def countProtectFailure (s : Stats) : Stats := { s with protectFailures := s.protectFailures + 1 }

def countUnprotectFailure (s : Stats) : Stats := { s with unprotectFailures := s.unprotectFailures + 1 }

def countInactive (s : Stats) : Stats := { s with inactiveDrops := s.inactiveDrops + 1 }

def totalDrops (s : Stats) : Nat := s.protectFailures + s.unprotectFailures + s.inactiveDrops

end Stats

end SecureRtp
