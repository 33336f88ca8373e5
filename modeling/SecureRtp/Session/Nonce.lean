import SecureRtp.Cipher.CounterMode
import SecureRtp.Cipher.Galois

namespace SecureRtp.Nonce

def counterMode (salt : Bytes) (ssrc : UInt32) (index : UInt64) : Block :=
  Block.ofBytes (salt.take 14) ^^^ (ssrc.toBitVec.setWidth 128 <<< 64) ^^^
    ((index.toBitVec.setWidth 48).setWidth 128 <<< 16)

def galoisRtp (salt : Bytes) (ssrc roc : UInt32) (seq : UInt16) : Galois.Nonce :=
  Galois.Nonce.ofBytes (salt.take 12) ^^^ (ssrc.toBitVec.setWidth 96 <<< 48) ^^^
    (roc.toBitVec.setWidth 96 <<< 16) ^^^ seq.toBitVec.setWidth 96

def galoisRtcp (salt : Bytes) (ssrc index : UInt32) : Galois.Nonce :=
  Galois.Nonce.ofBytes (salt.take 12) ^^^ (ssrc.toBitVec.setWidth 96 <<< 48) ^^^
    (index &&& 0x7fffffff).toBitVec.setWidth 96

end SecureRtp.Nonce
