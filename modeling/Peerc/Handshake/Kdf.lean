import Peerc.Handshake.Session

/-!
The key schedule: two directional keys and a session id, expanded from the shared secret
with the transcript hash as salt.
-/
namespace Peerc.Handshake

structure SessionKeys where
  sendKey : Bytes
  recvKey : Bytes
  sessionId : Text
  deriving DecidableEq

def SessionKeys.swap (keys : SessionKeys) : SessionKeys :=
  ⟨keys.recvKey, keys.sendKey, keys.sessionId⟩

inductive KdfError where
  | secretLength (n : Nat)
  | saltLength (n : Nat)
  deriving DecidableEq

def keyLen : Nat := 32

def sessionIdLen : Nat := 16

def infoInitToResp : Bytes := utf8 "peerc-v2:initiator-to-responder"

def infoRespToInit : Bytes := utf8 "peerc-v2:responder-to-initiator"

def infoSessionId : Bytes := utf8 "peerc-v2:session-id"

def deriveSessionKeys (S : Suite) (sharedSecret salt : Bytes) (isInitiator : Bool) :
    Except KdfError SessionKeys :=
  if sharedSecret.length ≠ 32 then .error (.secretLength sharedSecret.length)
  else if salt.length ≠ 32 then .error (.saltLength salt.length)
  else
    let initToResp := S.hkdf sharedSecret salt infoInitToResp keyLen
    let respToInit := S.hkdf sharedSecret salt infoRespToInit keyLen
    let sessionId := Hex.encode (S.hkdf sharedSecret salt infoSessionId sessionIdLen)
    if isInitiator then .ok ⟨initToResp, respToInit, sessionId⟩
    else .ok ⟨respToInit, initToResp, sessionId⟩

theorem directions_swap (S : Suite) (secret salt : Bytes) : deriveSessionKeys S secret salt false =
      (deriveSessionKeys S secret salt true).map SessionKeys.swap := by
  unfold deriveSessionKeys
  split
  · rfl
  · split <;> rfl

end Peerc.Handshake
