import Peerc.Lib.Bytes

/-!
The validated messages of a file transfer and what a handler emits.
-/
namespace Peerc.Transfer

inductive ErrorCode where
  | authFailed | policyDenied | protocolMismatch | invalidFrame | invalidState | transferNotFound
  | sizeExceeded | diskFull | checksumMismatch | transferExpired | rateLimited | internalError
  deriving DecidableEq

def ErrorCode.terminal : ErrorCode → Bool
  | .invalidState => false
  | .rateLimited => false
  | _ => true

def ErrorCode.reason : ErrorCode → Text
  | .authFailed => "auth_failed"
  | .policyDenied => "policy_denied"
  | .protocolMismatch => "protocol_mismatch"
  | .invalidFrame => "invalid_frame"
  | .invalidState => "invalid_state"
  | .transferNotFound => "transfer_not_found"
  | .sizeExceeded => "size_exceeded"
  | .diskFull => "disk_full"
  | .checksumMismatch => "checksum_mismatch"
  | .transferExpired => "transfer_expired"
  | .rateLimited => "rate_limited"
  | .internalError => "internal_error"

structure Offer where
  transferId : Text
  filename : Text
  size : Nat
  checksum : Text
  senderName : Option Text
  deriving DecidableEq

inductive Message where
  | fileOffer (offer : Offer)
  | fileAccept (transferId : Text) (resumeOffset : Nat)
  | fileReject (transferId : Text)
  | fileData (transferId : Text) (sequence offset : Nat) (data : Bytes)
  | fileDone (transferId checksum : Text)
  | fileCompleteAck (transferId : Text) (success : Bool) (detail : Text)
  | error (code : ErrorCode) (transferId : Option Text)
  deriving DecidableEq

inductive Output where
  | send (addrKey : Text) (message : Message)
  | report (addrKey : Text) (code : ErrorCode) (transferId : Text)
  deriving DecidableEq

def Output.acksSuccess : Output → Bool
  | .send _ (.fileCompleteAck _ true _) => true
  | _ => false

def Unacked (out out' : List Output) : Prop :=
  ∃ new, out' = out ++ new ∧ ∀ o ∈ new, o.acksSuccess = false

theorem Unacked.refl (out : List Output) : Unacked out out := ⟨[], by simp, by simp⟩

theorem Unacked.emit (out : List Output) {o : Output} (other : o.acksSuccess = false) :
    Unacked out (out ++ [o]) := ⟨[o], rfl, by simpa using other⟩

structure Note where
  transfer : Nat
  success : Bool
  filepath : Option Text
  error : Option Text
  deriving DecidableEq

/-- How an awaited send ends: it returns True or False, or raises. -/
inductive SendResult where
  | ok | failed | osError | raised
  deriving DecidableEq

end Peerc.Transfer
