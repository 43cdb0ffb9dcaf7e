import Mathlib.Data.List.Basic

/-!
The life cycles of outgoing and incoming transfers. A transition outside the table
raises; a terminal state admits itself.
-/
namespace Peerc.Transfer

inductive OutgoingTransferState where
  | offered | waitingForAccept | sending | waitingForCompleteAck | completed | failed | rejected
  | cancelled
  deriving DecidableEq

def OutgoingTransferState.allowed : OutgoingTransferState → List OutgoingTransferState
  | .offered => [.waitingForAccept]
  | .waitingForAccept => [.sending, .failed, .rejected, .cancelled]
  | .sending => [.waitingForCompleteAck, .failed, .cancelled]
  | .waitingForCompleteAck => [.completed, .failed, .cancelled]
  | .completed => [.completed]
  | .failed => [.failed]
  | .rejected => [.rejected]
  | .cancelled => [.cancelled]

def OutgoingTransferState.transitionTo (current new : OutgoingTransferState) :
    Option OutgoingTransferState :=
  if new ∈ current.allowed then some new else none

inductive IncomingTransferState where
  | offered | accepted | receiving | paused | resuming | verifying | completed | rejected
  | cancelled | failed | expired
  deriving DecidableEq

def incomingTerminalOutcomes : List IncomingTransferState :=
  [.rejected, .cancelled, .failed, .expired]

def IncomingTransferState.allowed : IncomingTransferState → List IncomingTransferState
  | .offered => .accepted :: incomingTerminalOutcomes
  | .accepted => .receiving :: incomingTerminalOutcomes
  | .receiving => .receiving :: .verifying :: .paused :: incomingTerminalOutcomes
  | .paused => .resuming :: incomingTerminalOutcomes
  | .resuming => .receiving :: incomingTerminalOutcomes
  | .verifying => .completed :: incomingTerminalOutcomes
  | .completed => [.completed]
  | .rejected => [.rejected]
  | .cancelled => [.cancelled]
  | .failed => [.failed]
  | .expired => [.expired]

def IncomingTransferState.transitionTo (current new : IncomingTransferState) :
    Option IncomingTransferState :=
  if new ∈ current.allowed then some new else none

theorem IncomingTransferState.transition_target {current new next : IncomingTransferState}
    (moved : current.transitionTo new = some next) : next = new := by
  unfold transitionTo at moved
  split at moved
  · cases moved
    rfl
  · cases moved

end Peerc.Transfer
