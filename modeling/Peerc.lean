import Peerc.Transfer.Agreement
import Peerc.Transfer.Finished
import Peerc.Transfer.Integrity
import Peerc.Transfer.Isolation
import Peerc.Transfer.Resume
import Peerc.Trust.Mediation
import Peerc.Handshake.Keys
import Peerc.Handshake.Taint
import Peerc.Transport.Capacity
import Peerc.Group.Threshold
import Peerc.Group.Requests
import Peerc.Vault.History
import Peerc.Vault.CriticalKey
import Peerc.Identity.Storage
import Peerc.Vault.StepUp
import Peerc.Vault.ExportCommand
import Peerc.Connectivity.ActiveMember
import Peerc.Connectivity.Announce
import Peerc.Transport.RelayedSend
import Peerc.Channel.Rejected
import Peerc.Handshake.Escapes
import Peerc.Connectivity.LinkErrors
import Peerc.Group.Stored
import Peerc.Group.Policies
import Peerc.Group.JoinResponse
import Peerc.Transfer.ChunkFrame
import Peerc.Protocol.ErrorMessages
import Peerc.Logging.Setup
import Peerc.Discovery.Registry
import Peerc.Vault.RecoveryCode
import Peerc.Transfer.SafeNames
import Peerc.Transfer.Standalone
import Peerc.Tasks.Registry
