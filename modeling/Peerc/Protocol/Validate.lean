import Peerc.Lib.Decoded
import Peerc.Messaging.Session

/-!
The schema check of a decoded message. A message of an unknown type passes as it is.
-/
namespace Peerc.Protocol
open List Decoded Messaging

inductive Field where
  | type | version | messageId | senderId | senderName | text | transferId | filename | size
  | checksum | resumeOffset | chunkIndex | data | isLast | success | sequence | offset | peerId
  | tcpPort | deviceId | publicKey | ephemeralKey | nonce | signature | requestId | groupId
  | devicePublicKey | requestedRole | requestedPermissions | timestamp | approved | adminDeviceId
  | certificate | revocation | revocationId | revokedBy | fileId | capabilityId | issuedAt
  | expiresAt | kind | host | port | endpointUpdate | targetDeviceId | accepted | available
  | code | message | context | retryAfter | peerDeviceId | destName | committed | createdAt
  | updatedAt
  | other (name : Str)
  deriving DecidableEq

abbrev Value := Decoded.Value Field
abbrev Fields := List (Field × Value)

open Value

variable (message : Fields)

def entry (field : Field) : Option Value := List.lookup field message

def has (field : Field) : Bool := (entry message field).isSome

/-- The types that validate_message knows, the type of a decoded binary frame, and all others. -/
inductive MessageType where
  | chat | chatAck | fileOffer | fileAccept | fileReject | fileChunk | fileDone | fileCompleteAck
  | hello | helloAck | handshakeInit | handshakeResponse | handshakeFinish | groupJoinRequest
  | groupJoinResponse | groupLeaveRequest | groupLeaveResponse | groupMembershipRevoke
  | groupExportRequest | groupExportCapability | endpointUpdate | rendezvousRegister
  | rendezvousLookup | rendezvousLookupResponse | relayRequest | relayResponse
  | relayCandidateQuery | relayCandidateResponse | error | fileData | other
  deriving DecidableEq

def messageTypes : List (String × MessageType) :=
  [("chat", .chat), ("chat_ack", .chatAck), ("file_offer", .fileOffer),
    ("file_accept", .fileAccept), ("file_reject", .fileReject), ("file_chunk", .fileChunk),
    ("file_done", .fileDone), ("file_complete_ack", .fileCompleteAck), ("hello", .hello),
    ("hello_ack", .helloAck), ("handshake_init", .handshakeInit),
    ("handshake_response", .handshakeResponse), ("handshake_finish", .handshakeFinish),
    ("group_join_request", .groupJoinRequest), ("group_join_response", .groupJoinResponse),
    ("group_leave_request", .groupLeaveRequest), ("group_leave_response", .groupLeaveResponse),
    ("group_membership_revoke", .groupMembershipRevoke),
    ("group_export_request", .groupExportRequest),
    ("group_export_capability", .groupExportCapability), ("endpoint_update", .endpointUpdate),
    ("rendezvous_register", .rendezvousRegister), ("rendezvous_lookup", .rendezvousLookup),
    ("rendezvous_lookup_response", .rendezvousLookupResponse), ("relay_request", .relayRequest),
    ("relay_response", .relayResponse), ("relay_candidate_query", .relayCandidateQuery),
    ("relay_candidate_response", .relayCandidateResponse), ("error", .error),
    ("file_data", .fileData)]

def typeName (name : String) : Str := ofText name.toList

def MessageType.ofStr (s : Str) : MessageType :=
  ((messageTypes.find? (fun row => typeName row.1 = s)).map Prod.snd).getD .other

/-- message.get("type") as the dispatch of the sessions compares it. -/
def kindOf : MessageType :=
  match entry message .type with
  | some (.str s) => MessageType.ofStr s
  | _ => .other

def requiredFields : MessageType → Option (List Field)
  | .chat => some [.messageId, .senderId, .senderName, .text]
  | .chatAck => some [.messageId]
  | .fileOffer => some [.transferId, .filename, .size, .checksum]
  | .fileAccept => some [.transferId]
  | .fileReject => some [.transferId]
  | .fileChunk => some [.transferId, .chunkIndex, .data, .isLast]
  | .fileDone => some [.transferId, .checksum]
  | .fileCompleteAck => some [.transferId, .success]
  | .hello => some [.peerId, .senderName, .tcpPort]
  | .helloAck => some [.peerId, .senderName, .tcpPort]
  | .handshakeInit => some [.deviceId, .publicKey, .ephemeralKey, .nonce, .senderName]
  | .handshakeResponse =>
      some [.deviceId, .publicKey, .ephemeralKey, .nonce, .senderName, .signature]
  | .handshakeFinish => some [.signature]
  | .groupJoinRequest => some [.requestId, .groupId, .deviceId, .devicePublicKey, .requestedRole,
      .requestedPermissions, .timestamp, .signature]
  | .groupJoinResponse => some [.requestId, .groupId, .deviceId, .approved, .adminDeviceId,
      .timestamp, .signature]
  | .groupLeaveRequest => some [.requestId, .groupId, .deviceId, .timestamp, .signature]
  | .groupLeaveResponse => some [.requestId, .groupId, .deviceId, .approved, .adminDeviceId,
      .timestamp, .signature]
  | .groupMembershipRevoke =>
      some [.revocationId, .groupId, .deviceId, .revokedBy, .timestamp, .signature]
  | .groupExportRequest => some [.requestId, .groupId, .deviceId, .devicePublicKey, .fileId,
      .timestamp, .signature]
  | .groupExportCapability => some [.capabilityId, .requestId, .groupId, .deviceId, .fileId,
      .issuedAt, .expiresAt, .nonce, .adminDeviceId, .signature]
  | .endpointUpdate => some [.deviceId, .kind, .host, .port, .timestamp, .nonce, .signature]
  | .rendezvousRegister => some [.groupId, .endpointUpdate, .timestamp]
  | .rendezvousLookup => some [.groupId, .targetDeviceId, .timestamp]
  | .rendezvousLookupResponse => some [.groupId, .targetDeviceId, .endpointUpdate, .timestamp]
  | .relayRequest => some [.groupId, .targetDeviceId, .timestamp]
  | .relayResponse => some [.groupId, .targetDeviceId, .accepted, .timestamp]
  | .relayCandidateQuery => some [.groupId, .timestamp]
  | .relayCandidateResponse => some [.groupId, .available, .timestamp]
  | .error => some [.code, .message]
  | .fileData => none
  | .other => none

/-! ## Checks of single fields -/

inductive Complaint where
  | notAnObject | missingType | versionNotInt | versionTooOld | missingFields (missing : List Field)
  | wrongType | notString | notNonEmptyString | tooLong | notNonNegativeInt | outOfRange
  | notRecognized | notNumeric | notList | notOnlyStrings | notBool | requiresObject
  deriving DecidableEq

structure ProtocolError where
  kind : MessageType
  path : List Field
  complaint : Complaint
  deriving DecidableEq

structure Check where
  holds : Bool
  error : ProtocolError

def firstFailure (checks : List Check) : Option ProtocolError :=
  (checks.find? (fun check => !check.holds)).map Check.error

def isNonEmptyStr (v : Option Value) : Bool := (v.bind str?).any (fun s => !s.isEmpty)

def isNumeric (v : Option Value) : Bool := (v.bind number).isSome

section Checks
variable (kind : MessageType) (message : Fields) (field : Field)

def checkStr : Check :=
  ⟨((entry message field).bind str?).isSome, ⟨kind, [field], .notString⟩⟩

def checkNonEmptyStr : Check :=
  ⟨isNonEmptyStr (entry message field), ⟨kind, [field], .notNonEmptyString⟩⟩

/-- A bool passes. -/
def checkNonNegativeInt : Check :=
  ⟨((entry message field).bind int?).any (fun i => 0 ≤ i), ⟨kind, [field], .notNonNegativeInt⟩⟩

variable (path : List Field) (v : Option Value)

def checkPort : Check :=
  ⟨(v.bind int?).any (fun i => 0 < i && i < 65536), ⟨kind, path, .outOfRange⟩⟩

def checkKind : Check :=
  ⟨(v.bind str?).any (fun s =>
    s = typeName "direct-v4" || s = typeName "direct-v6" || s = typeName "rendezvous"),
    ⟨kind, path, .notRecognized⟩⟩

def checkBool : Check :=
  ⟨(entry message field).any isBool, ⟨kind, [field], .notBool⟩⟩

def checkNumeric : Check :=
  ⟨isNumeric v && !v.any isBool, ⟨kind, path, .notNumeric⟩⟩

def endpointUpdateChecks (update : Fields) : List Check :=
  ([Field.deviceId, .kind, .host, .nonce, .signature].map (fun field =>
    ⟨isNonEmptyStr (entry update field), ⟨kind, [.endpointUpdate, field], .notNonEmptyString⟩⟩)) ++
    [checkPort kind [.endpointUpdate, .port] (entry update .port),
      checkKind kind [.endpointUpdate, .kind] (entry update .kind),
      checkNumeric kind [.endpointUpdate, .timestamp] (entry update .timestamp)]

/-- The nested record of a rendezvous message, or none when null is allowed and sent. -/
def nestedUpdateChecks (nullable : Bool) : List Check :=
  match entry message .endpointUpdate with
  | some (.dict update) => endpointUpdateChecks kind update
  | some .null => if nullable then [] else [⟨false, ⟨kind, [.endpointUpdate], .requiresObject⟩⟩]
  | _ => [⟨false, ⟨kind, [.endpointUpdate], .requiresObject⟩⟩]

def groupChecks : List Check :=
  (([Field.groupId, .deviceId, .signature].filter (has message)).map
    (checkNonEmptyStr kind message)) ++
    (if has message .timestamp then
      [⟨isNumeric (entry message .timestamp), ⟨kind, [.timestamp], .notNumeric⟩⟩] else [])

/-- An approving response carries the record it grants. -/
def approvalChecks (record : Field) : List Check :=
  [checkBool kind message .approved, checkNonEmptyStr kind message .adminDeviceId,
    ⟨!(entry message .approved).any truthy || (entry message record).any isDict,
      ⟨kind, [record], .requiresObject⟩⟩]

def permissionChecks : List Check :=
  match entry message .requestedPermissions with
  | some (.list items) =>
      [⟨items.all (fun item => item.str?.isSome), ⟨kind, [.requestedPermissions], .notOnlyStrings⟩⟩]
  | _ => [⟨false, ⟨kind, [.requestedPermissions], .notList⟩⟩]

end Checks

/-! ## Error messages -/

def maxErrorMessageLen : Nat := 512
def maxCodeLen : Nat := 64
def maxContextIdLen : Nat := 128
def maxRetryAfterSeconds : Int := 3600

def errorCodes : List (String × Transfer.ErrorCode) :=
  [("AUTH_FAILED", .authFailed), ("POLICY_DENIED", .policyDenied),
    ("PROTOCOL_MISMATCH", .protocolMismatch), ("INVALID_FRAME", .invalidFrame),
    ("INVALID_STATE", .invalidState), ("TRANSFER_NOT_FOUND", .transferNotFound),
    ("SIZE_EXCEEDED", .sizeExceeded), ("DISK_FULL", .diskFull),
    ("CHECKSUM_MISMATCH", .checksumMismatch), ("TRANSFER_EXPIRED", .transferExpired),
    ("RATE_LIMITED", .rateLimited), ("INTERNAL_ERROR", .internalError)]

def isIdChar (c : Fin 0x110000) : Bool :=
  let n := c.val
  (65 ≤ n && n ≤ 90) || (97 ≤ n && n ≤ 122) || (48 ≤ n && n ≤ 57) || n = 95 || n = 46 || n = 58 ||
    n = 45

/-- The pattern of the source also admits one newline at the end. -/
def isContextId (s : Str) : Bool :=
  let body := if s.getLast?.any (fun c => c.val = 10) then s.dropLast else s
  1 ≤ body.length && body.length ≤ maxContextIdLen && body.all isIdChar

def filterContext : Option Value → Fields
  | some (.dict context) =>
      ([Field.messageId, .transferId, .groupId].filterMap (fun key =>
        match entry context key with
        | some (.str s) => if isContextId s then some (key, .str s) else none
        | _ => none)) ++
        (match entry context .retryAfter with
        | some retry =>
            if !retry.isBool && retry.number.any (fun x =>
                (Number.finite 0).lt x && !(Number.finite (maxRetryAfterSeconds * unit)).lt x) then
              [(.retryAfter, retry)]
            else []
        | none => [])
  | _ => []

structure ErrorInfo where
  code : Transfer.ErrorCode
  known : Bool
  context : Fields

variable (message : Fields)

def errorChecks : List Check :=
  [⟨(entry message .type).any (fun v => v.str? = some (typeName "error")),
    ⟨.error, [], .wrongType⟩⟩,
    ⟨((entry message .code).bind str?).any (fun s => !s.isEmpty && s.length ≤ maxCodeLen),
      ⟨.error, [.code], .notNonEmptyString⟩⟩,
    checkStr .error message .message,
    ⟨((entry message .message).bind str?).any (fun s => s.length ≤ maxErrorMessageLen),
      ⟨.error, [.message], .tooLong⟩⟩,
    ⟨match entry message .context with
      | none => true
      | some .null => true
      | some v => v.isDict, ⟨.error, [.context], .requiresObject⟩⟩]

def parseErrorMessage : Except ProtocolError ErrorInfo :=
  match firstFailure (errorChecks message) with
  | some failure => .error failure
  | none =>
      let code := ((entry message .code).bind str?).bind (fun s =>
        (errorCodes.find? (fun row => typeName row.1 = s)).map Prod.snd)
      .ok ⟨code.getD .internalError, code.isSome, filterContext (entry message .context)⟩

/-! ## validate_message -/

variable (kind : MessageType)

def typeChecks : List Check :=
  match kind with
  | .error => errorChecks message
  | .chat =>
      [checkStr kind message .text,
        ⟨((entry message .text).bind str?).any (fun s => replacedSize s ≤ maxChatTextSize),
          ⟨kind, [.text], .tooLong⟩⟩]
  | .fileOffer =>
      [checkNonEmptyStr kind message .filename, checkNonNegativeInt kind message .size,
        checkNonEmptyStr kind message .checksum]
  | .fileAccept =>
      if has message .resumeOffset then
        [⟨((entry message .resumeOffset).bind int?).any (fun i => 0 ≤ i) &&
          !(entry message .resumeOffset).any isBool, ⟨kind, [.resumeOffset], .notNonNegativeInt⟩⟩]
      else []
  | .fileChunk =>
      [checkNonNegativeInt kind message .chunkIndex, checkStr kind message .data]
  | .hello => [checkPort kind [.tcpPort] (entry message .tcpPort)]
  | .helloAck => [checkPort kind [.tcpPort] (entry message .tcpPort)]
  | .endpointUpdate =>
      [checkPort kind [.port] (entry message .port), checkKind kind [.kind] (entry message .kind)]
  | .handshakeInit =>
      ([Field.deviceId, .publicKey, .ephemeralKey, .nonce].map (checkNonEmptyStr kind message)) ++
        [checkStr kind message .senderName]
  | .handshakeResponse =>
      ([Field.deviceId, .publicKey, .ephemeralKey, .nonce].map (checkNonEmptyStr kind message)) ++
        [checkStr kind message .senderName, checkNonEmptyStr kind message .signature]
  | .handshakeFinish => [checkNonEmptyStr kind message .signature]
  | .groupJoinRequest =>
      groupChecks kind message ++ [checkNonEmptyStr kind message .devicePublicKey,
        checkNonEmptyStr kind message .requestedRole] ++ permissionChecks kind message
  | .groupJoinResponse => groupChecks kind message ++ approvalChecks kind message .certificate
  | .groupLeaveRequest => groupChecks kind message
  | .groupLeaveResponse => groupChecks kind message ++ approvalChecks kind message .revocation
  | .groupMembershipRevoke =>
      groupChecks kind message ++
        [checkNonEmptyStr kind message .revocationId, checkNonEmptyStr kind message .revokedBy]
  | .groupExportRequest =>
      groupChecks kind message ++
        [checkNonEmptyStr kind message .devicePublicKey, checkNonEmptyStr kind message .fileId]
  | .groupExportCapability =>
      groupChecks kind message ++
        ([Field.capabilityId, .fileId, .nonce, .adminDeviceId].map
          (checkNonEmptyStr kind message)) ++
        [checkNumeric kind [.issuedAt] (entry message .issuedAt),
          checkNumeric kind [.expiresAt] (entry message .expiresAt)]
  | .rendezvousRegister =>
      checkNonEmptyStr kind message .groupId :: nestedUpdateChecks kind message false
  | .rendezvousLookup =>
      [checkNonEmptyStr kind message .groupId, checkNonEmptyStr kind message .targetDeviceId]
  | .rendezvousLookupResponse =>
      [checkNonEmptyStr kind message .groupId, checkNonEmptyStr kind message .targetDeviceId] ++
        nestedUpdateChecks kind message true
  | .relayRequest =>
      [checkNonEmptyStr kind message .groupId, checkNonEmptyStr kind message .targetDeviceId]
  | .relayResponse =>
      [checkNonEmptyStr kind message .groupId, checkNonEmptyStr kind message .targetDeviceId,
        checkBool kind message .accepted]
  | .relayCandidateQuery => [checkNonEmptyStr kind message .groupId]
  | .relayCandidateResponse =>
      [checkNonEmptyStr kind message .groupId, checkBool kind message .available]
  | .chatAck => []
  | .fileReject => []
  | .fileDone => []
  | .fileCompleteAck => []
  | .fileData => []
  | .other => []

def minSupportedVersion : Int := 1

def checkVersion : Option ProtocolError :=
  match ((entry message .version).getD (.int 1)).int? with
  | none => some ⟨kind, [.version], .versionNotInt⟩
  | some version =>
      if version < minSupportedVersion then some ⟨kind, [.version], .versionTooOld⟩ else none

def validateFields : Option ProtocolError :=
  match requiredFields kind with
  | none => none
  | some required =>
      let missing := required.filter (fun field => !has message field)
      if missing ≠ [] then some ⟨kind, [], .missingFields missing⟩
      else firstFailure (typeChecks message kind)

def validateMessage : Value → Except ProtocolError Fields
  | .dict message =>
      if isNonEmptyStr (entry message .type) then
        match checkVersion message (kindOf message), validateFields message (kindOf message) with
        | some failure, _ => .error failure
        | none, some failure => .error failure
        | none, none => .ok message
      else .error ⟨.other, [.type], .missingType⟩
  | _ => .error ⟨.other, [], .notAnObject⟩

/-! ## What an accepted message has -/

theorem first_failure_none {checks : List Check} (clean : firstFailure checks = none) :
    ∀ check ∈ checks, check.holds = true := by
  intro check member
  rw [firstFailure, Option.map_eq_none_iff, find?_eq_none] at clean
  simpa using clean check member

variable {message : Fields} {value : Value}

theorem validated (accepted : validateMessage value = .ok message) :
    value = .dict message ∧ validateFields message (kindOf message) = none := by
  cases value with
  | dict =>
    simp only [validateMessage] at accepted
    split at accepted
    · split at accepted
      · cases accepted
      · cases accepted
      · rename_i passed
        cases accepted
        exact ⟨rfl, passed⟩
    · cases accepted
  | _ => cases accepted

theorem validated_schema (accepted : validateMessage value = .ok message) {required : List Field}
    (known : requiredFields (kindOf message) = some required) :
    (∀ field ∈ required, ∃ v, entry message field = some v) ∧
      ∀ check ∈ typeChecks message (kindOf message), check.holds = true := by
  have passed := (validated accepted).2
  unfold validateFields at passed
  rw [known] at passed
  dsimp only at passed
  split at passed
  · cases passed
  · rename_i complete
    refine ⟨?_, first_failure_none passed⟩
    intro field member
    by_contra absent
    apply complete
    intro empty
    have filtered : field ∈ required.filter (fun field => !has message field) := by
      refine mem_filter.mpr ⟨member, ?_⟩
      have missing : entry message field = none := by
        cases found : entry message field with
        | none => rfl
        | some v => exact absurd ⟨v, found⟩ absent
      rw [has, missing]
      rfl
    rw [empty] at filtered
    cases filtered

theorem str_of_non_empty {v : Option Value} (holds : isNonEmptyStr v = true) :
    ∃ s, v = some (.str s) := by
  rcases v with _ | v
  · cases holds
  · cases v with
    | str s => exact ⟨s, rfl⟩
    | _ => cases holds

end Peerc.Protocol
