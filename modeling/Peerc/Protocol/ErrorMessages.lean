import Peerc.Protocol.Validate

/-!
Error messages from the builder to the parser. The pattern for an id ends in $, which in Python
also matches before a newline at the end of the text.
-/
namespace Peerc.Protocol
open List Decoded Transfer

def maxSentMessageLen : Nat := 200

def errorValue (code : ErrorCode) : String :=
  ((errorCodes.find? (fun row => row.2 = code)).map Prod.fst).getD ""

def contractText : ErrorCode → String
  | .authFailed => "The peer did not permit that request."
  | .policyDenied => "A policy on the peer's side denied that request."
  | .protocolMismatch => "The peer cannot process that request with its current version."
  | .invalidFrame => "The peer could not understand a message that was sent to it."
  | .invalidState => "That request does not fit what the peer is currently doing."
  | .transferNotFound => "The requested transfer is no longer available."
  | .sizeExceeded => "That transfer is larger than the peer allows."
  | .diskFull => "The peer does not have enough free space."
  | .checksumMismatch => "The received file failed verification."
  | .transferExpired => "That transfer offer has expired."
  | .rateLimited => "The peer is temporarily limiting requests."
  | .internalError => "The peer hit an unexpected problem."

def suspiciousPatterns : List String :=
  ["traceback \\(most recent call", "file \"[^\"]+\", line \\d+",
    "(^|[\\s'\"(])(/[\\w.\\-]+)\x7b2,\x7d", "[A-Za-z]:\\\\[\\w\\\\.\\-]+",
    "\\b\\d\x7b1,3\x7d(\\.\\d\x7b1,3\x7d)\x7b3\x7d(:\\d+)?\\b", "\\b[0-9a-f]\x7b32,\x7d\\b",
    "[A-Za-z0-9+/_\\-]\x7b40,\x7d=\x7b0,2\x7d", "\\b\\w+(Error|Exception)\\b:"]

def isControl (c : Fin 0x110000) : Bool := c.val < 32 || (127 ≤ c.val && c.val < 160)

variable (search : String → Str → Bool)

/-- search is re.search without regard to case. -/
def isSafeMessage (text : Str) : Bool :=
  text.any (fun c => !isSpace c) && text.length ≤ maxSentMessageLen &&
    !text.any isControl && !suspiciousPatterns.any (fun pattern => search pattern text)

def sentText (code : ErrorCode) (message : Option Str) : Str :=
  (message.filter (isSafeMessage search)).getD (typeName (contractText code))

def buildError (code : ErrorCode) (message : Option Str) (context : Option Value) : Fields :=
  [(.type, .str (typeName "error")), (.version, .int 2), (.code, .str (typeName (errorValue code))),
    (.message, .str (sentText search code message))] ++
    match filterContext context with
    | [] => []
    | kept => [(.context, .dict kept)]

def PlainId (s : Str) : Prop := 1 ≤ s.length ∧ s.length ≤ maxContextIdLen ∧ s.all isIdChar = true

variable (context : Fields)

def keptId (key : Field) : Option (Field × Value) :=
  match entry context key with
  | some (.str s) => if isContextId s then some (key, .str s) else none
  | _ => none

def keptRetry : Fields :=
  match entry context .retryAfter with
  | some retry =>
      if !retry.isBool && retry.number.any (fun x =>
          (Number.finite 0).lt x && !(Number.finite (maxRetryAfterSeconds * unit)).lt x) then
        [(.retryAfter, retry)]
      else []
  | none => []

theorem filter_context_dict : filterContext (some (.dict context)) =
    [Field.messageId, .transferId, .groupId].filterMap (keptId context) ++ keptRetry context := rfl

theorem kept_id_cases (key : Field) : keptId context key = none ∨
    ∃ s, isContextId s = true ∧ keptId context key = some (key, .str s) := by
  unfold keptId
  split
  · rename_i s _
    by_cases plain : isContextId s = true
    · exact .inr ⟨s, plain, if_pos plain⟩
    · exact .inl (if_neg plain)
  · exact .inl rfl

theorem entry_kept (context tail : Fields) (keys : List Field) (key : Field) :
    entry (keys.filterMap (keptId context) ++ tail) key =
      if key ∈ keys ∧ keptId context key ≠ none then (keptId context key).map Prod.snd
      else entry tail key := by
  induction keys with
  | nil => simp
  | cons first keys ih =>
    rcases kept_id_cases context first with none | ⟨s, _, some⟩
    · rw [filterMap_cons_none none, ih]
      by_cases same : key = first
      · simp [same, none]
      · simp [same]
    · rw [filterMap_cons_some some, cons_append]
      by_cases same : key = first
      · simp [entry, same, some]
      · have other : (key == first) = false := by simpa using same
        unfold entry at ih ⊢
        rw [lookup_cons, other, ih]
        simp [same]

theorem kept_retry_cases : keptRetry context = [] ∨
    ∃ retry, keptRetry context = [(.retryAfter, retry)] ∧
      keptRetry [(.retryAfter, retry)] = [(.retryAfter, retry)] := by
  cases here : entry context .retryAfter with
  | none => exact .inl (by rw [keptRetry, here])
  | some retry =>
    by_cases fits : (!retry.isBool && retry.number.any (fun x =>
        (Number.finite 0).lt x && !(Number.finite (maxRetryAfterSeconds * unit)).lt x)) = true
    · exact .inr ⟨retry, by rw [keptRetry, here]; exact if_pos fits, if_pos fits⟩
    · exact .inl (by rw [keptRetry, here]; exact if_neg fits)

theorem filter_context_idempotent (context : Option Value) :
    filterContext (some (.dict (filterContext context))) = filterContext context := by
  rcases context with _ | (_ | _ | _ | _ | _ | _ | context)
  case some.dict =>
    have look := entry_kept context (keptRetry context) [.messageId, .transferId, .groupId]
    have others : ∀ key, key ≠ .retryAfter → entry (keptRetry context) key = none := by
      intro key other
      rcases kept_retry_cases context with empty | ⟨retry, single, _⟩
      · rw [empty]
        rfl
      · simp [single, entry, other]
    have again : keptRetry (keptRetry context) = keptRetry context := by
      rcases kept_retry_cases context with empty | ⟨retry, single, same⟩
      · rw [empty]
        rfl
      · rw [single, same]
    rw [filter_context_dict, filter_context_dict]
    congr 1
    · apply filterMap_congr
      intro key listed
      rcases kept_id_cases context key with none | ⟨s, plain, some⟩
      · have absent : key ≠ .retryAfter := by rintro rfl; simp at listed
        rw [none, keptId, look key, if_neg (by simp [none]), others key absent]
      · rw [some, keptId, look key, if_pos ⟨listed, by simp [some]⟩, some]
        exact if_pos plain
    · rw [keptRetry, look, if_neg (by simp)]
      exact again
  all_goals rfl

theorem error_value_read (code : ErrorCode) : (typeName (errorValue code)).isEmpty = false ∧
    (typeName (errorValue code)).length ≤ maxCodeLen ∧ errorCodes.find? (fun row =>
      typeName row.1 = typeName (errorValue code)) = some (errorValue code, code) := by
  cases code <;> decide

theorem sent_text_short (code : ErrorCode) (message : Option Str) :
    (sentText search code message).length ≤ maxErrorMessageLen := by
  unfold sentText
  cases safe : message.filter (isSafeMessage search) with
  | none => cases code <;> decide
  | some text =>
    have passed := (Option.filter_eq_some_iff.mp safe).2
    simp only [isSafeMessage, Bool.and_eq_true, decide_eq_true_eq] at passed
    exact passed.1.1.2.trans (by decide)

theorem parse_built (code : ErrorCode) (message : Option Str) (context : Option Value) :
    parseErrorMessage (buildError search code message context) =
      .ok ⟨code, true, filterContext context⟩ := by
  obtain ⟨named, short, read⟩ := error_value_read code
  have brief := sent_text_short search code message
  have kind : entry (buildError search code message context) .type =
      some (.str (typeName "error")) := rfl
  have value : entry (buildError search code message context) .code =
      some (.str (typeName (errorValue code))) := rfl
  have text : entry (buildError search code message context) .message =
      some (.str (sentText search code message)) := rfl
  have kept : (entry (buildError search code message context) .context = none ∧
      filterContext none = filterContext context) ∨
      entry (buildError search code message context) .context =
        some (.dict (filterContext context)) := by
    unfold buildError
    cases filterContext context with
    | nil => exact .inl ⟨rfl, rfl⟩
    | cons => exact .inr rfl
  rcases kept with ⟨none, empty⟩ | some
  · simp [parseErrorMessage, firstFailure, errorChecks, checkStr, kind, value, text, none, empty,
      named, short, brief, read, Value.str?]
  · simp [parseErrorMessage, firstFailure, errorChecks, checkStr, kind, value, text, some, named,
      short, brief, read, Value.str?, Value.isDict, filter_context_idempotent]

def EndsLine (s : Str) : Prop := s.getLast?.any (fun c => c.val = 10) = true

theorem plain_id_iff {s : Str} (kept : isContextId s = true) : PlainId s ↔ ¬ EndsLine s := by
  unfold isContextId at kept
  constructor
  · intro plain ends
    cases last : s.getLast? with
    | none => simp [EndsLine, last] at ends
    | some c =>
      have newline : c.val = 10 := by simpa [EndsLine, last] using ends
      have listed := all_eq_true.mp plain.2.2 c (mem_of_getLast? last)
      simp [isIdChar, newline] at listed
  · intro whole
    simp only [EndsLine] at whole
    simpa [whole, PlainId, and_assoc] using kept

theorem error_messages_closed (search : String → Str → Bool) (code : ErrorCode)
    (message : Option Str) (context : Option Value) :
    parseErrorMessage (buildError search code message context) =
        .ok ⟨code, true, filterContext context⟩ ∧
      filterContext (some (.dict (filterContext context))) = filterContext context ∧
      ∀ key s, (key, Value.str s) ∈ filterContext context → (PlainId s ↔ ¬ EndsLine s) := by
  refine ⟨parse_built search code message context, filter_context_idempotent context, ?_⟩
  intro key s member
  rcases context with _ | (_ | _ | _ | _ | _ | _ | context)
  case some.dict =>
    rw [filter_context_dict] at member
    rcases mem_append.mp member with id | retry
    · obtain ⟨_, _, found⟩ := mem_filterMap.mp id
      rcases kept_id_cases context _ with none | ⟨t, plain, some⟩
      · rw [none] at found
        cases found
      · rw [some] at found
        cases found
        exact plain_id_iff plain
    · rcases kept_retry_cases context with empty | ⟨_, single, again⟩
      · rw [empty] at retry
        cases retry
      · rw [single] at retry
        cases mem_singleton.mp retry
        cases again
  all_goals cases member

section Sample

def lineId : Str := typeName "m1\n"

theorem newline_kept : (Field.messageId, Value.str lineId) ∈
    filterContext (some (.dict [(.messageId, .str lineId)])) ∧ ¬ PlainId lineId := by
  exact ⟨.head _, by unfold PlainId; decide⟩

end Sample
end Peerc.Protocol
