import Peerc.Lib.Runs

/-!
The diagnostic log. The redacting filter hangs at the logger peerc, and a logger's filters run only
for records logged on that very logger; records of the loggers below reach the handler unfiltered.
-/
namespace Peerc.Logging
open List Runs

def forbiddenExtraFields : List String :=
  ["chat_content", "message_text", "file_content", "passphrase", "public_key", "private_key",
    "session_key", "dek", "recovery_code", "link_pin", "pin", "endpoint_link", "vault_plaintext",
    "plaintext", "raw_key", "secret"]

inductive FieldValue where
  | redacted
  | given (value : String)
  deriving DecidableEq

structure LogRecord where
  level : Nat
  fields : List (String × FieldValue)
  deriving DecidableEq

/-- Of the filters of the logger only whether they redact is kept. -/
inductive LogFilter where
  | redacting
  | other
  deriving DecidableEq

structure Handler where
  path : String
  managed : Bool
  deriving DecidableEq

/-- A name is the list of its parts, the last one first; level 0 is NOTSET. Loggers below peerc
have no filters or handlers, and propagate. -/
structure LogTree where
  handlers : List Handler
  filters : List LogFilter
  levels : List String → Nat

def redact (record : LogRecord) : LogRecord :=
  { record with
    fields := record.fields.map
      (fun f => if f.1 ∈ forbiddenExtraFields then (f.1, .redacted) else f) }

def LogFilter.filter : LogFilter → LogRecord → LogRecord
  | .redacting, record => redact record
  | .other, record => record

structure Configuration where
  diagnosticMode : Bool
  debug : Bool
  path : String

variable (tree : LogTree)

def configureLogging (c : Configuration) : LogTree where
  handlers := tree.handlers.filter (fun h => !h.managed) ++ [⟨c.path, true⟩]
  filters := if LogFilter.redacting ∈ tree.filters then tree.filters
    else tree.filters ++ [.redacting]
  levels := fun name =>
    if name = [] then (if c.debug then 10 else if c.diagnosticMode then 20 else 30)
    else tree.levels name

def effectiveLevel (levels : List String → Nat) : List String → Nat
  | [] => levels []
  | part :: parent =>
      if levels (part :: parent) = 0 then effectiveLevel levels parent else levels (part :: parent)

variable (name : List String)

def handle (record : LogRecord) : List (Handler × LogRecord) :=
  let filtered := if name = [] then tree.filters.foldl (fun r f => f.filter r) record else record
  tree.handlers.map (fun h => (h, filtered))

def log (record : LogRecord) : List (Handler × LogRecord) :=
  if effectiveLevel tree.levels name ≤ record.level then handle tree name record else []

def received (record : LogRecord) : List LogRecord :=
  ((log tree name record).filter (fun row => row.1.managed)).map Prod.snd

theorem redact_again (record : LogRecord) : redact (redact record) = redact record := by
  simp only [redact, map_map, LogRecord.mk.injEq, true_and]
  apply map_congr_left
  intro f _
  by_cases listed : f.1 ∈ forbiddenExtraFields <;> simp [listed]

theorem filters_redact (filters : List LogFilter) (record : LogRecord) :
    filters.foldl (fun r f => f.filter r) record =
      if LogFilter.redacting ∈ filters then redact record else record := by
  induction filters generalizing record with
  | nil => rfl
  | cons f _ ih =>
    rw [foldl_cons, ih]
    cases f with
    | redacting => simp [LogFilter.filter, redact_again]
    | other => simp [LogFilter.filter]

/-- Exactly if the record is logged on peerc itself or has nothing to redact. -/
theorem redaction_covers_iff (tree : LogTree) (calls : List Configuration) (last : Configuration)
    (name : List String) (record : LogRecord)
    (enabled : effectiveLevel (run configureLogging tree (calls ++ [last])).levels name ≤
      record.level) :
    received (run configureLogging tree (calls ++ [last])) name record = [redact record] ↔
      name = [] ∨ redact record = record := by
  rw [received, log, if_pos enabled, run_concat]
  generalize run configureLogging tree calls = before
  have attached : LogFilter.redacting ∈ (configureLogging before last).filters := by
    simp only [configureLogging]
    split
    · assumption
    · simp
  have once : (configureLogging before last).handlers.filter Handler.managed =
      [⟨last.path, true⟩] := by
    simp [configureLogging, filter_filter]
  have given : ((handle (configureLogging before last) name record).filter
      (fun row => row.1.managed)).map Prod.snd = [if name = [] then redact record else record] := by
    simp only [handle, filters_redact, if_pos attached, filter_map, Function.comp_def,
      once, map_cons, map_nil]
  rw [given, cons.injEq, and_iff_left rfl]
  by_cases top : name = []
  · simp [top]
  · simp [top, eq_comm]

section Sample

def unconfigured : LogTree := ⟨[], [], fun _ => 0⟩

def secretRecord : LogRecord :=
  ⟨30, [("operation", .given "send"), ("passphrase", .given "hunter2")]⟩

theorem peerc_redacts : received (run configureLogging unconfigured [⟨false, false, "log"⟩]) []
    secretRecord = [redact secretRecord] :=
  (redaction_covers_iff unconfigured [] ⟨false, false, "log"⟩ [] secretRecord (by decide)).mpr
    (.inl rfl)

theorem child_leaks : received (run configureLogging unconfigured [⟨false, false, "log"⟩]) ["vault"]
    secretRecord = [secretRecord] ∧ redact secretRecord ≠ secretRecord := by
  decide

end Sample
end Peerc.Logging
