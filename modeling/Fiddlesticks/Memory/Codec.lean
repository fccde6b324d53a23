import Fiddlesticks.Memory.Types

/-!
# Column encodings

How the database backends write timestamps, versions, statuses, shells, roles and string lists to
columns, and how they read them back.
-/

namespace Fiddlesticks.Memory

open Provider

/-! ## Timestamps -/

/-- `encode_system_time`. -/
def encodeSystemTime (value : SystemTime) : Except MemoryError (Int64 × Int64) :=
  if value.secs < 0 then
    .error (.invalidRequest
      "timestamp predates unix epoch: second time provided was later than self")
  else .ok (value.secs, Int64.ofNat value.nanos)

/-- `decode_system_time`. -/
def decodeSystemTime (seconds nanos : Int64) : Except MemoryError SystemTime :=
  if seconds < 0 then
    .error (.storage s!"timestamp seconds must be non-negative, got {seconds}")
  else if hnanos : 0 ≤ nanos.toInt ∧ nanos.toInt < 1000000000 then
    .ok ⟨seconds, ⟨nanos.toInt.toNat, by omega⟩⟩
  else .error (.storage s!"timestamp nanos must be in [0, 1_000_000_000), got {nanos}")

/-- A time after the epoch is encoded by its seconds and nanoseconds. -/
theorem encodeSystemTime_eq {value : SystemTime} (hvalue : value.AfterEpoch) :
    encodeSystemTime value = .ok (value.secs, Int64.ofNat value.nanos) := by
  have hsecs : ¬ value.secs < 0 := Int64.not_lt.mpr hvalue
  rw [encodeSystemTime, if_neg hsecs]

/-- The timestamps of a progress entry. -/
def ProgressEntry.timestamps (entry : ProgressEntry) : List SystemTime :=
  [entry.createdAt]

/-- The timestamps of a checkpoint. -/
def RunCheckpoint.timestamps (checkpoint : RunCheckpoint) : List SystemTime :=
  checkpoint.startedAt :: checkpoint.completedAt.toList

/-- A timestamp that is written is read back. -/
theorem decodeSystemTime_of_encode {value : SystemTime} {seconds nanos : Int64}
    (h : encodeSystemTime value = .ok (seconds, nanos)) :
    decodeSystemTime seconds nanos = .ok value := by
  rw [encodeSystemTime] at h
  split at h
  · cases h
  · rename_i hsecs
    cases h
    have hbound := value.nanos.isLt
    have hnanos : (Int64.ofNat value.nanos).toInt = value.nanos :=
      Int64.toInt_ofNat_of_lt (by omega)
    rw [decodeSystemTime, if_neg hsecs, dif_pos (by omega)]
    simp only [hnanos, Int.toNat_natCast]

/-! ## Numbers and flags -/

/-- `i64::from(schema_version)`. -/
def encodeSchemaVersion (version : UInt32) : Int64 :=
  version.toUInt64.toInt64

/-- `schema_version as u32`. -/
def decodeSchemaVersion (column : Int64) : UInt32 :=
  column.toUInt64.toUInt32

/-- A schema version that is written is read back. -/
theorem decodeSchemaVersion_encode (version : UInt32) :
    decodeSchemaVersion (encodeSchemaVersion version) = version := by
  simp [decodeSchemaVersion, encodeSchemaVersion]

/-- `if feature.passes { 1_i64 } else { 0_i64 }`. -/
def encodePasses (passes : Bool) : Int64 :=
  if passes then 1 else 0

/-- `passes_int != 0`. -/
def decodePasses (column : Int64) : Bool :=
  column != 0

/-- Decoding inverts encoding. -/
@[simp] theorem decodePasses_encode (passes : Bool) :
    decodePasses (encodePasses passes) = passes := by
  cases passes <;> rfl

/-! ## Names -/

/-- `run_status_to_str`. -/
def runStatusToStr : RunStatus → String
  | .inProgress => "in_progress"
  | .succeeded => "succeeded"
  | .failed => "failed"

/-- `run_status_from_str`. -/
def runStatusFromStr (value : String) : Except MemoryError RunStatus :=
  match value with
  | "in_progress" => .ok .inProgress
  | "succeeded" => .ok .succeeded
  | "failed" => .ok .failed
  | _ => .error (.storage s!"unknown run status value '{value}'")

/-- Reading a run status inverts writing it. -/
@[simp] theorem runStatusFromStr_toStr (status : RunStatus) :
    runStatusFromStr (runStatusToStr status) = .ok status := by
  cases status <;> rfl

/-- `init_shell_to_str`. -/
def initShellToStr : InitShell → String
  | .bash => "bash"
  | .sh => "sh"
  | .pwsh => "pwsh"
  | .cmd => "cmd"

/-- `init_shell_from_str`. -/
def initShellFromStr (value : String) : Except MemoryError InitShell :=
  match value with
  | "bash" => .ok .bash
  | "sh" => .ok .sh
  | "pwsh" => .ok .pwsh
  | "cmd" => .ok .cmd
  | _ => .error (.storage s!"unknown init shell value '{value}'")

/-- Reading a shell inverts writing it. -/
@[simp] theorem initShellFromStr_toStr (shell : InitShell) :
    initShellFromStr (initShellToStr shell) = .ok shell := by
  cases shell <;> rfl

/-- `role_to_str`. -/
def roleToStr : Role → String
  | .system => "system"
  | .user => "user"
  | .assistant => "assistant"
  | .tool => "tool"

/-- `role_from_str`. -/
def roleFromStr (value : String) : Except MemoryError Role :=
  match value with
  | "system" => .ok .system
  | "user" => .ok .user
  | "assistant" => .ok .assistant
  | "tool" => .ok .tool
  | _ => .error (.storage s!"unknown transcript role value '{value}'")

/-- Reading a role inverts writing it. -/
@[simp] theorem roleFromStr_toStr (role : Role) : roleFromStr (roleToStr role) = .ok role := by
  cases role <;> rfl

/-! ## String lists -/

/-- `serde_json` on lists of strings: a text that is written is read back. -/
structure StringListJson where
  toString : List String → String
  fromStr : String → Except String (List String)
  fromStr_toString : ∀ strings, fromStr (toString strings) = .ok strings

end Fiddlesticks.Memory
