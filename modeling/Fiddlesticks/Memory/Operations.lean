import Fiddlesticks.Effect.Correct
import Fiddlesticks.Memory.Backend
import Fiddlesticks.Memory.Codec

/-!
# Sequences of memory operations

What a caller owes a backend that encodes records, the answers and the final state of a backend
that runs operations one after the other, and clients that choose their operations as they go.
-/

namespace Fiddlesticks.Memory

open Effect

/-! ## Admissible operations -/

/-- The timestamps that an operation writes. -/
def MemoryOp.timestamps : MemoryOp → List SystemTime
  | .initializeSessionIfMissing _ _ _ entry checkpoint =>
      entry.toList.flatMap ProgressEntry.timestamps ++
        checkpoint.toList.flatMap RunCheckpoint.timestamps
  | .appendProgressEntry _ entry => entry.timestamps
  | .recordRunCheckpoint _ checkpoint => checkpoint.timestamps
  | _ => []

/-- The manifests that an operation writes. -/
def MemoryOp.manifests : MemoryOp → List SessionManifest
  | .initializeSessionIfMissing _ manifest _ _ _ => [manifest]
  | .saveManifest _ manifest => [manifest]
  | _ => []

/-- All timestamps are encodable, and manifests are saved under the session they name. -/
structure MemoryOp.Admissible (op : MemoryOp) : Prop where
  times : ∀ time ∈ op.timestamps, time.AfterEpoch
  keys : ∀ manifest ∈ op.manifests, manifest.sessionId = op.sessionId

/-- The operation saves manifests only under the session that they name. -/
def KeepsKeys (op : MemoryOp) : Prop :=
  ∀ manifest ∈ op.manifests, manifest.sessionId = op.sessionId

/-! ## Sequences -/

/-- The answers of a backend to operations one after the other. -/
def answers {σ : Type} (handle : (op : MemoryOp) → σ → op.Answer × σ) :
    List MemoryOp → σ → List (Σ op : MemoryOp, op.Answer)
  | [], _ => []
  | op :: ops, state => ⟨op, (handle op state).1⟩ :: answers handle ops (handle op state).2

/-- The state of a backend after operations. -/
def stateAfter {σ : Type} (handle : (op : MemoryOp) → σ → op.Answer × σ) (ops : List MemoryOp)
    (state : σ) : σ :=
  ops.foldl (fun state op => (handle op state).2) state

/-! ## Clients -/

/-- The signature of a client of a backend. -/
abbrev MemorySig : Sig := ⟨MemoryOp, MemoryOp.Answer⟩

/-- An in-memory backend whose excused operations may fail without an effect. -/
inductive Flaky (excused : MemoryOp → Prop) (memory : InMemoryMemoryBackend) :
    Event MemorySig → InMemoryMemoryBackend → Prop where
  | served (op : MemoryOp) : Flaky excused memory ⟨op, (InMemoryMemoryBackend.handle op memory).1⟩
      (InMemoryMemoryBackend.handle op memory).2
  | failed (op : MemoryOp) (error : MemoryError) : excused op →
      Flaky excused memory ⟨op, .error error⟩ memory

/-- Where nothing is excused the backend does what it does. -/
theorem Flaky.run_eq {α : Type} {excused : MemoryOp → Prop} {client : Prog MemorySig α}
    (hclient : client.Uses fun op => ¬ excused op) {memory memory' : InMemoryMemoryBackend}
    {value : α} (hrun : Prog.Steps (Flaky excused) client memory (.pure value) memory') :
    Prog.run InMemoryMemoryBackend.handle client memory = (value, memory') := by
  induction client generalizing memory with
  | pure returned =>
      obtain ⟨hvalue, rfl⟩ := hrun.of_pure
      injection hvalue with hvalue
      rw [hvalue]
      rfl
  | call op next ih =>
      obtain ⟨hop, hnext⟩ := (Prog.uses_call op next).mp hclient
      obtain ⟨answer, middle, hact, hrest⟩ := hrun.of_call
      cases hact with
      | served => exact ih _ (hnext _) hrest
      | failed _ error hexcused => exact absurd hexcused hop

end Fiddlesticks.Memory
