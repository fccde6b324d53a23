import Fiddlesticks.Chat.TurnLog
import Fiddlesticks.Collect.ByKey

/-!
# Tool calls in the order of their ids

A streamed round keeps its tool calls in a map from ids to calls. So it ends with the calls of the
response in the order of their ids, the last of those with equal ids, whatever snapshots came
before.
-/

namespace Fiddlesticks.Chat

open Collect Provider

/-- The map that a list of calls is inserted into. -/
abbrev CallMap := Std.ExtTreeMap String ToolCall

/-- Insert calls by their ids. -/
def insertCalls (map : CallMap) (calls : List ToolCall) : CallMap :=
  calls.foldl (fun map call => map.insert call.id call) map

/-- The calls in the order of their ids, the last of those with equal ids. -/
def inOrder (calls : List ToolCall) : List ToolCall :=
  (insertCalls ∅ calls).toList.map Prod.snd

/-- The last call with an id. -/
def lastCall (calls : List ToolCall) (id : String) : Option ToolCall :=
  calls.reverse.find? (·.id = id)

/-- A lookup finds the last call with the id or what was there. -/
theorem insertCalls_getElem? (map : CallMap) (calls : List ToolCall) (id : String) :
    (insertCalls map calls)[id]? = (lastCall calls id).or map[id]? :=
  getElem?_insertAll map calls id

/-- An id of the map is the id of a call. -/
theorem exists_of_mem_insertCalls {calls : List ToolCall} {id : String}
    (h : id ∈ insertCalls ∅ calls) : ∃ call ∈ calls, call.id = id := by
  rw [Std.ExtTreeMap.mem_iff_isSome_getElem?, insertCalls_getElem?] at h
  obtain ⟨call, hcall⟩ := Option.isSome_iff_exists.mp h
  have hlast : lastCall calls id = some call := by simpa using hcall
  exact ⟨call, lastWith_some hlast⟩

/-- Inserting calls into a map that has only ids of these calls forgets the map. -/
theorem insertCalls_of_subset {map : CallMap} {calls : List ToolCall}
    (hmap : ∀ id ∈ map, ∃ call ∈ calls, call.id = id) :
    insertCalls map calls = insertCalls ∅ calls :=
  insertAll_of_subset hmap

/-- The ids of the calls increase strictly. -/
def IdsIncrease (calls : List ToolCall) : Prop :=
  calls.Pairwise fun a b => compare a.id b.id = .lt

/-- No call is left out with its id. -/
@[simp] theorem inOrder_eq_nil_iff (calls : List ToolCall) : inOrder calls = [] ↔ calls = [] :=
  byKey_eq_nil_iff calls

/-- The ordered calls have increasing ids. -/
theorem inOrder_increasing (calls : List ToolCall) : IdsIncrease (inOrder calls) :=
  byKey_increasing ToolCall.id calls

/-- Ids that increase are different. -/
theorem IdsIncrease.nodup {calls : List ToolCall} (hcalls : IdsIncrease calls) :
    (calls.map ToolCall.id).Nodup :=
  KeysIncrease.nodup hcalls

/-- Calls are in order exactly when their ids increase strictly. -/
theorem inOrder_eq_self_iff (calls : List ToolCall) :
    inOrder calls = calls ↔ IdsIncrease calls :=
  byKey_eq_self_iff calls

/-- With snapshots before them, calls end up as they are exactly when no snapshot has another id
and their ids are distinct. -/
theorem inOrder_snapshots_perm_iff (snapshots calls : List ToolCall) :
    (inOrder (snapshots ++ calls)).Perm calls ↔
      (∀ snapshot ∈ snapshots, ∃ call ∈ calls, call.id = snapshot.id) ∧
        (calls.map ToolCall.id).Nodup :=
  byKey_append_perm_iff snapshots calls

end Fiddlesticks.Chat
