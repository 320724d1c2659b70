import Mathlib.Data.List.Perm.Basic
import Disgord.Packet

/-! The registry of tracked event names: `RegisterEvent`, `RemoveEvent` and
`eventOfInterest`. Removal swaps the last entry into the first match, so the registry
is a set only because registration never appends a name twice. -/
namespace Disgord

def registerEvent (trackedEvents : List String) (name : String) : List String :=
  if name ∈ trackedEvents then trackedEvents else trackedEvents ++ [name]

/-- The first match is overwritten by the last entry and the slice shortened by one. -/
def removeEvent (trackedEvents : List String) (name : String) : List String :=
  if trackedEvents.indexOf name < trackedEvents.length then
    (trackedEvents.set (trackedEvents.indexOf name) (trackedEvents.getLastD name)).dropLast
  else trackedEvents

def eventOfInterest (trackedEvents : List String) (name : String) : Bool :=
  trackedEvents.any (fun tracked => name == tracked)

@[simp] theorem eventOfInterest_iff {trackedEvents : List String} {name : String} :
    eventOfInterest trackedEvents name = true ↔ name ∈ trackedEvents := by
  simp [eventOfInterest]

theorem registerEvent_nodup {l : List String} (nodup : l.Nodup) (name : String) :
    (registerEvent l name).Nodup := by
  unfold registerEvent
  split
  · exact nodup
  · exact nodup.append (List.nodup_singleton name) (by simpa [List.disjoint_singleton])

@[simp] theorem mem_registerEvent {l : List String} {name other : String} :
    other ∈ registerEvent l name ↔ other ∈ l ∨ other = name := by
  unfold registerEvent
  split <;> simp_all only [List.mem_append, List.mem_singleton, iff_self_or, implies_true]

/-- On a duplicate-free registry the swap-remove is `List.erase` up to order. -/
theorem removeEvent_perm {l : List String} {name : String} (nodup : l.Nodup) :
    (removeEvent l name).Perm (l.erase name) := by
  by_cases h : name ∈ l
  · obtain ⟨s, t, rfl⟩ := List.append_of_mem h
    have fresh : name ∉ s := fun m => (List.nodup_append.mp nodup).2.2 m (List.mem_cons_self name t)
    have index : (s ++ name :: t).indexOf name = s.length := by
      simp [List.indexOf_append_of_not_mem fresh]
    rw [removeEvent, if_pos (List.indexOf_lt_length.mpr h), index, List.erase_append_right _ fresh]
    rcases List.eq_nil_or_concat' t with rfl | ⟨t, z, rfl⟩
    · simp [List.set_append_right]
    · rw [show s ++ name :: (t ++ [z]) = (s ++ name :: t) ++ [z] by simp, List.getLastD_concat,
        List.set_append_left _ _ (by simp), List.set_append_right _ _ (le_refl _), List.dropLast_concat]
      simpa using List.Perm.append_left s (List.perm_append_singleton z t).symm
  · simp [removeEvent, List.indexOf_lt_length, h, List.erase_of_not_mem h]

theorem removeEvent_nodup {l : List String} (nodup : l.Nodup) (name : String) :
    (removeEvent l name).Nodup :=
  (removeEvent_perm nodup).nodup_iff.mpr (nodup.erase name)

theorem mem_removeEvent {l : List String} (nodup : l.Nodup) {name other : String} :
    other ∈ removeEvent l name ↔ other ∈ l ∧ other ≠ name := by
  rw [(removeEvent_perm nodup).mem_iff, nodup.mem_erase_iff, and_comm]

/-- A call of `RegisterEvent` or `RemoveEvent`. -/
inductive Registration where
  | register (name : String)
  | remove (name : String)
  deriving DecidableEq, Repr

def Registration.apply (trackedEvents : List String) : Registration → List String
  | .register name => registerEvent trackedEvents name
  | .remove name => removeEvent trackedEvents name

def Registration.name : Registration → String
  | .register name | .remove name => name

def Registration.isRegister : Registration → Bool
  | .register _ => true
  | .remove _ => false

/-- Whether the most recent call naming `name` registered it; `none` if there was none. -/
def latest (calls : List Registration) (name : String) : Option Bool :=
  (calls.reverse.find? (·.name = name)).map (·.isRegister)

@[simp] theorem latest_nil (name : String) : latest [] name = none := rfl

theorem latest_concat (calls : List Registration) (call : Registration) (name : String) :
    latest (calls ++ [call]) name =
      if call.name = name then some call.isRegister else latest calls name := by
  by_cases h : call.name = name <;> simp [latest, h]

theorem apply_nodup {l : List String} (nodup : l.Nodup) (call : Registration) :
    (call.apply l).Nodup := by
  cases call
  · exact registerEvent_nodup nodup _
  · exact removeEvent_nodup nodup _

/-- Membership after one more call: the call decides for its own name. -/
theorem mem_apply {l : List String} (nodup : l.Nodup) (call : Registration) (other : String) :
    other ∈ call.apply l ↔ if call.name = other then call.isRegister = true else other ∈ l := by
  cases call with
  | register name =>
    by_cases h : name = other
    · simp [Registration.apply, Registration.name, Registration.isRegister, h]
    · simp [Registration.apply, Registration.name, Registration.isRegister, h, Ne.symm h]
  | remove name =>
    by_cases h : name = other <;> simp [Registration.apply, Registration.name,
      Registration.isRegister, mem_removeEvent nodup, h, Ne.symm]

/-- From an empty registry, any history of calls keeps it duplicate-free, and a name is
tracked exactly when its most recent call registered it. -/
theorem registrations_tracked (calls : List Registration) :
    (calls.foldl Registration.apply []).Nodup ∧
      ∀ name, name ∈ calls.foldl Registration.apply [] ↔ latest calls name = some true := by
  induction calls using List.reverseRecOn with
  | nil => simp
  | append_singleton calls call ih =>
    obtain ⟨nodup, tracked⟩ := ih
    refine ⟨by simpa using apply_nodup nodup call, fun name => ?_⟩
    rw [List.foldl_append, List.foldl_cons, List.foldl_nil, mem_apply nodup, latest_concat]
    split <;> simp [tracked]

end Disgord
