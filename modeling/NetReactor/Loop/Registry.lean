import NetReactor.Interest
import NetReactor.Kernel
/-!
The registrations of an event loop, in the order in which their descriptors came. A descriptor has at most
one registration, which is part of the type: registering it again changes the registration where it stands.
-/
namespace NetReactor

abbrev CallbackId := Nat

structure Registration where
  descriptor : Descriptor
  interest : Interest
  callback : CallbackId
  once : Bool
deriving DecidableEq

structure Registry where
  entries : List Registration
  distinct : (entries.map Registration.descriptor).Nodup

namespace Registry

def empty : Registry := ⟨[], List.nodup_nil⟩

def isEmpty (registry : Registry) : Bool := registry.entries.isEmpty

def size (registry : Registry) : Nat := registry.entries.length

def lookup? (registry : Registry) (descriptor : Descriptor) : Option Registration :=
  registry.entries.find? (·.descriptor == descriptor)

def contains (registry : Registry) (descriptor : Descriptor) : Bool :=
  registry.entries.any (·.descriptor == descriptor)

def interest? (registry : Registry) (descriptor : Descriptor) : Option Interest :=
  (registry.lookup? descriptor).map (·.interest)

def callbacks (registry : Registry) : List CallbackId := registry.entries.map (·.callback)

def replaceIn (fresh : Registration) (entries : List Registration) : List Registration :=
  entries.map fun old => if old.descriptor = fresh.descriptor then fresh else old

theorem descriptors_replaceIn (fresh : Registration) (entries : List Registration) :
    (replaceIn fresh entries).map (·.descriptor) = entries.map (·.descriptor) := by
  simp only [replaceIn, List.map_map, List.map_inj_left, Function.comp_apply]
  intro old _
  split <;> simp_all

def insert (registry : Registry) (fresh : Registration) : Registry :=
  if known : registry.contains fresh.descriptor then
    ⟨replaceIn fresh registry.entries, by
      rw [descriptors_replaceIn]; exact registry.distinct⟩
  else
    ⟨registry.entries ++ [fresh], by
      have absent : ∀ old ∈ registry.entries, old.descriptor ≠ fresh.descriptor := by
        simpa [contains] using known
      rw [List.map_append]
      refine List.nodup_append.2 ⟨registry.distinct, by simp, ?_⟩
      intro a inside b last
      obtain ⟨old, mem, rfl⟩ := List.mem_map.1 inside
      simp only [List.map_cons, List.map_nil, List.mem_singleton] at last
      exact last ▸ absent old mem⟩

def remove (registry : Registry) (descriptor : Descriptor) : Registry :=
  ⟨registry.entries.filter (·.descriptor != descriptor),
    registry.distinct.sublist (List.filter_sublist.map _)⟩

/-- Takes the registration of a descriptor away, but only while it is for the given callback. -/
def retire (registry : Registry) (descriptor : Descriptor) (callback : CallbackId) : Registry :=
  ⟨registry.entries.eraseP fun old => old.descriptor == descriptor && old.callback == callback,
    registry.distinct.sublist ((List.eraseP_sublist).map _)⟩

end Registry
end NetReactor
