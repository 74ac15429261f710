import Mathlib.Data.List.Nodup
import NetReactor.Loop.Registry
/-!
Which registrations are there after one was made, taken away or retired, and what a descriptor then stands
for.
-/
namespace NetReactor.Registry

variable {registry : Registry} {fresh old : Registration} {descriptor gone : Descriptor}
variable {id : CallbackId}

theorem mem_insert (h : old ∈ (registry.insert fresh).entries) :
    old = fresh ∨ old ∈ registry.entries := by
  unfold insert at h
  split at h
  · obtain ⟨before, mem, hb⟩ := List.mem_map.mp h
    split at hb
    · exact .inl hb.symm
    · exact .inr (hb ▸ mem)
  · simpa [or_comm] using h

theorem mem_insert_self (registry : Registry) (fresh : Registration) :
    fresh ∈ (registry.insert fresh).entries := by
  unfold insert
  split
  · next known =>
    obtain ⟨before, mem, hb⟩ := List.any_eq_true.mp known
    exact List.mem_map.mpr ⟨before, mem, if_pos (by simpa using hb)⟩
  · simp

theorem mem_insert_of_ne (mem : old ∈ registry.entries) (h : old.descriptor ≠ fresh.descriptor) :
    old ∈ (registry.insert fresh).entries := by
  unfold insert
  split
  · exact List.mem_map.mpr ⟨old, mem, by simp [h]⟩
  · simp [mem]

theorem mem_remove : old ∈ (registry.remove descriptor).entries ↔
    old ∈ registry.entries ∧ old.descriptor ≠ descriptor := by
  simp [remove]

theorem mem_of_mem_retire (h : old ∈ (registry.retire descriptor id).entries) :
    old ∈ registry.entries := List.mem_of_mem_eraseP h

theorem mem_retire_of_ne (mem : old ∈ registry.entries) (h : old.callback ≠ id) :
    old ∈ (registry.retire descriptor id).entries :=
  (List.mem_eraseP_of_neg (by simp [h])).mpr mem

/-- A descriptor has one registration. -/
theorem eq_of_descriptor_eq {other : Registration} (mem : old ∈ registry.entries)
    (mem' : other ∈ registry.entries) (h : old.descriptor = other.descriptor) : old = other :=
  List.inj_on_of_nodup_map registry.distinct mem mem' h

/-- A registration that is retired is gone, since no other one stands for its descriptor. -/
theorem not_mem_retire (registry : Registry) (old : Registration) :
    old ∉ (registry.retire old.descriptor old.callback).entries := by
  intro h
  have mem := mem_of_mem_retire h
  have nodup := registry.distinct
  obtain ⟨first, before, rest, -, hp, split, left⟩ :=
    List.exists_of_eraseP mem (p := fun other =>
      other.descriptor == old.descriptor && other.callback == old.callback) (by simp)
  have same : first = old := eq_of_descriptor_eq (by rw [split]; simp) mem (by simp at hp; exact hp.1)
  subst same
  rw [split] at nodup
  simp only [retire] at h
  rw [left] at h
  simp only [List.map_append, List.map_cons, List.nodup_append, List.nodup_cons] at nodup
  cases List.mem_append.mp h with
  | inl early => exact nodup.2.2 _ (List.mem_map_of_mem early) _ (by simp) rfl
  | inr late => exact nodup.2.1.1 (List.mem_map_of_mem late)

theorem lookup?_eq_some :
    registry.lookup? descriptor = some old ↔ old ∈ registry.entries ∧ old.descriptor = descriptor := by
  constructor
  · intro h
    exact ⟨List.mem_of_find?_eq_some h, by simpa using List.find?_some h⟩
  · rintro ⟨mem, rfl⟩
    cases h : registry.lookup? old.descriptor with
    | none => simpa using List.find?_eq_none.mp h old mem
    | some other =>
      have same : other.descriptor = old.descriptor := by simpa using List.find?_some h
      rw [eq_of_descriptor_eq (List.mem_of_find?_eq_some h) mem same]

theorem mem_insert_iff :
    old ∈ (registry.insert fresh).entries ↔
      old = fresh ∨ (old ∈ registry.entries ∧ old.descriptor ≠ fresh.descriptor) := by
  constructor
  · intro h
    by_cases same : old.descriptor = fresh.descriptor
    · exact .inl (eq_of_descriptor_eq h (mem_insert_self registry fresh) same)
    · cases mem_insert h with
      | inl fresh => exact .inl fresh
      | inr mem => exact .inr ⟨mem, same⟩
  · rintro (rfl | ⟨mem, other⟩)
    · exact mem_insert_self registry old
    · exact mem_insert_of_ne mem other

theorem mem_retire_iff : old ∈ (registry.retire gone id).entries ↔
    old ∈ registry.entries ∧ ¬ (old.descriptor = gone ∧ old.callback = id) := by
  constructor
  · refine fun h => ⟨mem_of_mem_retire h, ?_⟩
    rintro ⟨rfl, rfl⟩
    exact not_mem_retire registry old h
  · rintro ⟨mem, other⟩
    exact (List.mem_eraseP_of_neg (by simpa using other)).mpr mem

theorem lookup?_insert : (registry.insert fresh).lookup? descriptor =
    if fresh.descriptor = descriptor then some fresh else registry.lookup? descriptor := by
  ext old
  split
  · next here =>
    subst here
    rw [lookup?_eq_some, mem_insert_iff]
    constructor
    · rintro ⟨rfl | ⟨-, other⟩, same⟩
      · rfl
      · exact absurd same other
    · rintro ⟨⟩
      exact ⟨.inl rfl, rfl⟩
  · next other =>
    rw [lookup?_eq_some, lookup?_eq_some, mem_insert_iff]
    constructor
    · rintro ⟨rfl | ⟨mem, -⟩, same⟩
      · exact absurd same other
      · exact ⟨mem, same⟩
    · rintro ⟨mem, rfl⟩
      exact ⟨.inr ⟨mem, Ne.symm other⟩, rfl⟩

theorem lookup?_remove : (registry.remove gone).lookup? descriptor =
    if gone = descriptor then none else registry.lookup? descriptor := by
  ext old
  rw [lookup?_eq_some, mem_remove]
  split
  · next here =>
    subst here
    exact iff_of_false (fun ⟨⟨_, other⟩, same⟩ => other same) nofun
  · next other =>
    rw [lookup?_eq_some]
    constructor
    · exact fun ⟨⟨mem, _⟩, same⟩ => ⟨mem, same⟩
    · rintro ⟨mem, rfl⟩
      exact ⟨⟨mem, Ne.symm other⟩, rfl⟩

theorem lookup?_retire : (registry.retire gone id).lookup? descriptor =
    if gone = descriptor then (registry.lookup? descriptor).filter (·.callback != id)
    else registry.lookup? descriptor := by
  ext old
  rw [lookup?_eq_some, mem_retire_iff]
  split
  · next here =>
    subst here
    rw [Option.filter_eq_some_iff, lookup?_eq_some, bne_iff_ne]
    constructor
    · exact fun ⟨⟨mem, other⟩, same⟩ => ⟨⟨mem, same⟩, fun is => other ⟨same, is⟩⟩
    · exact fun ⟨⟨mem, same⟩, other⟩ => ⟨⟨mem, fun is => other is.2⟩, same⟩
  · next other =>
    rw [lookup?_eq_some]
    constructor
    · exact fun ⟨⟨mem, _⟩, same⟩ => ⟨mem, same⟩
    · rintro ⟨mem, rfl⟩
      exact ⟨⟨mem, fun is => other is.1.symm⟩, rfl⟩

def others (registry : Registry) (descriptor : Descriptor) : List Registration :=
  registry.entries.filter (·.descriptor != descriptor)

theorem others_insert : (registry.insert fresh).others fresh.descriptor =
    registry.others fresh.descriptor := by
  unfold others insert
  split
  · dsimp only
    induction registry.entries with
    | nil => rfl
    | cons old rest ih =>
      have head : replaceIn fresh (old :: rest) =
        (if old.descriptor = fresh.descriptor then fresh else old) :: replaceIn fresh rest := rfl
      rw [head, List.filter_cons, List.filter_cons, ih]
      split <;> simp_all
  · simp

theorem others_remove : (registry.remove descriptor).others descriptor = registry.others descriptor := by
  simp [others, remove]

theorem others_retire : (registry.retire descriptor id).others descriptor =
    registry.others descriptor := by
  unfold others retire
  dsimp only
  induction registry.entries with
  | nil => rfl
  | cons old rest ih =>
    rw [List.eraseP_cons]
    cases hit : old.descriptor == descriptor && old.callback == id with
    | true =>
      have here : old.descriptor = descriptor := by simp at hit; exact hit.1
      simp [here]
    | false => simp only [cond_false, List.filter_cons, ih]

end NetReactor.Registry
