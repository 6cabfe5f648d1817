import TopologyHooks.Proofs.Shape.Reading

/-!
# What is written for records

`Fields.written` lists what is written for the fields of a record, in their order. If the keys of
the fields are distinct, it is what the fields find when the record is read again
(`Fields.map_get?_sorted`).
-/

set_option autoImplicit false

namespace TopologyHooks

/-- What is written for a field. -/
def Presence.written {α : Type} (p : Presence α) (s : Shape α) (a : α) : Option Json :=
  if p.skips a then none else some (s.toJson a)

namespace Fields

/-- What is written for the fields of a record, in their order. -/
def written : {β : Type} → Fields β → β → List (Option Json)
  | _, .done, _ => []
  | _, .field _ p s rest, b => p.written s b.1 :: rest.written b.2

/-- Only keys of fields are written. -/
theorem mem_keys_of_mem_members : ∀ {β : Type} {fields : Fields β} {b : β} {key : String},
    key ∈ (fields.members b).map Prod.fst → key ∈ fields.keys
  | _, .done, _, _, h => by simp [members] at h
  | _, .field k p s rest, b, key, h => by
    rw [members] at h
    split at h
    · exact List.mem_cons_of_mem _ (mem_keys_of_mem_members h)
    · rcases List.mem_cons.1 h with rfl | h
      · exact List.mem_cons_self
      · exact List.mem_cons_of_mem _ (mem_keys_of_mem_members h)

/-- No member is written twice. -/
theorem nodup_keys_members : ∀ {β : Type} {fields : Fields β}, fields.keys.Nodup → ∀ b : β,
    ((fields.members b).map Prod.fst).Nodup
  | _, .done, _, _ => by simp [members]
  | _, .field k p s rest, h, b => by
    obtain ⟨hk, hrest⟩ := List.nodup_cons.1 h
    have hnd := nodup_keys_members hrest b.2
    rw [members]
    split
    · exact hnd
    · exact List.nodup_cons.2 ⟨fun hm => hk (mem_keys_of_mem_members hm), hnd⟩

/-- Under the key of each field there is what is written for it. -/
theorem map_get?_members : ∀ {β : Type} {fields : Fields β}, fields.keys.Nodup → ∀ b : β,
    (fields.keys.map fun key => Assoc.get? key (fields.members b)) = fields.written b
  | _, .done, _, _ => rfl
  | _, .field k p s rest, h, b => by
    obtain ⟨hk, hrest⟩ := List.nodup_cons.1 h
    have hget : Assoc.get? k (rest.members b.2) = none :=
      Assoc.get?_eq_none_iff.2 fun hm => hk (mem_keys_of_mem_members hm)
    rw [keys, List.map_cons, written, ← map_get?_members hrest b.2, members, Presence.written]
    split
    · rw [hget]
    · rw [Assoc.get?, if_pos rfl]
      refine congrArg _ (List.map_congr_left ?_)
      intro key hkey
      have hne : k ≠ key := fun e => hk (e ▸ hkey)
      rw [Assoc.get?, if_neg hne]

/-- The members that are written for the fields of a record, sorted. -/
def sorted {β : Type} (fields : Fields β) (b : β) : List (String × Json) :=
  Assoc.insertAll [] (fields.members b)

/-- The sorted members are sorted. -/
theorem sorted_sorted {β : Type} (fields : Fields β) (b : β) : Assoc.Sorted (fields.sorted b) :=
  Assoc.sorted_insertAll _ Assoc.sorted_nil

/-- Sorting the members does not change what is under a key. -/
theorem get?_sorted {β : Type} {fields : Fields β} (h : fields.keys.Nodup) (b : β) (key : String) :
    Assoc.get? key (fields.sorted b) = Assoc.get? key (fields.members b) := by
  exact Assoc.get?_insertAll_nil key (nodup_keys_members h b)

/-- Under the key of each field there is, also when sorted, what is written for it. -/
theorem map_get?_sorted {β : Type} {fields : Fields β} (h : fields.keys.Nodup) (b : β) :
    (fields.keys.map fun key => Assoc.get? key (fields.sorted b)) = fields.written b := by
  simp only [get?_sorted h, map_get?_members h]

/-- What is written for the field at a place is under the key of this field. -/
theorem getElem?_written {β : Type} {fields : Fields β} (h : fields.keys.Nodup) (b : β) {i : Nat}
    {key : String} (hk : fields.keys[i]? = some key) :
    (fields.written b)[i]? = some (Assoc.get? key (fields.sorted b)) := by
  rw [← map_get?_sorted h b, List.getElem?_map, hk, Option.map_some]

/-- Under other keys nothing is written. -/
theorem get?_sorted_eq_none {β : Type} {fields : Fields β} (h : fields.keys.Nodup) (b : β)
    {key : String} (hk : key ∉ fields.keys) : Assoc.get? key (fields.sorted b) = none := by
  rw [get?_sorted h, Assoc.get?_eq_none_iff]
  exact fun hm => hk (mem_keys_of_mem_members hm)

/-- What is written for a record depends on what is written for its fields alone. -/
theorem sorted_congr {β : Type} {fields fields' : Fields β} (h : fields.keys.Nodup)
    (hkeys : fields.keys = fields'.keys) {b : β} (hw : fields.written b = fields'.written b) :
    fields.sorted b = fields'.sorted b := by
  refine Assoc.eq_of_get?_eq (fields.sorted_sorted b) (fields'.sorted_sorted b) fun key => ?_
  by_cases hkey : key ∈ fields.keys
  · rw [← map_get?_sorted h, ← map_get?_sorted (hkeys ▸ h), ← hkeys] at hw
    exact List.map_inj_left.1 hw key hkey
  · rw [get?_sorted_eq_none h b hkey, get?_sorted_eq_none (hkeys ▸ h) b (hkeys ▸ hkey)]

/-- There are as many keys as fields. -/
theorem length_keys : ∀ {β : Type} (fields : Fields β), fields.keys.length = fields.count
  | _, .done => rfl
  | _, .field _ _ _ rest => congrArg Nat.succ (length_keys rest)

/-- There are as many slots to write as fields. -/
theorem length_written : ∀ {β : Type} (fields : Fields β) (b : β),
    (fields.written b).length = fields.count
  | _, .done, _ => rfl
  | _, .field _ _ _ rest, b => congrArg Nat.succ (length_written rest b.2)

/-- The object that is written is ordered if what is written for each field is. -/
theorem ordered_sorted {β : Type} {fields : Fields β} (h : fields.keys.Nodup) {b : β}
    (ho : ∀ x, some x ∈ fields.written b → x.Ordered) : (Json.obj (fields.sorted b)).Ordered := by
  refine Json.ordered_obj.2 ⟨fields.sorted_sorted b, fun key x hx => ho x ?_⟩
  rw [← map_get?_sorted h, ← hx]
  refine List.mem_map_of_mem (f := fun key => Assoc.get? key (fields.sorted b)) ?_
  by_contra hk
  rw [get?_sorted_eq_none h b hk] at hx
  cases hx

end Fields

namespace Shape

attribute [local simp] toJson

variable {α β : Type}

/-- A record is written as the object of its fields, sorted. -/
theorem toJson_record (form : Form) (fields : Fields β) (into : β → α) (outOf : α → β) (a : α) :
    (record form fields into outOf).toJson a = .obj (fields.sorted (outOf a)) := by
  simp [Json.object, Fields.sorted]

end Shape

end TopologyHooks
