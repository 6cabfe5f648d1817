import TopologyHooks.Proofs.Schema.Props

/-!
# Schemas are read alike at every level

The shape of schemas is given level by level, and a schema is read at the level of its depth. That
hides what the shape is: a record of which three fields hold schemas again.

* `Shape.AlikeTo` and `Fields.AlikeTo` — shapes and fields that read the same values, as far as
  these are no deeper than some bound. Each kind of shape passes this on from the shapes inside it;
  a record adds one to the bound.
* `SchemaProps.reads_shapeAt_iff` — so a schema is read alike at every level that is high enough.
* `SchemaProps.reads_shape_obj_iff` — and the shape of schemas reads an object as the record whose
  schemas inside have that very shape.
-/

set_option autoImplicit false

namespace TopologyHooks

/-! ## Shapes that read alike -/

/-- Whether two shapes read the same from JSON that is not too deep. -/
def Shape.AlikeTo {α : Type} (n : Nat) (s s' : Shape α) : Prop :=
  ∀ (raw : Json) (a : α), raw.depth ≤ n → (s.Reads raw a ↔ s'.Reads raw a)

/-- Whether two lists of fields have the same keys and read the same from JSON that is not too
deep. -/
structure Fields.AlikeTo {β : Type} (n : Nat) (f f' : Fields β) : Prop where
  keys : f.keys = f'.keys
  reads : ∀ (slots : List (Option Json)) (b : β),
    (∀ raw, some raw ∈ slots → raw.depth ≤ n) → (f.Reads slots b ↔ f'.Reads slots b)

namespace Shape.AlikeTo

variable {α β : Type} {n : Nat} {s s' : Shape α}

/-- A shape reads the same as itself. -/
theorem refl (n : Nat) (s : Shape α) : s.AlikeTo n s := fun _ _ _ => Iff.rfl

/-- With null allowed, shapes that read the same still do. -/
theorem nullable (h : s.AlikeTo n s') : s.nullable.AlikeTo n s'.nullable := by
  intro raw o hraw
  rw [reads_nullable_iff, reads_nullable_iff]
  simp only [h raw _ hraw]

/-- Dictionaries of values that read the same read the same. -/
theorem dictionary (h : s.AlikeTo n s') : s.dictionary.AlikeTo n s'.dictionary := by
  intro raw d hraw
  rw [reads_dictionary_iff, reads_dictionary_iff]
  refine exists_congr fun members => and_congr_right ?_
  rintro rfl
  refine and_congr_right fun _ => forall_congr' fun key => ?_
  cases hx : Assoc.get? key members with
  | none => cases d.get? key <;> simp
  | some x =>
    have hx : x.depth ≤ n :=
      Nat.le_trans (Json.depth_le_of_get? hx) (Nat.le_trans (Nat.le_succ _) hraw)
    cases d.get? key <;> simp [h x _ hx]

/-- Shapes that read the same still do when what they read is turned into something else. -/
theorem mapped (h : s.AlikeTo n s') (into : α → β) (outOf : β → α) :
    (Shape.mapped s into outOf).AlikeTo n (.mapped s' into outOf) := by
  intro raw b hraw
  rw [reads_mapped_iff, reads_mapped_iff]
  simp only [h raw _ hraw]

/-- Nothing but objects and arrays is read as a record. -/
theorem record_zero {γ : Type} {f : Fields β} {f' : Fields γ} {form form' : Form} {into : β → α}
    {into' : γ → α} {outOf : α → β} {outOf' : α → γ} :
    (Shape.record form f into outOf).AlikeTo 0 (.record form' f' into' outOf') := by
  intro raw a hraw
  constructor
  · intro h
    obtain ⟨members, rfl⟩ | ⟨items, rfl⟩ := nested_of_reads_record h
    · cases hraw
    · cases hraw
  · intro h
    obtain ⟨members, rfl⟩ | ⟨items, rfl⟩ := nested_of_reads_record h
    · cases hraw
    · cases hraw

/-- Records of fields that read the same read the same one level deeper. -/
theorem record {f f' : Fields β} (h : f.AlikeTo n f') (form : Form) (into : β → α)
    (outOf : α → β) :
    (Shape.record form f into outOf).AlikeTo (n + 1) (.record form f' into outOf) := by
  intro raw a hraw
  cases raw with
  | obj members =>
    -- what the object holds is less deep than the object
    have hslots : ∀ raw, some raw ∈ f.keys.map (fun key => Assoc.get? key members) →
        raw.depth ≤ n := by
      intro raw hmem
      obtain ⟨key, -, hkey⟩ := List.mem_map.1 hmem
      exact Nat.le_trans (Json.depth_le_of_get? hkey) (Nat.le_of_succ_le_succ hraw)
    rw [reads_record_obj_iff, reads_record_obj_iff, ← h.keys]
    simp only [h.reads _ _ hslots]
  | arr items =>
    have hslots : ∀ raw, some raw ∈ items.map some → raw.depth ≤ n := by
      intro raw hmem
      obtain ⟨x, hx, hraw'⟩ := List.mem_map.1 hmem
      cases hraw'
      exact Json.depthItems_le_iff.1 (Nat.le_of_succ_le_succ hraw) _ hx
    have hcount : f.count = f'.count := by
      rw [← Fields.length_keys, ← Fields.length_keys, h.keys]
    rw [reads_record_arr_iff, reads_record_arr_iff, hcount]
    simp only [h.reads _ _ hslots]
  | _ => exact record_zero _ a (Nat.le_refl 0)

end Shape.AlikeTo

namespace Fields.AlikeTo

variable {α β : Type} {n : Nat} {s s' : Shape α} {f f' : Fields β}

/-- No fields read the same as no fields. -/
theorem done (n : Nat) : Fields.done.AlikeTo n .done := ⟨rfl, fun _ _ _ => Iff.rfl⟩

/-- One more field that reads the same keeps fields reading the same. -/
theorem field (hs : s.AlikeTo n s') (hf : f.AlikeTo n f') (key : String) (p : Presence α) :
    (Fields.field key p s f).AlikeTo n (.field key p s' f') := by
  refine ⟨congrArg (key :: ·) hf.keys, fun slots b hslots => ?_⟩
  rw [Fields.Reads, Fields.Reads,
    hf.reads _ _ fun raw hraw => hslots raw (List.mem_of_mem_tail hraw)]
  refine and_congr_left fun _ => ?_
  cases slots with
  | nil => rfl
  | cons slot rest =>
    cases slot with
    | none => rfl
    | some raw => exact hs raw _ (hslots raw List.mem_cons_self)

end Fields.AlikeTo

/-- An optional field that is not null is there exactly if something was found to read. -/
theorem Presence.rel_of_reads_optional {α : Type} {s : Shape α} {slot : Option Json} {o : Option α}
    (h : (Presence.omitted none Option.isNone).Reads s.nullable slot o)
    (hnull : slot ≠ some .null) : Option.Rel s.Reads slot o := by
  cases slot with
  | none =>
    obtain rfl : none = o := Option.some.inj h
    exact .none
  | some raw =>
    rcases Shape.reads_nullable_iff.1 h with ⟨rfl, -⟩ | ⟨-, a, ha, rfl⟩
    · exact absurd rfl hnull
    · exact .some ha

namespace SchemaProps

variable {inner inner' : Shape SchemaProps} {n : Nat}

/-! ## Levels -/

/-- Schemas are read alike where the schemas inside them are. -/
theorem alikeTo_fields (h : inner.AlikeTo n inner') : (fields inner).AlikeTo n (fields inner') := by
  have hproperties := h.dictionary.mapped Dictionary.entries Dictionary.ofList
  have other : ∀ {α β : Type} {key : String} {p : Presence α} {s : Shape α} {f f' : Fields β},
      f.AlikeTo n f' → (Fields.field key p s f).AlikeTo n (.field key p s f') :=
    fun hf => .field (.refl n _) hf _ _
  -- the schemas inside stand under the fourth, the fifth and the ninth key
  exact other <| other <| other <| .field hproperties (.field h.nullable (other <| other <| other <|
    .field h.nullable (other <| other <| other <| other <| other <| other <| other <| other <|
      other <| other <| other <| other <| other <| other <| .done n) _ _) _ _) _ _

/-- The shapes of schemas of two depths read the same from JSON that is too deep for neither. -/
theorem alikeTo_shapeAt : ∀ {k n m : Nat}, k ≤ n → k ≤ m → (shapeAt n).AlikeTo k (shapeAt m)
  | 0, n, m, _, _ => by cases n <;> cases m <;> exact .record_zero
  | k + 1, n + 1, m + 1, hn, hm =>
    .record (alikeTo_fields
      (alikeTo_shapeAt (Nat.le_of_succ_le_succ hn) (Nat.le_of_succ_le_succ hm))) _ _ _

/-- A schema is read alike at every level that is high enough. -/
theorem reads_shapeAt_iff {raw : Json} {s : SchemaProps} (h : raw.depth ≤ n) :
    (shapeAt n).Reads raw s ↔ shape.Reads raw s := by
  unfold shape
  rw [Shape.reads_deferred_iff]
  exact alikeTo_shapeAt h (Nat.le_refl _) raw s (Nat.le_refl _)

/-- An object is read as a schema if its members are read as the fields of one. -/
theorem reads_shape_obj_iff {members : List (String × Json)} {s : SchemaProps} :
    shape.Reads (.obj members) s ↔ (Json.obj members).Ordered ∧
      (fields shape).Reads ((fields shape).keys.map fun key => Assoc.get? key members) s.values := by
  have halike : (fields (shapeAt (Json.depthMembers members))).AlikeTo (Json.depthMembers members)
      (fields shape) := alikeTo_fields fun raw a hraw => reads_shapeAt_iff hraw
  have hslots : ∀ raw, some raw ∈ (fields shape).keys.map (fun key => Assoc.get? key members) →
      raw.depth ≤ Json.depthMembers members := by
    intro raw hmem
    obtain ⟨key, -, hkey⟩ := List.mem_map.1 hmem
    exact Json.depth_le_of_get? hkey
  rw [← reads_shapeAt_iff (Nat.le_refl _), Json.depth, shapeAt, Shape.struct,
    Shape.reads_record_obj_iff, halike.keys]
  refine and_congr_right fun _ => ?_
  rw [← halike.reads _ _ hslots]
  constructor
  · rintro ⟨b, hb, rfl⟩
    exact hb
  · exact fun hb => ⟨s.values, hb, by cases s; rfl⟩

/-! ## Fields -/

section

variable {members : List (String × Json)} {s : SchemaProps}

/-- The optional fields of a schema are read one by one, each under its key. -/
theorem reads_optional (h : shape.Reads (.obj members) s) :
    (Presence.omitted none Option.isNone).Reads shape.nullable
      (Assoc.get? "additionalProperties" members) s.additionalProperties ∧
    (Presence.omitted none Option.isNone).Reads shape.nullable (Assoc.get? "items" members)
      s.items ∧
    (Presence.omitted none Option.isNone).Reads Shape.signed64.nullable
      (Assoc.get? "maximum" members) s.maximum ∧
    (Presence.omitted none Option.isNone).Reads Shape.signed64.nullable
      (Assoc.get? "minimum" members) s.minimum := by
  obtain ⟨-, -, -, -, hadditional, -, -, -, hitems, -, -, -, -, -, -, -, hmaximum, -, hminimum, -⟩ :=
    (reads_shape_obj_iff.1 h).2
  exact ⟨hadditional, hitems, hmaximum, hminimum⟩

/-- The properties of a schema are read from the members of one object, name by name. -/
theorem rel_property?_of_reads (h : shape.Reads (.obj members) s) (name : String) :
    Option.Rel shape.Reads ((Assoc.get? "properties" members).bind (Json.member? name))
      (s.property? name) := by
  obtain ⟨-, -, -, hproperties, -⟩ := (reads_shape_obj_iff.1 h).2
  replace hproperties : (Presence.omitted [] List.isEmpty).Reads
    (.mapped (.dictionary shape) Dictionary.entries Dictionary.ofList)
    (Assoc.get? "properties" members) s.properties := hproperties
  unfold property?
  cases hslot : Assoc.get? "properties" members with
  | none =>
    rw [hslot] at hproperties
    obtain hempty : [] = s.properties := Option.some.inj hproperties
    rw [← hempty]
    exact .none
  | some raw =>
    rw [hslot] at hproperties
    obtain ⟨d, hd, hentries⟩ := Shape.reads_mapped_iff.1 hproperties
    obtain ⟨properties, rfl, -, hrel⟩ := Shape.reads_dictionary_iff.1 hd
    rw [← hentries]
    exact hrel name

end

end SchemaProps

end TopologyHooks
