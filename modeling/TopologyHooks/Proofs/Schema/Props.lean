import TopologyHooks.Proofs.Shape.ReadBack
import TopologyHooks.Schema.Props

/-!
# Variable schemas are read back

* `SchemaProps.Lawful` — the schemas that come back from their JSON: no value in them is a null
  that would be missing, and the properties of each are sorted.
* `SchemaProps.Lawful.of_reads` — every schema that was read is one.
* `SchemaProps.Lawful.readsBack` — and is read from what is written for it. A schema is read at the
  depth of its JSON but written at its own height, so it is shown first that it is written alike
  at every level that is high enough (`SchemaProps.Lawful.toJson_shapeAt`), and that its JSON is
  deep enough (`SchemaProps.Lawful.height_le_depth`).
-/

set_option autoImplicit false

namespace TopologyHooks

namespace SchemaProps

/-- Whether a schema comes back from its JSON. -/
inductive Lawful : SchemaProps → Prop
  | mk {s : SchemaProps}
    (sample : ∀ j, s.sample = some j → j ≠ .null ∧ j.Ordered)
    (default : ∀ j, s.default = some j → j ≠ .null ∧ j.Ordered)
    (allowed : ∀ j ∈ s.allowed, j.Ordered)
    (sorted : Assoc.Sorted s.properties)
    (properties : ∀ e ∈ s.properties, Lawful e.2)
    (additional : ∀ a, s.additionalProperties = some a → Lawful a)
    (items : ∀ a, s.items = some a → Lawful a) : Lawful s

/-! ## Heights -/

/-- Properties are no higher than a number exactly if none of them is. -/
theorem heightMembers_le_iff {properties : List (String × SchemaProps)} {n : Nat} :
    heightMembers properties ≤ n ↔ ∀ e ∈ properties, e.2.height ≤ n := by
  induction properties with
  | nil => simp [heightMembers]
  | cons e rest ih => rw [heightMembers, Nat.max_le, ih, List.forall_mem_cons]

/-- An optional schema is no higher than a number exactly if the schema is not, should there be
one. -/
theorem heightOption_le_iff {o : Option SchemaProps} {n : Nat} :
    heightOption o ≤ n ↔ ∀ s, o = some s → s.height ≤ n := by
  cases o <;> simp [heightOption]

/-- A schema is higher than the schemas inside it, and no higher than it must be. -/
theorem height_le_succ_iff {s : SchemaProps} {n : Nat} :
    s.height ≤ n + 1 ↔ (∀ e ∈ s.properties, e.2.height ≤ n) ∧
      (∀ a, s.additionalProperties = some a → a.height ≤ n) ∧
      ∀ a, s.items = some a → a.height ≤ n := by
  have hheight : s.height = max (heightMembers s.properties)
      (max (heightOption s.additionalProperties) (heightOption s.items)) + 1 := by
    cases s
    rw [height]
  rw [hheight, Nat.add_le_add_iff_right, Nat.max_le, Nat.max_le, heightMembers_le_iff,
    heightOption_le_iff, heightOption_le_iff]

/-- Every schema has a positive height. -/
theorem exists_succ_of_height_le {s : SchemaProps} {n : Nat} (h : s.height ≤ n) :
    ∃ m, n = m + 1 := by
  refine Nat.exists_eq_succ_of_ne_zero ?_
  rintro rfl
  cases s
  simp [height] at h

/-! ## One level -/

/-- The values of the fields of a schema. -/
def values (s : SchemaProps) :=
  (s.description, s.sample, s.type, s.properties, s.additionalProperties, s.maxProperties,
    s.minProperties, s.required, s.items, s.maxItems, s.minItems, s.uniqueItems, s.format,
    s.maxLength, s.minLength, s.pattern, s.maximum, s.exclusiveMaximum, s.minimum,
    s.exclusiveMinimum, s.preserveUnknownFields, s.allowed, s.default, ())

variable {inner inner' : Shape SchemaProps} {s : SchemaProps} {n m : Nat}

/-- The fields of a schema have distinct keys. -/
theorem nodup_keys_fields (inner : Shape SchemaProps) : (fields inner).keys.Nodup := by
  show ["description", "example", "type", "properties", "additionalProperties", "maxProperties",
    "minProperties", "required", "items", "maxItems", "minItems", "uniqueItems", "format",
    "maxLength", "minLength", "pattern", "maximum", "exclusiveMaximum", "minimum",
    "exclusiveMinimum", "x-kubernetes-preserve-unknown-fields", "enum", "default"].Nodup
  decide

/-- A schema is written as the object of its fields, with the schemas inside it one level lower. -/
theorem toJson_shapeAt_succ (s : SchemaProps) (n : Nat) :
    (shapeAt (n + 1)).toJson s = .obj ((fields (shapeAt n)).sorted s.values) := by
  rw [shapeAt, Shape.struct, Shape.toJson_record]
  cases s
  rfl

/-- The properties of a schema, as a dictionary. -/
theorem toJson_properties (inner : Shape SchemaProps) {properties : List (String × SchemaProps)}
    (hs : Assoc.Sorted properties) :
    (Shape.mapped (.dictionary inner) Dictionary.entries Dictionary.ofList).toJson properties =
      .obj (properties.map fun e => (e.1, inner.toJson e.2)) := by
  have hentries : (Dictionary.ofList properties).entries = properties :=
    Assoc.insertAll_eq_self hs
  rw [Shape.toJson, Shape.toJson, hentries]

/-- Sorted properties are read back if the schema of each of them is. -/
theorem readsBack_properties {properties : List (String × SchemaProps)}
    (hs : Assoc.Sorted properties) (h : ∀ e ∈ properties, inner.ReadsBack e.2) :
    (Presence.omitted [] List.isEmpty).ReadsBack
      (.mapped (.dictionary inner) Dictionary.entries Dictionary.ofList) properties := by
  have hentries : (Dictionary.ofList properties).entries = properties :=
    Assoc.insertAll_eq_self hs
  refine Presence.readsBack_omitted List.isEmpty_iff.1 fun _ =>
    Shape.readsBack_mapped hentries (Shape.readsBack_dictionary fun key a hkey => ?_)
  rw [Dictionary.get?, hentries] at hkey
  exact h _ (Assoc.mem_of_get?_eq_some hkey)

/-- A schema is read back if the schemas inside it are, and are not written as null. -/
theorem Lawful.readsBack_fields (h : s.Lawful)
    (hproperties : ∀ e ∈ s.properties, inner.ReadsBack e.2)
    (hadditional : ∀ a, s.additionalProperties = some a →
      inner.toJson a ≠ .null ∧ inner.ReadsBack a)
    (hitems : ∀ a, s.items = some a → inner.toJson a ≠ .null ∧ inner.ReadsBack a) :
    (fields inner).ReadsBack s.values := by
  obtain ⟨hsample, hdefault, hallowed, hsorted, -, -, -⟩ := h
  have hfield := readsBack_properties hsorted hproperties
  simp [fields, values, Fields.readsBack_field_iff]
  exact ⟨hsample, hfield, hadditional, hitems, hallowed, hdefault⟩

/-! ## Schemas that were read -/

/-- The schema of anything is lawful. -/
theorem lawful_anything : Lawful anything := by
  constructor <;> simp [anything, Assoc.sorted_nil]

/-- Optional JSON that was read is ordered and no null. -/
theorem exists_of_reads_json {slot : Option Json} {o : Option Json}
    (h : (Presence.omitted none Option.isNone).Reads Shape.json.nullable slot o) (j : Json)
    (hj : o = some j) : j ≠ .null ∧ j.Ordered := by
  subst hj
  obtain ⟨raw, hnull, hraw⟩ := Presence.exists_of_reads_optional h
  obtain ⟨ho, rfl⟩ := Shape.reads_json_iff.1 hraw
  exact ⟨hnull, ho⟩

/-- Properties that were read are sorted, and each of them was read. -/
theorem sorted_of_reads_properties {slot : Option Json} {properties : List (String × SchemaProps)}
    (h : (Presence.omitted [] List.isEmpty).Reads
      (.mapped (.dictionary inner) Dictionary.entries Dictionary.ofList) slot properties) :
    Assoc.Sorted properties ∧ ∀ e ∈ properties, ∃ raw, inner.Reads raw e.2 := by
  cases slot with
  | none =>
    obtain rfl : [] = properties := Option.some.inj h
    exact ⟨Assoc.sorted_nil, fun e he => absurd he List.not_mem_nil⟩
  | some raw =>
    obtain ⟨d, hd, rfl⟩ := Shape.reads_mapped_iff.1 h
    refine ⟨d.sorted, fun e he => ?_⟩
    exact Shape.exists_of_reads_dictionary hd (Assoc.get?_eq_some_of_mem d.sorted he)

/-- Every schema that was read comes back from its JSON. -/
theorem Lawful.of_reads_shapeAt : ∀ {n : Nat} {raw : Json} {s : SchemaProps},
    (shapeAt n).Reads raw s → s.Lawful
  | 0, raw, s, h => by
    obtain ⟨-, -, -, rfl⟩ := Shape.exists_reads_of_reads_record h
    exact lawful_anything
  | n + 1, raw, s, h => by
    obtain ⟨slots, ⟨description, sample, type, properties, additional, maxProperties,
      minProperties, required, items, maxItems, minItems, unique, format, maxLength, minLength,
      pattern, maximum, exclusiveMaximum, minimum, exclusiveMinimum, preserve, allowed, default, _⟩,
      hb, rfl⟩ := Shape.exists_reads_of_reads_record h
    obtain ⟨-, hsample, -, hproperties, hadditional, -, -, -, hitems, -, -, -, -, -, -, -, -, -,
      -, -, -, hallowed, hdefault, -⟩ := hb
    obtain ⟨hsorted, hproperties⟩ := sorted_of_reads_properties hproperties
    refine ⟨exists_of_reads_json hsample, exists_of_reads_json hdefault, fun j hj => ?_, hsorted,
      fun e he => ?_, ?_, ?_⟩
    · obtain ⟨raw, hraw⟩ := Presence.exists_of_reads_listed hallowed hj
      exact (Shape.reads_json_iff.1 hraw).2 ▸ hraw.ordered
    · obtain ⟨raw, hraw⟩ := hproperties e he
      exact of_reads_shapeAt hraw
    · rintro a rfl
      obtain ⟨raw, -, hraw⟩ := Presence.exists_of_reads_optional hadditional
      exact of_reads_shapeAt hraw
    · rintro a rfl
      obtain ⟨raw, -, hraw⟩ := Presence.exists_of_reads_optional hitems
      exact of_reads_shapeAt hraw

/-- A schema that was read is lawful. -/
theorem Lawful.of_reads {raw : Json} (h : shape.Reads raw s) : s.Lawful :=
  of_reads_shapeAt (Shape.reads_deferred_iff.1 h)

/-! ## Levels -/

/-- A schema is not written as null. -/
theorem toJson_shapeAt_ne_null (n : Nat) (s : SchemaProps) : (shapeAt n).toJson s ≠ .null := by
  cases n with
  | zero => simp [shapeAt, Shape.struct, Shape.toJson_record]
  | succ n => simp [toJson_shapeAt_succ]

/-- An optional schema is written in the same way by shapes that write it in the same way. -/
theorem written_optional_congr {o : Option SchemaProps}
    (h : ∀ a, o = some a → inner.toJson a = inner'.toJson a) :
    (Presence.omitted none Option.isNone).written inner.nullable o =
      (Presence.omitted none Option.isNone).written inner'.nullable o := by
  cases o with
  | none => rfl
  | some a => simp [Presence.written, Presence.skips, Shape.toJson, h a rfl]

/-- A schema is written alike wherever the schemas inside it are. -/
theorem sorted_fields_congr (hs : Assoc.Sorted s.properties)
    (hproperties : ∀ e ∈ s.properties, inner.toJson e.2 = inner'.toJson e.2)
    (hadditional : ∀ a, s.additionalProperties = some a → inner.toJson a = inner'.toJson a)
    (hitems : ∀ a, s.items = some a → inner.toJson a = inner'.toJson a) :
    (fields inner).sorted s.values = (fields inner').sorted s.values := by
  have hmap : (s.properties.map fun e => (e.1, inner.toJson e.2)) =
      s.properties.map fun e => (e.1, inner'.toJson e.2) :=
    List.map_congr_left fun e he => by rw [hproperties e he]
  have hkeys : (fields inner).keys = (fields inner').keys := rfl
  refine Fields.sorted_congr (nodup_keys_fields inner) hkeys ?_
  simp only [fields, values, Fields.optional, Fields.listed, Fields.marked, Fields.written,
    written_optional_congr hadditional, written_optional_congr hitems]
  simp only [Presence.written, toJson_properties _ hs, hmap]

/-- A schema is written alike at every level that is high enough. -/
theorem Lawful.toJson_shapeAt (h : s.Lawful) {n m : Nat} (hn : s.height ≤ n) (hm : s.height ≤ m) :
    (shapeAt n).toJson s = (shapeAt m).toJson s := by
  induction h generalizing n m with
  | mk _ _ _ hsorted _ _ _ ihproperties ihadditional ihitems =>
    obtain ⟨n, rfl⟩ := exists_succ_of_height_le hn
    obtain ⟨m, rfl⟩ := exists_succ_of_height_le hm
    obtain ⟨hnp, hna, hni⟩ := height_le_succ_iff.1 hn
    obtain ⟨hmp, hma, hmi⟩ := height_le_succ_iff.1 hm
    rw [toJson_shapeAt_succ, toJson_shapeAt_succ, sorted_fields_congr hsorted]
    · exact fun e he => ihproperties e he (hnp e he) (hmp e he)
    · exact fun a ha => ihadditional a ha (hna a ha) (hma a ha)
    · exact fun a ha => ihitems a ha (hni a ha) (hmi a ha)

/-- What is written for a field of a schema stands under its key. -/
theorem get?_sorted_fields (inner : Shape SchemaProps) (s : SchemaProps) {i : Nat} {key : String}
    (hkey : (fields inner).keys[i]? = some key) :
    some (Assoc.get? key ((fields inner).sorted s.values)) =
      ((fields inner).written s.values)[i]? :=
  (Fields.getElem?_written (nodup_keys_fields inner) s.values hkey).symm

/-- The schema of additional properties is written under its key. -/
theorem get?_additional {a : SchemaProps} (h : s.additionalProperties = some a) :
    Assoc.get? "additionalProperties" ((fields inner).sorted s.values) = some (inner.toJson a) := by
  have hget := get?_sorted_fields inner s (i := 4) rfl
  refine (Option.some.inj hget).trans ?_
  show (Presence.omitted none Option.isNone).written inner.nullable s.additionalProperties = _
  simp [h, Presence.written, Presence.skips, Shape.toJson]

/-- The schema of items is written under its key. -/
theorem get?_items {a : SchemaProps} (h : s.items = some a) :
    Assoc.get? "items" ((fields inner).sorted s.values) = some (inner.toJson a) := by
  have hget := get?_sorted_fields inner s (i := 8) rfl
  refine (Option.some.inj hget).trans ?_
  show (Presence.omitted none Option.isNone).written inner.nullable s.items = _
  simp [h, Presence.written, Presence.skips, Shape.toJson]

/-- Properties are written under their key, unless there are none. -/
theorem get?_properties (inner : Shape SchemaProps) (hs : Assoc.Sorted s.properties)
    (hne : s.properties ≠ []) :
    Assoc.get? "properties" ((fields inner).sorted s.values) =
      some (.obj (s.properties.map fun e => (e.1, inner.toJson e.2))) := by
  have hget := get?_sorted_fields inner s (i := 3) rfl
  refine (Option.some.inj hget).trans ?_
  show (Presence.omitted [] List.isEmpty).written
    (.mapped (.dictionary inner) Dictionary.entries Dictionary.ofList) s.properties = _
  simp [Presence.written, Presence.skips, toJson_properties inner hs, hne]

/-- The JSON of a schema is as deep as the schema is high, or deeper. -/
theorem Lawful.height_le_depth (h : s.Lawful) {n : Nat} (hn : s.height ≤ n) :
    s.height ≤ ((shapeAt n).toJson s).depth := by
  induction h generalizing n with
  | mk _ _ _ hsorted _ _ _ ihproperties ihadditional ihitems =>
    obtain ⟨n, rfl⟩ := exists_succ_of_height_le hn
    obtain ⟨hproperties, hadditional, hitems⟩ := height_le_succ_iff.1 hn
    rw [toJson_shapeAt_succ, Json.depth, height_le_succ_iff]
    refine ⟨fun e he => ?_, fun a ha => ?_, fun a ha => ?_⟩
    · have hmember := Json.depthMembers_le_iff.1 (Nat.le_refl _) _
        (List.mem_map_of_mem (f := fun e => (e.1, (shapeAt n).toJson e.2)) he)
      have hobject := Json.depth_le_of_get?
        (get?_properties (shapeAt n) hsorted (List.ne_nil_of_mem he))
      exact Nat.le_trans (ihproperties e he (hproperties e he))
        (Nat.le_trans hmember (Nat.le_trans (Nat.le_succ _) hobject))
    · exact Nat.le_trans (ihadditional a ha (hadditional a ha))
        (Json.depth_le_of_get? (get?_additional ha))
    · exact Nat.le_trans (ihitems a ha (hitems a ha)) (Json.depth_le_of_get? (get?_items ha))

/-- A schema is read back at every level that is high enough. -/
theorem Lawful.readsBack_shapeAt (h : s.Lawful) {n : Nat} (hn : s.height ≤ n) :
    (shapeAt n).ReadsBack s := by
  induction h generalizing n with
  | @mk s hsample hdefault hallowed hsorted hp ha hi ihproperties ihadditional ihitems =>
    obtain ⟨n, rfl⟩ := exists_succ_of_height_le hn
    obtain ⟨hproperties, hadditional, hitems⟩ := height_le_succ_iff.1 hn
    have hlawful : s.Lawful := ⟨hsample, hdefault, hallowed, hsorted, hp, ha, hi⟩
    refine Shape.readsBack_record (nodup_keys_fields _) (by cases s; rfl) ?_
    have hfields := hlawful.readsBack_fields
      (fun e he => ihproperties e he (hproperties e he))
      (fun a ha => ⟨toJson_shapeAt_ne_null n a, ihadditional a ha (hadditional a ha)⟩)
      (fun a ha => ⟨toJson_shapeAt_ne_null n a, ihitems a ha (hitems a ha)⟩)
    cases s
    exact hfields

/-- **A schema that was read is read back** from what is written for it. -/
theorem Lawful.readsBack (h : s.Lawful) : shape.ReadsBack s := by
  have hheight : s.height ≤ s.height := Nat.le_refl _
  have hdepth := h.height_le_depth hheight
  have hread := h.readsBack_shapeAt hdepth
  rw [Shape.ReadsBack, ← h.toJson_shapeAt hheight hdepth] at hread
  exact Shape.readsBack_deferred_iff.2 hread

end SchemaProps

end TopologyHooks
