import TopologyHooks.Proofs.Pointwise
import TopologyHooks.Proofs.Shape.Reading
import TopologyHooks.Schema.Props

/-!
# Values that conform to a schema

* `Json.Conforms` — whether a value is of the type that a schema names, has the members that it
  requires, and its items and declared members conform in turn. Other members are free.
* `Shape.Fits` — whether a shape asks of values only what a schema promises of them. It compares
  the two layer by layer and can be computed.
* `Shape.exists_reads_of_fits` — a value that conforms to a schema can be read as every shape that
  fits the schema.
-/

set_option autoImplicit false

namespace TopologyHooks

/-! ## Conforming values -/

namespace Json

/-- Whether a number is an integer, written as one or not. -/
def isWhole : Json → Bool
  | .num (.int _ _) => true
  | .num (.double d) => d.truncate?.isSome
  | _ => false

/-- Whether a value is of the JSON type with a name. -/
def IsOfType (j : Json) (name : String) : Prop :=
  j.kindName = name ∨ name = "integer" ∧ j.isWhole = true

instance (j : Json) (name : String) : Decidable (j.IsOfType name) :=
  inferInstanceAs (Decidable (_ ∨ _))

mutual

/-- Whether a value conforms to a schema: it is of the type that the schema names, if it names one,
it has the required members, and its items and declared members conform. -/
def Conforms : Json → SchemaProps → Prop
  | .arr items, schema =>
    (∀ name ∈ schema.type, (Json.arr items).IsOfType name) ∧ ConformItems items schema.items
  | .obj members, schema =>
    (∀ name ∈ schema.type, (Json.obj members).IsOfType name) ∧
      (∀ key ∈ schema.required, (Assoc.get? key members).isSome) ∧ ConformMembers members schema
  | j, schema => ∀ name ∈ schema.type, j.IsOfType name

/-- Whether all items conform to the schema of items, if there is one. -/
def ConformItems : List Json → Option SchemaProps → Prop
  | [], _ => True
  | x :: xs, item => (∀ schema ∈ item, Conforms x schema) ∧ ConformItems xs item

/-- Whether all declared members conform to the schemas of their properties. -/
def ConformMembers : List (String × Json) → SchemaProps → Prop
  | [], _ => True
  | (key, x) :: xs, schema =>
    (∀ property ∈ schema.property? key, Conforms x property) ∧ ConformMembers xs schema

end

mutual

/-- Conforming can be computed. -/
def decConforms : (j : Json) → (schema : SchemaProps) → Decidable (j.Conforms schema)
  | .arr items, schema =>
    @instDecidableAnd _ _ inferInstance (decConformItems items schema.items)
  | .obj members, schema =>
    @instDecidableAnd _ _ inferInstance
      (@instDecidableAnd _ _ inferInstance (decConformMembers members schema))
  | .null, schema | .bool _, schema | .num _, schema | .str _, schema =>
    inferInstanceAs (Decidable (∀ name ∈ schema.type, _))

def decConformItems : (items : List Json) → (item : Option SchemaProps) →
    Decidable (ConformItems items item)
  | [], _ => isTrue trivial
  | x :: xs, item =>
    @instDecidableAnd _ _ (@Option.decidableForallMem _ _ (fun schema => decConforms x schema) item)
      (decConformItems xs item)

def decConformMembers : (members : List (String × Json)) → (schema : SchemaProps) →
    Decidable (ConformMembers members schema)
  | [], _ => isTrue trivial
  | (key, x) :: xs, schema =>
    @instDecidableAnd _ _
      (@Option.decidableForallMem _ _ (fun property => decConforms x property)
        (schema.property? key))
      (decConformMembers xs schema)

end

instance (j : Json) (schema : SchemaProps) : Decidable (j.Conforms schema) :=
  decConforms j schema

variable {schema : SchemaProps}

/-- A conforming value is of the type that the schema names. -/
theorem Conforms.isOfType {j : Json} (h : j.Conforms schema) {name : String}
    (hname : schema.type = some name) : j.IsOfType name := by
  cases j with
  | arr items => exact h.1 name hname
  | obj members => exact h.1 name hname
  | _ => exact h name hname

/-- Items conform exactly if each of them does. -/
theorem conformItems_iff {items : List Json} {item : SchemaProps} :
    ConformItems items (some item) ↔ ∀ x ∈ items, x.Conforms item := by
  induction items with
  | nil => simp [ConformItems]
  | cons x xs ih => simp [ConformItems, ih]

/-- Members conform exactly if each declared one does to its property. -/
theorem conformMembers_iff {members : List (String × Json)} :
    ConformMembers members schema ↔
      ∀ e ∈ members, ∀ property ∈ schema.property? e.1, e.2.Conforms property := by
  induction members with
  | nil => simp [ConformMembers]
  | cons e rest ih => simp [ConformMembers, ih]

/-- A declared member conforms to the schema of its property. -/
theorem Conforms.member {members : List (String × Json)} (h : (Json.obj members).Conforms schema)
    {key : String} {x : Json} (hx : Assoc.get? key members = some x) {property : SchemaProps}
    (hp : schema.property? key = some property) : x.Conforms property :=
  conformMembers_iff.1 h.2.2 (key, x) (Assoc.mem_of_get?_eq_some hx) property hp

section

variable {j : Json}

/-- Only for integers, a type is not told by its name alone. -/
theorem Conforms.kindName_eq (h : j.Conforms schema) {name : String}
    (ht : schema.type = some name) (hname : name ≠ "integer") : j.kindName = name :=
  (h.isOfType ht).resolve_right fun hwhole => hname hwhole.1

/-- What conforms to a schema of texts is a text. -/
theorem Conforms.eq_str (h : j.Conforms schema) (ht : schema.type = some "string") :
    ∃ s, j = .str s := by
  have hkind := h.kindName_eq ht (by decide)
  cases j with
  | str s => exact ⟨s, rfl⟩
  | _ => simp [kindName] at hkind

/-- What conforms to a schema of truth values is a truth value. -/
theorem Conforms.eq_bool (h : j.Conforms schema) (ht : schema.type = some "boolean") :
    ∃ b, j = .bool b := by
  have hkind := h.kindName_eq ht (by decide)
  cases j with
  | bool b => exact ⟨b, rfl⟩
  | _ => simp [kindName] at hkind

/-- What conforms to a schema of arrays is an array. -/
theorem Conforms.eq_arr (h : j.Conforms schema) (ht : schema.type = some "array") :
    ∃ items, j = .arr items := by
  have hkind := h.kindName_eq ht (by decide)
  cases j with
  | arr items => exact ⟨items, rfl⟩
  | _ => simp [kindName] at hkind

/-- What conforms to a schema of objects is an object. -/
theorem Conforms.eq_obj (h : j.Conforms schema) (ht : schema.type = some "object") :
    ∃ members, j = .obj members := by
  have hkind := h.kindName_eq ht (by decide)
  cases j with
  | obj members => exact ⟨members, rfl⟩
  | _ => simp [kindName] at hkind

end

end Json

/-! ## Fitting shapes -/

mutual

/-- Whether a shape asks of values only what a schema promises of them. -/
def Shape.fits : {α : Type} → Shape α → SchemaProps → Bool
  | _, .text, schema => schema.type == some "string"
  | _, .flag, schema => schema.type == some "boolean"
  | _, .json, _ => true
  | _, .list item, schema =>
    schema.type == some "array" && schema.items.any fun schema => Shape.fits item schema
  | _, .nullable inner, schema => Shape.fits inner schema
  | _, .record _ fields _ _, schema =>
    schema.type == some "object" && Fields.fits fields schema
  | _, .mapped inner _ _, schema => Shape.fits inner schema
  | _, .described _ inner, schema => Shape.fits inner schema
  | _, _, _ => false

/-- Whether fields are properties of a schema that they fit, and are required there if they must be
there. -/
def Fields.fits : {β : Type} → Fields β → SchemaProps → Bool
  | _, .done, _ => true
  | _, .field key presence shape rest, schema =>
    (presence.absent?.isSome || schema.required.contains key) &&
      ((schema.property? key).any fun property => Shape.fits shape property) &&
      Fields.fits rest schema

end

mutual

/-- A value that conforms to a schema can be read as every shape that fits it. -/
theorem Shape.exists_reads_of_fits : ∀ {α : Type} (s : Shape α) {schema : SchemaProps} {j : Json},
    s.fits schema = true → j.Ordered → j.Conforms schema → ∃ a, s.Reads j a
  | _, .text, schema, j, h, _, hj => by
    obtain ⟨t, rfl⟩ := hj.eq_str (by simpa [Shape.fits] using h)
    exact ⟨t, Shape.reads_text_iff.2 rfl⟩
  | _, .flag, schema, j, h, _, hj => by
    obtain ⟨b, rfl⟩ := hj.eq_bool (by simpa [Shape.fits] using h)
    exact ⟨b, Shape.reads_flag_iff.2 rfl⟩
  | _, .json, schema, j, _, ho, _ => ⟨j, Shape.reads_json_iff.2 ⟨ho, rfl⟩⟩
  | _, .list item, schema, j, h, ho, hj => by
    simp only [Shape.fits, Bool.and_eq_true, beq_iff_eq, Option.any_eq_true] at h
    obtain ⟨htype, inner, hinner, hfits⟩ := h
    obtain ⟨items, rfl⟩ := hj.eq_arr htype
    have hitems : Json.ConformItems items (some inner) := hinner ▸ hj.2
    have heach : ∀ x ∈ items, ∃ a, item.Reads x a := by
      intro x hx
      exact Shape.exists_reads_of_fits item hfits (Json.ordered_arr.1 ho x hx)
        (Json.conformItems_iff.1 hitems x hx)
    obtain ⟨as, has⟩ := exists_forall₂ heach
    exact ⟨as, Shape.reads_list_iff.2 ⟨items, rfl, has⟩⟩
  | _, .nullable inner, schema, j, h, ho, hj => by
    by_cases hnull : j = .null
    · exact ⟨none, Shape.reads_nullable_iff.2 (.inl ⟨hnull, rfl⟩)⟩
    · obtain ⟨a, ha⟩ := Shape.exists_reads_of_fits inner h ho hj
      exact ⟨some a, Shape.reads_nullable_iff.2 (.inr ⟨hnull, a, ha, rfl⟩)⟩
  | _, .record form fields into outOf, schema, j, h, ho, hj => by
    simp only [Shape.fits, Bool.and_eq_true, beq_iff_eq] at h
    obtain ⟨members, rfl⟩ := hj.eq_obj h.1
    obtain ⟨b, hb⟩ := Fields.exists_reads_of_fits fields h.2 ho hj
    exact ⟨into b, Shape.reads_record_obj_iff.2 ⟨ho, b, hb, rfl⟩⟩
  | _, .mapped inner into outOf, schema, j, h, ho, hj => by
    obtain ⟨a, ha⟩ := Shape.exists_reads_of_fits inner h ho hj
    exact ⟨into a, Shape.reads_mapped_iff.2 ⟨a, ha, rfl⟩⟩
  | _, .described doc inner, schema, j, h, ho, hj => by
    obtain ⟨a, ha⟩ := Shape.exists_reads_of_fits inner h ho hj
    exact ⟨a, ha⟩
  | _, .integer _ _ _, _, _, h, _, _ => by simp [Shape.fits] at h
  | _, .real, _, _, h, _, _ => by simp [Shape.fits] at h
  | _, .spelled _ _ _, _, _, h, _, _ => by simp [Shape.fits] at h
  | _, .dictionary _, _, _, h, _, _ => by simp [Shape.fits] at h
  | _, .choice _ _, _, _, h, _, _ => by simp [Shape.fits] at h
  | _, .flattened _ _ _ _ _, _, _, h, _, _ => by simp [Shape.fits] at h
  | _, .deferred _ _, _, _, h, _, _ => by simp [Shape.fits] at h

/-- The members of an object that conforms to a schema can be read as all fields that fit it. -/
theorem Fields.exists_reads_of_fits : ∀ {β : Type} (fields : Fields β) {schema : SchemaProps}
    {members : List (String × Json)}, fields.fits schema = true → (Json.obj members).Ordered →
    (Json.obj members).Conforms schema →
    ∃ b, fields.Reads (fields.keys.map fun key => Assoc.get? key members) b
  | _, .done, _, _, _, _, _ => ⟨(), trivial⟩
  | _, .field key presence s rest, schema, members, h, ho, hj => by
    simp only [Fields.fits, Bool.and_eq_true, Bool.or_eq_true, Option.any_eq_true] at h
    obtain ⟨⟨hpresence, property, hproperty, hfits⟩, hrest⟩ := h
    obtain ⟨b, hb⟩ := Fields.exists_reads_of_fits rest hrest ho hj
    have hslot : ∃ a, presence.Reads s (Assoc.get? key members) a := by
      cases hx : Assoc.get? key members with
      | none =>
        obtain habsent | hrequired := hpresence
        · obtain ⟨a, ha⟩ := Option.isSome_iff_exists.1 habsent
          exact ⟨a, ha⟩
        · have hthere := hj.2.1 key (List.contains_iff_mem.1 hrequired)
          rw [hx] at hthere
          cases hthere
      | some x =>
        obtain ⟨a, ha⟩ := Shape.exists_reads_of_fits s hfits ((Json.ordered_obj.1 ho).2 key x hx)
          (hj.member hx hproperty)
        exact ⟨a, ha⟩
    obtain ⟨a, ha⟩ := hslot
    exact ⟨(a, b), ha, hb⟩

end

end TopologyHooks
