import Mathlib.Logic.Relation
import TopologyHooks.Proofs.Json.Ordered
import TopologyHooks.Proofs.Schema.Node

/-!
# Which schemas are accepted

* `Schema.Subschema` — the schemas that stand under a keyword. `Schema.Inside` is a schema inside
  another one, be it under a keyword or the only one of a conjunction.
* `Schema.Visited` — a schema that narrowing another one goes on with: it stands under a keyword of
  the node itself, or of the schema that the node wraps where the node lacks the keyword.
* `Schema.Supported` — whether a single node is no reference and no union.
* `Schema.exists_narrow_iff` — narrowing succeeds exactly if it meets supported nodes only. It never
  meets a wrapped schema as a node of its own, so that a reference or a union there is accepted
  (`Schema.not_supported_of_advertise`).
-/

set_option autoImplicit false

namespace TopologyHooks

namespace Schema

/-! ## Schemas inside schemas -/

/-- A schema that the value of a keyword holds. Additional properties that are only allowed or
forbidden as a whole are none. -/
inductive Subschema : String → Json → Json → Prop
  | property {properties : Members} {name : String} {child : Json}
      (h : (name, child) ∈ properties) : Subschema "properties" (.obj properties) child
  | items (child : Json) : Subschema "items" child child
  | additional {child : Json} (h : ∀ b, child ≠ .bool b) :
      Subschema "additionalProperties" child child

/-- A schema inside another one: under a keyword, or as the only one of a conjunction. -/
inductive Inside : Json → Json → Prop
  | keyword {members : Members} {key : String} {v child : Json}
      (hv : Assoc.get? key members = some v) (hchild : Subschema key v child) :
      Inside (.obj members) child
  | conjunct {members : Members} {child : Json}
      (h : Assoc.get? "allOf" members = some (.arr [child])) : Inside (.obj members) child

/-- A schema that narrowing goes on with. -/
inductive Visited : Json → Json → Prop
  | own {members : Members} {key : String} {v child : Json}
      (hv : Assoc.get? key members = some v) (hchild : Subschema key v child) :
      Visited (.obj members) child
  | wrapped {members : Members} {key : String} {v child : Json}
      (hlacks : Assoc.get? key members = none) (hv : Assoc.get? key (wrapped members) = some v)
      (hchild : Subschema key v child) : Visited (.obj members) child

/-- What narrowing meets after any number of steps. -/
abbrev Visits : Json → Json → Prop := Relation.ReflTransGen Visited

/-- The keywords of references and unions. -/
def refusedKeywords : List String := "$ref" :: unionKeywords

/-- Whether a node by itself is a schema that clusters accept. -/
inductive Supported : Json → Prop
  | anything : Supported (.bool true)
  | members {members : Members} (h : ∀ key ∈ refusedKeywords, Assoc.get? key members = none) :
      Supported (.obj members)

variable {members : Members} {node child : Json}

/-- Members are not refused exactly if there is no reference and no union among them. -/
theorem refusal?_eq_none_iff :
    refusal? members = none ↔ ∀ key ∈ refusedKeywords, Assoc.get? key members = none := by
  unfold refusal? refusedKeywords has
  cases href : Assoc.get? "$ref" members <;> simp [href]

/-- An object is supported by itself exactly if its members are not refused. -/
theorem supported_obj_iff : Supported (.obj members) ↔ refusal? members = none := by
  rw [refusal?_eq_none_iff]
  constructor
  · intro h
    cases h with
    | members h => exact h
  · exact .members

/-- Narrowing goes on with the schemas under the keywords of an object, its own and those of the
only schema of a conjunction. -/
theorem visited_obj_iff : Visited (.obj members) child ↔ ∃ key v,
    (Assoc.get? key members).or (Assoc.get? key (wrapped members)) = some v ∧
      Subschema key v child := by
  constructor
  · rintro (⟨hv, hchild⟩ | ⟨hlacks, hv, hchild⟩)
    · exact ⟨_, _, by rw [hv, Option.some_or], hchild⟩
    · exact ⟨_, _, by rw [hlacks, Option.none_or, hv], hchild⟩
  · rintro ⟨key, v, hv, hchild⟩
    rcases Option.or_eq_some_iff.1 hv with hv | ⟨hlacks, hv⟩
    · exact .own hv hchild
    · exact .wrapped hlacks hv hchild

/-! ## Depth -/

/-- A schema that a keyword holds is no deeper than the value of the keyword. -/
theorem Subschema.depth_le {key : String} {v : Json} (h : Subschema key v child) :
    child.depth ≤ v.depth := by
  cases h with
  | property h =>
    exact Nat.le_succ_of_le (Json.depthMembers_le_iff.1 (Nat.le_refl _) _ h)
  | items _ => exact Nat.le_refl _
  | additional _ => exact Nat.le_refl _

/-- The members of the only schema of a conjunction are no deeper than those around it. -/
theorem depthMembers_wrapped_le (members : Members) :
    Json.depthMembers (wrapped members) ≤ Json.depthMembers members := by
  unfold wrapped
  split
  · rename_i extra hall
    have hle := Json.depth_le_of_get? hall
    simp only [Json.depth, Json.depthItems] at hle
    omega
  · exact Nat.zero_le _

/-- Narrowing goes on with shallower schemas. -/
theorem Visited.depth_lt (h : Visited node child) : child.depth < node.depth := by
  cases h with
  | own hv hchild =>
    apply Nat.lt_succ_of_le
    exact Nat.le_trans hchild.depth_le (Json.depth_le_of_get? hv)
  | @wrapped members _ _ _ _ hv hchild =>
    apply Nat.lt_succ_of_le
    have hle := Nat.le_trans hchild.depth_le (Json.depth_le_of_get? hv)
    exact Nat.le_trans hle (depthMembers_wrapped_le members)

/-! ## Narrowing -/

/-- Schemas stand under keywords that tidying a node leaves alone. -/
theorem Subschema.not_mem_tidied {key : String} {v : Json} (h : Subschema key v child) :
    key ∉ tidied := by
  cases h <;> decide

/-- Additional properties that are a truth value hold no schema. -/
theorem Subschema.ne_bool {key : String} {v : Json} (h : Subschema key v child)
    (hkey : key = "additionalProperties") (b : Bool) : v ≠ .bool b := by
  cases h with
  | property _ => exact absurd hkey (by decide)
  | items _ => exact absurd hkey (by decide)
  | additional hbool => exact hbool b

/-- What is visited from a node stands in what tidying leaves of it. -/
theorem visited_iff_tidy : Visited (.obj members) child ↔
    ∃ key v, Assoc.get? key (tidy members) = some v ∧ Subschema key v child := by
  rw [visited_obj_iff]
  constructor
  · rintro ⟨key, v, hv, hchild⟩
    exact ⟨key, v, (get?_tidy_eq_some_iff hchild.not_mem_tidied).2 ⟨hv, hchild.ne_bool⟩, hchild⟩
  · rintro ⟨key, v, hv, hchild⟩
    exact ⟨key, v, ((get?_tidy_eq_some_iff hchild.not_mem_tidied).1 hv).1, hchild⟩

/-- What holds of all that is visited from a node, keyword by keyword. -/
theorem forall_visited_iff {P : Json → Prop} :
    (∀ child, Visited (.obj members) child → P child) ↔
      (∀ v, Assoc.get? "additionalProperties" (tidy members) = some v → P v) ∧
      (∀ v, Assoc.get? "properties" (tidy members) = some v →
        ∀ properties, v = .obj properties → ∀ e ∈ properties, P e.2) ∧
      ∀ v, Assoc.get? "items" (tidy members) = some v → P v := by
  constructor
  · intro h
    have hsub : ∀ {key v child}, Assoc.get? key (tidy members) = some v → Subschema key v child →
        P child := fun hv hchild => h _ (visited_iff_tidy.2 ⟨_, _, hv, hchild⟩)
    refine ⟨fun v hv => hsub hv (.additional ?_), ?_, fun v hv => hsub hv (.items v)⟩
    · exact ((get?_tidy_eq_some_iff (by decide)).1 hv).2 rfl
    · rintro v hv properties rfl e he
      exact hsub hv (.property he)
  · rintro ⟨hadditional, hproperties, hitems⟩ child hvisited
    obtain ⟨key, v, hv, hchild⟩ := visited_iff_tidy.1 hvisited
    cases hchild with
    | property hmem => exact hproperties _ hv _ rfl _ hmem
    | items _ => exact hitems _ hv
    | additional _ => exact hadditional _ hv

/-- A node is narrowed exactly if it is no reference and no union, and all that is visited from it
is narrowed. -/
theorem exists_narrowWithin_obj_iff {fuel : Nat} :
    (∃ narrowed, narrowWithin (fuel + 1) (.obj members) = .ok narrowed) ↔
      Supported (.obj members) ∧
        ∀ child, Visited (.obj members) child → ∃ narrowed, narrowWithin fuel child = .ok narrowed := by
  rw [supported_obj_iff, forall_visited_iff]
  constructor
  · rintro ⟨narrowed, h⟩
    obtain ⟨hrefused, a, b, c, ha, hb, hc, -⟩ := narrowWithin_obj_eq_ok_iff.1 h
    -- the three keywords are changed one after the other, each as it was at first
    refine ⟨hrefused, exists_under_iff.1 ⟨a, ha⟩, fun v hv => ?_, fun v hv => ?_⟩
    · rw [← get?_of_under ha (by decide)] at hv
      exact exists_eachProperty_iff.1 (exists_under_iff.1 ⟨b, hb⟩ v hv)
    · rw [← get?_of_under ha (by decide), ← get?_of_under hb (by decide)] at hv
      exact exists_under_iff.1 ⟨c, hc⟩ v hv
  · rintro ⟨hrefused, hadditional, hproperties, hitems⟩
    obtain ⟨a, ha⟩ := exists_under_iff.2 hadditional
    obtain ⟨b, hb⟩ : ∃ b, under "properties" (eachProperty (narrowWithin fuel)) a = .ok b := by
      refine exists_under_iff.2 fun v hv => exists_eachProperty_iff.2 (hproperties v ?_)
      rw [← get?_of_under ha (by decide)]
      exact hv
    obtain ⟨c, hc⟩ : ∃ c, under "items" (narrowWithin fuel) b = .ok c := by
      refine exists_under_iff.2 fun v hv => hitems v ?_
      rw [← get?_of_under ha (by decide), ← get?_of_under hb (by decide)]
      exact hv
    exact ⟨.obj c, narrowWithin_obj_eq_ok_iff.2 ⟨hrefused, a, b, c, ha, hb, hc, rfl⟩⟩

/-- One step of narrowing: the node must be supported, and what is visited from it is narrowed. -/
theorem exists_narrowWithin_succ_iff {fuel : Nat} :
    (∃ narrowed, narrowWithin (fuel + 1) node = .ok narrowed) ↔
      Supported node ∧
        ∀ child, Visited node child → ∃ narrowed, narrowWithin fuel child = .ok narrowed := by
  cases node with
  | obj members => exact exists_narrowWithin_obj_iff
  | bool b =>
    cases b with
    | true =>
      refine iff_of_true ⟨_, rfl⟩ ⟨.anything, ?_⟩
      rintro child (_ | _)
    | false => exact iff_of_false (by rintro ⟨_, h⟩; cases h) (by rintro ⟨_ | _, -⟩)
  | _ => exact iff_of_false (by rintro ⟨_, h⟩; cases h) (by rintro ⟨_ | _, -⟩)

/-- All that narrowing meets has a property exactly if the node itself has it, and all that is met
from the next ones. -/
theorem forall_visits_iff {P : Json → Prop} : (∀ met, Visits node met → P met) ↔
    P node ∧ ∀ child, Visited node child → ∀ met, Visits child met → P met := by
  constructor
  · intro h
    exact ⟨h node .refl, fun child hchild met hmet => h met (.head hchild hmet)⟩
  · rintro ⟨hnode, h⟩ met hmet
    rcases hmet.cases_head with rfl | ⟨child, hchild, hmet⟩
    · exact hnode
    · exact h child hchild met hmet

/-- Within enough fuel, a schema is narrowed exactly if all that is met is supported. The induction
is on the fuel, one step of narrowing at a time. -/
theorem exists_narrowWithin_iff : ∀ {fuel : Nat} {node : Json}, node.depth < fuel →
    ((∃ narrowed, narrowWithin fuel node = .ok narrowed) ↔ ∀ met, Visits node met → Supported met)
  | fuel + 1, node, hfuel => by
    rw [exists_narrowWithin_succ_iff, forall_visits_iff]
    refine and_congr_right fun _ => forall₂_congr fun child hchild => ?_
    exact exists_narrowWithin_iff
      (Nat.lt_of_lt_of_le hchild.depth_lt (Nat.le_of_lt_succ hfuel))

/-- A schema is narrowed exactly if no reference, no union and nothing but schemas is met on the
way; and only such a schema is advertised. -/
theorem exists_narrow_iff (root : Json) :
    ((∃ narrowed, narrow root = .ok narrowed) ↔ ∀ node, Visits root node → Supported node) ∧
      ∀ props, advertise root = .ok props → ∀ node, Visits root node → Supported node := by
  have hnarrow : (∃ narrowed, narrow root = .ok narrowed) ↔
      ∀ node, Visits root node → Supported node := exists_narrowWithin_iff (Nat.lt_succ_self _)
  refine ⟨hnarrow, fun props hprops => hnarrow.1 ?_⟩
  unfold advertise at hprops
  cases hnarrowed : narrow root with
  | error fault =>
    rw [hnarrowed] at hprops
    cases hprops
  | ok narrowed => exact ⟨narrowed, rfl⟩

/-- A reference to the schema of nodes. -/
def reference : Members := [("$ref", .str "#/components/schemas/Node")]

/-- The reference, with a description of the next node. -/
def described : Members :=
  [("allOf", .arr [.obj reference]), ("description", .str "The next node")]

/-- A node with the schema of the next one. -/
def linkedBy (next : Members) : Json :=
  .obj [("properties", .obj [("next", .obj next)]), ("type", .str "object")]

/-- The schema of the next node is one that the keyword for properties holds. -/
theorem subschema_linkedBy (next : Members) :
    Subschema "properties" (.obj [("next", .obj next)]) (.obj next) :=
  .property List.mem_cons_self

/-- Nodes that refer to each other are not advertised. -/
theorem exists_narrow_iff_reference : ¬ ∃ props, advertise (linkedBy reference) = .ok props := by
  rintro ⟨props, h⟩
  have hvisits : Visits (linkedBy reference) (.obj reference) :=
    .single (.own rfl (subschema_linkedBy reference))
  have hsupported := (exists_narrow_iff (linkedBy reference)).2 props h _ hvisits
  rw [supported_obj_iff] at hsupported
  cases hsupported

/-- Nodes that refer to each other are advertised if the reference comes with a description, and
anything may then stand for the next node. -/
theorem not_supported_of_advertise : ¬ ∀ (root : Json) (props : SchemaProps),
    advertise root = .ok props → ∀ members,
      Relation.ReflTransGen Inside root (.obj members) → Supported (.obj members) := by
  intro h
  have hprops : advertise (linkedBy described) = .ok { SchemaProps.anything with
    type := some "object"
    properties := [("next", { SchemaProps.anything with
      description := some "The next node"
      preserveUnknownFields := true })] } := by rfl
  have hinside : Relation.ReflTransGen Inside (linkedBy described) (.obj reference) :=
    .head (.keyword rfl (subschema_linkedBy described)) (.single (.conjunct rfl))
  have hsupported := h _ _ hprops _ hinside
  rw [supported_obj_iff] at hsupported
  cases hsupported

end Schema

end TopologyHooks
