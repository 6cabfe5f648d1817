import TopologyHooks.Proofs.Schema.Acceptance
import TopologyHooks.Proofs.Schema.Accepted
import TopologyHooks.Proofs.Schema.Levels

/-!
# Narrowing schemas and navigating them

* `Schema.Step` — from a schema to one inside it: to a property, to that of items or to that of
  additional properties. A step is taken in a JSON schema (`Schema.Step.child?`) and in a variable
  schema (`Schema.Step.under?`).
* `Schema.rel_child?_of_advertise` — a step can be taken in a node exactly if it can be taken in
  what the node is advertised as, and leads there to what the node inside is advertised as by
  itself. So it is along every list of steps (`Schema.rel_childAt?_of_advertise`).
* `Schema.advertise_propertyAt?` — the same for paths of properties that meet no conjunction, on
  which the nodes are found under the keyword `properties` alone.
-/

set_option autoImplicit false

namespace TopologyHooks

namespace Schema

variable {members changed : Members} {node child root : Json} {props : SchemaProps}

/-! ## Steps -/

/-- The value of a keyword of a node: that of the node itself, or else that of the schema that it
wraps. -/
def valueOf? (key : String) : Json → Option Json
  | .obj members => (Assoc.get? key members).or (Assoc.get? key (wrapped members))
  | _ => none

/-- A step from a schema to one inside it. -/
inductive Step
  | property (name : String)
  | items
  | additional

namespace Step

/-- The keyword under which a step leads on. -/
def keyword : Step → String
  | property _ => "properties"
  | items => "items"
  | additional => "additionalProperties"

/-- The schema that a step finds in the value of its keyword. Additional properties that are only
allowed or forbidden as a whole have none. -/
def enter? : Step → Json → Option Json
  | property name, v => v.member? name
  | items, v => some v
  | additional, .bool _ => none
  | additional, v => some v

/-- The schema that a step leads to in a JSON schema. -/
def child? (step : Step) (node : Json) : Option Json :=
  (valueOf? step.keyword node).bind step.enter?

/-- The schema that a step leads to in a variable schema. -/
def under? : Step → SchemaProps → Option SchemaProps
  | property name, schema => schema.property? name
  | items, schema => schema.items
  | additional, schema => schema.additionalProperties

/-- What narrowing does to the value of the keyword of a step. -/
def change (fuel : Nat) : Step → Json → Except SchemaFault Json
  | property _ => eachProperty (narrowWithin fuel)
  | items | additional => narrowWithin fuel

variable {step : Step}

/-- The schema that a step finds in the value of its keyword is one that the keyword holds. -/
theorem subschema_of_enter? {v : Json} (h : step.enter? v = some child) :
    Subschema step.keyword v child := by
  cases step with
  | property name =>
    cases v with
    | obj properties => exact .property (Assoc.mem_of_get?_eq_some h)
    | _ => cases h
  | items =>
    cases h
    exact .items child
  | additional =>
    cases v with
    | bool b => cases h
    | _ =>
      cases h
      exact .additional nofun

/-- A step leads to a schema that narrowing goes on with. -/
theorem visited_of_child? (h : step.child? node = some child) : Visited node child := by
  obtain ⟨v, hv, hchild⟩ := Option.bind_eq_some_iff.1 h
  cases node with
  | obj members => exact visited_obj_iff.2 ⟨_, v, hv, subschema_of_enter? hchild⟩
  | _ => cases hv

/-- A step finds a schema where tidying left one. -/
theorem child?_obj : step.child? (.obj members) =
    (Assoc.get? step.keyword (tidy members)).bind step.enter? := by
  refine Option.ext fun child => ?_
  unfold child?
  rw [Option.bind_eq_some_iff, Option.bind_eq_some_iff]
  refine exists_congr fun v => and_congr_left fun hchild => ?_
  have hsub := subschema_of_enter? hchild
  show (Assoc.get? step.keyword members).or _ = some v ↔ _
  rw [get?_tidy_eq_some_iff hsub.not_mem_tidied, and_iff_left hsub.ne_bool]

end Step

/-! ## Fuel -/

section

variable {change change' : Json → Except SchemaFault Json} {fuel : Nat} {narrowed v w : Json}

/-- A change under a key that succeeds is the same for every change that succeeds there in the same
way. -/
theorem under_mono {key : String} (hmono : ∀ v w, change v = .ok w → change' v = .ok w)
    (h : under key change members = .ok changed) : under key change' members = .ok changed := by
  refine under_eq_ok_iff.2 ((under_eq_ok_iff.1 h).imp_right ?_)
  rintro ⟨v, w, hv, hw, hchanged⟩
  exact ⟨v, w, hv, hmono v w hw, hchanged⟩

/-- Changing each property succeeds exactly if it does so property by property, under the same
keys. -/
theorem eachProperty_obj_eq_ok_iff {properties : Members} :
    eachProperty change (.obj properties) = .ok w ↔ ∃ narrowed, w = .obj narrowed ∧
      List.Forall₂ (fun e f => e.1 = f.1 ∧ change e.2 = .ok f.2) properties narrowed := by
  simp only [← eachMember_eq_ok_iff]
  rw [eachProperty, map_eq_ok_iff]
  exact exists_congr fun narrowed => by rw [and_comm, eq_comm]

/-- A change of each property that succeeds is the same for every change that succeeds there in the
same way. -/
theorem eachProperty_mono (hmono : ∀ v w, change v = .ok w → change' v = .ok w)
    (h : eachProperty change v = .ok w) : eachProperty change' v = .ok w := by
  cases v with
  | obj properties =>
    obtain ⟨narrowed, rfl, hall⟩ := eachProperty_obj_eq_ok_iff.1 h
    refine eachProperty_obj_eq_ok_iff.2 ⟨narrowed, rfl, hall.imp fun e f hef => ?_⟩
    exact ⟨hef.1, hmono _ _ hef.2⟩
  | _ => exact h

/-- More fuel changes nothing for a schema that was narrowed. -/
theorem narrowWithin_succ : ∀ {fuel : Nat} {node narrowed : Json},
    narrowWithin fuel node = .ok narrowed → narrowWithin (fuel + 1) node = .ok narrowed
  | 0, node, narrowed, h => by
    cases node with
    | bool b =>
      cases b with
      | true => exact h
      | false => cases h
    | _ => cases h
  | fuel + 1, node, narrowed, h => by
    have ih : ∀ v w, narrowWithin fuel v = .ok w → narrowWithin (fuel + 1) v = .ok w :=
      fun _ _ => narrowWithin_succ
    cases node with
    | bool b =>
      cases b with
      | true => exact h
      | false => cases h
    | obj members =>
      obtain ⟨hrefused, a, b, c, ha, hb, hc, hnarrowed⟩ := narrowWithin_obj_eq_ok_iff.1 h
      exact narrowWithin_obj_eq_ok_iff.2 ⟨hrefused, a, b, c, under_mono ih ha,
        under_mono (fun _ _ => eachProperty_mono ih) hb, under_mono ih hc, hnarrowed⟩
    | _ => cases h

/-- Narrowing within a depth does the same within any greater depth. -/
theorem narrowWithin_of_le {fuel fuel' : Nat} (hle : fuel ≤ fuel')
    (h : narrowWithin fuel node = .ok narrowed) : narrowWithin fuel' node = .ok narrowed := by
  induction hle with
  | refl => exact h
  | step _ ih => exact narrowWithin_succ ih

/-- What is narrowed within enough fuel is narrowed so by itself. -/
theorem narrow_of_narrowWithin (hfuel : node.depth < fuel)
    (h : narrowWithin fuel node = .ok narrowed) : narrow node = .ok narrowed := by
  obtain ⟨narrowed', h'⟩ : ∃ narrowed', narrow node = .ok narrowed' :=
    (exists_narrow_iff node).1.2 ((exists_narrowWithin_iff hfuel).1 ⟨narrowed, h⟩)
  obtain rfl : narrowed = narrowed' := Except.ok.inj (h.symm.trans (narrowWithin_of_le hfuel h'))
  exact h'

/-! ## Narrowing, step by step -/

/-- A narrowed schema is an object. -/
theorem exists_obj_of_narrowWithin (h : narrowWithin fuel node = .ok narrowed) :
    ∃ members, narrowed = .obj members := by
  cases node with
  | bool b =>
    cases b with
    | true => cases fuel <;> exact ⟨_, (Except.ok.inj h).symm⟩
    | false => cases fuel <;> cases h
  | obj members =>
    cases fuel with
    | zero => cases h
    | succ fuel =>
      obtain ⟨-, a, b, c, -, -, -, hnarrowed⟩ := narrowWithin_obj_eq_ok_iff.1 h
      exact ⟨c, hnarrowed.symm⟩
  | _ => cases fuel <;> cases h

/-- After a change under a key there is the changed value, if there was one. -/
theorem rel_get?_of_under {key : String} (h : under key change members = .ok changed) :
    Option.Rel (fun v w => change v = .ok w) (Assoc.get? key members) (Assoc.get? key changed) := by
  rcases under_eq_ok_iff.1 h with ⟨hnone, rfl⟩ | ⟨v, w, hv, hw, rfl⟩
  · rw [hnone]
    exact .none
  · rw [hv, Assoc.get?_insert, if_pos rfl]
    exact .some hw

/-- A step leads from a value to what is narrowed, and from what narrowing makes of the value to
what it is narrowed to. -/
theorem Step.rel_enter? {step : Step} (hbool : step = .additional → ∀ b, v ≠ .bool b)
    (h : step.change fuel v = .ok w) :
    Option.Rel (fun child narrowed => narrowWithin fuel child = .ok narrowed) (step.enter? v)
      (step.enter? w) := by
  cases step with
  | property name =>
    cases v with
    | obj properties =>
      obtain ⟨narrowed, rfl, hall⟩ := eachProperty_obj_eq_ok_iff.1 h
      exact Assoc.rel_get?_of_forall₂ hall name
    | _ =>
      cases h
      exact .none
  | items => exact .some h
  | additional =>
    have hv : Step.additional.enter? v = some v := by
      cases v with
      | bool b => exact absurd rfl (hbool rfl b)
      | _ => rfl
    have hw : Step.additional.enter? w = some w := by
      obtain ⟨members, rfl⟩ := exists_obj_of_narrowWithin h
      rfl
    rw [hv, hw]
    exact .some h

/-- What is left of an object that is narrowed: the values of the keywords of steps are changed, and
other members are tidied. -/
theorem exists_of_narrow_obj (h : narrow (.obj members) = .ok narrowed) :
    ∃ left, narrowed = .obj left ∧
      (∀ step : Step, Option.Rel (fun v w => step.change (Json.obj members).depth v = .ok w)
        (Assoc.get? step.keyword (tidy members)) (Assoc.get? step.keyword left)) ∧
      ∀ key, (∀ step : Step, key ≠ step.keyword) →
        Assoc.get? key left = Assoc.get? key (tidy members) := by
  obtain ⟨-, a, b, c, ha, hb, hc, rfl⟩ := narrowWithin_obj_eq_ok_iff.1 h
  have hproperties : Assoc.get? "properties" a = Assoc.get? "properties" (tidy members) :=
    get?_of_under ha (by decide)
  have hitems : Assoc.get? "items" b = Assoc.get? "items" (tidy members) :=
    (get?_of_under hb (by decide)).trans (get?_of_under ha (by decide))
  refine ⟨c, rfl, fun step => ?_, fun key hkey => ?_⟩
  -- each keyword is changed once, and the changes of the other two pass it by
  · cases step with
    | property name =>
      rw [Step.keyword, get?_of_under hc (by decide), ← hproperties]
      exact rel_get?_of_under hb
    | items =>
      rw [Step.keyword, ← hitems]
      exact rel_get?_of_under hc
    | additional =>
      rw [Step.keyword, get?_of_under hc (by decide), get?_of_under hb (by decide)]
      exact rel_get?_of_under ha
  · rw [get?_of_under hc (hkey .items).symm, get?_of_under hb (hkey (.property "")).symm,
      get?_of_under ha (hkey .additional).symm]

/-- Under the keyword of a step, the schemas inside a node are narrowed. -/
theorem Step.rel_child? {step : Step}
    (h : Option.Rel (fun v w => step.change (Json.obj members).depth v = .ok w)
      (Assoc.get? step.keyword (tidy members)) (Assoc.get? step.keyword changed)) :
    Option.Rel (fun child w => narrow child = .ok w) (step.child? (.obj members))
      ((Assoc.get? step.keyword changed).bind step.enter?) := by
  have hwithin : Option.Rel
      (fun child w => narrowWithin (Json.obj members).depth child = .ok w)
      (step.child? (.obj members)) ((Assoc.get? step.keyword changed).bind step.enter?) := by
    rw [Step.child?_obj]
    refine rel_bind h fun v w hv hchange => Step.rel_enter? ?_ hchange
    rintro rfl b rfl
    exact ((get?_tidy_eq_some_iff (by decide)).1 hv).2 rfl b rfl
  refine rel_imp hwithin fun child w hchild hnarrowed => ?_
  exact narrow_of_narrowWithin (Step.visited_of_child? hchild).depth_lt hnarrowed

/-- A step goes through the narrowed value of its keyword if it goes through all objects. -/
theorem bind_enter?_of_narrowed (step : Step) {o o' : Option Json}
    (hstep : ∀ members, step.enter? (.obj members) = some (.obj members))
    (h : Option.Rel (fun v w => narrowWithin fuel v = .ok w) o o') :
    o'.bind step.enter? = o' ∧ o' ≠ some .null := by
  cases h with
  | some hnarrowed =>
    obtain ⟨members, rfl⟩ := exists_obj_of_narrowWithin hnarrowed
    exact ⟨hstep members, nofun⟩
  | none => exact ⟨rfl, nofun⟩

/-- What is read for the schemas inside a narrowed node. -/
theorem Step.rel_under? {step : Step}
    (h : Option.Rel (fun v w => step.change (Json.obj members).depth v = .ok w)
      (Assoc.get? step.keyword (tidy members)) (Assoc.get? step.keyword changed))
    (hread : SchemaProps.shape.Reads (.obj changed) props) :
    Option.Rel SchemaProps.shape.Reads ((Assoc.get? step.keyword changed).bind step.enter?)
      (step.under? props) := by
  obtain ⟨hadditional, hitems, -⟩ := SchemaProps.reads_optional hread
  cases step with
  | property name => exact SchemaProps.rel_property?_of_reads hread name
  | items =>
    obtain ⟨hbind, hnull⟩ := bind_enter?_of_narrowed .items (fun _ => rfl) h
    rw [hbind]
    exact Presence.rel_of_reads_optional hitems hnull
  | additional =>
    obtain ⟨hbind, hnull⟩ := bind_enter?_of_narrowed .additional (fun _ => rfl) h
    rw [hbind]
    exact Presence.rel_of_reads_optional hadditional hnull

end

/-! ## Advertised schemas -/

/-- A schema that an ordered value of a keyword holds is ordered. -/
theorem Subschema.ordered {key : String} {v : Json} (h : Subschema key v child) (hv : v.Ordered) :
    child.Ordered := by
  cases h with
  | property hmem => exact Json.orderedMembers_iff.1 hv.2 _ hmem
  | items _ => exact hv
  | additional _ => exact hv

/-- The schema that a step leads to in an ordered one is ordered. -/
theorem Step.ordered_of_child? {step : Step} (hnode : node.Ordered)
    (h : step.child? node = some child) : child.Ordered := by
  cases node with
  | obj members =>
    rw [Step.child?_obj] at h
    obtain ⟨v, hv, hchild⟩ := Option.bind_eq_some_iff.1 h
    have hvalue : v.Ordered := (Json.ordered_obj.1 (ordered_tidy hnode)).2 _ _ hv
    exact (subschema_of_enter? hchild).ordered hvalue
  | _ => cases h

/-- A step can be taken in a node exactly if it can be taken in what the node is advertised as, and
leads there to what the node inside is advertised as by itself. -/
theorem rel_child?_of_advertise (hnode : node.Ordered) (h : advertise node = .ok props)
    (step : Step) :
    Option.Rel (fun child p => advertise child = .ok p) (step.child? node) (step.under? props) := by
  obtain ⟨narrowed, hnarrow, hread⟩ := (advertise_eq_ok_iff hnode).1 h
  cases node with
  | obj members =>
    obtain ⟨left, rfl, hchange, -⟩ := exists_of_narrow_obj hnarrow
    have hchild := Step.rel_child? (hchange step)
    have hunder := Step.rel_under? (hchange step) hread
    refine rel_imp (rel_comp hchild hunder) fun child p hmem hp => ?_
    exact (advertise_eq_ok_iff (Step.ordered_of_child? hnode hmem)).2 hp
  | bool b =>
    cases b with
    | true =>
      obtain rfl : { SchemaProps.anything with preserveUnknownFields := true } = props :=
        Except.ok.inj h
      cases step <;> exact .none
    | false => cases hnarrow
  | _ => cases hnarrow

/-! ## Paths -/

/-- The schema that a list of steps leads to in a JSON schema. -/
def childAt? (node : Json) : List Step → Option Json
  | [] => some node
  | step :: steps => (step.child? node).bind (childAt? · steps)

/-- The schema that a list of steps leads to in a variable schema. -/
def underAt? (schema : SchemaProps) : List Step → Option SchemaProps
  | [] => some schema
  | step :: steps => (step.under? schema).bind (underAt? · steps)

/-- Narrowing commutes with every list of steps. The induction takes the first step, after which
the schema that was reached is advertised by itself. -/
theorem rel_childAt?_of_advertise : ∀ (steps : List Step) {root : Json} {props : SchemaProps},
    root.Ordered → advertise root = .ok props →
      Option.Rel (fun node p => advertise node = .ok p) (childAt? root steps) (underAt? props steps)
  | [], _, _, _, h => .some h
  | step :: steps, _, _, hroot, h =>
    rel_bind (rel_child?_of_advertise hroot h step) fun _ _ hchild hp =>
      rel_childAt?_of_advertise steps (Step.ordered_of_child? hroot hchild) hp

/-- The schema that steps lead to in an ordered one is ordered. -/
theorem ordered_of_childAt? : ∀ {steps : List Step} {root node : Json}, root.Ordered →
    childAt? root steps = some node → node.Ordered
  | [], _, _, hroot, h => Option.some.inj h ▸ hroot
  | _ :: _, _, _, hroot, h => by
    obtain ⟨child, hchild, hnode⟩ := Option.bind_eq_some_iff.1 h
    exact ordered_of_childAt? (Step.ordered_of_child? hroot hchild) hnode

/-- The schema at a path of properties in a JSON schema, where every property stands under the
keyword `properties`; the empty path leads to the schema itself. -/
def propertyAt? (node : Json) : List String → Option Json
  | [] => some node
  | segment :: path =>
    ((node.member? "properties").bind (Json.member? segment)).bind (propertyAt? · path)

/-- Steps through properties lead where the path of their names does. -/
theorem underAt?_map_property : ∀ (path : List String) (schema : SchemaProps),
    underAt? schema (path.map .property) = schema.propertyAt? path
  | [], _ => rfl
  | segment :: path, schema => by
    rw [List.map_cons, underAt?, SchemaProps.propertyAt?]
    exact Option.bind_congr fun p _ => underAt?_map_property path p

/-- A node that is no conjunction has its properties under the keyword alone. -/
theorem Step.child?_property (h : node.member? "allOf" = none) (name : String) :
    (Step.property name).child? node = (node.member? "properties").bind (Json.member? name) := by
  cases node with
  | obj members =>
    have hnone : wrapped members = [] := by
      refine wrapped_eq_nil fun extra hall => ?_
      rw [Json.member?, hall] at h
      cases h
    show ((Assoc.get? "properties" members).or (Assoc.get? "properties" (wrapped members))).bind _ = _
    rw [hnone, Assoc.get?_nil, Option.or_none]
    rfl
  | _ => rfl

/-- So it is along a path that is free of conjunctions up to its end. -/
theorem childAt?_map_property : ∀ {path : List String} {root : Json},
    (∀ before, before <+: path → before ≠ path → ∀ node, propertyAt? root before = some node →
      node.member? "allOf" = none) →
    childAt? root (path.map .property) = propertyAt? root path
  | [], _, _ => rfl
  | segment :: path, root, hfree => by
    have hroot : root.member? "allOf" = none := hfree [] List.nil_prefix nofun root rfl
    rw [List.map_cons, childAt?, propertyAt?, Step.child?_property hroot]
    refine Option.bind_congr fun child hchild => childAt?_map_property ?_
    intro before hbefore hne node hnode
    refine hfree (segment :: before) (List.cons_prefix_cons.2 ⟨rfl, hbefore⟩) ?_ node ?_
    · exact fun h => hne (List.cons.inj h).2
    · rw [propertyAt?, hchild]
      exact hnode

/-- Narrowing a schema commutes with navigating it, along every path that is free of conjunctions,
but perhaps for the node that it ends at. A property is advertised at the path exactly if the input
has one there, and what is advertised there is what the node of the input is advertised as by
itself. -/
theorem advertise_propertyAt? {path : List String} (hroot : root.Ordered)
    (haccepted : advertise root = .ok props)
    (hfree : ∀ before, before <+: path → before ≠ path → ∀ node,
      propertyAt? root before = some node → node.member? "allOf" = none) :
    ((props.propertyAt? path).isSome ↔ (propertyAt? root path).isSome) ∧
      ∀ node, propertyAt? root path = some node →
        ∃ p, props.propertyAt? path = some p ∧ advertise node = .ok p := by
  have hrel := rel_childAt?_of_advertise (path.map .property) hroot haccepted
  rw [childAt?_map_property hfree, underAt?_map_property] at hrel
  refine ⟨(isSome_iff_of_rel hrel).symm, fun node hnode => ?_⟩
  rw [hnode] at hrel
  exact exists_of_rel_some hrel

/-- A schema with keywords that are dropped, and with properties that have the names of such
keywords. -/
def titled : Json :=
  .obj [("properties", .obj [("title", .obj [("nullable", .bool true),
      ("properties", .obj [("$id", .obj [("title", .str "Id"), ("type", .str "string")])]),
      ("type", .str "object")])]),
    ("title", .str "Book"), ("type", .str "object")]

/-- Properties with the names of keywords that are dropped are kept. -/
theorem advertise_propertyAt?_titled : ∃ props, advertise titled = .ok props ∧
    ∃ p, props.propertyAt? ["title", "$id"] = some p ∧ p.type = some "string" := by
  have hid : advertise (.obj [("title", .str "Id"), ("type", .str "string")]) =
      .ok { SchemaProps.anything with type := some "string" } := by rfl
  have htitled : advertise titled = .ok { SchemaProps.anything with
    type := some "object"
    properties := [("title", { SchemaProps.anything with
      type := some "object"
      properties := [("$id", { SchemaProps.anything with type := some "string" })] })] } := by rfl
  have hfree : ∀ before, before <+: ["title", "$id"] → before ≠ ["title", "$id"] → ∀ node,
      propertyAt? titled before = some node → node.member? "allOf" = none := by
    intro before hbefore hne node hnode
    simp only [List.prefix_cons_iff, List.prefix_nil] at hbefore
    obtain rfl | ⟨_, rfl, rfl | ⟨_, rfl, rfl⟩⟩ := hbefore
    · cases hnode
      rfl
    · cases hnode
      rfl
    · exact absurd rfl hne
  obtain ⟨p, hp, hadvertised⟩ :=
    (advertise_propertyAt? (by decide) htitled hfree).2 _ (rfl : propertyAt? _ _ = some _)
  rw [hid] at hadvertised
  cases hadvertised
  exact ⟨_, htitled, _, hp, rfl⟩

end Schema

end TopologyHooks
