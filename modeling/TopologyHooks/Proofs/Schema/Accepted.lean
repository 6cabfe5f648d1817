import TopologyHooks.Proofs.Schema.Node
import TopologyHooks.Proofs.Schema.Props

/-!
# Accepted schemas

* `Schema.ordered_narrow` — narrowing keeps the members of every object in order, step by step.
* `Schema.Accepted` — the variable schemas that a JSON schema can be narrowed to. They come back
  from their JSON (`Schema.Accepted.lawful`).
-/

set_option autoImplicit false

namespace TopologyHooks

namespace Schema

variable {members changed : Members} {change : Json → Except SchemaFault Json}

/-! ## Keywords -/

/-- An object stays ordered when members with ordered values are added that it lacks. -/
theorem ordered_addMissing {extra : Members} (hextra : ∀ e ∈ extra, e.2.Ordered) :
    ∀ {members : Members}, (Json.obj members).Ordered →
      (Json.obj (addMissing members extra)).Ordered := by
  induction extra with
  | nil => exact fun h => h
  | cons e rest ih =>
    intro members h
    refine ih (fun f hf => hextra f (List.mem_cons_of_mem _ hf)) ?_
    show (Json.obj (if has e.1 members then members
      else Assoc.insert e.1 e.2 members)).Ordered
    split
    · exact h
    · exact Json.ordered_insert h (hextra e List.mem_cons_self)

/-- An object stays ordered when the only schema of a conjunction is merged in. -/
theorem ordered_mergeSingle (h : (Json.obj members).Ordered) :
    (Json.obj (mergeSingle members)).Ordered := by
  unfold mergeSingle
  split
  · rename_i extra hall
    have hitems := (Json.ordered_obj.1 h).2 _ _ hall
    have hextra : (Json.obj extra).Ordered := Json.ordered_arr.1 hitems _ List.mem_cons_self
    exact ordered_addMissing (Json.orderedMembers_iff.1 hextra.2) (Json.ordered_erase h)
  · exact Json.ordered_erase h
  · exact h

/-- An object stays ordered when keywords are dropped. -/
theorem ordered_dropKeywords (h : (Json.obj members).Ordered) :
    (Json.obj (dropKeywords members)).Ordered := by
  unfold dropKeywords
  generalize droppedKeywords = dropped
  induction dropped generalizing members with
  | nil => exact h
  | cons k rest ih => exact ih (Json.ordered_erase h)

/-- An object stays ordered when it is marked as a schema of anything. -/
theorem ordered_markUntyped (h : (Json.obj members).Ordered) :
    (Json.obj (markUntyped members)).Ordered := by
  unfold markUntyped
  split
  · exact h
  · exact Json.ordered_insert h trivial

/-- An object stays ordered when a single type is chosen. -/
theorem ordered_singleType (h : (Json.obj members).Ordered) :
    (Json.obj (singleType members)).Ordered := by
  unfold singleType
  split
  · rename_i types htypes
    have htypes := Json.ordered_arr.1 ((Json.ordered_obj.1 h).2 _ _ htypes)
    refine Json.ordered_insert h ?_
    cases hfirst : types.find? fun t => t != .str "null" with
    | none => trivial
    | some t => exact htypes t (List.mem_of_find?_eq_some hfirst)
  · exact h

/-- An object stays ordered when its format is checked. -/
theorem ordered_checkFormat (h : (Json.obj members).Ordered) :
    (Json.obj (checkFormat members)).Ordered := by
  unfold checkFormat
  split
  · split
    · exact h
    · exact Json.ordered_erase h
  · exact h

/-- An object stays ordered when its default is checked. -/
theorem ordered_checkDefault (h : (Json.obj members).Ordered) :
    (Json.obj (checkDefault members)).Ordered := by
  unfold checkDefault
  split
  · exact Json.ordered_erase h
  · exact h

/-- An object stays ordered when a bound is checked. -/
theorem ordered_checkBound (keyword : String) (h : (Json.obj members).Ordered) :
    (Json.obj (checkBound keyword members)).Ordered := by
  unfold checkBound
  split
  · split
    · exact Json.ordered_insert h trivial
    · exact Json.ordered_erase h
  · exact h

/-- An object stays ordered when its additional properties are checked. -/
theorem ordered_checkAdditional (h : (Json.obj members).Ordered) :
    (Json.obj (checkAdditional members)).Ordered := by
  unfold checkAdditional
  split
  · exact Json.ordered_erase h
  · exact h

/-- An object stays ordered when it is tidied. -/
theorem ordered_tidy (h : (Json.obj members).Ordered) : (Json.obj (tidy members)).Ordered :=
  ordered_checkAdditional <| ordered_checkBound _ <| ordered_checkBound _ <|
    ordered_checkDefault <| ordered_checkFormat <| ordered_singleType <| ordered_markUntyped <|
    ordered_dropKeywords <| ordered_mergeSingle h

/-! ## Nodes inside nodes -/

/-- A change of values that keeps their order. -/
def KeepsOrder (change : Json → Except SchemaFault Json) : Prop :=
  ∀ v w : Json, v.Ordered → change v = .ok w → w.Ordered

/-- An object stays ordered when the value under a key is changed so that its order is kept. -/
theorem KeepsOrder.under (hchange : KeepsOrder change) {key : String}
    (h : (Json.obj members).Ordered) (hu : under key change members = .ok changed) :
    (Json.obj changed).Ordered := by
  rcases under_eq_ok_iff.1 hu with ⟨-, rfl⟩ | ⟨v, w, hv, hw, rfl⟩
  · exact h
  · exact Json.ordered_insert h (hchange v w ((Json.ordered_obj.1 h).2 _ _ hv) hw)

/-- An object stays ordered when each member is changed so that its order is kept. -/
theorem KeepsOrder.eachMember (hchange : KeepsOrder change) (h : (Json.obj members).Ordered)
    (he : eachMember change members = .ok changed) : (Json.obj changed).Ordered := by
  have hall := eachMember_eq_ok_iff.1 he
  have hkeys : members.map Prod.fst = changed.map Prod.fst := by
    rw [← List.forall₂_eq_eq_eq, List.forall₂_map_left_iff, List.forall₂_map_right_iff]
    exact hall.imp fun _ _ h => h.1
  have hsorted : (members.map Prod.fst).Pairwise (· < ·) := List.pairwise_map.2 h.1
  refine ⟨List.pairwise_map.1 (hkeys ▸ hsorted), Json.orderedMembers_iff.2 fun f hf => ?_⟩
  obtain ⟨e, hmem, -, hchanged⟩ := exists_mem_of_forall₂ hall.flip f hf
  exact hchange _ _ (Json.orderedMembers_iff.1 h.2 e hmem) hchanged

/-- Changing each property keeps order if the change of one does. -/
theorem KeepsOrder.eachProperty (hchange : KeepsOrder change) :
    KeepsOrder (eachProperty change) := by
  intro v w hv hw
  cases v with
  | obj properties =>
    obtain ⟨narrowed, hmembers, rfl⟩ := map_eq_ok_iff.1 hw
    exact hchange.eachMember hv hmembers
  | _ =>
    cases hw
    exact hv

/-- The schema of anything is ordered. -/
theorem ordered_anything : (Json.obj [(preserveKeyword, .bool true)]).Ordered :=
  ⟨List.pairwise_singleton _ _, trivial, trivial⟩

/-- Narrowing keeps the members of every object in order. -/
theorem keepsOrder_narrowWithin : ∀ fuel : Nat, KeepsOrder (narrowWithin fuel)
  | 0, node, narrowed, _, h => by
    cases node with
    | bool b =>
      cases b <;> cases h
      exact ordered_anything
    | _ => cases h
  | fuel + 1, node, narrowed, hnode, h => by
    have ih : KeepsOrder (narrowWithin fuel) := keepsOrder_narrowWithin fuel
    cases node with
    | bool b =>
      cases b <;> cases h
      exact ordered_anything
    | obj members =>
      obtain ⟨-, a, b, c, ha, hb, hc, rfl⟩ := narrowWithin_obj_eq_ok_iff.1 h
      have hadditional := ih.under (ordered_tidy hnode) ha
      have hproperties := ih.eachProperty.under hadditional hb
      exact ih.under hproperties hc
    | _ => cases h

/-- What an ordered schema is narrowed to is ordered. -/
theorem ordered_narrow {node narrowed : Json} (hnode : node.Ordered)
    (h : narrow node = .ok narrowed) : narrowed.Ordered :=
  keepsOrder_narrowWithin _ _ _ hnode h

/-! ## Accepted schemas -/

/-- A schema is advertised as what its narrowed form is read as. -/
theorem advertise_eq_ok_iff {node : Json} {props : SchemaProps} (hnode : node.Ordered) :
    advertise node = .ok props ↔
      ∃ narrowed, narrow node = .ok narrowed ∧ SchemaProps.shape.Reads narrowed props := by
  rw [advertise, bind_eq_ok_iff]
  refine exists_congr fun narrowed => and_congr_right fun hnarrow => ?_
  rw [mapError_eq_ok_iff, Shape.Reads, and_iff_right (ordered_narrow hnode hnarrow)]

/-- A variable schema that some JSON schema is narrowed to. -/
def Accepted (schema : SchemaProps) : Prop :=
  ∃ node : Json, node.Ordered ∧ advertise node = .ok schema

/-- Accepted schemas come back from their JSON. -/
theorem Accepted.lawful {schema : SchemaProps} (h : Accepted schema) : schema.Lawful := by
  obtain ⟨node, hnode, h⟩ := h
  obtain ⟨narrowed, -, hread⟩ := (advertise_eq_ok_iff hnode).1 h
  exact .of_reads hread

end Schema

end TopologyHooks
