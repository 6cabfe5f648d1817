import TopologyHooks.Proofs.Json.Ordered
import TopologyHooks.Proofs.Shape.Reading
import TopologyHooks.Variable.Store

/-!
# Lists of variables

* `ClusterVariable.ofJson_list` — a list of variables is read back from what is written for it,
  whatever the values are.
* `Variables.get?_ofList_append` — later variables of a name win.
-/

set_option autoImplicit false

namespace TopologyHooks

/-- An object is told by what its keys lead to. -/
theorem Json.object_eq_obj {members target : List (String × Json)}
    (hkeys : (members.map Prod.fst).Nodup) (htarget : Assoc.Sorted target)
    (hget : ∀ key, Assoc.get? key members = Assoc.get? key target) :
    Json.object members = .obj target := by
  apply congrArg Json.obj
  apply Assoc.eq_of_get?_eq (Assoc.sorted_insertAll members Assoc.sorted_nil) htarget
  intro key
  rw [Assoc.get?_insertAll_nil key hkeys, hget]

/-- JSON that is kept as it is is read from anything. -/
theorem Shape.ofJson_json (x : Json) : Shape.json.ofJson x = .ok x := by
  unfold Shape.ofJson Shape.read
  rfl

/-- A list is read back if every item is. -/
theorem Shape.ofJson_toJson_list {α : Type} {item : Shape α}
    (h : ∀ a, item.ofJson (item.toJson a) = .ok a) (as : List α) :
    item.list.ofJson (item.list.toJson as) = .ok as := by
  rw [Shape.toJson]
  show Reading.readItems (item.read Source.value) none (as.map item.toJson) = .ok as
  rw [Reading.readItems_eq_ok_iff, List.forall₂_map_left_iff, List.forall₂_same]
  exact fun a _ => h a

namespace ClusterVariable

/-- The members that are written for a variable, by key. -/
def members (v : ClusterVariable) : List (String × Json) :=
  (v.definitionFrom.map fun source => ("definitionFrom", .str source)).toList ++
    [("name", .str v.name), ("value", v.value)]

/-- The members of a variable are sorted. -/
theorem sorted_members (v : ClusterVariable) : Assoc.Sorted v.members := by
  have hkeys : ["definitionFrom", "name", "value"].Pairwise (· < ·) := by decide +kernel
  rcases v with ⟨name, value, _ | source⟩
  · exact (List.pairwise_map (f := Prod.fst)).1 (List.pairwise_cons.1 hkeys).2
  · exact (List.pairwise_map (f := Prod.fst)).1 hkeys

/-- A variable is written as the object of its members. -/
theorem toJson_eq (v : ClusterVariable) : shape.toJson v = .obj v.members := by
  rcases v with ⟨name, value, _ | source⟩
  · show Json.object [("name", .str name), ("value", value)] = _
    refine Json.object_eq_obj ?_ (sorted_members _) fun _ => rfl
    show ["name", "value"].Nodup
    decide
  · show Json.object [("name", .str name), ("value", value), ("definitionFrom", .str source)] = _
    refine Json.object_eq_obj ?_ (sorted_members _) fun key => ?_
    · show ["name", "value", "definitionFrom"].Nodup
      decide
    · by_cases hkey : "definitionFrom" = key
      · subst hkey
        rfl
      · show (if "name" = key then _ else if "value" = key then _ else
          if "definitionFrom" = key then _ else none) = if "definitionFrom" = key then _ else _
        rw [if_neg hkey, if_neg hkey]
        rfl

/-- A variable is read back from what is written for it, null values included. -/
theorem ofJson_toJson (v : ClusterVariable) : shape.ofJson (shape.toJson v) = .ok v := by
  rw [toJson_eq]
  rcases v with ⟨name, value, _ | source⟩
  · rfl
  · rfl

/-- A list of variables is read back as it was written. -/
theorem ofJson_list (vs : List ClusterVariable) :
    (Shape.list shape).ofJson ((Shape.list shape).toJson vs) = .ok vs :=
  Shape.ofJson_toJson_list ofJson_toJson vs

end ClusterVariable

namespace Variables

variable {vs : List ClusterVariable} {name : String}

/-- Of two lists one behind the other, the second one wins. -/
theorem get?_ofList_append (us vs : List ClusterVariable) (name : String) :
    (ofList (us ++ vs)).get? name = ((ofList vs).get? name).or ((ofList us).get? name) := by
  have hsplit : (ofList (us ++ vs)).get? name = Assoc.get? name
      (Assoc.insertAll (ofList us).entries (vs.map fun v => (v.name, v.value))) := by
    show Assoc.get? name (List.foldl _ [] (List.map _ (us ++ vs))) = _
    rw [List.map_append, List.foldl_append]
    rfl
  rw [hsplit, Assoc.get?_insertAll_base]
  rfl

/-- A variable is hidden by a later one of its name. -/
theorem get?_ofList_cons (v : ClusterVariable) (vs : List ClusterVariable) (name : String) :
    (ofList (v :: vs)).get? name =
      ((ofList vs).get? name).or (if v.name = name then some v.value else none) :=
  get?_ofList_append [v] vs name

/-- No value is found for a name exactly if no variable in the list has it. -/
theorem get?_ofList_eq_none_iff : (ofList vs).get? name = none ↔ name ∉ vs.map (·.name) := by
  induction vs with
  | nil => exact iff_of_true rfl List.not_mem_nil
  | cons v rest ih =>
    rw [get?_ofList_cons, Option.or_eq_none_iff, ih, List.map_cons, List.mem_cons, not_or,
      and_comm, ite_eq_right_iff]
    simp [eq_comm]

end Variables

end TopologyHooks
