import TopologyHooks.Proofs.Variable.PointUpdate
import Mathlib.Data.List.Nodup

/-!
# Which of several variables of a name counts

* `ClusterVariable.last?` — the last variable of a name in a list.
* `Variables.overlay_ofList` — variables over others are those of both lists, one behind the other.
* `Variables.get?_ofList`, `Variables.get_ofList` — a name has the whole value of its last variable,
  so that every path leads to what it leads to in that variable alone.
* `Variables.ofList_toList` — variables are read back from the list of them.
* `ClusterVariable.Reordered`, `Variables.ofList_eq_of_reordered` — the order of variables does not
  count if all have names of their own.
-/

set_option autoImplicit false

namespace TopologyHooks

/-- Entries of different keys can be inserted in any order. -/
theorem Assoc.insertAll_eq_of_perm {α : Type} {entries entries' : List (String × α)}
    (h : entries.Perm entries') (hkeys : (entries.map Prod.fst).Nodup)
    (base : List (String × α)) : insertAll base entries = insertAll base entries' := by
  refine h.foldl_eq' (fun e he f hf acc => ?_) base
  by_cases hkey : e.1 = f.1
  · rw [List.inj_on_of_nodup_map hkeys he hf hkey]
  · exact insert_comm (Ne.symm hkey) f.2 e.2 acc

namespace ClusterVariable

/-- The last variable of a name in a list. -/
def last? (name : String) (vs : List ClusterVariable) : Option ClusterVariable :=
  vs.findRev? fun v => v.name = name

/-- Whether lists of variables are the same but for the order of variables that all have names of
their own. -/
inductive Reordered : List ClusterVariable → List ClusterVariable → Prop
  | refl (vs : List ClusterVariable) : Reordered vs vs
  | perm {vs vs' : List ClusterVariable} : (vs.map (·.name)).Nodup → vs.Perm vs' →
      Reordered vs vs'

variable {name : String}

/-- The last variable of a name is the first one from behind. -/
theorem last?_eq_find? (vs : List ClusterVariable) :
    last? name vs = vs.reverse.find? fun v => v.name = name :=
  List.findRev?_eq_find?_reverse

/-- The last variable of two lists is that of the second one, or else that of the first one. -/
theorem last?_append (us vs : List ClusterVariable) :
    last? name (us ++ vs) = (last? name vs).or (last? name us) := by
  simp only [last?_eq_find?, List.reverse_append, List.find?_append]

/-- A single variable is the last one of its own name alone. -/
theorem last?_singleton (v : ClusterVariable) :
    last? name [v] = if v.name = name then some v else none := by
  rw [last?_eq_find?, List.reverse_singleton, List.find?_singleton]
  simp only [decide_eq_true_eq]

/-- The last variable of a name has this name. -/
theorem name_of_last?_eq_some {vs : List ClusterVariable} {v : ClusterVariable}
    (h : last? name vs = some v) : v.name = name := by
  rw [last?_eq_find?] at h
  simpa using List.find?_some h

end ClusterVariable

namespace Variables

open ClusterVariable

variable {vars vars' : Variables} {name : String}

/-! ## The last variable of a name -/

/-- A name has the value of its last variable. -/
theorem get?_ofList (name : String) (vs : List ClusterVariable) :
    (ofList vs).get? name = (last? name vs).map (·.value) := by
  induction vs with
  | nil => rfl
  | cons v rest ih =>
    rw [get?_ofList_cons, ih, ← List.singleton_append, last?_append, last?_singleton]
    cases last? name rest with
    | some w => rfl
    | none => split <;> rfl

/-- Paths inside a variable lead to the same in all variables in force that have its value. -/
theorem get_congr {α : Type} (h : vars.get? name = vars'.get? name) (shape : Shape α)
    (path : List String) : vars.get shape name path = vars'.get shape name path := by
  unfold get
  rw [valueAt_eq, valueAt_eq, h]

/-- What a path leads to is what it leads to in the last variable of its name alone. -/
theorem get_ofList {α : Type} (vs : List ClusterVariable) (shape : Shape α) (name : String)
    (path : List String) : (ofList vs).get shape name path =
      (last? name vs).elim (.ok none) fun v => (ofList [v]).get shape name path := by
  cases hlast : last? name vs with
  | none =>
    have hnone : (ofList vs).get? name = (ofList []).get? name := by
      rw [get?_ofList, hlast]
      rfl
    rw [get_congr hnone]
    rfl
  | some v =>
    have hname : v.name = name := name_of_last?_eq_some hlast
    refine get_congr ?_ shape path
    rw [get?_ofList, get?_ofList, hlast, last?_singleton, if_pos hname]

/-! ## Variables over others -/

/-- Variables over others are those of both lists, one behind the other. -/
theorem overlay_ofList (us vs : List ClusterVariable) :
    (ofList us).overlay vs = ofList (us ++ vs) := by
  refine Dictionary.ext_get? fun name => ?_
  rw [get?_ofList_append]
  exact Assoc.get?_insertAll name (ofList vs).sorted.nodup_keys (ofList us).entries

/-! ## Variables as a list -/

/-- The list of variables is sorted by their names, each of which occurs once. -/
theorem pairwise_name_toList (vars : Variables) :
    (vars.toList.map (·.name)).Pairwise (· < ·) := by
  rw [toList, List.map_map]
  exact List.pairwise_map.2 vars.sorted

/-- Variables are read back from the list of them. -/
theorem ofList_toList (vars : Variables) : ofList vars.toList = vars := by
  refine Dictionary.ext ?_
  have hentries : (vars.toList.map fun v => (v.name, v.value)) = vars.entries := by
    rw [toList, List.map_map]
    exact List.map_id vars.entries
  show Assoc.insertAll [] (vars.toList.map fun v => (v.name, v.value)) = vars.entries
  rw [hentries, Assoc.insertAll_eq_self vars.sorted]

/-! ## The order of variables -/

/-- Lists in another order stand for the same variables. -/
theorem ofList_eq_of_reordered {vs vs' : List ClusterVariable} (h : Reordered vs vs') :
    ofList vs = ofList vs' := by
  cases h with
  | refl => rfl
  | perm hnames hperm =>
    refine Dictionary.ext (Assoc.insertAll_eq_of_perm (hperm.map _) ?_ [])
    rwa [List.map_map]

/-- Lists in another order overlay the same variables. -/
theorem overlay_eq_of_reordered (vars : Variables) {vs vs' : List ClusterVariable}
    (h : Reordered vs vs') : vars.overlay vs = vars.overlay vs' := by
  rw [overlay, overlay, ofList_eq_of_reordered h]

end Variables

end TopologyHooks
