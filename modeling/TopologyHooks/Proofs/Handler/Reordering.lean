import TopologyHooks.Proofs.Handler.Agreement
import TopologyHooks.Proofs.Variable.Overlay

/-!
# Of several variables of a name the last one counts, and nothing else about their order

* `GeneratePatches.Request.Reordered`, `ValidateTopology.Request.Reordered` — whether requests are
  the same but for the order of variables that all have names of their own.
* `Handler.generatePatches_eq_of_reordered`, `Handler.validateTopology_eq_of_reordered` — such
  requests have the same answer.
* `Variables.overlay_last_wins` — which variables are in force: of each name the last one, whole,
  where those of an object stand behind those of the request.
-/

set_option autoImplicit false

namespace TopologyHooks

/-! ## Requests in another order -/

/-- Whether two items are the same but for the order of variables that all have names of their
own. -/
structure GeneratePatches.RequestItem.Reordered (item item' : RequestItem) : Prop where
  same : item.SameObject item'
  bindings : ClusterVariable.Reordered item.bindings item'.bindings

/-- The same for all variables of two requests for patches. -/
structure GeneratePatches.Request.Reordered (request request' : Request) : Prop where
  bindings : ClusterVariable.Reordered request.bindings request'.bindings
  items : List.Forall₂ RequestItem.Reordered request.items request'.items

/-- The same for all variables of two requests to validate a topology. -/
structure ValidateTopology.Request.Reordered (request request' : Request) : Prop where
  bindings : ClusterVariable.Reordered request.bindings request'.bindings
  items : List.Forall₂ (fun item item' => ClusterVariable.Reordered item.bindings item'.bindings)
    request.items request'.items

namespace Handler

variable {h : Handler} {token : CancellationToken}

/-- A handler does the same with objects whose variables are in another order. -/
theorem runItems_eq_of_reordered {global : Variables}
    {items items' : List GeneratePatches.RequestItem}
    (hitems : List.Forall₂ GeneratePatches.RequestItem.Reordered items items') :
    ∀ (token : CancellationToken) (l : Ledger),
      runItems h token global items' l = runItems h token global items l := by
  induction hitems with
  | nil => exact fun _ _ => rfl
  | @cons item item' rest rest' hitem _ ih =>
    intro token l
    have huid : item'.uid = item.uid := by rw [hitem.same]
    rw [runItems, runItems, huid, runMutators_congr_of_sameObject hitem.same,
      Variables.overlay_eq_of_reordered global hitem.bindings]
    split
    · rfl
    · cases runMutators h.registry item (global.overlay item'.bindings) h.mutators l with
      | error e => rfl
      | ok l₁ => exact ih token.next l₁

/-- A generation of patches does not depend on the order of variables that have names of their
own. -/
theorem generatePatches_eq_of_reordered {request request' : GeneratePatches.Request}
    (hr : request.Reordered request') :
    h.generatePatches request' token = h.generatePatches request token := by
  rw [generatePatches, generatePatches, patches, patches,
    ← Variables.ofList_eq_of_reordered hr.bindings, runItems_eq_of_reordered hr.items]

/-- The variables that are validated together do not depend on their order, either. -/
theorem scopes_eq_of_reordered {request request' : ValidateTopology.Request}
    (hr : request.Reordered request') : scopes request' = scopes request := by
  have hover : ∀ global : Variables,
      request'.items.map (fun item => global.overlay item.bindings) =
        request.items.map fun item => global.overlay item.bindings := by
    intro global
    rw [← List.forall₂_eq_eq_eq, List.forall₂_map_left_iff, List.forall₂_map_right_iff]
    exact hr.items.flip.imp fun _ _ hitem => (Variables.overlay_eq_of_reordered global hitem).symm
  have hempty : request'.items.isEmpty = request.items.isEmpty := by
    rw [Bool.eq_iff_iff, List.isEmpty_iff_length_eq_zero, List.isEmpty_iff_length_eq_zero,
      hr.items.length_eq]
  rw [scopes, scopes, ← Variables.ofList_eq_of_reordered hr.bindings, hempty, hover]

/-- A validation does not depend on the order of variables that have names of their own. -/
theorem validateTopology_eq_of_reordered {request request' : ValidateTopology.Request}
    (hr : request.Reordered request') :
    h.validateTopology request' = h.validateTopology request := by
  rw [validateTopology, validateTopology, scopes_eq_of_reordered hr]

end Handler

/-! ## The variables in force -/

namespace Variables

open ClusterVariable

/-- **The last variable of a name wins.** Variables over others are those of both lists, one behind
the other: a name has the whole value of its last variable in the upper list, or in the lower one if
the upper one has none, and every path leads to what it leads to in that variable alone. As a list,
variables stand in the order of their names, and they are read back from it. So handlers give the
same answers when variables change their order that all have names of their own. -/
theorem overlay_last_wins :
    (∀ (global top : List ClusterVariable),
      (ofList global).overlay top = ofList (global ++ top) ∧
      ∀ name : String,
        ((ofList global).overlay top).get? name =
          ((last? name top).or (last? name global)).map (·.value) ∧
        ∀ {α : Type} (shape : Shape α) (path : List String),
          ((ofList global).overlay top).get shape name path =
            ((last? name top).or (last? name global)).elim (.ok none) fun v =>
              (ofList [v]).get shape name path) ∧
    (∀ vars : Variables,
      (vars.toList.map (·.name)).Pairwise (· < ·) ∧ ofList vars.toList = vars) ∧
    ∀ h : Handler,
      (∀ {request request' : GeneratePatches.Request}, request.Reordered request' →
        ∀ token, h.generatePatches request' token = h.generatePatches request token) ∧
      ∀ {request request' : ValidateTopology.Request}, request.Reordered request' →
        h.validateTopology request' = h.validateTopology request := by
  refine ⟨fun global top => ⟨overlay_ofList global top, fun name => ?_⟩,
    fun vars => ⟨pairwise_name_toList vars, ofList_toList vars⟩,
    fun h => ⟨fun hr _ => Handler.generatePatches_eq_of_reordered hr,
      Handler.validateTopology_eq_of_reordered⟩⟩
  rw [overlay_ofList, ← last?_append]
  exact ⟨get?_ofList name _, fun shape path => get_ofList _ shape name path⟩

end Variables

/-! ## Groups of workers -/

namespace Handler

namespace Workers

/-- What a cluster tells about itself, and a region. -/
def bindings : List ClusterVariable :=
  [⟨"builtin", .obj [("cluster", .obj [("name", .str "test")])], none⟩,
   ⟨"region", .str "eu-west-1", none⟩]

/-- What an object tells about itself, for the second time. -/
def own : List ClusterVariable :=
  [⟨"builtin", .null, none⟩,
   ⟨"builtin", .obj [("machineDeployment", .obj [("class", .str "worker")])], none⟩]

/-- A request for patches with some variables. -/
def request (bindings : List ClusterVariable) : GeneratePatches.Request :=
  { Region.request with
    bindings := bindings
    items := [{ Region.item with bindings := own }] }

/-- A request to validate the same. -/
def validation (bindings : List ClusterVariable) : ValidateTopology.Request :=
  { ValidateTopology.Request.blank with
    bindings := bindings
    items := [⟨Region.item.holderReference, Region.item.object, own⟩] }

/-- The variables have names of their own, so they can be reversed. -/
theorem reordered_bindings : ClusterVariable.Reordered bindings bindings.reverse :=
  .perm (by decide) (List.reverse_perm bindings).symm

end Workers

end Handler

namespace Variables

open Handler.Workers

/-- What an object tells about itself takes the place of all that the cluster tells, and requests
have the same answers when the variables of the cluster stand in the other order. -/
theorem overlay_last_wins_workers :
    let vars := (ofList bindings).overlay own
    vars.get .text "builtin" ["machineDeployment", "class"] = .ok (some "worker") ∧
      vars.get .text "builtin" ["cluster", "name"] = .ok none ∧
      vars.get .text "region" [] = .ok (some "eu-west-1") ∧
      ofList vars.toList = vars ∧
      (request bindings).Reordered (request bindings.reverse) ∧
      Handler.Region.handler.generatePatches (request bindings.reverse) .never =
        Handler.Region.handler.generatePatches (request bindings) .never ∧
      (Handler.Region.handler.generatePatches (request bindings) .never).status = .success ∧
      (validation bindings).Reordered (validation bindings.reverse) ∧
      Handler.Region.handler.validateTopology (validation bindings.reverse) =
        Handler.Region.handler.validateTopology (validation bindings) := by
  intro vars
  obtain ⟨hoverlay, hlist, hanswers⟩ := overlay_last_wins
  have hget := fun name => ((hoverlay bindings own).2 name).2 .text
  have hpatches : (request bindings).Reordered (request bindings.reverse) :=
    ⟨reordered_bindings, .cons ⟨rfl, .refl _⟩ .nil⟩
  have hvalidation : (validation bindings).Reordered (validation bindings.reverse) :=
    ⟨reordered_bindings, .cons (.refl _) .nil⟩
  obtain ⟨hgenerate, hvalidate⟩ := hanswers Handler.Region.handler
  exact ⟨hget "builtin" ["machineDeployment", "class"], hget "builtin" ["cluster", "name"],
    hget "region" [], (hlist vars).2, hpatches, hgenerate hpatches .never, rfl, hvalidation,
    hvalidate hvalidation⟩

end Variables

end TopologyHooks
