import TopologyHooks.Proofs.Handler.Failure

/-!
# Validation tells what patches can fail for

A request to validate a topology and a request for patches can carry the same variables
(`ValidateTopology.Request.SameVariables`). Then the first is answered with success exactly if the
variables of all mutators can be read for all objects of the second
(`Handler.validateTopology_eq_success_iff`). Main statement: when the first fails, so does the
second; and when the first succeeds, the second fails only because it was cancelled or because a
mutator breaks on an object (`Handler.generatePatches_of_validateTopology`).
-/

set_option autoImplicit false

namespace TopologyHooks

/-- Whether a request to validate a topology carries the variables of a request for patches: those
for all objects, and those for each object. -/
structure ValidateTopology.Request.SameVariables (request : ValidateTopology.Request)
    (request' : GeneratePatches.Request) : Prop where
  bindings : request.bindings = request'.bindings
  items : request.items.map (·.bindings) = request'.items.map (·.bindings)

namespace Handler

variable {h : Handler} {request : ValidateTopology.Request} {request' : GeneratePatches.Request}
  {token : CancellationToken}

/-! ## Validation -/

/-- No variable fails to be looked up exactly if those of all mutators can be read. -/
theorem lookupFault?_eq_none_iff {mutators : List Mutator} {vars : Variables} :
    lookupFault? mutators vars = none ↔
      ∀ m ∈ mutators, ∃ found, m.reads.get m.input vars = .ok found := by
  rw [lookupFault?, List.findSome?_eq_none_iff]
  refine forall₂_congr fun m _ => ?_
  rw [Mutator.lookup]
  cases m.reads.get m.input vars <;> simp

/-- The variables that are validated for an object are those with which it is patched. -/
theorem scopes_eq_of_sameVariables (hsame : request.SameVariables request')
    (hne : request'.items ≠ []) : scopes request = request'.items.map (variablesFor request') := by
  have hitems : request.items ≠ [] := by
    intro hnil
    have hmap := hsame.items
    rw [hnil, List.map_nil, eq_comm, List.map_eq_nil_iff] at hmap
    exact hne hmap
  have hover : ∀ global : Variables, request.items.map (fun item => global.overlay item.bindings) =
      request'.items.map fun item => global.overlay item.bindings := by
    intro global
    have hmap := congrArg (List.map global.overlay) hsame.items
    rwa [List.map_map, List.map_map] at hmap
  rw [scopes, if_neg (by simpa using hitems), hsame.bindings, hover]
  rfl

/-- A topology is valid exactly if the variables of all mutators can be read for all objects. -/
theorem validateTopology_eq_success_iff (hsame : request.SameVariables request')
    (hne : request'.items ≠ []) :
    (h.validateTopology request).status = .success ↔
      ∀ item ∈ request'.items, ∀ m ∈ h.mutators,
        ∃ found, m.reads.get m.input (variablesFor request' item) = .ok found := by
  have hnone : (h.validateTopology request).status = .success ↔
      (scopes request).findSome? (lookupFault? h.mutators) = none := by
    unfold validateTopology
    cases (scopes request).findSome? (lookupFault? h.mutators) <;>
      simp [HookResponse.success, HookResponse.failure]
  rw [hnone, List.findSome?_eq_none_iff, scopes_eq_of_sameVariables hsame hne]
  simp only [List.forall_mem_map, lookupFault?_eq_none_iff]

/-! ## Patches -/

/-- When a handler gets through some objects, the variables of all mutators can be read for each. -/
theorem exists_read_of_runItems {global : Variables} :
    ∀ {items : List GeneratePatches.RequestItem} {token : CancellationToken} {l l' : Ledger},
      runItems h token global items l = .ok l' → ∀ item ∈ items, ∀ m ∈ h.mutators,
        ∃ found, m.reads.get m.input (global.overlay item.bindings) = .ok found
  | [], _, _, _, _ => by simp
  | item :: rest, _, l, l', hrun => by
    rw [runItems] at hrun
    split at hrun
    · cases hrun
    split at hrun
    · cases hrun
    · rename_i l₁ hitem
      obtain ⟨patch, last, hsteps, -⟩ := exists_run_of_runMutators hitem
      exact List.forall_mem_cons.2 ⟨hsteps.exists_read, exists_read_of_runItems hrun⟩

/-- When a handler answers with patches, the variables of all mutators can be read for all
objects. -/
theorem exists_read_of_success (hok : (h.generatePatches request' token).status = .success) :
    ∀ item ∈ request'.items, ∀ m ∈ h.mutators,
      ∃ found, m.reads.get m.input (variablesFor request' item) = .ok found := by
  obtain ⟨l, hrun, -⟩ := map_eq_ok_iff.1 (patches_of_success hok)
  exact exists_read_of_runItems hrun

/-- A failure has the message of the error that there is. -/
theorem exists_of_failure (hfails : (h.generatePatches request' token).status = .failure) :
    ∃ e, h.patches request' token = .error e ∧
      (h.generatePatches request' token).message = e.message := by
  unfold generatePatches at hfails ⊢
  cases hp : h.patches request' token with
  | ok items => simp [hp, GeneratePatches.Response.success] at hfails
  | error e => exact ⟨e, rfl, rfl⟩

/-- When the validation of a topology with the variables of a request for patches fails, that
request fails too, whenever its token is cancelled. When it succeeds, the variables of all mutators
can be read for all objects, and the request fails only because the token is cancelled before an
object that the handler gets to, or because a mutator meets an object on which it breaks: one that
cannot be read, or that the change fails on, or that the patch cannot be applied to. -/
theorem generatePatches_of_validateTopology (h : Handler) (request : ValidateTopology.Request)
    (request' : GeneratePatches.Request) (hsame : request.SameVariables request')
    (hne : request'.items ≠ []) (token : CancellationToken) :
    ((h.validateTopology request).status = .failure →
      (h.generatePatches request' token).status = .failure) ∧
    ((h.validateTopology request).status = .success →
      (∀ item ∈ request'.items, ∀ m ∈ h.mutators,
        ∃ found, m.reads.get m.input (variablesFor request' item) = .ok found) ∧
      ((h.generatePatches request' token).status = .failure →
        ∃ e, h.patches request' token = .error e ∧
          (h.generatePatches request' token).message = e.message ∧
          ((∃ item, h.StopsBefore request' token item ∧
            e = .cancelled (.cancelledBefore h.name item.uid)) ∨
          ∃ item m object, h.Meets request' token item m object ∧
            m.Breaks h.registry item (variablesFor request' item) object e))) := by
  have hvalid := validateTopology_eq_success_iff (h := h) hsame hne
  constructor
  · intro hinvalid
    cases hs : (h.generatePatches request' token).status with
    | failure => rfl
    | success =>
      rw [hvalid.2 (exists_read_of_success hs)] at hinvalid
      cases hinvalid
  · intro hok
    have hreads := hvalid.1 hok
    refine ⟨hreads, fun hfails => ?_⟩
    obtain ⟨e, hp, hmessage⟩ := exists_of_failure hfails
    refine ⟨e, hp, hmessage, (exists_of_patches_eq_error hp).imp_right ?_⟩
    -- the variable of the mutator that was met can be read, so it broke on the object
    rintro ⟨item, m, object, hmeets, hread | hbreaks⟩
    · obtain ⟨found, hfound⟩ := hreads item hmeets.item_mem m hmeets.mutator_mem
      rw [hfound] at hread
      cases hread
    · exact ⟨item, m, object, hmeets, hbreaks⟩

/-! ## Regions -/

namespace Region

/-- The request for two clusters in some region, which need not be a text. -/
def requestFor (region : Json) : GeneratePatches.Request :=
  { Region.request with
    bindings := [⟨"region", region, none⟩]
    items := [item, { item with uid := "second" }] }

/-- The request to validate a topology with that region. -/
def validationFor (region : Json) : ValidateTopology.Request :=
  { ValidateTopology.Request.blank with
    bindings := [⟨"region", region, none⟩]
    items := [⟨item.holderReference, item.object, []⟩, ⟨item.holderReference, item.object, []⟩] }

/-- Both requests carry the same variables. -/
theorem sameVariables (region : Json) : (validationFor region).SameVariables (requestFor region) :=
  ⟨rfl, rfl⟩

/-- The request is about some object. -/
theorem items_requestFor (region : Json) : (requestFor region).items ≠ [] :=
  List.cons_ne_nil item _

end Region

/-- A region that is no text is found by the validation, and there are no patches for it. With a
text the validation succeeds; the request fails all the same if it is cancelled between its two
clusters. -/
theorem generatePatches_of_validateTopology_region :
    ((Region.handler.validateTopology (Region.validationFor (.bool true))).status = .failure ∧
      (Region.handler.generatePatches (Region.requestFor (.bool true)) .never).status =
        .failure) ∧
    ((Region.handler.validateTopology (Region.validationFor (.str "eu-west-1"))).status =
        .success ∧
      Region.handler.patches (Region.requestFor (.str "eu-west-1")) (.after 1) =
        .error (.cancelled (.cancelledBefore "region" "second")) ∧
      ((∃ item, Region.handler.StopsBefore (Region.requestFor (.str "eu-west-1")) (.after 1) item ∧
          item.uid = "second") ∨
        ∃ item m object,
          Region.handler.Meets (Region.requestFor (.str "eu-west-1")) (.after 1) item m object ∧
          m.Breaks .full item (variablesFor (Region.requestFor (.str "eu-west-1")) item) object
            (.cancelled (.cancelledBefore "region" "second")))) := by
  refine ⟨⟨rfl, ?_⟩, rfl, rfl, ?_⟩
  · exact (generatePatches_of_validateTopology Region.handler _ _ (Region.sameVariables _)
      (Region.items_requestFor _) .never).1 rfl
  · obtain ⟨-, hfails⟩ := (generatePatches_of_validateTopology Region.handler _ _
      (Region.sameVariables (.str "eu-west-1")) (Region.items_requestFor _) (.after 1)).2 rfl
    obtain ⟨e, hp, -, hwhy⟩ := hfails rfl
    obtain rfl : .cancelled (.cancelledBefore "region" "second") = e := Except.error.inj hp
    refine hwhy.imp_left ?_
    rintro ⟨item, hstops, he⟩
    injection he with he
    injection he with _ huid
    exact ⟨item, hstops, huid.symm⟩

end Handler

end TopologyHooks
