import TopologyHooks.Proofs.Handler.Idempotence

/-!
# Handlers look only at what they declare

Variables can differ in many ways that a handler does not see. What it sees are the references of
its mutators, the class of the group of workers that a template belongs to, and the versions that
standard images are chosen by.

* `Alike` — whether callers cannot tell two results apart.
* `Variables.AgreeAt` — whether a reference leads to the same in two sets of variables: to the same
  value, to nothing, or to errors with the same text.
* `Mutator.LooksAt` — whether all that a mutator looks at is among some references.
* `Handler.generatePatches_congr` — a handler of the extension answers two requests alike that are
  about the same objects and agree at all that its mutators declare.
-/

set_option autoImplicit false

namespace TopologyHooks

/-- Whether callers cannot tell two results apart: they are the same, or errors with the same
text. -/
inductive Alike {α : Type} : Except Error α → Except Error α → Prop
  | ok (a : α) : Alike (.ok a) (.ok a)
  | error {e e' : Error} : e.message = e'.message → Alike (.error e) (.error e')

/-- A result is alike to itself. -/
theorem Alike.refl {α : Type} : ∀ r : Except Error α, Alike r r
  | .ok a => .ok a
  | .error _ => .error rfl

/-! ## Variables -/

namespace Variables

/-- Whether a reference leads to the same in two sets of variables. -/
def AgreeAt (vars vars' : Variables) (r : VariableRef) : Prop :=
  Alike (r.get .json vars) (r.get .json vars')

variable {vars vars' : Variables} {r : VariableRef}

/-- To read JSON at a reference is to look up what stands there. -/
theorem get_json (vars : Variables) (name : String) (path : List String) :
    vars.get .json name path = vars.valueAt name path := by
  unfold get
  cases vars.valueAt name path with
  | error e => rfl
  | ok found => cases found <;> rfl

/-- What is read as any shape is read alike. -/
theorem AgreeAt.get {α : Type} (h : vars.AgreeAt vars' r) (shape : Shape α) :
    Alike (r.get shape vars) (r.get shape vars') := by
  rw [AgreeAt, VariableRef.get, VariableRef.get, get_json, get_json] at h
  rw [VariableRef.get, VariableRef.get, Variables.get, Variables.get]
  generalize vars.valueAt r.name r.path = found at h ⊢
  generalize vars'.valueAt r.name r.path = found' at h ⊢
  cases h with
  | ok o =>
    cases o with
    | none => exact .ok none
    | some j => exact .refl _
  | error h => exact .error h

end Variables

/-! ## Selection -/

/-- The class of the group of workers that a template belongs to. -/
def Builtins.deploymentClassRef : VariableRef := ⟨variableName, deploymentClass⟩

/-- A selector selects the same objects with variables that tell the same class. -/
theorem PatchSelector.selects_congr_of_agreeAt {vars vars' : Variables}
    (h : vars.AgreeAt vars' Builtins.deploymentClassRef) (s : PatchSelector) (object : Json)
    (holder : HolderReference) :
    s.selects object holder vars' = s.selects object holder vars := by
  have hclass : classOf? vars' = classOf? vars := by
    have hget := h.get .text
    unfold classOf?
    change Alike (vars.get .text Builtins.variableName Builtins.deploymentClass)
      (vars'.get .text Builtins.variableName Builtins.deploymentClass) at hget
    generalize vars.get .text Builtins.variableName Builtins.deploymentClass = found at hget ⊢
    generalize vars'.get .text Builtins.variableName Builtins.deploymentClass = found' at hget ⊢
    cases hget <;> rfl
  rw [selects, selects, selectsClass, selectsClass, hclass]

/-! ## One mutator -/

/-- Whether callers cannot tell two outcomes apart: the ledger is the same, and so is the text of
the error if there is one. -/
def Ledger.SameOutcome (r r' : Ledger × Option Error) : Prop :=
  r.1 = r'.1 ∧ r.2.map Error.message = r'.2.map Error.message

section

variable {registry : ObjectRegistry} {vars vars' : Variables}
  {item : GeneratePatches.RequestItem}

/-- Changes that are alike amount to patches that are. -/
theorem Mutation.alike_patchOf (registry : ObjectRegistry) {k : TemplateKind} (object : Json)
    {change change' : Change k} (h : ∀ t, Alike (change t) (change' t)) :
    Alike (patchOf registry k object change) (patchOf registry k object change') := by
  unfold patchOf
  cases registry.decodeAs k object with
  | error e => exact .error rfl
  | ok before =>
    have halike := h before
    simp only []
    generalize change before = after at halike ⊢
    generalize change' before = after' at halike ⊢
    cases halike with
    | ok after => exact .ok _
    | error h => exact .error h

/-- Changes that are alike have outcomes that are. -/
theorem Ledger.sameOutcome_mutate {k : TemplateKind} {selector : PatchSelector}
    {change change' : Mutation.Change k} (l : Ledger)
    (hclass : vars.AgreeAt vars' Builtins.deploymentClassRef)
    (h : ∀ t, Alike (change t) (change' t)) :
    SameOutcome (l.mutate registry k item vars selector change)
      (l.mutate registry k item vars' selector change') := by
  have hpatch : Alike
      (Mutation.patch? registry k (l.current item.uid item.object) vars item.holderReference
        selector change)
      (Mutation.patch? registry k (l.current item.uid item.object) vars' item.holderReference
        selector change') := by
    -- a selector looks at the class alone, so it selects in both cases or in none
    rw [Mutation.patch?, Mutation.patch?, PatchSelector.selects_congr_of_agreeAt hclass]
    split
    · have halike := Mutation.alike_patchOf registry (l.current item.uid item.object) h
      generalize Mutation.patchOf registry k (l.current item.uid item.object) change = patch
        at halike ⊢
      generalize Mutation.patchOf registry k (l.current item.uid item.object) change' = patch'
        at halike ⊢
      cases halike with
      | ok patch => exact .refl _
      | error h => exact .error h
    · exact .ok none
  unfold mutate
  simp only []
  generalize Mutation.patch? registry k (l.current item.uid item.object) vars item.holderReference
    selector change = patch at hpatch ⊢
  generalize Mutation.patch? registry k (l.current item.uid item.object) vars' item.holderReference
    selector change' = patch' at hpatch ⊢
  cases hpatch with
  | ok patch => exact ⟨rfl, rfl⟩
  | error h => exact ⟨rfl, congrArg some h⟩

namespace Mutator

/-- Whether all that a mutator looks at in the variables is among some references: its own variable,
the class of the group of workers, and what its change looks at. -/
structure LooksAt (m : Mutator) (refs : List VariableRef) : Prop where
  reads : m.reads ∈ refs
  selects : Builtins.deploymentClassRef ∈ refs
  change : ∀ ⦃vars vars' : Variables⦄, (∀ r ∈ refs, vars.AgreeAt vars' r) →
    ∀ holder value t, Alike (m.change ⟨vars, holder⟩ value t) (m.change ⟨vars', holder⟩ value t)

/-- A mutator does the same for an object with variables that agree at all that it looks at. -/
theorem LooksAt.sameOutcome_generate {m : Mutator} {refs : List VariableRef} (h : m.LooksAt refs)
    (hagree : ∀ r ∈ refs, vars.AgreeAt vars' r) (l : Ledger) :
    Ledger.SameOutcome (m.generate registry item vars l) (m.generate registry item vars' l) := by
  have hread := (hagree m.reads h.reads).get m.input
  unfold generate
  generalize m.reads.get m.input vars = found at hread ⊢
  generalize m.reads.get m.input vars' = found' at hread ⊢
  cases hread with
  | error h => exact ⟨rfl, congrArg some h⟩
  | ok found =>
    simp only []
    cases found.or m.fallback with
    | none => exact ⟨rfl, rfl⟩
    | some value =>
      exact l.sameOutcome_mutate (hagree _ h.selects) (h.change hagree item.holderReference value)

end Mutator

end

/-! ## Handlers -/

/-- Whether two items are about the same object; their variables may differ. -/
def GeneratePatches.RequestItem.SameObject (item item' : RequestItem) : Prop :=
  item' = { item with bindings := item'.bindings }

namespace Handler

variable {registry : ObjectRegistry} {refs : List VariableRef}

/-- Mutators that look at some references only do the same for an object with variables that agree
at them. -/
theorem alike_runMutators {item : GeneratePatches.RequestItem} {vars vars' : Variables}
    (hagree : ∀ r ∈ refs, vars.AgreeAt vars' r) :
    ∀ {ms : List Mutator} (l : Ledger), (∀ m ∈ ms, m.LooksAt refs) →
      Alike (runMutators registry item vars ms l) (runMutators registry item vars' ms l)
  | [], l, _ => .ok l
  | m :: rest, l, h => by
    have hm : Ledger.SameOutcome (m.generate registry item vars l)
        (m.generate registry item vars' l) :=
      (h m List.mem_cons_self).sameOutcome_generate hagree l
    rw [runMutators, runMutators]
    generalize m.generate registry item vars l = r at hm ⊢
    generalize m.generate registry item vars' l = r' at hm ⊢
    obtain ⟨l₁, failure⟩ := r
    obtain ⟨l₁', failure'⟩ := r'
    obtain ⟨hl, he⟩ := hm
    obtain rfl : l₁ = l₁' := hl
    cases failure with
    | none =>
      cases failure' with
      | none => exact alike_runMutators hagree l₁ fun m hm => h m (List.mem_cons_of_mem _ hm)
      | some e' => simp at he
    | some e =>
      cases failure' with
      | none => simp at he
      | some e' => exact .error (Option.some.inj he)

/-- What mutators do for an item depends on its object and its holder alone. -/
theorem runMutators_congr_of_sameObject {item item' : GeneratePatches.RequestItem}
    (h : item.SameObject item') {vars : Variables} : ∀ {ms : List Mutator} {l : Ledger},
    runMutators registry item' vars ms l = runMutators registry item vars ms l := by
  rw [h]
  intro ms
  induction ms with
  | nil => exact fun {_} => rfl
  | cons m rest ih =>
    intro l
    have hm : m.generate registry { item with bindings := item'.bindings } vars l =
        m.generate registry item vars l := rfl
    rw [runMutators, runMutators, hm]
    generalize m.generate registry item vars l = r
    obtain ⟨l₁, _ | e⟩ := r
    · exact ih
    · rfl

/-- A handler whose mutators look at some references only does the same for requests that agree at
them. -/
theorem alike_runItems {h : Handler} (hlooks : ∀ m ∈ h.mutators, m.LooksAt refs)
    {global global' : Variables} {items items' : List GeneratePatches.RequestItem}
    (hitems : List.Forall₂ (fun item item' => item.SameObject item' ∧
      ∀ r ∈ refs, (global.overlay item.bindings).AgreeAt (global'.overlay item'.bindings) r)
      items items') :
    ∀ (token : CancellationToken) (l : Ledger),
      Alike (runItems h token global items l) (runItems h token global' items' l) := by
  induction hitems with
  | nil => exact fun _ => .ok
  | @cons item item' rest rest' hitem _ ih =>
    intro token l
    obtain ⟨hsame, hagree⟩ := hitem
    have huid : item'.uid = item.uid := by rw [hsame]
    rw [runItems, runItems, huid, runMutators_congr_of_sameObject hsame]
    -- the token does not look at variables, so both are cancelled here or neither is
    split
    · exact .error rfl
    · have hrun : Alike
          (runMutators h.registry item (global.overlay item.bindings) h.mutators l)
          (runMutators h.registry item (global'.overlay item'.bindings) h.mutators l) :=
        alike_runMutators hagree l hlooks
      generalize runMutators h.registry item (global.overlay item.bindings) h.mutators l = r
        at hrun ⊢
      generalize runMutators h.registry item (global'.overlay item'.bindings) h.mutators l = r'
        at hrun ⊢
      cases hrun with
      | ok l₁ => exact ih token.next l₁
      | error he => exact .error he

/-- A handler whose mutators look at some references only answers requests alike that agree at
them. -/
theorem generatePatches_congr_of_looksAt {h : Handler} (hlooks : ∀ m ∈ h.mutators, m.LooksAt refs)
    {request request' : GeneratePatches.Request} {token : CancellationToken}
    (hitems : List.Forall₂ (fun item item' => item.SameObject item' ∧
      ∀ r ∈ refs, (variablesFor request item).AgreeAt (variablesFor request' item') r)
      request.items request'.items) :
    h.generatePatches request token = h.generatePatches request' token := by
  have hrun : Alike (runItems h token (.ofList request.bindings) request.items .empty)
      (runItems h token (.ofList request'.bindings) request'.items .empty) :=
    alike_runItems hlooks hitems token .empty
  unfold generatePatches patches
  generalize runItems h token (.ofList request.bindings) request.items .empty = r at hrun ⊢
  generalize runItems h token (.ofList request'.bindings) request'.items .empty = r' at hrun ⊢
  cases hrun with
  | ok l => rfl
  | error he => simp only [Except.map, he]

end Handler

/-! ## Handlers of the extension -/

/-- What the cluster tells about itself that handlers of the extension look at. -/
def Builtins.declared : List VariableRef :=
  [deploymentClass, deploymentVersion, controlPlaneVersion, topologyVersion].map
    (⟨variableName, ·⟩)

namespace Feature

/-- The first version is the same if the variables agree at all paths where it is looked for. -/
theorem alike_firstVersion {vars vars' : Variables} : ∀ {paths : List (List String)},
    (∀ path ∈ paths, vars.AgreeAt vars' ⟨Builtins.variableName, path⟩) →
      Alike (NodeImage.firstVersion vars paths) (NodeImage.firstVersion vars' paths)
  | [], _ => .ok none
  | path :: rest, h => by
    have hget : Alike (vars.get .text Builtins.variableName path)
        (vars'.get .text Builtins.variableName path) := (h path List.mem_cons_self).get .text
    have hrest := alike_firstVersion fun path hpath => h path (List.mem_cons_of_mem _ hpath)
    rw [NodeImage.firstVersion, NodeImage.firstVersion]
    generalize vars.get .text Builtins.variableName path = found at hget ⊢
    generalize vars'.get .text Builtins.variableName path = found' at hget ⊢
    cases hget with
    | error he => exact .error he
    | ok found =>
      cases found with
      | none => exact hrest
      | some version =>
        simp only []
        split
        · exact hrest
        · exact .ok (some version)

/-- The image of a machine is the same if the variables agree at all paths where a version is looked
for. -/
theorem alike_configure {vars vars' : Variables} {versions : List (List String)}
    (h : ∀ path ∈ versions, vars.AgreeAt vars' ⟨Builtins.variableName, path⟩) (image : String)
    (spec : Docker.MachineSpec) :
    Alike (NodeImage.configure versions vars image spec)
      (NodeImage.configure versions vars' image spec) := by
  have hfirst := alike_firstVersion h
  unfold NodeImage.configure
  generalize NodeImage.firstVersion vars versions = version at hfirst ⊢
  generalize NodeImage.firstVersion vars' versions = version' at hfirst ⊢
  cases hfirst with
  | error he => exact .error he
  | ok version => exact .refl _

/-- Changes of specifications that are alike are so as changes of templates. -/
theorem alike_onSpec {k : TemplateKind} {change change' : k.Spec → Except Error k.Spec}
    (h : ∀ s, Alike (change s) (change' s)) (t : k.Object) :
    Alike (onSpec change t) (onSpec change' t) := by
  have hspec := h t.spec
  unfold onSpec
  generalize change t.spec = s at hspec ⊢
  generalize change' t.spec = s' at hspec ⊢
  cases hspec with
  | ok s => exact .ok _
  | error he => exact .error he

/-- The features that all providers share do not look at more than their own variables. -/
theorem change_eq_of_mem_shared : ∀ m ∈ shared, ∀ ctx ctx', m.change ctx = m.change ctx' := by
  simp [shared, imageRepository, etcdImage, certSANs, proxy, mirror, users, onControlPlane,
    onWorkers, mutator]

/-- The features for AWS do not look at more than their own variables. -/
theorem change_eq_of_mem_awsMachines :
    ∀ m ∈ awsMachines, ∀ ctx ctx', m.change ctx = m.change ctx' := by
  simp [awsMachines, mutator]

/-- The images of machines on Docker depend on versions that the cluster tells. -/
theorem alike_of_mem_dockerImages {vars vars' : Variables}
    (hagree : ∀ r ∈ Builtins.declared, vars.AgreeAt vars' r) : ∀ m ∈ dockerImages,
      ∀ holder value t, Alike (m.change ⟨vars, holder⟩ value t)
        (m.change ⟨vars', holder⟩ value t) := by
  simp only [Builtins.declared, List.map_cons, List.map_nil, List.forall_mem_cons,
    List.not_mem_nil] at hagree
  obtain ⟨-, hdeployment, hcontrolPlane, htopology, -⟩ := hagree
  refine List.forall_mem_cons.2 ⟨fun holder image => alike_onSpec (alike_configure ?_ image),
    List.forall_mem_singleton.2 fun holder image => alike_onSpec (alike_configure ?_ image)⟩
  · exact List.forall_mem_cons.2 ⟨hcontrolPlane, List.forall_mem_singleton.2 htopology⟩
  · exact List.forall_mem_singleton.2 hdeployment

/-- The mutators of a provider look at the references of all of them and at what the cluster
tells. -/
theorem looksAt_of_mem {ms : List Mutator} (h : OfProvider ms) {m : Mutator} (hm : m ∈ ms) :
    m.LooksAt (ms.map Mutator.reads ++ Builtins.declared) where
  reads := List.mem_append_left _ (List.mem_map_of_mem hm)
  selects := List.mem_append_right _ List.mem_cons_self
  change := by
    intro vars vars' hagree holder value t
    have hconstant : (∀ ctx ctx', m.change ctx = m.change ctx') →
        Alike (m.change ⟨vars, holder⟩ value t) (m.change ⟨vars', holder⟩ value t) := by
      intro hsame
      rw [hsame ⟨vars, holder⟩ ⟨vars', holder⟩]
      exact .refl _
    obtain rfl | rfl := h
    · obtain hm | hm := List.mem_append.1 hm
      · exact hconstant (change_eq_of_mem_shared m hm)
      · exact alike_of_mem_dockerImages (fun r hr => hagree r (List.mem_append_right _ hr)) m hm
          holder value t
    · obtain hm | hm := List.mem_append.1 hm
      · exact hconstant (change_eq_of_mem_shared m hm)
      · exact hconstant (change_eq_of_mem_awsMachines m hm)

end Feature

namespace Handler

/-- A handler of the extension gives the same answer to two requests about the same objects, if for
every object the two sets of variables in force agree at the references of all its mutators and at
what it looks at of what the cluster tells. -/
theorem generatePatches_congr {registry : ObjectRegistry} {h : Handler}
    (hh : docker registry = .ok h ∨ aws registry = .ok h)
    (request request' : GeneratePatches.Request) (token : CancellationToken)
    (hitems : List.Forall₂ (fun item item' => item.SameObject item' ∧
      ∀ r ∈ h.mutators.map Mutator.reads ++ Builtins.declared,
        (variablesFor request item).AgreeAt (variablesFor request' item') r)
      request.items request'.items) :
    h.generatePatches request token = h.generatePatches request' token :=
  generatePatches_congr_of_looksAt
    (fun _ hm => Feature.looksAt_of_mem (mutators_ofProvider hh) hm) hitems

/-! ## Accounts -/

namespace Accounts

/-- The request with more variables, more settings, and settings that are null. -/
def crowded : GeneratePatches.Request :=
  { GeneratePatches.Request.blank with
    bindings := [⟨"clusterConfig", .bool true, none⟩, ⟨"other", .bool true, none⟩,
      ⟨"workerConfig", .null, none⟩]
    items := [{ item with bindings := [⟨"clusterConfig", .obj [("aws", .bool true),
      ("controlPlane", .null), ("users", .arr [.obj [("name", .str "admin")],
      .obj [("name", .str "admin"), ("sudo", .str "ALL=(ALL) ALL")]])], none⟩] }] }

/-- Whether references lead to the same value in two sets of variables, or to nothing in both. -/
def agree (vars vars' : Variables) (refs : List VariableRef) : Bool :=
  refs.all fun r =>
    match r.get .json vars, r.get .json vars' with
    | .ok found, .ok found' => decide (found = found')
    | _, _ => false

/-- Where the test finds that references lead to the same, they do. -/
theorem agreeAt_of_agree {vars vars' : Variables} {refs : List VariableRef}
    (h : agree vars vars' refs = true) : ∀ r ∈ refs, vars.AgreeAt vars' r := by
  intro r hr
  have hr := List.all_eq_true.1 h r hr
  unfold Variables.AgreeAt
  generalize r.get .json vars = found at hr ⊢
  generalize r.get .json vars' = found' at hr ⊢
  cases found with
  | error e => simp at hr
  | ok found =>
    cases found' with
    | error e => simp at hr
    | ok found' =>
      obtain rfl : found = found' := by simpa using hr
      exact .ok found

/-- The variables of the two requests agree at all references that the handler declares. -/
theorem agree_crowded : agree (variablesFor request item)
    (variablesFor crowded { item with bindings := (crowded.items.flatMap (·.bindings)) })
    ((Feature.shared ++ Feature.dockerImages).map Mutator.reads ++ Builtins.declared) = true := by
  decide +kernel

end Accounts

/-- The handler for Docker gives the crowded request the same answer. -/
theorem generatePatches_congr_accounts : ∃ h, docker .full = .ok h ∧
    (h.generatePatches Accounts.crowded .never).items.map (·.uid) = ["uid"] ∧
    h.generatePatches Accounts.request .never = h.generatePatches Accounts.crowded .never := by
  obtain ⟨h, hh, -, hitems⟩ := Accounts.exists_docker
  have hsame : h.generatePatches Accounts.request .never =
      h.generatePatches Accounts.crowded .never := by
    refine generatePatches_congr (.inl hh) _ _ .never (.cons ⟨rfl, ?_⟩ .nil)
    rw [mutators_of_ofProvider hh]
    exact Accounts.agreeAt_of_agree Accounts.agree_crowded
  exact ⟨h, hh, hsame ▸ hitems, hsame⟩

end Handler

end TopologyHooks
