import TopologyHooks.Proofs.Feature.Nodes
import TopologyHooks.Proofs.Feature.Spec

/-!
# Fields that features set

* `Feature.Field` — the fields, each of which belongs to one feature.
* `Feature.FieldView` — how the fields of a specification are read, and how it looks without one.
  Fields are independent of each other.
* `Feature.FieldView.Owns` — whether a change owns some fields: it leaves everything else alone, and
  what it makes of them depends on them only.
* `Feature.FieldView.run_owned` — changes that own different fields, made one after the other, leave
  everything else alone, and make of its own fields what each of them makes alone.
-/

set_option autoImplicit false

namespace TopologyHooks

open Kubeadm

/-! ## Scripts -/

/-- An item that is no first one of a sort stays the first one of its own. -/
theorem find?_eraseP_of_disjoint {α : Type} {p q : α → Bool} (h : ∀ a, p a = true → q a = false) :
    ∀ xs : List α, (xs.eraseP p).find? q = xs.find? q
  | [] => rfl
  | x :: xs => by
    cases hp : p x with
    | true => simp [hp, h x hp]
    | false => simp [hp, List.find?_cons, find?_eraseP_of_disjoint h xs]

namespace KubeadmConfigSpec

/-- The first file at a path, and whether a command is run. -/
def scriptAt (path command : String) (s : KubeadmConfigSpec) : Option File × Bool :=
  (s.files.find? fun f => f.path = path, decide (command ∈ s.preKubeadmCommands))

/-- A set-up without the first file at a path and without a command. -/
def withoutScript (path command : String) (s : KubeadmConfigSpec) : KubeadmConfigSpec :=
  { s with
    files := s.files.eraseP fun f => f.path = path
    preKubeadmCommands := s.preKubeadmCommands.filter fun c => c ≠ command }

section

variable {path command path' command' : String}

/-- Taking away a script leaves the scripts with another path and another command alone. -/
theorem scriptAt_withoutScript (hp : path' ≠ path) (hc : command' ≠ command)
    (s : KubeadmConfigSpec) :
    scriptAt path command (s.withoutScript path' command') = scriptAt path command s := by
  have hfiles := find?_eraseP_of_disjoint (p := fun f : File => decide (f.path = path'))
    (q := fun f => decide (f.path = path)) (by simp_all) s.files
  simp only [scriptAt, withoutScript, hfiles, List.mem_filter]
  simp [Ne.symm hc]

/-- Two scripts at different paths can be taken away in either order. -/
theorem withoutScript_comm (hp : path' ≠ path) (s : KubeadmConfigSpec) :
    (s.withoutScript path' command').withoutScript path command =
      (s.withoutScript path command).withoutScript path' command' := by
  have hfiles := List.eraseP_comm (p := fun f : File => decide (f.path = path'))
    (q := fun f => decide (f.path = path)) (l := s.files) (by
      intro f _
      by_contra h
      simp only [decide_eq_true_eq, not_or, not_not] at h
      exact hp (h.1.symm.trans h.2))
  simp only [withoutScript, hfiles]
  rw [List.filter_comm]

end

/-- The etcd that runs on the nodes. -/
def localEtcd? (s : KubeadmConfigSpec) : Option LocalEtcd :=
  (s.clusterConfiguration.bind (·.etcd)).bind (·.onNodes)

/-- Changes the settings of the etcd that runs on the nodes; missing ones are created. -/
def modifyEtcd (s : KubeadmConfigSpec) (change : LocalEtcd → LocalEtcd) : KubeadmConfigSpec :=
  s.modifyCluster fun c =>
    { c with etcd := some ⟨some (change ((c.etcd.bind EtcdConfiguration.onNodes).getD .blank))⟩ }

/-- Changes the settings of the API server; missing ones are created. -/
def modifyServer (s : KubeadmConfigSpec) (change : ApiServer → ApiServer) : KubeadmConfigSpec :=
  s.modifyCluster fun c => { c with apiServer := some (change (c.apiServer.getD .blank)) }

end KubeadmConfigSpec

namespace Feature

/-! ## Fields -/

/-- A field that belongs to one feature: a field of the settings of the components, a script of a
node, which is a file with a command, or a field of a machine or of the infrastructure. -/
inductive Field
  | imageRepository
  | etcdRepository
  | etcdTag
  | certSANs
  | proxy
  | mirror
  | users
  | customImage
  | instanceType
  | region
  deriving DecidableEq

/-- What can stand in a field. -/
abbrev Field.Value : Field → Type
  | certSANs => Option (List String)
  | proxy | mirror => Option File × Bool
  | users => List User
  | imageRepository | etcdRepository | etcdTag | customImage | instanceType | region =>
    Option String

/-- How the fields of a specification are read, and how it looks without one of them. -/
structure FieldView (σ : Type) where
  read : (field : Field) → σ → field.Value
  clear : Field → σ → σ
  /-- The commands that run first on a node. -/
  commands : σ → List String
  read_clear : ∀ {field other : Field} (s : σ), field ≠ other →
    read field (clear other s) = read field s
  clear_comm : ∀ (field other : Field) (s : σ),
    clear field (clear other s) = clear other (clear field s)

namespace Field

/-- The fields of the set-up of nodes. -/
def readNodes : (field : Field) → KubeadmConfigSpec → field.Value
  | imageRepository, s => s.clusterConfiguration.bind (·.imageRepository)
  | etcdRepository, s => s.localEtcd?.bind (·.imageRepository)
  | etcdTag, s => s.localEtcd?.bind (·.imageTag)
  | certSANs, s => (s.clusterConfiguration.bind (·.apiServer)).map (·.certSANs)
  | proxy, s => s.scriptAt Proxy.dropInPath Proxy.restartCommand
  | mirror, s => s.scriptAt Mirror.hostsPath Mirror.enableCommand
  | users, s => s.users
  | customImage, _ | instanceType, _ | region, _ => none

/-- The set-up of nodes without a field; what holds the field is there all the same. -/
def clearNodes : Field → KubeadmConfigSpec → KubeadmConfigSpec
  | imageRepository, s => s.modifyCluster fun c => { c with imageRepository := none }
  | etcdRepository, s => s.modifyEtcd fun etcd => { etcd with imageRepository := none }
  | etcdTag, s => s.modifyEtcd fun etcd => { etcd with imageTag := none }
  | certSANs, s => s.modifyServer fun server => { server with certSANs := [] }
  | proxy, s => s.withoutScript Proxy.dropInPath Proxy.restartCommand
  | mirror, s => s.withoutScript Mirror.hostsPath Mirror.enableCommand
  | users, s => { s with users := [] }
  | customImage, s | instanceType, s | region, s => s

/-- Two fields of the set-up of nodes can be cleared in either order. -/
theorem clearNodes_comm (field other : Field) (s : KubeadmConfigSpec) :
    clearNodes field (clearNodes other s) = clearNodes other (clearNodes field s) := by
  have hpath : Proxy.dropInPath ≠ Mirror.hostsPath := by decide
  cases field <;> cases other <;>
    first
    | rfl
    | exact KubeadmConfigSpec.withoutScript_comm hpath s
    | exact KubeadmConfigSpec.withoutScript_comm hpath.symm s

/-- Clearing a field of the set-up of nodes leaves what is read of the others alone. -/
theorem readNodes_clearNodes {field other : Field} (s : KubeadmConfigSpec) (h : field ≠ other) :
    readNodes field (clearNodes other s) = readNodes field s := by
  have hpath : Proxy.dropInPath ≠ Mirror.hostsPath := by decide
  have hcommand : Proxy.restartCommand ≠ Mirror.enableCommand := by decide
  obtain ⟨_ | ⟨repository, _ | ⟨_ | etcd⟩, _ | server⟩, files, before, after, us⟩ := s <;>
  cases field <;> cases other <;>
    first
    | rfl
    | exact absurd rfl h
    | exact KubeadmConfigSpec.scriptAt_withoutScript hpath hcommand _
    | exact KubeadmConfigSpec.scriptAt_withoutScript hpath.symm hcommand.symm _

/-- A field in which nothing stands. -/
def blank : (field : Field) → field.Value
  | certSANs => none
  | proxy | mirror => (none, false)
  | users => []
  | imageRepository | etcdRepository | etcdTag | customImage | instanceType | region => none

end Field

namespace FieldView

variable {σ : Type}

/-- The fields of the set-up of nodes. -/
def nodes : FieldView KubeadmConfigSpec where
  read := Field.readNodes
  clear := Field.clearNodes
  commands := KubeadmConfigSpec.preKubeadmCommands
  read_clear := Field.readNodes_clearNodes
  clear_comm := Field.clearNodes_comm

/-- A specification with a single field. -/
def single (only : Field) (get : σ → only.Value) (reset : σ → σ) : FieldView σ where
  read field s := if h : field = only then h ▸ get s else field.blank
  clear field s := if field = only then reset s else s
  commands _ := []
  read_clear := by
    intro field other s hne
    by_cases hfield : field = only
    · rw [if_neg fun hother => hne (hfield.trans hother.symm)]
    · rw [dif_neg hfield, dif_neg hfield]
  clear_comm := by
    intro field other s
    split <;> split <;> rfl

/-- A specification without fields. -/
def empty : FieldView σ where
  read field _ := field.blank
  clear _ s := s
  commands _ := []
  read_clear _ _ := rfl
  clear_comm _ _ _ := rfl

/-- The fields of a template are those of its specification. -/
def template (v : FieldView σ) : FieldView (Template σ) where
  read field t := v.read field t.spec
  clear field t := t.modifySpec (v.clear field)
  commands t := v.commands t.spec
  read_clear t hne := v.read_clear t.spec hne
  clear_comm field other t :=
    congrArg (fun spec => { t with spec := spec }) (v.clear_comm field other t.spec)

/-! ## Many fields -/

variable (v : FieldView σ)

/-- A specification without some fields. -/
def clearAll (fields : List Field) (s : σ) : σ := fields.foldr v.clear s

variable {v} {field : Field} {fields others : List Field} {s s' : σ}

/-- To clear the fields of two lists is to clear those of the second and then those of the first. -/
theorem clearAll_append :
    v.clearAll (fields ++ others) s = v.clearAll fields (v.clearAll others s) :=
  List.foldr_append

/-- One more field can be cleared before some fields as well as after them. -/
theorem clear_clearAll (field : Field) (s : σ) : ∀ fields : List Field,
    v.clear field (v.clearAll fields s) = v.clearAll fields (v.clear field s)
  | [] => rfl
  | other :: rest =>
    calc v.clear field (v.clear other (v.clearAll rest s))
      _ = v.clear other (v.clear field (v.clearAll rest s)) := v.clear_comm field other _
      _ = v.clear other (v.clearAll rest (v.clear field s)) := by rw [clear_clearAll field s rest]

/-- Two lists of fields can be cleared in either order. -/
theorem clearAll_comm (others : List Field) (s : σ) : ∀ fields : List Field,
    v.clearAll fields (v.clearAll others s) = v.clearAll others (v.clearAll fields s)
  | [] => rfl
  | field :: rest =>
    calc v.clear field (v.clearAll rest (v.clearAll others s))
      _ = v.clear field (v.clearAll others (v.clearAll rest s)) := by
        rw [clearAll_comm others s rest]
      _ = v.clearAll others (v.clear field (v.clearAll rest s)) := clear_clearAll field _ others

/-- Clearing some fields leaves what is read of any other field alone. -/
theorem read_clearAll : ∀ {fields : List Field}, field ∉ fields →
    v.read field (v.clearAll fields s) = v.read field s
  | [], _ => rfl
  | other :: rest, h => by
    obtain ⟨hne, hrest⟩ := not_or.1 (List.mem_cons.not.1 h)
    exact (v.read_clear _ hne).trans (read_clearAll hrest)

/-- To clear fields of a template is to clear them in its specification. -/
theorem clearAll_template (v : FieldView σ) (t : Template σ) : ∀ fields : List Field,
    v.template.clearAll fields t = { t with spec := v.clearAll fields t.spec }
  | [] => rfl
  | field :: rest => congrArg (v.template.clear field) (clearAll_template v t rest)

/-- Specifications that differ in some fields alone agree in the others. -/
theorem read_eq_of_clearAll_eq (h : v.clearAll fields s = v.clearAll fields s')
    (hfield : field ∉ fields) : v.read field s = v.read field s' := by
  rw [← read_clearAll (s := s) hfield, h, read_clearAll hfield]

/-! ## Changes that own fields -/

variable {change : σ → Except Error σ}

/-- Whether a change owns some fields. What it makes of them depends on them only, it leaves
everything else alone, and it appends commands at most. -/
structure Owns (v : FieldView σ) (fields : List Field) (change : σ → Except Error σ) : Prop where
  depends : ∀ ⦃s u r⦄, change s = .ok u → (∀ field ∈ fields, v.read field s = v.read field r) →
    ∃ r', change r = .ok r' ∧ ∀ field ∈ fields, v.read field u = v.read field r'
  frame : ∀ ⦃s s'⦄, change s = .ok s' → v.clearAll fields s' = v.clearAll fields s
  grows : ∀ ⦃s s'⦄, change s = .ok s' → v.commands s <+: v.commands s'

/-- A change that never fails owns some fields if what it makes of them depends on them alone, it
changes nothing besides, and the commands only grow at the end. -/
theorem owns_ok {change : σ → σ}
    (depends : ∀ s r, (∀ field ∈ fields, v.read field s = v.read field r) →
      ∀ field ∈ fields, v.read field (change s) = v.read field (change r))
    (frame : ∀ s, v.clearAll fields (change s) = v.clearAll fields s)
    (grows : ∀ s, v.commands s <+: v.commands (change s)) :
    v.Owns fields fun s => .ok (change s) where
  depends := by
    rintro s _ r ⟨⟩ h
    exact ⟨change r, rfl, depends s r h⟩
  frame := by
    rintro s _ ⟨⟩
    exact frame s
  grows := by
    rintro s _ ⟨⟩
    exact grows s

/-- A change of nothing owns any fields. -/
theorem owns_self (fields : List Field) : v.Owns fields fun s => .ok s :=
  owns_ok (fun _ _ => id) (fun _ => rfl) fun _ => List.prefix_rfl

/-- A change that always fails owns any fields. -/
theorem owns_error (fields : List Field) (e : Error) : v.Owns fields fun _ => .error e where
  depends := by
    intro _ _ _ h
    cases h
  frame := by
    intro _ _ h
    cases h
  grows := by
    intro _ _ h
    cases h

/-- A change of the only field of a specification owns it, if what it makes of the field is always
the same. -/
theorem owns_single {only : Field} {get : σ → only.Value} {reset change : σ → σ}
    (hget : ∀ s r, get (change s) = get (change r)) (hreset : ∀ s, reset (change s) = reset s) :
    (single only get reset).Owns [only] fun s => .ok (change s) := by
  refine owns_ok (fun s r _ => ?_) (fun s => ?_) fun _ => List.prefix_rfl
  · simp only [single, List.forall_mem_singleton, dite_true]
    exact hget s r
  · simp only [clearAll, single, List.foldr_cons, List.foldr_nil, if_true]
    exact hreset s

/-- A change of a specification owns its fields as a change of templates, too. -/
theorem Owns.onSpec {k : TemplateKind} {v : FieldView k.Spec}
    {change : k.Spec → Except Error k.Spec} (h : v.Owns fields change) :
    v.template.Owns fields (Feature.onSpec change) where
  depends := by
    intro t u r hu hread
    obtain ⟨hspec, -⟩ := onSpec_eq_ok_iff.1 hu
    obtain ⟨spec, hr, hsame⟩ := h.depends hspec hread
    exact ⟨{ r with spec := spec }, onSpec_eq_ok_iff.2 ⟨hr, rfl⟩, hsame⟩
  frame := by
    intro t t' ht
    obtain ⟨hspec, ht'⟩ := onSpec_eq_ok_iff.1 ht
    rw [clearAll_template, clearAll_template, h.frame hspec, ht']
  grows := by
    intro t t' ht
    exact h.grows (onSpec_eq_ok_iff.1 ht).1

/-! ## One change after the other -/

/-- A change of a template together with fields. -/
abbrev Share (k : TemplateKind) : Type := Mutation.Change k × List Field

/-- Changes that own different fields, made one after the other, leave everything else alone. Each
of them, made alone, makes the same of its own fields. -/
theorem run_owned {k : TemplateKind} {v : FieldView k.Object} : ∀ {shares : List (Share k)}
    {t t' : k.Object}, (∀ share ∈ shares, v.Owns share.2 share.1) →
    (shares.Pairwise fun share share' => share.2.Disjoint share'.2) →
    Mutation.applyAll (shares.map Prod.fst) t = .ok t' →
    v.clearAll (shares.flatMap Prod.snd) t' = v.clearAll (shares.flatMap Prod.snd) t ∧
      v.commands t <+: v.commands t' ∧
      ∀ share ∈ shares, ∃ u, share.1 t = .ok u ∧
        ∀ field ∈ share.2, v.read field u = v.read field t'
  | [], t, t', _, _, h => by
    obtain rfl : t = t' := Except.ok.inj h
    exact ⟨rfl, List.prefix_rfl, by simp⟩
  | share :: rest, t, t', howns, hpair, h => by
    obtain ⟨hfirst, hpair⟩ := List.pairwise_cons.1 hpair
    obtain ⟨hshare, howns⟩ := List.forall_mem_cons.1 howns
    obtain ⟨next, hnext, h⟩ := Mutation.applyAll_cons_eq_ok_iff.1 h
    obtain ⟨hframe, hgrows, hrest⟩ := run_owned howns hpair h
    -- the fields of the first change are none of the later ones
    have hdisjoint : ∀ field ∈ share.2, field ∉ rest.flatMap Prod.snd := by
      intro field hfield hmem
      obtain ⟨share', hshare', hfield'⟩ := List.mem_flatMap.1 hmem
      exact hfirst share' hshare' hfield hfield'
    refine ⟨?_, (hshare.grows hnext).trans hgrows, List.forall_mem_cons.2 ⟨?_, ?_⟩⟩
    · rw [List.flatMap_cons, clearAll_append, hframe, clearAll_append, clearAll_comm,
        hshare.frame hnext, clearAll_comm]
    · -- what comes later leaves the fields of the first change alone
      exact ⟨next, hnext, fun field hfield =>
        (read_eq_of_clearAll_eq hframe (hdisjoint field hfield)).symm⟩
    · -- the first change leaves the fields alone that a later one depends on
      intro share' hshare'
      obtain ⟨u, hu, hread⟩ := hrest share' hshare'
      have hsame : ∀ field ∈ share'.2, v.read field next = v.read field t := fun field hfield =>
        read_eq_of_clearAll_eq (hshare.frame hnext) fun hmem =>
          hfirst share' hshare' hmem hfield
      obtain ⟨u', hu', hread'⟩ := (howns share' hshare').depends hu hsame
      exact ⟨u', hu', fun field hfield => (hread' field hfield).symm.trans (hread field hfield)⟩

end FieldView

end Feature

end TopologyHooks
