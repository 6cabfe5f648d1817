import TopologyHooks.Proofs.Handler.Failure

/-!
# What handlers are built from

* `Draft.Valid` — what a draft has to be like: no name is defined twice, and every mutator reads
  what a definition declares, selects objects of the kind that it changes, and changes a known kind.
* `Error.AboutKind` — errors that say that the kind of an object is unknown, or not the expected
  one.
* `Draft.exists_build_iff` — a handler is built from a draft exactly if the draft is valid, and no
  request that it answers fails for the kind of an object, unless a change says so itself.
-/

set_option autoImplicit false

namespace TopologyHooks

open Patch

/-! ## Checks -/

/-- A registry knows exactly its kinds. -/
theorem ObjectRegistry.contains_iff {registry : ObjectRegistry} {k : TemplateKind} :
    registry.contains k = true ↔ k ∈ registry.kinds := by
  rw [contains, beq_iff_eq]
  constructor
  · exact List.mem_of_find?_eq_some
  · intro hk
    have hsome : (registry.lookup k.apiVersion k.name).isSome = true :=
      List.find?_isSome.2 ⟨k, hk, by simp⟩
    obtain ⟨k', hk'⟩ := Option.isSome_iff_exists.1 hsome
    obtain ⟨-, hname, -⟩ := lookup_eq_some hk'
    rw [hk', TemplateKind.name_injective hname]

namespace Draft

/-- Whether a handler can be built from a draft. -/
structure Valid (d : Draft) (registry : ObjectRegistry) : Prop where
  distinct : (d.definitions.map VariableDefinition.name).Nodup
  declared : ∀ m ∈ d.mutators, ∃ definition ∈ d.definitions, definition.name = m.reads.name ∧
    (definition.schema.propertyAt? m.reads.path).isSome = true
  selected : ∀ m ∈ d.mutators,
    m.selector.apiVersion = m.kind.apiVersion ∧ m.selector.kind = m.kind.name
  known : ∀ m ∈ d.mutators, m.kind ∈ registry.kinds

variable {registry : ObjectRegistry}

/-- No name is found to be repeated exactly if the names are distinct, and distinct from those seen
before. -/
theorem repeated?_eq_none_iff : ∀ {definitions : List VariableDefinition} {seen : List String},
    repeated? seen definitions = none ↔
      (∀ d ∈ definitions, d.name ∉ seen) ∧ (definitions.map VariableDefinition.name).Nodup
  | [], seen => by simp [repeated?]
  | d :: rest, seen => by
    by_cases hd : d.name ∈ seen
    · simp [repeated?, hd]
    · have hsplit : (∀ d' ∈ rest, d'.name ∉ d.name :: seen) ↔
          (∀ d' ∈ rest, d'.name ∉ seen) ∧ d.name ∉ rest.map VariableDefinition.name := by
        simp only [List.mem_cons, not_or, List.mem_map, not_exists, not_and, ← forall_and]
        exact forall₂_congr fun _ _ => and_comm
      rw [repeated?, if_neg hd, repeated?_eq_none_iff, hsplit]
      simp [hd, and_assoc]

/-- Among definitions of distinct names, the first one of a name is the only one. -/
theorem find?_eq_some_iff_of_nodup {definitions : List VariableDefinition}
    (hnd : (definitions.map VariableDefinition.name).Nodup) {name : String}
    {d : VariableDefinition} :
    definitions.find? (fun d => d.name == name) = some d ↔ d ∈ definitions ∧ d.name = name := by
  constructor
  · intro h
    exact ⟨List.mem_of_find?_eq_some h, by simpa using List.find?_some h⟩
  · rintro ⟨hd, rfl⟩
    have hsome : (definitions.find? fun d' => d'.name == d.name).isSome = true :=
      List.find?_isSome.2 ⟨d, hd, by simp⟩
    obtain ⟨d', hd'⟩ := Option.isSome_iff_exists.1 hsome
    have hname : d'.name = d.name := by simpa using List.find?_some hd'
    rw [hd', List.inj_on_of_nodup_map hnd (List.mem_of_find?_eq_some hd') hd hname]

/-- There is no fault in a mutator exactly if its variable is declared down to its path, its
selector is for its kind, and the registry knows this kind. -/
theorem mutatorFault?_eq_none_iff {definitions : List VariableDefinition}
    (hnd : (definitions.map VariableDefinition.name).Nodup) {m : Mutator} :
    mutatorFault? definitions registry m = none ↔
      (∃ d ∈ definitions, d.name = m.reads.name ∧
        (d.schema.propertyAt? m.reads.path).isSome = true) ∧
      (m.selector.apiVersion = m.kind.apiVersion ∧ m.selector.kind = m.kind.name) ∧
      m.kind ∈ registry.kinds := by
  have hfind := fun d => @find?_eq_some_iff_of_nodup definitions hnd m.reads.name d
  unfold mutatorFault?
  cases hd : definitions.find? fun d => d.name == m.reads.name with
  | none =>
    simp only [reduceCtorEq, false_iff, not_and]
    rintro ⟨d, hmem, hname, -⟩
    rw [(hfind d).2 ⟨hmem, hname⟩] at hd
    cases hd
  | some d =>
    obtain ⟨hmem, hname⟩ := (hfind d).1 hd
    have hdeclared : (∃ d ∈ definitions, d.name = m.reads.name ∧
        (d.schema.propertyAt? m.reads.path).isSome = true) ↔
        (d.schema.propertyAt? m.reads.path).isSome = true := by
      constructor
      · rintro ⟨d', hmem', hname', hpath⟩
        rw [(hfind d').2 ⟨hmem', hname'⟩] at hd
        exact Option.some.inj hd ▸ hpath
      · exact fun hpath => ⟨d, hmem, hname, hpath⟩
    rw [hdeclared, ← ObjectRegistry.contains_iff]
    cases hpath : d.schema.propertyAt? m.reads.path with
    | none => simp [hpath]
    | some schema =>
      by_cases hs : m.selector.apiVersion = m.kind.apiVersion ∧ m.selector.kind = m.kind.name
      · simp [hpath, hs]
      · have hs' : m.selector.apiVersion ≠ m.kind.apiVersion ∨ m.selector.kind ≠ m.kind.name :=
          not_and_or.1 hs
        simp [hpath, hs, hs']

/-- No fault is found in a draft exactly if it is valid. -/
theorem fault?_eq_none_iff {d : Draft} : d.fault? registry = none ↔ d.Valid registry := by
  unfold fault?
  cases hname : repeated? [] d.definitions with
  | some name =>
    have hnot : ¬ (d.definitions.map VariableDefinition.name).Nodup := by
      intro hnd
      rw [repeated?_eq_none_iff.2 ⟨fun _ _ => List.not_mem_nil, hnd⟩] at hname
      cases hname
    simp only [reduceCtorEq, false_iff]
    exact fun h => hnot h.distinct
  | none =>
    have hnd := (repeated?_eq_none_iff.1 hname).2
    simp only [List.findSome?_eq_none_iff, mutatorFault?_eq_none_iff hnd]
    constructor
    · intro h
      exact ⟨hnd, fun m hm => (h m hm).1, fun m hm => (h m hm).2.1, fun m hm => (h m hm).2.2⟩
    · intro h m hm
      exact ⟨h.declared m hm, h.selected m hm, h.known m hm⟩

/-- A draft is built into the handler that has its parts and the registry, and into no other. -/
theorem build_eq_ok_iff {d : Draft} {h : Handler} :
    d.build registry = .ok h ↔ h.toDraft = d ∧ h.registry = registry := by
  obtain ⟨d', registry', hsound⟩ := h
  unfold build
  split
  · simp [eq_comm]
  · rename_i e he
    simp only [reduceCtorEq, false_iff, not_and]
    rintro rfl rfl
    simp [hsound] at he

/-- A draft can be built exactly if no fault is found in it. -/
theorem exists_build_iff_fault? {d : Draft} :
    (∃ h, d.build registry = .ok h) ↔ d.fault? registry = none := by
  simp only [build_eq_ok_iff]
  constructor
  · rintro ⟨h, rfl, rfl⟩
    exact h.sound
  · exact fun hsound => ⟨⟨d, registry, hsound⟩, rfl, rfl⟩

end Draft

/-! ## Errors about kinds -/

/-- Whether an error says that the kind of an object is unknown, or not the expected one. -/
inductive Error.AboutKind : Error → Prop
  | unknown (apiVersion kind : String) : AboutKind (.unregisteredKind apiVersion kind)
  | other (kind : String) {reason : Reason} {actual expected : TemplateKind} :
    reason.message = (Reason.otherKind actual expected).message → AboutKind (.decode kind reason)

/-- Whether a text starts with a character. -/
def Text.Starts (c : Char) (s : String) : Prop := s.toList.head? = some c

namespace Text

/-- A text starts with its first character. -/
theorem starts_ofList {c : Char} {cs : List Char} : Starts c (String.ofList (c :: cs)) := by
  rw [Starts, String.toList_ofList, List.head?_cons]

/-- A text starts in the same way whatever follows it. -/
theorem Starts.append {c : Char} {s t : String} (h : Starts c s) : Starts c (s ++ t) := by
  rw [Starts, String.toList_append, List.head?_append, show s.toList.head? = some c from h]
  rfl

end Text

/-- No message of a fault starts as the one that names two kinds. -/
theorem Fault.exists_starts_message (f : Fault) : ∃ c, Text.Starts c f.message ∧ c ≠ 'o' := by
  have hfirst {c : Char} {s : String} (hs : Text.Starts c s) (hc : c ≠ 'o') :
      ∃ c, Text.Starts c s ∧ c ≠ 'o' := ⟨c, hs, hc⟩
  cases f with
  | notJson e => cases e <;> exact hfirst Text.starts_ofList (by decide)
  | invalidType => exact hfirst Text.starts_ofList.append.append.append (by decide)
  | invalidValue => exact hfirst Text.starts_ofList.append.append.append (by decide)
  | invalidLength => exact hfirst Text.starts_ofList.append.append.append (by decide)
  | unknownVariant => exact hfirst Text.starts_ofList.append.append.append (by decide)
  | missingField => exact hfirst Text.starts_ofList.append.append (by decide)
  | duplicateField => exact hfirst Text.starts_ofList.append.append (by decide)
  | notBase64 e =>
    cases e with
    | symbol => exact hfirst Text.starts_ofList.append.append.append.append (by decide)
    | length => exact hfirst Text.starts_ofList.append (by decide)
    | lastSymbol => exact hfirst Text.starts_ofList.append.append.append.append (by decide)
    | padding => exact hfirst Text.starts_ofList (by decide)
  | notTimestamp e => cases e <;> exact hfirst Text.starts_ofList (by decide)
  | notPointer e =>
    cases e with
    | noLeadingSlash => exact hfirst Text.starts_ofList (by decide)
    | badEscape => exact hfirst Text.starts_ofList.append.append (by decide)

/-- No fault of a draft has the message about an object of another kind. -/
theorem Fault.message_ne_otherKind (f : Fault) (actual expected : TemplateKind) :
    f.message ≠ (Reason.otherKind actual expected).message := by
  intro h
  obtain ⟨c, hc, hne⟩ := f.exists_starts_message
  have ho : Text.Starts 'o' (Reason.otherKind actual expected).message :=
    Text.starts_ofList.append.append.append
  rw [← h] at ho
  exact hne (Option.some.inj (hc.symm.trans ho))

/-- An object of a known kind is read as that kind. -/
theorem ObjectRegistry.decodeAs_eq_decode {registry : ObjectRegistry} {k : TemplateKind}
    {object : Json} (hk : registry.contains k = true) (hnames : object.Names k) :
    registry.decodeAs k object = k.decode object := by
  obtain ⟨hversion, hname⟩ := names_iff.1 hnames
  have hlookup : registry.lookup (textAt "apiVersion" object) (textAt "kind" object) = some k := by
    rw [hversion, hname]
    simpa [contains] using hk
  rw [decodeAs, decode]
  simp only [hlookup]
  cases k.decode object with
  | error e => rfl
  | ok t => simp

/-- An object that a mutator selects fails to be read for what stands in it, not for its kind. -/
theorem Mutator.Aimed.not_aboutKind {m : Mutator} {registry : ObjectRegistry}
    (hm : m.Aimed registry) {vars : Variables} {holder : HolderReference} {object : Json}
    {value : m.Input} (hvalue : m.valueFor? vars holder object = some value) {e : Error}
    (he : registry.decodeAs m.kind object = .error e) : ¬ e.AboutKind := by
  have hnames : object.Names m.kind := hm.names ⟨_, changeFor_eq_iff.2 ⟨value, hvalue, rfl⟩⟩
  rw [ObjectRegistry.decodeAs_eq_decode hm.2.2 hnames, TemplateKind.decode] at he
  obtain ⟨f, -, rfl⟩ := mapError_eq_error_iff.1 he
  rintro ⟨⟩
  rename_i actual expected hmessage
  exact f.message_ne_otherKind actual expected hmessage

/-- A variable that cannot be read is no error about the kind of an object. -/
theorem Variables.not_aboutKind_of_get {α : Type} {vars : Variables} {shape : Shape α}
    {name : String} {path : List String} {e : Error} (h : vars.get shape name path = .error e) :
    ¬ e.AboutKind := by
  unfold get valueAt at h
  split at h
  · rename_i e' he'
    cases h
    split at he'
    · cases he'
    · split at he'
      · cases he'
      · cases he'
        nofun
  · cases h
  · split at h
    · cases h
    · cases h
      nofun

/-- A mutator that selects objects of the kind that it changes breaks for the kind of an object only
if its change says so. -/
theorem Mutator.Breaks.exists_change {m : Mutator} {registry : ObjectRegistry}
    {item : GeneratePatches.RequestItem} {vars : Variables} {object : Json} {e : Error}
    (h : m.Breaks registry item vars object e) (hm : m.Aimed registry) (he : e.AboutKind) :
    ∃ value before, m.valueFor? vars item.holderReference object = some value ∧
      registry.decodeAs m.kind object = .ok before ∧
      m.change ⟨vars, item.holderReference⟩ value before = .error e := by
  cases h with
  | decode hvalue hb => exact absurd he (hm.not_aboutKind hvalue hb)
  | change hvalue hb ha => exact ⟨_, _, hvalue, hb, ha⟩
  | patch => cases he

/-! ## Handlers -/

/-- A handler is built from a draft exactly if the draft is valid. Then a request fails for the kind
of an object only if the change that a mutator makes of an object which it meets says so. -/
theorem Draft.exists_build_iff (d : Draft) (registry : ObjectRegistry) :
    ((∃ h, d.build registry = .ok h) ↔ d.Valid registry) ∧
    ∀ h, d.build registry = .ok h → h.toDraft = d ∧ h.registry = registry ∧
      ∀ request token e, h.patches request token = .error e → e.AboutKind →
        ∃ item m object value before, h.Meets request token item m object ∧
          m.valueFor? (Handler.variablesFor request item) item.holderReference object =
            some value ∧
          registry.decodeAs m.kind object = .ok before ∧
          m.change ⟨Handler.variablesFor request item, item.holderReference⟩ value before =
            .error e := by
  refine ⟨exists_build_iff_fault?.trans fault?_eq_none_iff, fun h hbuild => ?_⟩
  obtain ⟨hdraft, rfl⟩ := build_eq_ok_iff.1 hbuild
  refine ⟨hdraft, rfl, fun request token e hp he => ?_⟩
  obtain ⟨item, -, rfl⟩ | ⟨item, m, object, hmeets, hread | hbreaks⟩ :=
    Handler.exists_of_patches_eq_error hp
  · cases he
  · exact absurd he (Variables.not_aboutKind_of_get hread)
  · obtain ⟨value, before, hchange⟩ :=
      hbreaks.exists_change (h.aimed_of_mem hmeets.mutator_mem) he
    exact ⟨item, m, object, value, before, hmeets, hchange⟩

/-! ## A change that refuses -/

namespace Draft

namespace Refusal

/-- A mutator whose change says that the kind of a cluster is unknown. -/
def mutator : Mutator where
  name := "refuse"
  reads := ⟨"region", []⟩
  kind := .awsCluster
  selector := .infrastructureCluster .awsCluster
  Input := String
  input := .text
  fallback := none
  change := fun _ region _ => .error (.unregisteredKind "v1" region)

/-- A draft with that mutator. -/
def draft : Draft where
  name := "refusal"
  definitions := [⟨"region", false, .anything⟩]
  mutators := [mutator]

/-- The draft has distinct names, and a mutator of a declared variable and a known kind. -/
theorem valid_draft : draft.Valid .full where
  distinct := by decide
  declared := by
    intro m hm
    obtain rfl := List.mem_singleton.1 hm
    exact ⟨_, List.mem_singleton_self _, rfl, rfl⟩
  selected := by
    intro m hm
    obtain rfl := List.mem_singleton.1 hm
    exact ⟨rfl, rfl⟩
  known := by
    intro m hm
    obtain rfl := List.mem_singleton.1 hm
    decide

end Refusal

/-- A handler is built from that draft, and fails as the change says. -/
theorem exists_build_iff_refusal : ∃ h, Refusal.draft.build .full = .ok h ∧
    h.patches Handler.Region.request .never = .error (.unregisteredKind "v1" "eu-west-1") ∧
    ∃ item m object value before, h.Meets Handler.Region.request .never item m object ∧
      m.valueFor? (Handler.variablesFor Handler.Region.request item) item.holderReference object =
        some value ∧
      ObjectRegistry.full.decodeAs m.kind object = .ok before ∧
      m.change ⟨Handler.variablesFor Handler.Region.request item, item.holderReference⟩ value
        before = .error (.unregisteredKind "v1" "eu-west-1") := by
  obtain ⟨hbuilt, hkinds⟩ := exists_build_iff Refusal.draft .full
  obtain ⟨h, hbuild⟩ := hbuilt.2 Refusal.valid_draft
  obtain ⟨hdraft, hregistry, hkinds⟩ := hkinds h hbuild
  have hp : h.patches Handler.Region.request .never =
      .error (.unregisteredKind "v1" "eu-west-1") := by
    obtain ⟨draft, registry, hsound⟩ := h
    subst hdraft hregistry
    rfl
  exact ⟨h, hbuild, hp, hkinds _ _ _ hp (.unknown _ _)⟩

end Draft

end TopologyHooks
