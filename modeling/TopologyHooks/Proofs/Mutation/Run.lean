import TopologyHooks.Handler
import TopologyHooks.Proofs.Patch.Difference
import TopologyHooks.Proofs.Patch.Ledger
import TopologyHooks.Proofs.Pointwise

/-!
# What a handler does to one object

* `Mutator.changeFor` — the change that a mutator makes of an object, if it makes any.
* `Mutation.Run` — one object on its way through some mutators: each leaves it alone, or its change
  is computed on the object as it is and replayed there.
* `Handler.exists_run_of_patches` — when a handler answers with patches, every object of the request
  went through all mutators, and the answer carries the steps.
-/

set_option autoImplicit false

namespace TopologyHooks

open Patch

/-- The change that a mutator makes of an object: none without a value, or if the selector does not
apply. -/
def Mutator.changeFor (m : Mutator) (vars : Variables) (holder : HolderReference) (object : Json) :
    Except Error (Option (Mutation.Change m.kind)) :=
  match m.reads.get m.input vars with
  | .error e => .error e
  | .ok found =>
    match found.or m.fallback with
    | none => .ok none
    | some value =>
      if m.selector.selects object holder vars then .ok (some (m.change ⟨vars, holder⟩ value))
      else .ok none

/-- An object on its way through some mutators: what it is at first, the steps, and what it is at
last. -/
inductive Mutation.Run (registry : ObjectRegistry) (vars : Variables) (holder : HolderReference) :
    List Mutator → Json → Patch → Json → Prop
  | done (object : Json) : Run registry vars holder [] object [] object
  | idle {m : Mutator} {rest : List Mutator} {object last : Json} {patch : Patch} :
    m.changeFor vars holder object = .ok none →
    Run registry vars holder rest object patch last →
    Run registry vars holder (m :: rest) object patch last
  | change {m : Mutator} {rest : List Mutator} {object next last : Json} {patch : Patch}
      {f : Mutation.Change m.kind} {before after : m.kind.Object} :
    m.changeFor vars holder object = .ok (some f) →
    registry.decodeAs m.kind object = .ok before → f before = .ok after →
    run? (diff (m.kind.shape.toJson before) (m.kind.shape.toJson after)) object = some next →
    Run registry vars holder rest next patch last →
    Run registry vars holder (m :: rest) object
      (diff (m.kind.shape.toJson before) (m.kind.shape.toJson after) ++ patch) last

/-! ## Ledgers that go on -/

/-- Whether a ledger goes on from another one by some steps of one object. -/
structure Ledger.Extends (l l' : Ledger) (uid : String) (received : Json) (patch : Patch)
    (last : Json) : Prop where
  current : l'.current uid received = last
  operations : l'.operations uid = l.operations uid ++ patch
  others : ∀ other, other ≠ uid → l'.lookup? other = l.lookup? other
  distinct : l.Distinct → l'.Distinct

namespace Ledger

variable {l l' l'' : Ledger} {uid : String} {received next last : Json} {patch more : Patch}

/-- A ledger goes on from itself by no steps. -/
theorem Extends.refl (l : Ledger) (uid : String) (received : Json) :
    l.Extends l uid received [] (l.current uid received) :=
  ⟨rfl, (List.append_nil _).symm, fun _ _ => rfl, id⟩

/-- Steps that go on from steps go on from where these began. -/
theorem Extends.trans (h : l.Extends l' uid received patch next)
    (h' : l'.Extends l'' uid received more last) :
    l.Extends l'' uid received (patch ++ more) last where
  current := h'.current
  operations := by rw [h'.operations, h.operations, List.append_assoc]
  others := fun other hne => (h'.others other hne).trans (h.others other hne)
  distinct := fun hl => h'.distinct (h.distinct hl)

/-- The merge of a patch that can be run goes on by the steps of it. -/
theorem extends_merge (h : run? patch (l.current uid received) = some last) :
    l.Extends (l.merge uid received patch).1 uid received patch last := by
  obtain ⟨-, hentry⟩ := lookup?_merge h
  refine ⟨?_, ?_, fun other hne => lookup?_merge_of_ne l hne, fun hl => hl.merge uid received patch⟩
  · rw [Ledger.current, hentry]
  · rw [Ledger.operations, hentry]

end Ledger

/-! ## One mutator -/

section

variable {registry : ObjectRegistry} {item : GeneratePatches.RequestItem} {vars : Variables}
  {l l' : Ledger}

/-- The patch of a change is the difference between the template that was read and the one that the
change makes of it. -/
theorem Mutation.exists_of_patchOf {k : TemplateKind} {object : Json} {change : Mutation.Change k}
    {patch : Patch} (h : Mutation.patchOf registry k object change = .ok patch) :
    ∃ before after, registry.decodeAs k object = .ok before ∧ change before = .ok after ∧
      patch = diff (k.shape.toJson before) (k.shape.toJson after) := by
  unfold patchOf at h
  split at h
  · cases h
  · rename_i before hb
    split at h
    · cases h
    · rename_i after ha
      exact ⟨before, after, hb, ha, (Except.ok.inj h).symm⟩

/-- A change leaves a ledger as it was, or merges the patch that it amounts to. -/
theorem Ledger.mutate_eq_or (l : Ledger) {k : TemplateKind} (selector : PatchSelector)
    (change : Mutation.Change k) :
    (l.mutate registry k item vars selector change).1 = l ∨
      ∃ patch, (l.mutate registry k item vars selector change).1 =
        (l.merge item.uid item.object patch).1 := by
  simp only [mutate]
  cases Mutation.patch? registry k (l.current item.uid item.object) vars item.holderReference
      selector change with
  | error e => exact .inl rfl
  | ok found =>
    cases found with
    | none => exact .inl rfl
    | some patch =>
      refine .inr ⟨patch, ?_⟩
      simp only []
      generalize l.merge item.uid item.object patch = merged
      obtain ⟨l', failure⟩ := merged
      cases failure <;> rfl

/-- A change of a selected object is computed on the object as it is, and replayed there. -/
theorem Ledger.exists_of_mutate {k : TemplateKind} {selector : PatchSelector}
    {change : Mutation.Change k} (h : l.mutate registry k item vars selector change = (l', none))
    (hs : selector.selects (l.current item.uid item.object) item.holderReference vars = true) :
    ∃ before after next, registry.decodeAs k (l.current item.uid item.object) = .ok before ∧
      change before = .ok after ∧
      run? (diff (k.shape.toJson before) (k.shape.toJson after))
        (l.current item.uid item.object) = some next ∧
      l.Extends l' item.uid item.object (diff (k.shape.toJson before) (k.shape.toJson after))
        next := by
  rw [mutate, Mutation.patch?, if_pos hs] at h
  cases hp : Mutation.patchOf registry k (l.current item.uid item.object) change with
  | error e => simp [hp] at h
  | ok patch =>
    obtain ⟨before, after, hb, ha, hd⟩ := Mutation.exists_of_patchOf hp
    suffices hnext : ∃ next, run? patch (l.current item.uid item.object) = some next ∧
        l.Extends l' item.uid item.object patch next by
      obtain ⟨next, hrun, hext⟩ := hnext
      exact ⟨before, after, next, hb, ha, hd ▸ hrun, hd ▸ hext⟩
    -- a patch without steps is not merged, so that no entry comes in
    cases patch with
    | nil =>
      simp only [hp, Prod.mk.injEq, and_true] at h
      subst h
      exact ⟨_, rfl, Extends.refl l item.uid item.object⟩
    | cons o rest =>
      simp only [hp] at h
      cases hm : l.merge item.uid item.object (o :: rest) with
      | mk l₁ failure =>
        cases failure with
        | some f => simp [hm] at h
        | none =>
          simp only [hm, Prod.mk.injEq, and_true] at h
          subst h
          obtain ⟨next, hnext⟩ := run?_eq_some_of_merge (congrArg Prod.snd hm)
          have hext := extends_merge hnext
          rw [hm] at hext
          exact ⟨next, hnext, hext⟩

namespace Mutator

variable {m : Mutator} {holder : HolderReference} {object : Json}

/-- The variable of a mutator can be read if it is known whether there is a change. -/
theorem exists_read_of_changeFor {o : Option (Mutation.Change m.kind)}
    (h : m.changeFor vars holder object = .ok o) :
    ∃ found, m.reads.get m.input vars = .ok found := by
  unfold changeFor at h
  cases hg : m.reads.get m.input vars with
  | error e => simp [hg] at h
  | ok found => exact ⟨found, rfl⟩

/-- What a mutator does to an object: nothing, or the replay of its change. -/
theorem cases_of_generate (h : m.generate registry item vars l = (l', none)) :
    (m.changeFor vars item.holderReference (l.current item.uid item.object) = .ok none ∧
      l' = l) ∨
    ∃ f before after next,
      m.changeFor vars item.holderReference (l.current item.uid item.object) = .ok (some f) ∧
      registry.decodeAs m.kind (l.current item.uid item.object) = .ok before ∧
      f before = .ok after ∧
      run? (diff (m.kind.shape.toJson before) (m.kind.shape.toJson after))
        (l.current item.uid item.object) = some next ∧
      l.Extends l' item.uid item.object
        (diff (m.kind.shape.toJson before) (m.kind.shape.toJson after)) next := by
  unfold generate at h
  unfold changeFor
  cases hg : m.reads.get m.input vars with
  | error e => simp [hg] at h
  | ok found =>
    simp only [hg] at h ⊢
    cases hv : found.or m.fallback with
    | none =>
      simp only [hv, Prod.mk.injEq, and_true] at h
      exact .inl ⟨rfl, h.symm⟩
    | some value =>
      simp only [hv] at h ⊢
      -- with a value the ledger decides, by the selector
      by_cases hs : m.selector.selects (l.current item.uid item.object) item.holderReference vars
          = true
      · obtain ⟨before, after, next, hb, ha, hrun, hext⟩ := Ledger.exists_of_mutate h hs
        exact .inr ⟨_, before, after, next, if_pos hs, hb, ha, hrun, hext⟩
      · rw [Ledger.mutate, Mutation.patch?, if_neg hs] at h
        simp only [Prod.mk.injEq, and_true] at h
        exact .inl ⟨if_neg hs, h.symm⟩

end Mutator

end

/-! ## Handlers -/

namespace Handler

variable {registry : ObjectRegistry} {item : GeneratePatches.RequestItem} {vars : Variables}

/-- When mutators run on an object without an error, the object went through all of them. -/
theorem exists_run_of_runMutators : ∀ {ms : List Mutator} {l l' : Ledger},
    runMutators registry item vars ms l = .ok l' →
    ∃ patch last, Mutation.Run registry vars item.holderReference ms
        (l.current item.uid item.object) patch last ∧
      l.Extends l' item.uid item.object patch last
  | [], l, l', h => by
    rw [runMutators, Except.ok.injEq] at h
    subst h
    exact ⟨[], _, .done _, Ledger.Extends.refl l item.uid item.object⟩
  | m :: rest, l, l', h => by
    rw [runMutators] at h
    cases hm : m.generate registry item vars l with
    | mk l₁ failure =>
      cases failure with
      | some e => simp [hm] at h
      | none =>
        rw [hm] at h
        obtain ⟨patch, last, hrun, hext⟩ := exists_run_of_runMutators h
        rcases Mutator.cases_of_generate hm with ⟨hidle, rfl⟩ | ⟨f, before, after, next, hf, hb, ha,
          hnext, hext₁⟩
        · exact ⟨patch, last, .idle hidle hrun, hext⟩
        · rw [hext₁.current] at hrun
          exact ⟨_, last, .change hf hb ha hnext hrun, hext₁.trans hext⟩

/-- When a handler gets through the objects of a request, each of them went through all mutators, and
the ledger holds its steps and nothing else that is new. -/
theorem exists_run_of_runItems {h : Handler} {global : Variables} :
    ∀ {items : List GeneratePatches.RequestItem} {token : CancellationToken} {l l' : Ledger},
      runItems h token global items l = .ok l' → (items.map (·.uid)).Nodup →
      (∀ item ∈ items, l.lookup? item.uid = none) →
      (l.Distinct → l'.Distinct) ∧
      (∀ uid, uid ∉ items.map (·.uid) → l'.lookup? uid = l.lookup? uid) ∧
      ∀ item ∈ items, ∃ patch last, Mutation.Run h.registry (global.overlay item.bindings)
        item.holderReference h.mutators item.object patch last ∧ l'.operations item.uid = patch
  | [], _, l, l', hrun, _, _ => by
    rw [runItems, Except.ok.injEq] at hrun
    subst hrun
    simp
  | item :: rest, _, l, l', hrun, hnd, hfresh => by
    obtain ⟨hnot, hnd⟩ := List.nodup_cons.1 hnd
    rw [runItems] at hrun
    split at hrun
    · cases hrun
    split at hrun
    · cases hrun
    rename_i l₁ hm
    obtain ⟨patch, last, hitem, hext⟩ := exists_run_of_runMutators hm
    have hne {other : GeneratePatches.RequestItem} (ho : other ∈ rest) : other.uid ≠ item.uid :=
      fun e => hnot (List.mem_map.2 ⟨other, ho, e⟩)
    -- the ids are distinct, so the other objects are still fresh after the first one
    obtain ⟨hd, hothers, hrest⟩ := exists_run_of_runItems hrun hnd fun other ho =>
      (hext.others other.uid (hne ho)).trans (hfresh other (List.mem_cons_of_mem _ ho))
    refine ⟨fun hl => hd (hext.distinct hl), fun uid hu => ?_, fun other ho => ?_⟩
    · obtain ⟨hu, hurest⟩ := not_or.1 (List.mem_cons.not.1 hu)
      exact (hothers uid hurest).trans (hext.others uid hu)
    · rcases List.mem_cons.1 ho with rfl | ho
      -- the first object was fresh: it is as received, and its steps are those of this run alone
      · have hentry := hfresh other List.mem_cons_self
        have hcurrent : l.current other.uid other.object = other.object := by
          rw [Ledger.current, hentry]
        have hops : l'.operations other.uid = patch := by
          have h1 := hext.operations
          have h2 : l.operations other.uid = [] := by rw [Ledger.operations, hentry]
          rw [h2, List.nil_append] at h1
          rw [← h1, Ledger.operations, Ledger.operations, hothers other.uid hnot]
        exact ⟨patch, last, hcurrent ▸ hitem, hops⟩
      · exact hrest other ho

/-- When a handler answers with patches, every object of the request went through all mutators,
and the answer carries the steps. -/
theorem exists_run_of_patches {h : Handler} {request : GeneratePatches.Request}
    {token : CancellationToken} {items : List GeneratePatches.ResponseItem}
    (hp : h.patches request token = .ok items)
    (hnd : (request.items.map (·.uid)).Nodup) {item : GeneratePatches.RequestItem}
    (hitem : item ∈ request.items) :
    ∃ patch last, Mutation.Run h.registry
        ((Variables.ofList request.bindings).overlay item.bindings) item.holderReference h.mutators
        item.object patch last ∧ GeneratePatches.Carries items item.uid patch := by
  obtain ⟨l, hr, rfl⟩ := map_eq_ok_iff.1 hp
  obtain ⟨hd, -, hrun⟩ := exists_run_of_runItems hr hnd fun _ _ => rfl
  obtain ⟨patch, last, hrun, rfl⟩ := hrun item hitem
  exact ⟨_, last, hrun, Ledger.carries_responseItems (hd Ledger.distinct_empty) item.uid⟩

end Handler

end TopologyHooks
