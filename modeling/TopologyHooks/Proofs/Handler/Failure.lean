import TopologyHooks.Proofs.Handler.Idempotence
import TopologyHooks.Proofs.Mutation.Reachability

/-!
# Where a request fails

* `Mutator.valueFor?` — the value with which a mutator changes an object, if it does.
* `Mutator.Breaks` — what can go wrong once a mutator has that value: the object cannot be read, the
  change fails, or its patch cannot be applied.
* `Mutator.generate_eq_some_iff` — a mutator fails exactly if its variable cannot be read, or if it
  breaks on the object as it is.
* `Handler.exists_of_patches_eq_error` — a request fails because its token is cancelled before some
  object (`Handler.StopsBefore`), or for the first mutator that fails on the first object on which
  one does; `Handler.Meets` says how it finds that object.
-/

set_option autoImplicit false

namespace TopologyHooks

open Patch

/-! ## Merging -/

namespace Ledger

/-- Merging into entries fails exactly if the patch fails on the object as the entries leave it. -/
theorem mergeInto_eq_some_iff {uid : String} {received : Json} {patch : Patch}
    {f : Patch.Failure} : ∀ {entries : List Entry},
    (mergeInto uid received patch entries).2 = some f ↔
      patch.apply (current ⟨entries⟩ uid received) = .error f
  | [] => by
    cases happ : patch.apply received <;> simp [mergeInto, current, lookup?, happ]
  | e :: rest => by
    by_cases he : e.uid = uid
    · cases happ : patch.apply e.working <;> simp [mergeInto, current, lookup?, he, happ]
    · have hne : (e.uid == uid) = false := by simpa using he
      have hcurrent : current ⟨e :: rest⟩ uid received = current ⟨rest⟩ uid received := by
        simp [current, lookup?, hne]
      rw [mergeInto, if_neg he, hcurrent]
      exact mergeInto_eq_some_iff

/-- A patch fails as it does on the object as it is. -/
theorem merge_eq_some_iff {l : Ledger} {uid : String} {received : Json} {patch : Patch}
    {f : Patch.Failure} :
    (l.merge uid received patch).2 = some f ↔ patch.apply (l.current uid received) = .error f :=
  mergeInto_eq_some_iff

end Ledger

/-! ## One change -/

section

variable {registry : ObjectRegistry} {item : GeneratePatches.RequestItem} {vars : Variables}
  {holder : HolderReference} {object : Json} {l : Ledger} {e : Error}

/-- A change of a selected object that can be read and changed fails as its patch does. -/
theorem Ledger.mutate_eq_some_iff_of_ok {k : TemplateKind} {selector : PatchSelector}
    {change : Mutation.Change k} {before after : k.Object}
    (hs : selector.selects (l.current item.uid item.object) item.holderReference vars = true)
    (hb : registry.decodeAs k (l.current item.uid item.object) = .ok before)
    (ha : change before = .ok after) :
    (l.mutate registry k item vars selector change).2 = some e ↔
      ∃ f, (diff (k.shape.toJson before) (k.shape.toJson after)).apply
          (l.current item.uid item.object) = .error f ∧
        e = .patch (.failedPatch item.uid f) := by
  by_cases hd : diff (k.shape.toJson before) (k.shape.toJson after) = []
  · have hself : l.mutate registry k item vars selector change = (l, none) :=
      mutate_eq_self hb ha hd
    have happ : (diff (k.shape.toJson before) (k.shape.toJson after)).apply
        (l.current item.uid item.object) = .ok (l.current item.uid item.object) :=
      apply_eq_ok_iff.2 (by rw [hd, run?_nil])
    simp [hself, happ]
  · rw [mutate_eq_merge hs hb ha hd, Option.map_eq_some_iff]
    exact exists_congr fun f => and_congr merge_eq_some_iff eq_comm

/-- A change of an object fails if the object is selected and cannot be read, if the change itself
fails, or if its patch cannot be applied. -/
theorem Ledger.mutate_eq_some_iff {k : TemplateKind} {selector : PatchSelector}
    {change : Mutation.Change k} :
    (l.mutate registry k item vars selector change).2 = some e ↔
      selector.selects (l.current item.uid item.object) item.holderReference vars = true ∧
      (registry.decodeAs k (l.current item.uid item.object) = .error e ∨
        ∃ before, registry.decodeAs k (l.current item.uid item.object) = .ok before ∧
          (change before = .error e ∨
            ∃ after f, change before = .ok after ∧
              (diff (k.shape.toJson before) (k.shape.toJson after)).apply
                (l.current item.uid item.object) = .error f ∧
              e = .patch (.failedPatch item.uid f))) := by
  by_cases hs : selector.selects (l.current item.uid item.object) item.holderReference vars = true
  · cases hb : registry.decodeAs k (l.current item.uid item.object) with
    | error e' => simp [mutate, Mutation.patch?, Mutation.patchOf, hs, hb, eq_comm]
    | ok before =>
      cases ha : change before with
      | error e' => simp [mutate, Mutation.patch?, Mutation.patchOf, hs, hb, ha, eq_comm]
      | ok after =>
        rw [mutate_eq_some_iff_of_ok hs hb ha]
        simp [hs, ha]
  · simp [mutate, Mutation.patch?, hs]

end

/-! ## One mutator -/

namespace Mutator

/-- The value with which a mutator changes an object: that of its variable, or else the fallback, if
the selector applies. -/
def valueFor? (m : Mutator) (vars : Variables) (holder : HolderReference) (object : Json) :
    Option m.Input :=
  match m.reads.get m.input vars with
  | .error _ => none
  | .ok found => if m.selector.selects object holder vars then found.or m.fallback else none

/-- What goes wrong when a mutator changes an object: the object cannot be read, the change fails,
or the patch that the change amounts to cannot be applied. -/
inductive Breaks (m : Mutator) (registry : ObjectRegistry) (item : GeneratePatches.RequestItem)
    (vars : Variables) (object : Json) : Error → Prop
  | decode {value : m.Input} {e : Error} :
    m.valueFor? vars item.holderReference object = some value →
    registry.decodeAs m.kind object = .error e →
    Breaks m registry item vars object e
  | change {value : m.Input} {before : m.kind.Object} {e : Error} :
    m.valueFor? vars item.holderReference object = some value →
    registry.decodeAs m.kind object = .ok before →
    m.change ⟨vars, item.holderReference⟩ value before = .error e →
    Breaks m registry item vars object e
  | patch {value : m.Input} {before after : m.kind.Object} {f : Patch.Failure} :
    m.valueFor? vars item.holderReference object = some value →
    registry.decodeAs m.kind object = .ok before →
    m.change ⟨vars, item.holderReference⟩ value before = .ok after →
    (diff (m.kind.shape.toJson before) (m.kind.shape.toJson after)).apply object = .error f →
    Breaks m registry item vars object (.patch (.failedPatch item.uid f))

variable {m : Mutator} {registry : ObjectRegistry} {item : GeneratePatches.RequestItem}
  {vars : Variables} {holder : HolderReference} {object : Json} {l : Ledger} {e : Error}

/-- A mutator has a value for an object that it selects, if one is found or there is a fallback. -/
theorem valueFor?_eq_some_iff {value : m.Input} :
    m.valueFor? vars holder object = some value ↔
      ∃ found, m.reads.get m.input vars = .ok found ∧ found.or m.fallback = some value ∧
        m.selector.selects object holder vars = true := by
  unfold valueFor?
  cases m.reads.get m.input vars with
  | error e => simp
  | ok found =>
    simp only [Except.ok.injEq, exists_eq_left']
    split <;> simp_all

/-- A mutator makes the change for its value, where it has one. -/
theorem changeFor_eq_iff {f : Mutation.Change m.kind} :
    m.changeFor vars holder object = .ok (some f) ↔
      ∃ value, m.valueFor? vars holder object = some value ∧ f = m.change ⟨vars, holder⟩ value := by
  unfold changeFor valueFor?
  cases m.reads.get m.input vars with
  | error e => simp
  | ok found =>
    simp only []
    generalize found.or m.fallback = o
    by_cases hs : m.selector.selects object holder vars = true
    · cases o <;> simp [hs, eq_comm]
    · cases o <;> simp [hs]

/-- A mutator fails exactly if its variable cannot be read, or if it breaks on the object as it
is. -/
theorem generate_eq_some_iff :
    (m.generate registry item vars l).2 = some e ↔
      m.reads.get m.input vars = .error e ∨
        m.Breaks registry item vars (l.current item.uid item.object) e := by
  constructor
  · intro h
    unfold generate at h
    cases hread : m.reads.get m.input vars with
    | error e' =>
      simp only [hread] at h
      exact .inl (congrArg _ (Option.some.inj h))
    | ok found =>
      simp only [hread] at h
      cases hvalue : found.or m.fallback with
      | none => simp [hvalue] at h
      | some value =>
        simp only [hvalue] at h
        -- with a value at hand, all that can go wrong is in the change of the object
        obtain ⟨hs, hcases⟩ := Ledger.mutate_eq_some_iff.1 h
        have hfor := valueFor?_eq_some_iff.2 ⟨found, hread, hvalue, hs⟩
        obtain hb | ⟨before, hb, ha | ⟨after, f, ha, happ, rfl⟩⟩ := hcases
        · exact .inr (.decode hfor hb)
        · exact .inr (.change hfor hb ha)
        · exact .inr (.patch hfor hb ha happ)
  · rintro (hread | hbreaks)
    · rw [generate, hread]
    · have hmutate {value : m.Input}
          (h : m.valueFor? vars item.holderReference (l.current item.uid item.object) =
            some value) :
          m.generate registry item vars l =
            l.mutate registry m.kind item vars m.selector
              (m.change ⟨vars, item.holderReference⟩ value) ∧
          m.selector.selects (l.current item.uid item.object) item.holderReference vars =
            true := by
        obtain ⟨found, hread, hvalue, hs⟩ := valueFor?_eq_some_iff.1 h
        simp only [generate, hread, hvalue, hs, and_self]
      cases hbreaks with
      | decode hfor hb =>
        obtain ⟨heq, hs⟩ := hmutate hfor
        rw [heq]
        exact Ledger.mutate_eq_some_iff.2 ⟨hs, .inl hb⟩
      | change hfor hb ha =>
        obtain ⟨heq, hs⟩ := hmutate hfor
        rw [heq]
        exact Ledger.mutate_eq_some_iff.2 ⟨hs, .inr ⟨_, hb, .inl ha⟩⟩
      | patch hfor hb ha happ =>
        obtain ⟨heq, hs⟩ := hmutate hfor
        rw [heq]
        exact Ledger.mutate_eq_some_iff.2 ⟨hs, .inr ⟨_, hb, .inr ⟨_, _, ha, happ, rfl⟩⟩⟩

end Mutator

/-! ## Many mutators, many objects -/

namespace Handler

/-- Whether a handler gets as far as an item of a request: it did all items before it without an
error, and leaves a ledger. -/
def Comes (h : Handler) (request : GeneratePatches.Request) (token : CancellationToken)
    (before : List GeneratePatches.RequestItem) (item : GeneratePatches.RequestItem) (l : Ledger) :
    Prop :=
  (∃ after, request.items = before ++ item :: after) ∧
    runItems h token (.ofList request.bindings) before .empty = .ok l

/-- Whether a handler gets as far as an item of a request, and its token is cancelled by then. -/
def StopsBefore (h : Handler) (request : GeneratePatches.Request) (token : CancellationToken)
    (item : GeneratePatches.RequestItem) : Prop :=
  ∃ before l, h.Comes request token before item l ∧ token.cancelled before.length = true

/-- Whether a handler gets as far as a mutator for an item of a request, which then finds an
object: all items before it and all mutators before that one did without an error, and the token is
not cancelled. -/
def Meets (h : Handler) (request : GeneratePatches.Request) (token : CancellationToken)
    (item : GeneratePatches.RequestItem) (m : Mutator) (object : Json) : Prop :=
  ∃ before done rest l l', h.Comes request token before item l ∧
    token.cancelled before.length = false ∧ h.mutators = done ++ m :: rest ∧
    runMutators h.registry item (variablesFor request item) done l = .ok l' ∧
    object = l'.current item.uid item.object

section

variable {h : Handler} {request : GeneratePatches.Request} {token : CancellationToken}
  {item : GeneratePatches.RequestItem} {m : Mutator} {object : Json}

/-- A handler comes to the items of the request only. -/
theorem Meets.item_mem (hm : h.Meets request token item m object) : item ∈ request.items := by
  obtain ⟨before, -, -, -, -, ⟨⟨after, hitems⟩, -⟩, -⟩ := hm
  simp [hitems]

/-- Only the mutators of a handler meet objects. -/
theorem Meets.mutator_mem (hm : h.Meets request token item m object) : m ∈ h.mutators := by
  obtain ⟨-, done, rest, -, -, -, -, hmutators, -⟩ := hm
  simp [hmutators]

end

variable {registry : ObjectRegistry} {vars global : Variables} {e : Error}

/-- When mutators fail on an object, one of them does, and those before it did not. -/
theorem exists_of_runMutators_eq_error {item : GeneratePatches.RequestItem} :
    ∀ {ms : List Mutator} {l : Ledger}, runMutators registry item vars ms l = .error e →
      ∃ done m rest l', ms = done ++ m :: rest ∧
        runMutators registry item vars done l = .ok l' ∧
        (m.generate registry item vars l').2 = some e
  | [], l, h => by
    rw [runMutators] at h
    cases h
  | m :: rest, l, h => by
    rw [runMutators] at h
    cases hm : m.generate registry item vars l with
    | mk l₁ failure =>
      cases failure with
      | some e' =>
        simp only [hm, Except.error.injEq] at h
        exact ⟨[], m, rest, l, rfl, rfl, by rw [hm, h]⟩
      | none =>
        simp only [hm] at h
        obtain ⟨done, m', rest', l', rfl, hdone, hfails⟩ := exists_of_runMutators_eq_error h
        refine ⟨m :: done, m', rest', l', rfl, ?_, hfails⟩
        rw [runMutators, hm]
        exact hdone

/-- When a handler fails on some objects, it got through those before one of them, and then either
was cancelled or its mutators fail on that one. -/
theorem exists_of_runItems_eq_error {h : Handler} :
    ∀ {items : List GeneratePatches.RequestItem} {token : CancellationToken} {l : Ledger},
      runItems h token global items l = .error e →
      ∃ before item after l', items = before ++ item :: after ∧
        runItems h token global before l = .ok l' ∧
        (token.cancelled before.length = true ∧
            e = .cancelled (.cancelledBefore h.name item.uid) ∨
          token.cancelled before.length = false ∧
            runMutators h.registry item (global.overlay item.bindings) h.mutators l' = .error e)
  | [], _, l, hrun => by
    rw [runItems] at hrun
    cases hrun
  | item :: rest, token, l, hrun => by
    cases hc : token.cancelled 0 with
    | true =>
      rw [runItems_cons_of_cancelled hc] at hrun
      exact ⟨[], item, rest, l, rfl, rfl, .inl ⟨hc, (Except.error.inj hrun).symm⟩⟩
    | false =>
      rw [runItems_cons_of_spared hc] at hrun
      cases hitem : runMutators h.registry item (global.overlay item.bindings) h.mutators l with
      | error e' =>
        rw [hitem] at hrun
        obtain rfl : e' = e := Except.error.inj hrun
        exact ⟨[], item, rest, l, rfl, rfl, .inr ⟨hc, hitem⟩⟩
      | ok l₁ =>
        rw [hitem] at hrun
        obtain ⟨before, item', after, l', rfl, hbefore, hfails⟩ :=
          -- the rest is looked at with what the token answers from the next item on
          @exists_of_runItems_eq_error h rest token.next _ hrun
        refine ⟨item :: before, item', after, l', rfl, ?_, hfails⟩
        rw [runItems_cons_of_spared hc, hitem]
        exact hbefore

/-- A request fails because it was cancelled before one of its objects, or because the variable of a
mutator cannot be read, or because a mutator breaks on the object that it meets. -/
theorem exists_of_patches_eq_error {h : Handler} {request : GeneratePatches.Request}
    {token : CancellationToken} (hp : h.patches request token = .error e) :
    (∃ item, h.StopsBefore request token item ∧
      e = .cancelled (.cancelledBefore h.name item.uid)) ∨
    ∃ item m object, h.Meets request token item m object ∧
      (m.reads.get m.input (variablesFor request item) = .error e ∨
        m.Breaks h.registry item (variablesFor request item) object e) := by
  obtain ⟨before, item, after, l, hitems, hbefore, hwhy⟩ :=
    exists_of_runItems_eq_error (map_eq_error_iff.1 hp)
  have hcomes : h.Comes request token before item l := ⟨⟨after, hitems⟩, hbefore⟩
  rcases hwhy with ⟨hc, he⟩ | ⟨hc, hfails⟩
  · exact .inl ⟨item, ⟨before, l, hcomes, hc⟩, he⟩
  · obtain ⟨done, m, rest, l', hmutators, hdone, hm⟩ := exists_of_runMutators_eq_error hfails
    exact .inr ⟨item, m, _, ⟨before, done, rest, l, l', hcomes, hc, hmutators, hdone, rfl⟩,
      Mutator.generate_eq_some_iff.1 hm⟩

/-- A request whose token is cancelled when the handler has got as far as an item fails for that. -/
theorem StopsBefore.patches_eq {h : Handler} {request : GeneratePatches.Request}
    {token : CancellationToken} {item : GeneratePatches.RequestItem}
    (hstops : h.StopsBefore request token item) :
    h.patches request token = .error (.cancelled (.cancelledBefore h.name item.uid)) := by
  obtain ⟨before, l, ⟨⟨after, hitems⟩, hbefore⟩, hc⟩ := hstops
  rw [patches, hitems, runItems_of_cancelled hbefore hc]
  rfl

end Handler

end TopologyHooks
