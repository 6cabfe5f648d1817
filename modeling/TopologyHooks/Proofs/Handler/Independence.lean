import TopologyHooks.Proofs.Handler.Idempotence

/-!
# The objects of a request do not influence each other

All objects of a request share one ledger. Still the answer is put together from the answers to
requests for one object each, and the first of these that fails is the failure of the whole
(`Handler.patches_eq_mapM`, and `Handler.generatePatches_only` for what callers see).

The reason is a frame: what a mutator does for an object only reads and changes the entry of that
object, so that the entries in front of it stay in front (`Mutator.generate_behind`).
-/

set_option autoImplicit false

namespace TopologyHooks

/-! ## Ledgers in a row -/

namespace Ledger

variable {uid : String} {received : Json} {patch : Patch} {before l : Ledger}

/-- A ledger with the entries of another one in front. -/
def behind (before l : Ledger) : Ledger := ⟨before.entries ++ l.entries⟩

/-- With no entries of its own, a ledger behind another one is the other one. -/
@[simp] theorem behind_empty (before : Ledger) : before.behind empty = before := by
  simp [behind, empty]

/-- Nothing is found for an object exactly if no entry is about it. -/
theorem lookup?_eq_none_iff : l.lookup? uid = none ↔ uid ∉ l.entries.map Entry.uid := by
  simp [lookup?, List.find?_eq_none]

/-- Entries about other objects in front of a ledger do not change what is found in it. -/
theorem lookup?_behind (h : before.lookup? uid = none) (l : Ledger) :
    (before.behind l).lookup? uid = l.lookup? uid := by
  have hfind : before.entries.find? (fun e => e.uid == uid) = none := h
  simp [lookup?, behind, List.find?_append, hfind]

/-- Entries about other objects in front of a ledger do not change how it leaves an object. -/
theorem current_behind (h : before.lookup? uid = none) (l : Ledger) (received : Json) :
    (before.behind l).current uid received = l.current uid received := by
  rw [current, current, lookup?_behind h]

/-- A patch of an object passes over the entries about others. -/
theorem mergeInto_append {entries : List Entry} : ∀ {front : List Entry},
    uid ∉ front.map Entry.uid →
      mergeInto uid received patch (front ++ entries) =
        (front ++ (mergeInto uid received patch entries).1,
          (mergeInto uid received patch entries).2)
  | [], _ => rfl
  | e :: front, h => by
    obtain ⟨he, hfront⟩ := not_or.1 (List.mem_cons.not.1 h)
    rw [List.cons_append, mergeInto, if_neg (Ne.symm he), mergeInto_append hfront,
      List.cons_append]

/-- A patch of an object leaves the entries in front of it, and goes as it would without them. -/
theorem merge_behind (h : before.lookup? uid = none) (l : Ledger) :
    (before.behind l).merge uid received patch =
      (before.behind (l.merge uid received patch).1, (l.merge uid received patch).2) := by
  have happend : mergeInto uid received patch (before.entries ++ l.entries) =
      (before.entries ++ (mergeInto uid received patch l.entries).1,
        (mergeInto uid received patch l.entries).2) :=
    mergeInto_append (lookup?_eq_none_iff.1 h)
  simp only [merge, behind, happend]

/-- The answer of two ledgers, one behind the other, is their answers in this order. -/
theorem responseItems_behind (before l : Ledger) :
    (before.behind l).responseItems = before.responseItems ++ l.responseItems := by
  simp [responseItems, patched, behind]

/-- Whether a ledger has entries of one object alone. -/
def Only (l : Ledger) (uid : String) : Prop := ∀ e ∈ l.entries, e.uid = uid

/-- A patch of the one object of a ledger brings in no other. -/
theorem Only.merge (h : l.Only uid) : (l.merge uid received patch).1.Only uid := by
  intro e he
  have hmem : e.uid ∈ (l.merge uid received patch).1.entries.map Entry.uid :=
    List.mem_map_of_mem he
  rw [Ledger.merge, map_uid_mergeInto] at hmem
  split at hmem
  · obtain ⟨e', he', heq⟩ := List.mem_map.1 hmem
    exact heq ▸ h e' he'
  · rcases List.mem_append.1 hmem with hmem | hmem
    · obtain ⟨e', he', heq⟩ := List.mem_map.1 hmem
      exact heq ▸ h e' he'
    · exact List.mem_singleton.1 hmem

/-- Entries of other objects do not hide an object that was fresh before them. -/
theorem lookup?_behind_of_only {other : String} (hbefore : before.lookup? other = none)
    (hl : l.Only uid) (hne : other ≠ uid) : (before.behind l).lookup? other = none := by
  rw [lookup?_behind hbefore, lookup?_eq_none_iff]
  intro hmem
  obtain ⟨e, he, heq⟩ := List.mem_map.1 hmem
  exact hne (heq.symm.trans (hl e he))

end Ledger

/-! ## One mutator, one object -/

section

variable {registry : ObjectRegistry} {item : GeneratePatches.RequestItem} {vars : Variables}
  {before l : Ledger}

/-- A change of an object goes as it would without the entries in front of it. -/
theorem Ledger.mutate_behind (h : before.lookup? item.uid = none) (l : Ledger)
    {k : TemplateKind} (selector : PatchSelector) (change : Mutation.Change k) :
    (before.behind l).mutate registry k item vars selector change =
      (before.behind (l.mutate registry k item vars selector change).1,
        (l.mutate registry k item vars selector change).2) := by
  simp only [mutate, current_behind h]
  cases Mutation.patch? registry k (l.current item.uid item.object) vars item.holderReference
      selector change with
  | error e => rfl
  | ok found =>
    cases found with
    | none => rfl
    | some patch =>
      simp only [merge_behind h]
      generalize l.merge item.uid item.object patch = merged
      obtain ⟨l', failure⟩ := merged
      cases failure <;> rfl

/-- A change of the one object of a ledger brings in no other. -/
theorem Ledger.Only.mutate (h : l.Only item.uid) {k : TemplateKind} (selector : PatchSelector)
    (change : Mutation.Change k) :
    (l.mutate registry k item vars selector change).1.Only item.uid := by
  obtain hsame | ⟨patch, hmerge⟩ := l.mutate_eq_or selector change
  · rw [hsame]
    exact h
  · rw [hmerge]
    exact h.merge

namespace Mutator

/-- What a mutator does for an object goes as it would without the entries in front of it. -/
theorem generate_behind (m : Mutator) (h : before.lookup? item.uid = none) (l : Ledger) :
    m.generate registry item vars (before.behind l) =
      (before.behind (m.generate registry item vars l).1,
        (m.generate registry item vars l).2) := by
  simp only [generate]
  generalize m.reads.get m.input vars = r
  cases r with
  | error e => rfl
  | ok found =>
    simp only []
    cases found.or m.fallback with
    | none => rfl
    | some value => exact Ledger.mutate_behind h l m.selector _

/-- A mutator for the one object of a ledger brings in no other. -/
theorem only_generate (m : Mutator) (h : l.Only item.uid) :
    (m.generate registry item vars l).1.Only item.uid := by
  simp only [generate]
  split
  · exact h
  · split
    · exact h
    · exact h.mutate m.selector _

end Mutator

namespace Handler

/-- Mutators for an object that is fresh for a ledger do behind it what they would do alone. -/
theorem runMutators_behind (h : before.lookup? item.uid = none) :
    ∀ (ms : List Mutator) (l : Ledger),
      runMutators registry item vars ms (before.behind l) =
        (runMutators registry item vars ms l).map before.behind
  | [], l => rfl
  | m :: rest, l => by
    rw [runMutators, runMutators, m.generate_behind h l]
    cases hm : m.generate registry item vars l with
    | mk l' failure =>
      cases failure with
      | none => exact runMutators_behind h rest l'
      | some e => rfl

/-- Mutators for the one object of a ledger bring in no other. -/
theorem only_runMutators : ∀ {ms : List Mutator} {l l' : Ledger}, l.Only item.uid →
    runMutators registry item vars ms l = .ok l' → l'.Only item.uid
  | [], l, l', hl, h => by
    rw [runMutators, Except.ok.injEq] at h
    exact h ▸ hl
  | m :: rest, l, l', hl, h => by
    rw [runMutators] at h
    have hm : (m.generate registry item vars l).1.Only item.uid := m.only_generate hl
    split at h
    · rename_i l₁ hg
      rw [hg] at hm
      exact only_runMutators hm h
    · cases h

end Handler

end

/-! ## One object after the other -/

/-- The request for one object of a request. -/
def GeneratePatches.Request.only (request : GeneratePatches.Request)
    (item : GeneratePatches.RequestItem) : GeneratePatches.Request :=
  { request with items := [item] }

namespace Handler

/-- The ledger of one object that has none before it. -/
def alone (h : Handler) (global : Variables) (item : GeneratePatches.RequestItem) :
    Except Error Ledger :=
  runMutators h.registry item (global.overlay item.bindings) h.mutators .empty

/-- A request about a single object is answered with the patches of that object alone. -/
theorem patches_only (h : Handler) (request : GeneratePatches.Request)
    (item : GeneratePatches.RequestItem) :
    h.patches (request.only item) .never =
      (h.alone (.ofList request.bindings) item).map Ledger.responseItems := by
  rw [patches, alone, GeneratePatches.Request.only,
    @runItems_cons_of_spared h .never _ item [] rfl]
  cases runMutators h.registry item _ h.mutators .empty <;> rfl

/-- The patches of objects that are fresh for a ledger: those of the ledger, and those of each
object alone, unless one of these fails. -/
theorem runItems_eq_mapM {h : Handler} {global : Variables} :
    ∀ {items : List GeneratePatches.RequestItem} {before : Ledger},
      (items.map (·.uid)).Nodup → (∀ item ∈ items, before.lookup? item.uid = none) →
      (runItems h .never global items before).map Ledger.responseItems =
        (items.mapM fun item => (h.alone global item).map Ledger.responseItems).map
          fun answers => before.responseItems ++ answers.flatten
  | [], before, _, _ => by
    simp [runItems, Except.map, pure, Except.pure]
  | item :: rest, before, hnd, hfresh => by
    obtain ⟨hnot, hnd⟩ := List.nodup_cons.1 hnd
    have hitem : before.lookup? item.uid = none := hfresh item List.mem_cons_self
    have hrun : runMutators h.registry item (global.overlay item.bindings) h.mutators before =
        (h.alone global item).map before.behind := by
      rw [alone, ← runMutators_behind hitem, Ledger.behind_empty]
    rw [@runItems_cons_of_spared h .never global item rest rfl, hrun, List.mapM_cons]
    cases hl : h.alone global item with
    | error e => rfl
    | ok l =>
      -- what the first object adds is about it alone, so the others stay fresh
      have honly : l.Only item.uid :=
        only_runMutators (fun e he => absurd he List.not_mem_nil) hl
      have hrest : ∀ other ∈ rest, (before.behind l).lookup? other.uid = none := by
        intro other ho
        refine Ledger.lookup?_behind_of_only (hfresh other (List.mem_cons_of_mem _ ho)) honly ?_
        intro heq
        exact hnot (List.mem_map.2 ⟨other, ho, heq⟩)
      have ih := @runItems_eq_mapM h global rest (before.behind l) hnd hrest
      generalize rest.mapM (fun item => (h.alone global item).map Ledger.responseItems) = r
        at ih ⊢
      refine Eq.trans ih ?_
      cases r with
      | error e => rfl
      | ok answers =>
        simp [Except.map, bind, Except.bind, pure, Except.pure, Ledger.responseItems_behind]

/-- The patches of a request are those of its objects, each asked for alone, in their order; the
first of these requests that fails is why the whole fails. -/
theorem patches_eq_mapM (h : Handler) {request : GeneratePatches.Request}
    (hnd : (request.items.map (·.uid)).Nodup) :
    h.patches request .never =
      (request.items.mapM fun item => h.patches (request.only item) .never).map List.flatten := by
  have hrun := @runItems_eq_mapM h (.ofList request.bindings) request.items .empty hnd
    fun _ _ => rfl
  simp only [patches_only]
  exact hrun

/-! ## What callers see -/

/-- Where there are patches, the answer is a success with them. -/
theorem generatePatches_of_ok {h : Handler} {request : GeneratePatches.Request} {token : CancellationToken}
    {items : List GeneratePatches.ResponseItem} (hp : h.patches request token = .ok items) :
    h.generatePatches request token = .success items := by
  rw [generatePatches, hp]

/-- Where there are no patches, the answer is a failure with the message of the error. -/
theorem generatePatches_of_error {h : Handler} {request : GeneratePatches.Request}
    {token : CancellationToken} {e : Error} (hp : h.patches request token = .error e) :
    h.generatePatches request token =
      GeneratePatches.Response.fail (.success []) e.message := by
  rw [generatePatches, hp]

/-- If every object of a request can be patched alone, the answer holds the patches of each, in
the order of the request. -/
theorem generatePatches_eq_success {h : Handler} {request : GeneratePatches.Request}
    (hnd : (request.items.map (·.uid)).Nodup)
    (hall : ∀ item ∈ request.items,
      (h.generatePatches (request.only item) .never).status = .success) :
    h.generatePatches request .never = .success (request.items.flatMap fun item =>
      (h.generatePatches (request.only item) .never).items) := by
  apply generatePatches_of_ok
  have hmap : request.items.mapM (fun item => h.patches (request.only item) .never) =
      .ok (request.items.map fun item => (h.generatePatches (request.only item) .never).items) := by
    refine mapM_eq_ok_iff.2 (List.forall₂_map_right_iff.2 (List.forall₂_same.2 ?_))
    intro item hitem
    exact patches_of_success (hall item hitem)
  rw [patches_eq_mapM h hnd, hmap, Except.map, List.flatMap]

/-- If some object of a request cannot be patched alone, the answer is the one about the first
such object. -/
theorem exists_of_generatePatches_failure {h : Handler} {request : GeneratePatches.Request}
    (hnd : (request.items.map (·.uid)).Nodup)
    (hfail : (h.generatePatches request .never).status = .failure) :
    ∃ before item after, request.items = before ++ item :: after ∧
      (∀ x ∈ before, (h.generatePatches (request.only x) .never).status = .success) ∧
      (h.generatePatches (request.only item) .never).status = .failure ∧
      h.generatePatches request .never = h.generatePatches (request.only item) .never := by
  cases hp : h.patches request .never with
  | ok items =>
    rw [generatePatches_of_ok hp] at hfail
    cases hfail
  | error e =>
    rw [patches_eq_mapM h hnd] at hp
    have hmap : request.items.mapM (fun item => h.patches (request.only item) .never) =
        .error e := by
      generalize request.items.mapM (fun item => h.patches (request.only item) .never) = r at hp ⊢
      cases r with
      | error e' => exact congrArg _ (Except.error.inj hp)
      | ok answers => cases hp
    obtain ⟨before, item, after, hitems, hbefore, hitem⟩ := exists_of_mapM_eq_error hmap
    refine ⟨before, item, after, hitems, fun x hx => ?_, ?_, ?_⟩
    · obtain ⟨answer, hanswer⟩ := hbefore x hx
      rw [generatePatches_of_ok hanswer]
      rfl
    · rw [generatePatches_of_error hitem]
      rfl
    · have hwhole : h.patches request .never = .error e := by
        rw [patches_eq_mapM h hnd, hmap]
        rfl
      rw [generatePatches_of_error hwhole, generatePatches_of_error hitem]

/-- A failure carries no patches. -/
theorem items_eq_nil_of_failure {h : Handler} {request : GeneratePatches.Request}
    {token : CancellationToken} (hfail : (h.generatePatches request token).status = .failure) :
    (h.generatePatches request token).items = [] := by
  cases hp : h.patches request token with
  | ok items =>
    rw [generatePatches_of_ok hp] at hfail
    cases hfail
  | error e =>
    rw [generatePatches_of_error hp]
    rfl

/-- The answer to a request that nobody cancels is a success exactly if it is one for each object
alone. -/
theorem generatePatches_eq_success_iff {h : Handler} {request : GeneratePatches.Request}
    (hnd : (request.items.map (·.uid)).Nodup) :
    (h.generatePatches request .never).status = .success ↔
      ∀ item ∈ request.items,
        (h.generatePatches (request.only item) .never).status = .success := by
  constructor
  · intro hok item hitem
    have hp := patches_of_success hok
    rw [patches_eq_mapM h hnd] at hp
    obtain ⟨answers, hanswers, -⟩ := map_eq_ok_iff.1 hp
    obtain ⟨answer, -, hanswer⟩ :=
      exists_mem_of_forall₂ (mapM_eq_ok_iff.1 hanswers) item hitem
    rw [generatePatches_of_ok hanswer]
    rfl
  · intro hall
    rw [generatePatches_eq_success hnd hall]
    rfl

/-- The answer to a request whose token is not cancelled before any of its objects is a success
exactly if it is one for each object alone. Then it holds the patches for each object alone, in the
order of the request, so that objects in another order have the same patches in that order, and
nothing else changes. A failure holds no patches, and its message is the one about the first object
that fails alone. A request whose token is cancelled before one of its objects, such as the first
one, fails, without patches. -/
theorem generatePatches_only (h : Handler) (request : GeneratePatches.Request)
    (token : CancellationToken) (hnd : (request.items.map (·.uid)).Nodup) :
    (token.Spares request.items.length →
      ((h.generatePatches request token).status = .success ↔
        ∀ item ∈ request.items,
          (h.generatePatches (request.only item) .never).status = .success) ∧
      ((h.generatePatches request token).status = .success →
        h.generatePatches request token = .success (request.items.flatMap fun item =>
          (h.generatePatches (request.only item) .never).items) ∧
        ∀ items, items.Perm request.items → ∃ answer,
          answer.Perm (h.generatePatches request token).items ∧
          h.generatePatches { request with items := items } token =
            { h.generatePatches request token with items := answer }) ∧
      ((h.generatePatches request token).status = .failure →
        (h.generatePatches request token).items = [] ∧
        ∃ before item after, request.items = before ++ item :: after ∧
          (∀ x ∈ before, (h.generatePatches (request.only x) .never).status = .success) ∧
          (h.generatePatches (request.only item) .never).status = .failure ∧
          (h.generatePatches request token).message =
            (h.generatePatches (request.only item) .never).message)) ∧
    (¬ token.Spares request.items.length → (h.generatePatches request token).status = .failure ∧
      (h.generatePatches request token).items = []) := by
  refine ⟨fun hspares => ?_, fun hspares => ?_⟩
  · rw [generatePatches_of_spares hspares]
    refine ⟨generatePatches_eq_success_iff hnd, fun hok => ?_, fun hfail => ?_⟩
    · have hall := (generatePatches_eq_success_iff hnd).1 hok
      have hwhole := generatePatches_eq_success hnd hall
      -- the objects in another order are each answered alone as well
      refine ⟨hwhole, fun items hperm => ?_⟩
      have hspares' : token.Spares { request with items := items }.items.length :=
        hperm.length_eq ▸ hspares
      have hpermuted : h.generatePatches { request with items := items } .never =
          .success (items.flatMap fun item =>
            (h.generatePatches (request.only item) .never).items) :=
        @generatePatches_eq_success h { request with items := items }
          ((hperm.map _).nodup_iff.2 hnd) fun item hitem => hall item (hperm.mem_iff.1 hitem)
      refine ⟨_, ?_, (generatePatches_of_spares hspares').trans (hpermuted.trans (by
        rw [hwhole]
        rfl))⟩
      rw [hwhole]
      exact hperm.flatMap_right _
    · obtain ⟨before, item, after, hitems, hbefore, hitem, hwhole⟩ :=
        exists_of_generatePatches_failure hnd hfail
      exact ⟨items_eq_nil_of_failure hfail, before, item, after, hitems, hbefore, hitem,
        congrArg _ hwhole⟩
  · have hfail := status_of_not_spares hspares (h := h)
    exact ⟨hfail, items_eq_nil_of_failure hfail⟩

/-! ## Two clusters -/

namespace Region

/-- A cluster whose specification is no object. -/
def broken : GeneratePatches.RequestItem where
  uid := "broken"
  holderReference := item.holderReference
  object := .obj [("apiVersion", .str "infrastructure.cluster.x-k8s.io/v1beta2"),
    ("kind", .str "AWSClusterTemplate"), ("spec", .str "none")]
  bindings := []

/-- A request to set the regions of two clusters, of which the second one has its own. -/
def twice (second : GeneratePatches.RequestItem) : GeneratePatches.Request :=
  { request with items := [item, second] }

/-- Another cluster, with a region of its own. -/
def sibling : GeneratePatches.RequestItem :=
  { item with
    uid := "sibling"
    bindings := [⟨"region", .str "us-west-2", none⟩] }

end Region

/-- Two clusters get their regions as each would alone. With a cluster that cannot be read in the
place of the second one, the request fails with the message for that cluster; and so it does,
without patches, if it is cancelled between the two. -/
theorem generatePatches_only_regions :
    Region.handler.generatePatches (Region.twice Region.sibling) .never =
      .success
        ((Region.handler.generatePatches Region.request .never).items ++
          (Region.handler.generatePatches (Region.request.only Region.sibling) .never).items) ∧
    (Region.handler.generatePatches (Region.twice Region.broken) .never).items = [] ∧
    (Region.handler.generatePatches (Region.twice Region.broken) .never).message =
      (Region.handler.generatePatches (Region.request.only Region.broken) .never).message ∧
    (Region.handler.generatePatches (Region.twice Region.sibling) (.after 1)).items = [] := by
  obtain ⟨-, hok, -⟩ :=
    (generatePatches_only Region.handler (Region.twice Region.sibling) .never (by decide)).1
      (CancellationToken.spares_never _)
  obtain ⟨-, -, hfail⟩ :=
    (generatePatches_only Region.handler (Region.twice Region.broken) .never (by decide)).1
      (CancellationToken.spares_never _)
  obtain ⟨-, hcancelled⟩ :=
    generatePatches_only Region.handler (Region.twice Region.sibling) (.after 1) (by decide)
  have hlate : ¬ (CancellationToken.after 1).Spares (Region.twice Region.sibling).items.length :=
    fun hspares => Bool.noConfusion (hspares 1 (by decide))
  have hboth : (Region.handler.generatePatches (Region.twice Region.sibling) .never).status =
      .success := rfl
  have hone : (Region.handler.generatePatches Region.request .never).status = .success := rfl
  have hbroken : (Region.handler.generatePatches (Region.twice Region.broken) .never).status =
      .failure := rfl
  obtain ⟨hnil, before, item, after, hitems, hbefore, hitem, hmessage⟩ := hfail hbroken
  refine ⟨(hok hboth).1, hnil, ?_, (hcancelled hlate).2⟩
  -- the first cluster is patched alone, so that the failure is for the second one
  rcases before with _ | ⟨first, _ | ⟨next, more⟩⟩
  · obtain ⟨rfl, -⟩ := List.cons.inj hitems
    cases hone.symm.trans hitem
  · obtain ⟨-, hrest⟩ := List.cons.inj hitems
    obtain ⟨rfl, -⟩ := List.cons.inj hrest
    exact hmessage
  · have hlength := congrArg List.length hitems
    simp [Region.twice] at hlength

end Handler

end TopologyHooks
