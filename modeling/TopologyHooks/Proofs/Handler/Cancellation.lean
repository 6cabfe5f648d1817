import TopologyHooks.Handler
import TopologyHooks.Proofs.Pointwise

/-!
# Cancelled requests

A handler asks its token once before every object of a request. Nothing else of the token matters,
and a token that is cancelled later than that changes nothing.

* `CancellationToken.Spares` — whether a token is not cancelled the first times that it is asked.
* `Handler.runItems_eq_ok_iff` — a handler gets through some objects exactly if they are spared and
  nothing else is in its way; `Handler.runItems_of_cancelled` says where it stops if they are not.
* `Handler.generatePatches_of_spares`, `Handler.status_of_not_spares` — the same for requests.
-/

set_option autoImplicit false

namespace TopologyHooks

namespace CancellationToken

variable {token : CancellationToken} {n : Nat}

/-- Whether a token is not cancelled the first times that it is asked. -/
def Spares (token : CancellationToken) (n : Nat) : Prop := ∀ i < n, token.cancelled i = false

/-- Nothing has to be spared where nothing is asked. -/
theorem spares_zero (token : CancellationToken) : token.Spares 0 :=
  fun i hi => absurd hi (Nat.not_lt_zero i)

/-- A token that nobody cancels spares everything. -/
theorem spares_never (n : Nat) : never.Spares n := fun _ _ => rfl

/-- The first answer of a token, and then the others. -/
theorem spares_succ_iff : token.Spares (n + 1) ↔ token.cancelled 0 = false ∧ token.next.Spares n := by
  constructor
  · intro h
    exact ⟨h 0 (Nat.succ_pos n), fun i hi => h (i + 1) (Nat.succ_lt_succ hi)⟩
  · rintro ⟨hnow, hnext⟩ i hi
    cases i with
    | zero => exact hnow
    | succ i => exact hnext i (Nat.lt_of_succ_lt_succ hi)

end CancellationToken

namespace Handler

variable {h : Handler} {token : CancellationToken} {global : Variables}
  {item : GeneratePatches.RequestItem} {rest after : List GeneratePatches.RequestItem} {e : Error}

/-! ## Objects -/

/-- An object is not looked at if the token is cancelled before it. -/
theorem runItems_cons_of_cancelled (hc : token.cancelled 0 = true) (l : Ledger) :
    runItems h token global (item :: rest) l =
      .error (.cancelled (.cancelledBefore h.name item.uid)) := by
  rw [runItems, if_pos hc]

/-- An object goes through all mutators if the token is not cancelled before it. -/
theorem runItems_cons_of_spared (hc : token.cancelled 0 = false) (l : Ledger) :
    runItems h token global (item :: rest) l =
      runMutators h.registry item (global.overlay item.bindings) h.mutators l >>= fun l =>
        runItems h token.next global rest l := by
  rw [runItems, if_neg (Bool.eq_false_iff.1 hc)]
  cases runMutators h.registry item (global.overlay item.bindings) h.mutators l <;> rfl

/-- A handler gets through some objects exactly if the token spares all of them, and it would get
through them if nobody could cancel it. -/
theorem runItems_eq_ok_iff : ∀ {items : List GeneratePatches.RequestItem}
    {token : CancellationToken} {l l' : Ledger}, runItems h token global items l = .ok l' ↔
      token.Spares items.length ∧ runItems h .never global items l = .ok l'
  | [], token, l, l' => by
    rw [runItems, runItems]
    exact (and_iff_right token.spares_zero).symm
  | item :: rest, token, l, l' => by
    rw [List.length_cons, CancellationToken.spares_succ_iff,
      @runItems_cons_of_spared h .never global item rest rfl]
    cases hc : token.cancelled 0 with
    | true =>
      rw [runItems_cons_of_cancelled hc]
      exact iff_of_false nofun fun hspares => Bool.noConfusion hspares.1.1
    | false =>
      have hrest (l₁ : Ledger) := @runItems_eq_ok_iff rest token.next l₁ l'
      rw [runItems_cons_of_spared hc]
      simp only [bind_eq_ok_iff, hrest]
      constructor
      · rintro ⟨l₁, hitem, hspares, hrun⟩
        exact ⟨⟨trivial, hspares⟩, l₁, hitem, hrun⟩
      · rintro ⟨⟨-, hspares⟩, l₁, hitem, hrun⟩
        exact ⟨l₁, hitem, hspares, hrun⟩

/-- A token that spares some objects might as well be one that nobody cancels. -/
theorem runItems_of_spares : ∀ {items : List GeneratePatches.RequestItem}
    {token : CancellationToken}, token.Spares items.length → ∀ l : Ledger,
      runItems h token global items l = runItems h .never global items l
  | [], _, _, _ => rfl
  | item :: rest, token, hspares, l => by
    obtain ⟨hc, hnext⟩ := CancellationToken.spares_succ_iff.1 hspares
    rw [runItems_cons_of_spared hc, @runItems_cons_of_spared h .never global item rest rfl]
    exact bind_congr (runItems_of_spares hnext)

/-- Once a handler got through some objects, it fails if the token is cancelled then and there is
another one. -/
theorem runItems_of_cancelled : ∀ {before : List GeneratePatches.RequestItem}
    {token : CancellationToken} {l l' : Ledger}, runItems h token global before l = .ok l' →
      token.cancelled before.length = true →
      runItems h token global (before ++ item :: after) l =
        .error (.cancelled (.cancelledBefore h.name item.uid))
  | [], _, l, _, _, hc => runItems_cons_of_cancelled hc l
  | first :: before, token, l, l', hrun, hc => by
    have hnow : token.cancelled 0 = false :=
      (runItems_eq_ok_iff.1 hrun).1 0 (Nat.succ_pos before.length)
    rw [runItems_cons_of_spared hnow] at hrun
    obtain ⟨l₁, hfirst, hbefore⟩ := bind_eq_ok_iff.1 hrun
    rw [List.cons_append, runItems_cons_of_spared hnow, hfirst]
    exact runItems_of_cancelled hbefore hc

/-! ## Requests -/

variable {request : GeneratePatches.Request}

/-- A request that is answered with patches was spared. -/
theorem spares_of_patches {items : List GeneratePatches.ResponseItem}
    (hp : h.patches request token = .ok items) : token.Spares request.items.length := by
  obtain ⟨l, hrun, -⟩ := map_eq_ok_iff.1 hp
  exact (runItems_eq_ok_iff.1 hrun).1

/-- A request that is spared has the patches that it has if nobody cancels it. -/
theorem patches_of_spares (hspares : token.Spares request.items.length) :
    h.patches request token = h.patches request .never := by
  rw [patches, patches, runItems_of_spares hspares]

/-- A request that is spared is answered as if nobody could cancel it. -/
theorem generatePatches_of_spares (hspares : token.Spares request.items.length) :
    h.generatePatches request token = h.generatePatches request .never := by
  rw [generatePatches, generatePatches, patches_of_spares hspares]

/-- A request that is not spared fails. -/
theorem status_of_not_spares (hspares : ¬ token.Spares request.items.length) :
    (h.generatePatches request token).status = .failure := by
  unfold generatePatches
  cases hp : h.patches request token with
  | ok items => exact absurd (spares_of_patches hp) hspares
  | error e => rfl

end Handler

end TopologyHooks
