import Mathlib.Data.List.Forall2
import TopologyHooks.Json.Pointer
import TopologyHooks.Json.Reader

/-!
# Ordered values and equality as JSON

* `Json.Ordered` — the members of every object in a value stand in strictly increasing key order,
  as they do in every value that a text is read as (`Json.ordered_of_parse`).
* `Json.same` is an equivalence that is blind to the sign of a zero: it is reflexive
  (`Json.same_refl`) and passes to places inside (`Json.rel_at?_of_same`). `Json.SignsKept` says of
  two values that they do not differ in such a sign alone.
-/

set_option autoImplicit false

namespace TopologyHooks

/-! ## Look-ups in association lists -/

namespace Assoc

variable {α β : Type}

/-- An entry of a sorted list is found. -/
theorem get?_eq_some_of_mem {key : String} {a : α} :
    ∀ {entries : List (String × α)}, Sorted entries → (key, a) ∈ entries →
      get? key entries = some a
  | (k, b) :: rest, hs, hm => by
    obtain ⟨hlt, hrest⟩ := List.pairwise_cons.1 hs
    rcases List.mem_cons.1 hm with he | he
    · cases he
      simp [get?]
    · have hne : k ≠ key := fun e => lt_irrefl k (by simpa [e] using hlt _ he)
      rw [get?, if_neg hne]
      exact get?_eq_some_of_mem hrest he

/-- What is found is an entry of the list. -/
theorem mem_of_get?_eq_some {key : String} {a : α} :
    ∀ {entries : List (String × α)}, get? key entries = some a → (key, a) ∈ entries
  | (k, b) :: rest, h => by
    by_cases hk : k = key
    · subst hk
      simp only [get?, if_true, Option.some.injEq] at h
      exact h ▸ List.mem_cons_self
    · rw [get?, if_neg hk] at h
      exact List.mem_cons_of_mem _ (mem_of_get?_eq_some h)

/-- Something is found for a key exactly if there is an entry with it. -/
theorem isSome_get?_iff {key : String} {entries : List (String × α)} :
    (get? key entries).isSome ↔ key ∈ entries.map Prod.fst := by
  induction entries with
  | nil => simp [get?]
  | cons e rest ih =>
    obtain ⟨k, a⟩ := e
    by_cases hk : k = key
    · subst hk
      simp [get?]
    · simp [get?, hk, Ne.symm hk, ih]

/-- Nothing is found for a key exactly if there is no entry with it. -/
theorem get?_eq_none_iff {key : String} {entries : List (String × α)} :
    get? key entries = none ↔ key ∉ entries.map Prod.fst := by
  rw [← isSome_get?_iff, Option.not_isSome_iff_eq_none]

/-- The keys of a sorted list are distinct. -/
theorem Sorted.nodup_keys {entries : List (String × α)} (h : Sorted entries) :
    (entries.map Prod.fst).Nodup := by
  refine List.pairwise_map.2 (List.Pairwise.imp ?_ h)
  intro a b hlt he
  exact lt_irrefl b.1 (he ▸ hlt)

/-- Looking up goes with a change of all values. -/
theorem get?_map (f : String → α → β) (key : String) (entries : List (String × α)) :
    get? key (entries.map fun e => (e.1, f e.1 e.2)) = (get? key entries).map (f key) := by
  induction entries with
  | nil => rfl
  | cons e rest ih =>
    by_cases hk : e.1 = key
    · simp [get?, hk]
    · simp [get?, hk, ih]

/-- A list stays sorted if only its values are changed. -/
theorem Sorted.map {entries : List (String × α)} (h : Sorted entries) (f : String → α → β) :
    Sorted (entries.map fun e => (e.1, f e.1 e.2)) :=
  List.pairwise_map.2 h

/-- Of two values for the same key, the one that is put in last stays. -/
theorem insert_insert (key : String) (a b : α) (entries : List (String × α)) :
    insert key b (insert key a entries) = insert key b entries := by
  induction entries with
  | nil => simp [insert]
  | cons e rest ih =>
    obtain ⟨k, c⟩ := e
    by_cases hk : k = key
    · simp [insert, hk]
    · by_cases hlt : key < k <;> simp [insert, hk, hlt, ih]

/-- Two sorted lists whose look-ups are related are related entry by entry. -/
theorem forall₂_of_get? {R : α → β → Prop} :
    ∀ {l : List (String × α)} {l' : List (String × β)}, Sorted l → Sorted l' →
      (∀ key, Option.Rel R (get? key l) (get? key l')) →
      List.Forall₂ (fun e e' => e.1 = e'.1 ∧ R e.2 e'.2) l l'
  | [], [], _, _, _ => .nil
  | [], (k, b) :: _, _, _, h => by
    have hrel : Option.Rel R none (some b) := by simpa [get?] using h k
    cases hrel
  | (k, a) :: _, [], _, _, h => by
    have hrel : Option.Rel R (some a) none := by simpa [get?] using h k
    cases hrel
  | (k, a) :: rest, (k', b) :: rest', hl, hl', h => by
    obtain ⟨hk, hrest⟩ := List.pairwise_cons.1 hl
    obtain ⟨hk', hrest'⟩ := List.pairwise_cons.1 hl'
    have hkk : k = k' := by
      by_contra hne
      by_cases hlt : k < k'
      · have h1 := h k
        rw [get?, if_pos rfl, get?, if_neg (Ne.symm hne),
          get?_eq_none_of_lt fun e he => lt_trans hlt (hk' e he)] at h1
        cases h1
      · have hlt : k' < k := lt_of_not_lt_of_ne hlt (Ne.symm hne)
        have h1 := h k'
        rw [get?, if_neg hne, get?, if_pos rfl,
          get?_eq_none_of_lt fun e he => lt_trans hlt (hk e he)] at h1
        cases h1
    subst hkk
    have hab : R a b := by
      have h1 := h k
      simpa [get?] using h1
    refine .cons ⟨rfl, hab⟩ (forall₂_of_get? hrest hrest' ?_)
    intro key
    by_cases hkey : k = key
    · subst hkey
      rw [get?_eq_none_of_lt hk, get?_eq_none_of_lt hk']
      exact .none
    · have h1 := h key
      rwa [get?, if_neg hkey, get?, if_neg hkey] at h1

/-- Look-ups in lists that are related entry by entry are related. -/
theorem rel_get?_of_forall₂ {R : α → β → Prop} {l : List (String × α)} {l' : List (String × β)}
    (h : List.Forall₂ (fun e e' => e.1 = e'.1 ∧ R e.2 e'.2) l l') (key : String) :
    Option.Rel R (get? key l) (get? key l') := by
  induction h with
  | nil => exact .none
  | @cons e f l l' he _ ih =>
    obtain ⟨hk, hx⟩ := he
    by_cases hkey : e.1 = key
    · rw [get?, if_pos hkey, get?, if_pos (hk ▸ hkey)]
      exact .some hx
    · rw [get?, if_neg hkey, get?, if_neg (hk ▸ hkey)]
      exact ih

/-- What distinct keys lead to after they were inserted. -/
theorem get?_insertAll (key : String) :
    ∀ {entries : List (String × α)}, (entries.map Prod.fst).Nodup →
      ∀ base : List (String × α),
        get? key (insertAll base entries) = (get? key entries).or (get? key base)
  | [], _, base => rfl
  | (k, a) :: entries, h, base => by
    obtain ⟨hk, h⟩ := List.nodup_cons.1 h
    have hstep : insertAll base ((k, a) :: entries) = insertAll (insert k a base) entries := rfl
    rw [hstep, get?_insertAll key h, get?_insert]
    by_cases hkey : k = key
    · subst hkey
      rw [get?_eq_none_iff.2 hk]
      simp [get?]
    · simp [get?, hkey]

/-- From entries with distinct keys, the dictionary of them finds the same. -/
theorem get?_insertAll_nil (key : String) {entries : List (String × α)}
    (h : (entries.map Prod.fst).Nodup) : get? key (insertAll [] entries) = get? key entries := by
  rw [get?_insertAll key h, get?_nil, Option.or_none]

/-- What entries lead to does not depend on what they are inserted over. -/
theorem get?_insertAll_base (key : String) (entries : List (String × α)) :
    ∀ base : List (String × α), get? key (insertAll base entries) =
      (get? key (insertAll [] entries)).or (get? key base) := by
  induction entries with
  | nil => exact fun base => rfl
  | cons e rest ih =>
    intro base
    show get? key (insertAll (insert e.1 e.2 base) rest) =
      (get? key (insertAll (insert e.1 e.2 []) rest)).or (get? key base)
    rw [ih (insert e.1 e.2 base), ih (insert e.1 e.2 []), Option.or_assoc, get?_insert, get?_insert]
    split
    · rfl
    · rfl

/-- All entries of a dictionary were in it before, or are among those that were put in. -/
theorem mem_insertAll {e : String × α} : ∀ {entries base : List (String × α)},
    e ∈ insertAll base entries → e ∈ base ∨ e ∈ entries
  | [], _, h => .inl h
  | f :: rest, base, h => by
    have h : e ∈ insertAll (insert f.1 f.2 base) rest := h
    rcases mem_insertAll h with h | h
    · rcases mem_insert h with h | h
      · exact .inr (h ▸ List.mem_cons_self)
      · exact .inl h
    · exact .inr (List.mem_cons_of_mem _ h)

/-- Inserting entries that are sorted already changes nothing. -/
theorem insertAll_eq_self {entries : List (String × α)} (h : Sorted entries) :
    insertAll [] entries = entries := by
  refine eq_of_get?_eq (sorted_insertAll entries sorted_nil) h fun key => ?_
  exact get?_insertAll_nil key h.nodup_keys

end Assoc

namespace Json

/-- Members are no deeper than the deepest one. -/
theorem depth_le_of_get? {key : String} {v : Json} {members : List (String × Json)}
    (h : Assoc.get? key members = some v) : v.depth ≤ depthMembers members :=
  depthMembers_le_iff.1 (Nat.le_refl _) _ (Assoc.mem_of_get?_eq_some h)

/-! ## Ordered values -/

mutual

/-- Whether the members of every object stand in strictly increasing key order. -/
def Ordered : Json → Prop
  | .arr items => OrderedItems items
  | .obj members => Assoc.Sorted members ∧ OrderedMembers members
  | _ => True

/-- Whether all items are ordered. -/
def OrderedItems : List Json → Prop
  | [] => True
  | x :: xs => Ordered x ∧ OrderedItems xs

/-- Whether the values of all members are ordered. -/
def OrderedMembers : List (String × Json) → Prop
  | [] => True
  | (_, x) :: xs => Ordered x ∧ OrderedMembers xs

end

mutual

/-- Order can be computed. -/
def decOrdered : (j : Json) → Decidable j.Ordered
  | .null | .bool _ | .num _ | .str _ => isTrue trivial
  | .arr items => decOrderedItems items
  | .obj members => @instDecidableAnd _ _ (inferInstanceAs (Decidable (List.Pairwise _ members)))
    (decOrderedMembers members)

def decOrderedItems : (items : List Json) → Decidable (OrderedItems items)
  | [] => isTrue trivial
  | x :: xs => @instDecidableAnd _ _ (decOrdered x) (decOrderedItems xs)

def decOrderedMembers : (members : List (String × Json)) → Decidable (OrderedMembers members)
  | [] => isTrue trivial
  | (_, x) :: xs => @instDecidableAnd _ _ (decOrdered x) (decOrderedMembers xs)

end

instance : DecidablePred Ordered := decOrdered

/-- Items are ordered exactly if each of them is. -/
theorem orderedItems_iff {items : List Json} : OrderedItems items ↔ ∀ x ∈ items, Ordered x := by
  induction items with
  | nil => simp [OrderedItems]
  | cons x xs ih => simp [OrderedItems, ih]

/-- Members are ordered exactly if the value of each is. -/
theorem orderedMembers_iff {members : List (String × Json)} :
    OrderedMembers members ↔ ∀ e ∈ members, Ordered e.2 := by
  induction members with
  | nil => simp [OrderedMembers]
  | cons e es ih => simp [OrderedMembers, ih]

/-- An array is ordered exactly if its items are. -/
theorem ordered_arr {items : List Json} : (Json.arr items).Ordered ↔ ∀ x ∈ items, Ordered x := by
  rw [Ordered, orderedItems_iff]

/-- An object is ordered exactly if its members are sorted and the values of all of them are
ordered. -/
theorem ordered_obj {members : List (String × Json)} :
    (Json.obj members).Ordered ↔
      Assoc.Sorted members ∧ ∀ key x, Assoc.get? key members = some x → Ordered x := by
  rw [Ordered, orderedMembers_iff]
  refine and_congr_right fun hs => ⟨fun h key x hx => ?_, fun h e he => ?_⟩
  · exact h _ (Assoc.mem_of_get?_eq_some hx)
  · exact h e.1 e.2 (Assoc.get?_eq_some_of_mem hs he)

/-- An object stays ordered when an ordered member is put in. -/
theorem ordered_insert {key : String} {v : Json} {members : List (String × Json)}
    (h : (Json.obj members).Ordered) (hv : v.Ordered) :
    (Json.obj (Assoc.insert key v members)).Ordered := by
  obtain ⟨hs, ho⟩ := ordered_obj.1 h
  refine ordered_obj.2 ⟨Assoc.sorted_insert key v hs, fun other x hx => ?_⟩
  rw [Assoc.get?_insert] at hx
  split at hx
  · exact Option.some.inj hx ▸ hv
  · exact ho other x hx

/-- An object stays ordered when a member is taken out. -/
theorem ordered_erase {key : String} {members : List (String × Json)}
    (h : (Json.obj members).Ordered) : (Json.obj (Assoc.erase key members)).Ordered := by
  obtain ⟨hs, ho⟩ := ordered_obj.1 h
  refine ordered_obj.2 ⟨Assoc.sorted_erase key hs, fun other x hx => ?_⟩
  rw [Assoc.get?_erase] at hx
  split at hx
  · cases hx
  · exact ho other x hx

/-- An object that is made of members with ordered values is ordered, whatever order they came
in. -/
theorem ordered_object {members : List (String × Json)} (h : OrderedMembers members) :
    (object members).Ordered := by
  refine ⟨Assoc.sorted_insertAll members Assoc.sorted_nil, orderedMembers_iff.2 ?_⟩
  intro e he
  exact orderedMembers_iff.1 h e ((Assoc.mem_insertAll he).resolve_left List.not_mem_nil)

/-- A value that comes through the end of its text is the one that was read. -/
theorem closing_eq_ok {α : Type} {close : Option SyntaxError} {a b : α}
    (h : Document.closing close a = .ok b) : a = b := by
  cases close with
  | none => exact Except.ok.inj h
  | some e => cases h

mutual

/-- What a document is read as is ordered. -/
theorem ordered_of_document : ∀ (d : Document) {j : Json}, d.json = .ok j → j.Ordered
  | .null, _, h | .bool _, _, h | .num _, _, h | .str _, _, h => by
    rw [Document.json, Except.ok.injEq] at h
    subst h
    trivial
  | .arr items close, j, h => by
    rw [Document.json] at h
    split at h
    · rename_i xs hxs
      rw [← closing_eq_ok h]
      exact orderedItems_of_documents items hxs
    · cases h
  | .obj members close, j, h => by
    rw [Document.json] at h
    split at h
    · rename_i ms hms
      rw [← closing_eq_ok h]
      exact ordered_object (orderedMembers_of_documents members hms)
    · cases h
  | .broken _, _, h | .misspelt _ _, _, h | .strict _ _ _, _, h | .tooDeep _, _, h
  | .key _ _, _, h => by cases h

/-- What documents are read as is ordered item by item. -/
theorem orderedItems_of_documents : ∀ (ds : List Document) {items : List Json},
    Document.jsonItems ds = .ok items → OrderedItems items
  | [], _, h => by
    rw [Document.jsonItems, Except.ok.injEq] at h
    subst h
    trivial
  | d :: ds, _, h => by
    rw [Document.jsonItems] at h
    split at h
    · cases h
    · rename_i j hj
      split at h
      · cases h
      · rename_i js hjs
        rw [← Except.ok.inj h]
        exact ⟨ordered_of_document d hj, orderedItems_of_documents ds hjs⟩

/-- What the documents of members are read as is ordered member by member. -/
theorem orderedMembers_of_documents : ∀ (ds : List (String × Document))
    {members : List (String × Json)},
    Document.jsonMembers ds = .ok members → OrderedMembers members
  | [], _, h => by
    rw [Document.jsonMembers, Except.ok.injEq] at h
    subst h
    trivial
  | (_, d) :: ds, _, h => by
    rw [Document.jsonMembers] at h
    split at h
    · cases h
    · rename_i j hj
      split at h
      · cases h
      · rename_i js hjs
        rw [← Except.ok.inj h]
        exact ⟨ordered_of_document d hj, orderedMembers_of_documents ds hjs⟩

end

/-- What a text is read as is ordered. -/
theorem ordered_of_parse {s : String} {j : Json} (h : parse s = .ok j) : j.Ordered := by
  unfold parse at h
  split at h
  split at h
  · rename_i hd
    rw [← closing_eq_ok h]
    exact ordered_of_document _ hd
  · cases h

/-! ## Equality as JSON -/

/-- A number is the same as itself. -/
theorem Number.same_refl (n : Number) : n.same n = true := by
  cases n <;> simp [Number.same, Double.sameValue]

mutual

/-- Every value is the same as itself. -/
theorem same_refl : (j : Json) → j.same j = true
  | .null => rfl
  | .bool _ => by simp [same]
  | .num n => by simp [same, Number.same_refl]
  | .str _ => by simp [same]
  | .arr items => by simp [same, sameItems_refl items]
  | .obj members => by simp [same, sameMembers_refl members]

/-- Items are the same as themselves. -/
theorem sameItems_refl : (items : List Json) → sameItems items items = true
  | [] => rfl
  | x :: xs => by simp [sameItems, same_refl x, sameItems_refl xs]

/-- Members are the same as themselves. -/
theorem sameMembers_refl : (members : List (String × Json)) → sameMembers members members = true
  | [] => rfl
  | (k, x) :: xs => by simp [sameMembers, same_refl x, sameMembers_refl xs]

end

/-- Two lists of items are the same exactly if they are so item by item. -/
theorem sameItems_iff {xs ys : List Json} :
    sameItems xs ys = true ↔ List.Forall₂ (fun x y => same x y = true) xs ys := by
  induction xs generalizing ys with
  | nil => cases ys <;> simp [sameItems]
  | cons x xs ih => cases ys <;> simp [sameItems, ih]

/-- Two lists of members are the same exactly if they are so member by member, with the same
keys. -/
theorem sameMembers_iff {xs ys : List (String × Json)} :
    sameMembers xs ys = true ↔
      List.Forall₂ (fun e f => e.1 = f.1 ∧ same e.2 f.2 = true) xs ys := by
  induction xs generalizing ys with
  | nil => cases ys <;> simp [sameMembers]
  | cons e xs ih => rcases ys with _ | ⟨f, ys⟩ <;> simp [sameMembers, ih]

/-- Under each key, the same members have the same value, or both have none. -/
theorem rel_get?_of_sameMembers {xs ys : List (String × Json)} (h : sameMembers xs ys = true)
    (key : String) :
    Option.Rel (fun x y => same x y = true) (Assoc.get? key xs) (Assoc.get? key ys) :=
  Assoc.rel_get?_of_forall₂ (sameMembers_iff.1 h) key

/-- Two sorted lists of members are the same if their look-ups are. -/
theorem sameMembers_of_rel_get? {xs ys : List (String × Json)} (hx : Assoc.Sorted xs)
    (hy : Assoc.Sorted ys)
    (h : ∀ key, Option.Rel (fun x y => same x y = true) (Assoc.get? key xs) (Assoc.get? key ys)) :
    sameMembers xs ys = true :=
  sameMembers_iff.2 (Assoc.forall₂_of_get? hx hy h)

/-- Only null is what null is the same as. -/
theorem eq_null_of_null_same {j : Json} (h : Json.null.same j = true) : j = .null := by
  cases j with
  | null => rfl
  | _ => cases h

/-- Only null is the same as null. -/
theorem eq_null_of_same_null {j : Json} (h : j.same .null = true) : j = .null := by
  cases j with
  | null => rfl
  | _ => cases h

/-- Only a null can be where the same value is a null. -/
theorem eq_some_null_of_rel_same {o : Option Json}
    (h : Option.Rel (fun x y => same x y = true) o (some .null)) : o = some .null := by
  cases h with
  | some h => rw [eq_null_of_same_null h]

/-- The same values have the same child under each name, or both have none. -/
theorem rel_child?_of_same {a b : Json} (h : a.same b = true) (t : String) :
    Option.Rel (fun x y => same x y = true) (a.child? t) (b.child? t) := by
  cases a <;> cases b <;> simp only [same, Bool.false_eq_true] at h
  case arr.arr xs ys =>
    simp only [child?]
    cases Pointer.index? t with
    | none => exact .none
    | some i =>
      have hf := sameItems_iff.1 h
      rw [Option.bind_some, Option.bind_some]
      by_cases hi : i < xs.length
      · have hi' : i < ys.length := hf.length_eq ▸ hi
        rw [List.getElem?_eq_getElem hi, List.getElem?_eq_getElem hi']
        exact .some ((List.forall₂_iff_get.1 hf).2 i hi hi')
      · have hi' : ¬ i < ys.length := hf.length_eq ▸ hi
        rw [List.getElem?_eq_none (Nat.not_lt.1 hi), List.getElem?_eq_none (Nat.not_lt.1 hi')]
        exact .none
  case obj.obj xs ys => exact rel_get?_of_sameMembers h t
  all_goals exact .none

/-- Values that are the same have the same places, and what is there is the same. -/
theorem rel_at?_of_same {a b : Json} (h : a.same b = true) (path : List String) :
    Option.Rel (fun x y => same x y = true) (a.at? path) (b.at? path) := by
  induction path generalizing a b with
  | nil => exact .some h
  | cons t ts ih =>
    have hrel := rel_child?_of_same h t
    rw [at?, at?]
    generalize a.child? t = x at hrel ⊢
    generalize b.child? t = y at hrel ⊢
    cases hrel with
    | none => exact .none
    | some hxy => exact ih hxy

/-- What stands at a path of two values that are the same is the same. -/
theorem same_at? {path : List String} {a b x y : Json} (h : a.same b = true)
    (hx : a.at? path = some x) (hy : b.at? path = some y) : x.same y = true := by
  have hrel := rel_at?_of_same h path
  rw [hx, hy] at hrel
  simpa using hrel

/-! ## Signs of zeros -/

/-- Whether at no place inside two values there is a zero in both, with another sign. The places that
only one of them has do not matter. -/
def SignsKept (old new : Json) : Prop :=
  ∀ (path : List String) (a b : Double), old.at? path = some (.num (.double a)) →
    new.at? path = some (.num (.double b)) → a.sameValue b = true → a = b

/-- Null has no zeros with another sign. -/
theorem signsKept_null (j : Json) : j.SignsKept .null := by
  intro path a b _ hb _
  cases path with
  | nil => cases hb
  | cons t ts => cases hb

/-- Where the signs of zeros are kept, they are so inside of each child. -/
theorem SignsKept.of_child? {old new x y : Json} {t : String} (h : old.SignsKept new)
    (hx : old.child? t = some x) (hy : new.child? t = some y) : x.SignsKept y := by
  intro path a b ha hb hab
  refine h (t :: path) a b ?_ ?_ hab
  · rw [at?, hx, Option.bind_some, ha]
  · rw [at?, hy, Option.bind_some, hb]

end Json

end TopologyHooks
