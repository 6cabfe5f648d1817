import TopologyHooks.Upsert
import Mathlib.Data.List.Basic

/-!
# Lists that were changed in place

* `upsert_eq_self_iff` — `upsert` changes nothing exactly if the first item with the key is the new
  one; it leaves the first items of other keys alone (`find?_upsert_of_ne`), and all items but the
  first one of its own key (`eraseP_upsert`).
* `appendAllNew_eq`, `exists_appendAllNew` — which items are appended, and in which order; appending
  the same items again changes nothing (`appendAllNew_appendAllNew`).
* `upsertAll_upsertAll` — nor does upserting the same items again, even if some of them have a key
  in common: then the last one stays.
* `map_key_upsertAll`, `find?_upsertAll`, `getElem?_upsertAll_of_ne` — what upserting several items
  makes of a list: which keys stand where, what the first item of each key is, and which items stay
  in their places.
-/

set_option autoImplicit false

namespace TopologyHooks

/-! ## One item with a key -/

section

variable {α κ : Type} [DecidableEq κ] {key : α → κ} {new other : α} {k : κ}

/-- An upsert changes nothing exactly if the first entry of the key is the new one already. -/
theorem upsert_eq_self_iff : ∀ {xs : List α},
    upsert key new xs = xs ↔ xs.find? (fun x => key x = key new) = some new
  | [] => by simp [upsert]
  | x :: xs => by
    by_cases h : key x = key new
    · simp [upsert, h, eq_comm]
    · simp [upsert, h, upsert_eq_self_iff]

/-- After an upsert the new entry is the first of its key. -/
theorem find?_upsert_self : ∀ (xs : List α),
    (upsert key new xs).find? (fun x => key x = key new) = some new
  | [] => by simp [upsert]
  | x :: xs => by
    by_cases h : key x = key new
    · simp [upsert, h]
    · simp [upsert, h, find?_upsert_self xs]

/-- An upsert leaves the first entries of other keys alone. -/
theorem find?_upsert_of_ne (h : key new ≠ k) : ∀ xs : List α,
    (upsert key new xs).find? (fun x => key x = k) = xs.find? (fun x => key x = k)
  | [] => by simp [upsert, h]
  | x :: xs => by
    by_cases hx : key x = key new
    · simp [upsert, hx, h]
    · rw [upsert, if_neg hx, List.find?_cons, List.find?_cons, find?_upsert_of_ne h xs]

/-- An upserted item is the first one of its key. -/
theorem eraseP_upsert : ∀ xs : List α,
    (upsert key new xs).eraseP (fun x => key x = key new) =
      xs.eraseP (fun x => key x = key new)
  | [] => by simp [upsert]
  | x :: xs => by
    by_cases h : key x = key new
    · simp [upsert, h]
    · simp [upsert, h, eraseP_upsert xs]

/-- Of two items with one key the second one stays. -/
theorem upsert_upsert_of_eq (h : key other = key new) : ∀ xs : List α,
    upsert key new (upsert key other xs) = upsert key new xs
  | [] => by simp [upsert, h]
  | x :: xs => by
    by_cases hx : key x = key new
    · simp [upsert, h, hx]
    · simp [upsert, h, hx, upsert_upsert_of_eq h xs]

/-- Items of two keys may change places if one of the keys is there already. -/
theorem upsert_comm (h : key other ≠ key new) : ∀ {xs : List α}, key other ∈ xs.map key →
    upsert key new (upsert key other xs) = upsert key other (upsert key new xs)
  | [], hmem => by simp at hmem
  | x :: xs, hmem => by
    by_cases hx : key x = key other
    · simp [upsert, hx, h]
    · have hrest : key other ∈ xs.map key := by
        rcases List.mem_cons.1 hmem with he | hrest
        · exact absurd he.symm hx
        · exact hrest
      by_cases hn : key x = key new
      · simp [upsert, hn, Ne.symm h]
      · simp [upsert, hx, hn, upsert_comm h hrest]

/-- An upsert drops no entry. -/
theorem length_le_length_upsert : ∀ xs : List α, xs.length ≤ (upsert key new xs).length
  | [] => Nat.zero_le _
  | x :: xs => by
    rw [upsert]
    split
    · exact Nat.le_refl _
    · exact Nat.succ_le_succ (length_le_length_upsert xs)

/-- Where two items of different keys are upserted, one of them at most takes the place of an item
that is there. -/
theorem getElem?_upsert_upsert (h : key other ≠ key new) : ∀ {xs : List α} {i : Nat} {x y : α},
    xs[i]? = some x → (upsert key new xs)[i]? = some y →
    ∃ z w, (upsert key other xs)[i]? = some z ∧
      (upsert key new (upsert key other xs))[i]? = some w ∧ (z = x ∧ w = y ∨ y = x)
  | [], _, _, _, hx, _ => by simp at hx
  | a :: xs, i, x, y, hx, hy => by
    by_cases ho : key a = key other
    -- the first item takes the other entry, and the new one goes behind it
    · have hn : key a ≠ key new := fun hn => h (ho.symm.trans hn)
      rw [upsert, if_neg hn] at hy
      rw [upsert, if_pos ho, upsert, if_neg h]
      cases i with
      | zero => exact ⟨other, other, rfl, rfl, .inr (Option.some.inj (hy.symm.trans hx))⟩
      | succ i => exact ⟨x, y, hx, hy, .inl ⟨rfl, rfl⟩⟩
    · rw [upsert, if_neg ho]
      by_cases hn : key a = key new
      · rw [upsert, if_pos hn] at hy ⊢
        cases i with
        | zero => exact ⟨a, new, rfl, rfl, .inl ⟨Option.some.inj hx, Option.some.inj hy⟩⟩
        | succ i =>
          have hi : i < xs.length := (List.getElem?_eq_some_iff.1 (show xs[i]? = some x from hx)).1
          have hlt : i < (upsert key other xs).length :=
            Nat.lt_of_lt_of_le hi (length_le_length_upsert xs)
          have hz := List.getElem?_eq_getElem hlt
          exact ⟨_, _, hz, hz, .inr (Option.some.inj (hy.symm.trans hx))⟩
      · rw [upsert, if_neg hn] at hy ⊢
        cases i with
        | zero => exact ⟨a, a, rfl, rfl, .inr (Option.some.inj (hy.symm.trans hx))⟩
        | succ i => exact getElem?_upsert_upsert h hx hy

/-- The keys after an upsert: the old ones, and that of the new entry. -/
theorem mem_map_upsert : ∀ {xs : List α},
    k ∈ (upsert key new xs).map key ↔ k = key new ∨ k ∈ xs.map key
  | [] => by simp [upsert]
  | x :: xs => by
    by_cases hx : key x = key new
    · simp [upsert, hx]
    · simp only [upsert, if_neg hx, List.map_cons, List.mem_cons, mem_map_upsert]
      tauto

end

/-! ## Several items with keys -/

section

variable {α κ : Type} [DecidableEq κ]

/-- Upserts several items, one after the other. -/
def upsertAll (key : α → κ) (new xs : List α) : List α :=
  new.foldl (fun xs x => upsert key x xs) xs

variable {key : α → κ} {a : α}

/-- Many upserts are made one after the other. -/
theorem upsertAll_cons (key : α → κ) (a : α) (new xs : List α) :
    upsertAll key (a :: new) xs = upsertAll key new (upsert key a xs) := rfl

/-- An item is of no account before others of which one has its key. -/
theorem upsertAll_upsert_of_mem : ∀ {new xs : List α}, key a ∈ new.map key → key a ∈ xs.map key →
    upsertAll key new (upsert key a xs) = upsertAll key new xs
  | [], _, h, _ => by simp at h
  | b :: new, xs, h, hxs => by
    rw [upsertAll_cons, upsertAll_cons]
    by_cases hb : key a = key b
    · rw [upsert_upsert_of_eq hb]
    · have hnew : key a ∈ new.map key := by
        rcases List.mem_cons.1 h with he | hnew
        · exact absurd he hb
        · exact hnew
      rw [upsert_comm hb hxs]
      exact upsertAll_upsert_of_mem hnew (mem_map_upsert.2 (.inr hxs))

/-- Many upserts leave the first entry of a key alone that none of them has. -/
theorem find?_upsertAll_of_not_mem {k : κ} : ∀ {new xs : List α}, k ∉ new.map key →
    (upsertAll key new xs).find? (fun x => key x = k) = xs.find? (fun x => key x = k)
  | [], _, _ => rfl
  | b :: new, xs, h => by
    obtain ⟨hb, hnew⟩ := not_or.1 (List.mem_cons.not.1 h)
    rw [upsertAll_cons, find?_upsertAll_of_not_mem hnew, find?_upsert_of_ne (Ne.symm hb)]

/-- The last one of several items of a key stays, and stands first. -/
theorem find?_upsertAll_last {earlier later : List α} (h : key a ∉ later.map key) (xs : List α) :
    (upsertAll key (earlier ++ a :: later) xs).find? (fun x => key x = key a) = some a := by
  rw [upsertAll, List.foldl_append, List.foldl_cons]
  exact (find?_upsertAll_of_not_mem h).trans (find?_upsert_self _)

/-- Many upserts drop no key. -/
theorem mem_map_upsertAll {k : κ} : ∀ {new xs : List α},
    k ∈ xs.map key → k ∈ (upsertAll key new xs).map key
  | [], _, h => h
  | b :: new, xs, h => by
    rw [upsertAll_cons]
    exact mem_map_upsertAll (mem_map_upsert.2 (.inr h))

/-- Many upserts drop no entry. -/
theorem length_le_length_upsertAll : ∀ new xs : List α,
    xs.length ≤ (upsertAll key new xs).length
  | [], _ => Nat.le_refl _
  | b :: new, xs => by
    rw [upsertAll_cons]
    exact Nat.le_trans (length_le_length_upsert xs) (length_le_length_upsertAll new _)

/-- Upserting the same items again changes nothing. -/
theorem upsertAll_upsertAll : ∀ (new xs : List α),
    upsertAll key new (upsertAll key new xs) = upsertAll key new xs
  | [], _ => rfl
  | a :: new, xs => by
    -- what the first item does again is undone by a later one of its key, if there is one
    have ih := upsertAll_upsertAll new (upsert key a xs)
    rw [upsertAll_cons key a new xs, upsertAll_cons]
    by_cases ha : key a ∈ new.map key
    · have hmem : key a ∈ (upsertAll key new (upsert key a xs)).map key :=
        mem_map_upsertAll (mem_map_upsert.2 (.inl rfl))
      rw [upsertAll_upsert_of_mem ha hmem, ih]
    · have hfind : (upsertAll key new (upsert key a xs)).find? (fun x => key x = key a) = some a :=
        (find?_upsertAll_of_not_mem ha).trans (find?_upsert_self xs)
      rw [upsert_eq_self_iff.2 hfind, ih]

end

/-! ## Items that were not there -/

section

variable {α : Type} [DecidableEq α] {xs : List α} {x y : α}

/-- The items after one was added: the old ones, and that one. -/
theorem mem_appendNew : y ∈ appendNew xs x ↔ y ∈ xs ∨ y = x := by
  unfold appendNew
  split
  · rename_i h
    exact ⟨.inl, fun hy => hy.elim id fun e => e ▸ h⟩
  · simp

/-- Adding an item keeps the old ones in front. -/
theorem prefix_appendNew : xs <+: appendNew xs x := by
  unfold appendNew
  split
  · exact List.prefix_rfl
  · exact List.prefix_append _ _

/-- Adding an item changes nothing exactly if it is there already. -/
theorem appendNew_eq_self_iff : appendNew xs x = xs ↔ x ∈ xs := by
  simp [appendNew]

/-- Many items are added one after the other. -/
theorem appendAllNew_cons (xs new : List α) (x : α) :
    appendAllNew xs (x :: new) = appendAllNew (appendNew xs x) new := rfl

/-- The items after many were added: the old ones, and those. -/
theorem mem_appendAllNew : ∀ {new xs : List α}, y ∈ appendAllNew xs new ↔ y ∈ xs ∨ y ∈ new
  | [], _ => by simp [appendAllNew]
  | x :: new, xs => by
    rw [appendAllNew_cons, mem_appendAllNew, mem_appendNew, List.mem_cons, or_assoc]

/-- Adding items that are all there already changes nothing. -/
theorem appendAllNew_eq_self : ∀ {new : List α}, (∀ y ∈ new, y ∈ xs) → appendAllNew xs new = xs
  | [], _ => rfl
  | x :: new, h => by
    rw [appendAllNew_cons, appendNew_eq_self_iff.2 (h x List.mem_cons_self)]
    exact appendAllNew_eq_self fun y hy => h y (List.mem_cons_of_mem _ hy)

/-- Appending the same items again changes nothing. -/
theorem appendAllNew_appendAllNew (xs new : List α) :
    appendAllNew (appendAllNew xs new) new = appendAllNew xs new :=
  appendAllNew_eq_self fun _ hy => mem_appendAllNew.2 (.inr hy)

/-- What is appended is what was not there, each item once, in the order of first occurrence. -/
theorem appendAllNew_eq : ∀ xs new : List α,
    appendAllNew xs new = xs ++ (new.filter (· ∉ xs)).eraseDups
  | xs, [] => by simp [appendAllNew]
  | xs, x :: new => by
    rw [appendAllNew_cons, appendAllNew_eq]
    by_cases hx : x ∈ xs
    · rw [appendNew_eq_self_iff.2 hx, List.filter_cons_of_neg (by simpa using hx)]
    · have hsplit : new.filter (· ∉ xs ++ [x]) = (new.filter (· ∉ xs)).filter fun y => !y == x := by
        rw [List.filter_filter]
        refine List.filter_congr fun y _ => ?_
        rw [Bool.eq_iff_iff]
        simp [and_comm]
      rw [appendNew, if_neg hx, List.filter_cons_of_pos (by simpa using hx), List.eraseDups_cons,
        hsplit, List.append_assoc, List.singleton_append]

/-- What was there stays in front, and what is appended was not there and is appended once. -/
theorem exists_appendAllNew : ∀ new xs : List α, ∃ more, appendAllNew xs new = xs ++ more ∧
    more.Nodup ∧ ∀ y, y ∈ more ↔ y ∈ new ∧ y ∉ xs
  | [], xs => ⟨[], (List.append_nil xs).symm, List.nodup_nil, by simp⟩
  | x :: new, xs => by
    rw [appendAllNew_cons]
    by_cases hx : x ∈ xs
    · obtain ⟨more, hmore, hnd, hmem⟩ := exists_appendAllNew new xs
      rw [appendNew_eq_self_iff.2 hx]
      refine ⟨more, hmore, hnd, fun y => (hmem y).trans ?_⟩
      rw [List.mem_cons, or_and_right]
      exact (or_iff_right fun hy => hy.2 (hy.1 ▸ hx)).symm
    · obtain ⟨more, hmore, hnd, hmem⟩ := exists_appendAllNew new (xs ++ [x])
      rw [appendNew, if_neg hx]
      have hx' : x ∉ more := fun h => ((hmem x).1 h).2 (by simp)
      refine ⟨x :: more, hmore.trans (List.append_cons xs x more).symm,
        List.nodup_cons.2 ⟨hx', hnd⟩, fun y => ?_⟩
      rw [List.mem_cons, hmem, List.mem_cons, List.mem_append, List.mem_singleton]
      by_cases hy : y = x
      · simp [hy, hx]
      · simp [hy]

/-- Adding items to a list without repetitions makes none. -/
theorem nodup_appendAllNew (h : xs.Nodup) (new : List α) : (appendAllNew xs new).Nodup := by
  obtain ⟨more, hmore, hnd, hmem⟩ := exists_appendAllNew new xs
  rw [hmore, List.nodup_append]
  exact ⟨h, hnd, fun a ha b hb hab => ((hmem b).1 hb).2 (hab ▸ ha)⟩

end

/-! ## Keys and places after upserting -/

section

variable {α κ : Type} [DecidableEq κ] {key : α → κ} {new : α}

/-- Among the keys, an upsert adds that of the new entry. -/
theorem map_key_upsert : ∀ {xs : List α},
    (upsert key new xs).map key = appendNew (xs.map key) (key new)
  | [] => rfl
  | x :: xs => by
    by_cases hx : key x = key new
    · simp [upsert, appendNew, hx]
    · have hiff : key new ∈ key x :: xs.map key ↔ key new ∈ xs.map key := by
        rw [List.mem_cons, or_iff_right (Ne.symm hx)]
      rw [upsert, if_neg hx, List.map_cons, map_key_upsert, List.map_cons, appendNew, appendNew]
      simp only [hiff]
      split <;> rfl

/-- An item stays in its place if it is not the first one with the key of the new one. -/
theorem getElem?_upsert_of_ne {u : α} : ∀ {xs : List α} {i : Nat}, xs[i]? = some u →
    key u ≠ key new ∨ key u ∈ (xs.take i).map key → (upsert key new xs)[i]? = some u
  | [], _, h, _ => by simp at h
  | x :: xs, i, h, hu => by
    by_cases hx : key x = key new
    · rw [upsert, if_pos hx]
      cases i with
      | zero => simp_all
      | succ i => exact h
    · rw [upsert, if_neg hx]
      cases i with
      | zero => exact h
      | succ i =>
        have hrest : xs[i]? = some u := h
        refine getElem?_upsert_of_ne hrest ?_
        rw [List.take_succ_cons, List.map_cons, List.mem_cons] at hu
        rcases hu with hu | hu | hu
        · exact .inl hu
        · exact .inl fun he => hx (hu.symm.trans he)
        · exact .inr hu

/-- An upsert leaves the keys at all places of the list alone. -/
theorem take_map_upsert {xs : List α} {i : Nat} (h : i ≤ xs.length) :
    ((upsert key new xs).take i).map key = (xs.take i).map key := by
  have hprefix : xs.map key <+: appendNew (xs.map key) (key new) := prefix_appendNew
  obtain ⟨more, hmore⟩ := hprefix
  rw [List.map_take, map_key_upsert, List.map_take]
  rw [← hmore, List.take_append_of_le_length (by simpa using h)]

/-- Among the keys, many upserts add those of the new entries. -/
theorem map_key_upsertAll : ∀ new xs : List α,
    (upsertAll key new xs).map key = appendAllNew (xs.map key) (new.map key)
  | [], _ => rfl
  | a :: new, xs => by
    rw [upsertAll_cons, map_key_upsertAll new, map_key_upsert, List.map_cons, appendAllNew_cons]

/-- An item stays in its place if no upserted one has its key, or an earlier item has it. -/
theorem getElem?_upsertAll_of_ne {u : α} : ∀ {new xs : List α} {i : Nat}, xs[i]? = some u →
    key u ∉ new.map key ∨ key u ∈ (xs.take i).map key → (upsertAll key new xs)[i]? = some u
  | [], _, _, h, _ => h
  | a :: new, xs, i, h, hu => by
    have hi : i < xs.length := (List.getElem?_eq_some_iff.1 h).1
    rw [List.map_cons, List.mem_cons, not_or] at hu
    rw [upsertAll_cons]
    refine getElem?_upsertAll_of_ne (getElem?_upsert_of_ne h (hu.imp And.left id)) ?_
    rw [take_map_upsert (Nat.le_of_lt hi)]
    exact hu.imp And.right id

end

end TopologyHooks
