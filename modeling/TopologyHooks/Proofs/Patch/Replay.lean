import TopologyHooks.Proofs.Patch.Run

/-!
# Replaying a difference on another value

The difference of two values may be run on a third one that only resembles the first. For objects
what happens to each member depends on that member alone (`Patch.run?_diff_obj`), and for arrays
what happens to each item depends on that item and its place (`Patch.run?_diff_arr`). A difference
of objects with any step fails on an array, unless a key reads like an index
(`Patch.run?_diff_obj_arr`).
-/

set_option autoImplicit false

namespace TopologyHooks

namespace Assoc

variable {α : Type}

/-- Gives a key a value, or drops the key. -/
def update (key : String) : Option α → List (String × α) → List (String × α)
  | some a, entries => insert key a entries
  | none, entries => erase key entries

/-- An update is found under its key, and changes nothing under others. -/
theorem get?_update (key other : String) (a : Option α) (entries : List (String × α)) :
    get? other (update key a entries) = if key = other then a else get? other entries := by
  cases a <;> simp [update, get?_insert, get?_erase]

/-- A sorted list stays sorted when it is updated. -/
theorem sorted_update (key : String) (a : Option α) {entries : List (String × α)}
    (h : Sorted entries) : Sorted (update key a entries) := by
  cases a with
  | none => exact sorted_erase key h
  | some a => exact sorted_insert key a h

/-- To update a key with what it has changes nothing. -/
theorem update_get? {key : String} {entries : List (String × α)} (h : Sorted entries) :
    update key (get? key entries) entries = entries := by
  refine eq_of_get?_eq (sorted_update key _ h) h fun other => ?_
  rw [get?_update]
  split
  · subst_vars; rfl
  · rfl

end Assoc

namespace Patch

open Operation

/-! ## Steps of a difference -/

/-- The steps for members that are gone are plain. -/
theorem plain_of_mem_diffGone {here : Pointer} {new old : List (String × Json)} {o : Operation}
    (h : o ∈ diffGone here new old) : o.Plain := by
  induction old with
  | nil => simp [diffGone] at h
  | cons e rest ih =>
    rw [diffGone] at h
    split at h
    · exact ih h
    · rcases List.mem_cons.1 h with rfl | h
      · simp [Plain, Pointer.push]
      · exact ih h

mutual

/-- The steps of a difference at any place are plain. -/
theorem plain_of_mem_diffAt : ∀ (new : Json) {here : Pointer} {old : Json} {o : Operation},
    o ∈ diffAt here old new → o.Plain
  | .null, _, _, o, h => by simp only [diffAt] at h; split at h <;> simp_all [Plain]
  | .bool _, _, _, o, h => by simp only [diffAt] at h; split at h <;> simp_all [Plain]
  | .num _, _, _, o, h => by simp only [diffAt] at h; split at h <;> simp_all [Plain]
  | .str _, _, _, o, h => by simp only [diffAt] at h; split at h <;> simp_all [Plain]
  | .arr new, _, old, o, h => by
    cases old with
    | arr items => exact plain_of_mem_diffItems new h
    | _ => simp_all [diffAt, Plain]
  | .obj new, _, old, o, h => by
    cases old with
    | obj members =>
      rcases List.mem_append.1 h with h | h
      · exact plain_of_mem_diffMembers new h
      · exact plain_of_mem_diffGone h
    | _ => simp_all [diffAt, Plain]

/-- The steps for members are plain. -/
theorem plain_of_mem_diffMembers :
    ∀ (new : List (String × Json)) {here : Pointer} {old : List (String × Json)} {o : Operation},
      o ∈ diffMembers here old new → o.Plain
  | [], _, _, _, h => by simp [diffMembers] at h
  | (k, x) :: rest, _, old, o, h => by
    rw [diffMembers] at h
    rcases List.mem_append.1 h with h | h
    · cases hk : Assoc.get? k old with
      | none => simp_all [Plain, Pointer.push]
      | some y =>
        rw [hk] at h
        exact plain_of_mem_diffAt x h
    · exact plain_of_mem_diffMembers rest h

/-- The steps for items are plain. -/
theorem plain_of_mem_diffItems :
    ∀ (new : List Json) {here : Pointer} {index : Nat} {old : List Json} {o : Operation},
      o ∈ diffItems here index old new → o.Plain
  | [], _, _, old, o, h => by
    rw [diffItems, List.mem_map] at h
    obtain ⟨_, _, rfl⟩ := h
    simp [Plain, Pointer.push]
  | x :: new, _, _, [], o, h => by
    rw [diffItems] at h
    rcases List.mem_cons.1 h with rfl | h
    · simp [Plain, Pointer.push]
    · exact plain_of_mem_diffItems new h
  | x :: new, _, _, y :: old, o, h => by
    rw [diffItems] at h
    rcases List.mem_append.1 h with h | h
    · exact plain_of_mem_diffAt x h
    · exact plain_of_mem_diffItems new h

end

/-- The steps of a difference add, replace or remove. -/
theorem plain_of_mem_diff {old new : Json} {o : Operation} (h : o ∈ diff old new) : o.Plain :=
  plain_of_mem_diffAt new h

/-! ## Members -/

/-- The steps for one member of two objects. -/
def memberDiff (key : String) : Option Json → Option Json → Patch
  | none, none => []
  | none, some y => [add ⟨[key]⟩ y]
  | some _, none => [remove ⟨[key]⟩]
  | some x, some y => (diff x y).map (shift [key])

/-- What the steps for a member do to that member of another object: before it is `j`, and after
it is `j'`. -/
def MemberReplay : (x y j j' : Option Json) → Prop
  | none, none, j, j' => j' = j
  | none, some y, _, j' => j' = some y
  | some _, none, j, j' => j.isSome ∧ j' = none
  | some x, some y, none, j' => diff x y = [] ∧ j' = none
  | some x, some y, some a, j' => ∃ a', j' = some a' ∧ run? (diff x y) a = some a'

/-- The steps for a member change this member of an object, and nothing else of it. -/
theorem run?_memberDiff {key : String} {x y : Option Json} {members : List (String × Json)}
    (hs : Assoc.Sorted members) {r : Json} :
    run? (memberDiff key x y) (.obj members) = some r ↔
      ∃ j', MemberReplay x y (Assoc.get? key members) j' ∧
        r = .obj (Assoc.update key j' members) := by
  rcases x with _ | x <;> rcases y with _ | y
  · simp [memberDiff, MemberReplay, Assoc.update_get? hs, eq_comm]
  · simp [memberDiff, MemberReplay, run?, step?_add, Json.addAt?, Json.addChild?, Assoc.update,
      eq_comm]
  · cases hk : Assoc.get? key members <;>
      simp [memberDiff, MemberReplay, run?, step?_remove, Json.removeAt?, Json.removeChild?, hk,
        Assoc.update, eq_comm]
  · by_cases hd : diff x y = []
    · have hu : Assoc.update key (Assoc.get? key members) members = members :=
        Assoc.update_get? hs
      simp only [memberDiff, hd, List.map_nil, run?_nil, Option.some.injEq]
      cases hk : Assoc.get? key members with
      | none =>
        rw [hk] at hu
        simp [MemberReplay, hd, hu, eq_comm (a := r)]
      | some a =>
        rw [hk] at hu
        simp [MemberReplay, hd, hu, eq_comm (a := r)]
    · rw [memberDiff, run?_shift (fun _ => plain_of_mem_diff) hd]
      cases hk : Assoc.get? key members with
      | none => simp [Json.within?, hk, MemberReplay, hd]
      | some a =>
        simp only [Json.within?, hk, MemberReplay, Option.map_eq_some_iff]
        constructor
        · rintro ⟨a', ha, rfl⟩
          exact ⟨some a', ⟨a', rfl, ha⟩, rfl⟩
        · rintro ⟨_, ⟨a', rfl, ha⟩, rfl⟩
          exact ⟨a', ha, rfl⟩

/-- Steps for members with distinct keys do to each of them what the steps for it do. -/
theorem run?_memberDiffs (x y : String → Option Json) :
    ∀ {keys : List String}, keys.Nodup → ∀ {members : List (String × Json)},
      Assoc.Sorted members → ∀ {r : Json},
      (run? (keys.flatMap fun key => memberDiff key (x key) (y key)) (.obj members) = some r ↔
        ∃ members', r = .obj members' ∧ Assoc.Sorted members' ∧
          (∀ key ∈ keys,
            MemberReplay (x key) (y key) (Assoc.get? key members) (Assoc.get? key members')) ∧
          ∀ key, key ∉ keys → Assoc.get? key members' = Assoc.get? key members)
  | [], _, members, hs, r => by
    constructor
    · intro h
      simp only [List.flatMap_nil, run?_nil, Option.some.injEq] at h
      exact ⟨members, h.symm, hs, by simp, fun _ _ => rfl⟩
    · rintro ⟨members', rfl, hs', -, h⟩
      rw [Assoc.eq_of_get?_eq hs' hs fun key => h key List.not_mem_nil]
      rfl
  | k :: keys, hnd, members, hs, r => by
    obtain ⟨hk, hnd⟩ := List.nodup_cons.1 hnd
    rw [List.flatMap_cons, run?_append, Option.bind_eq_some_iff]
    constructor
    · rintro ⟨d, hd, hr⟩
      obtain ⟨j', hj, rfl⟩ := (run?_memberDiff hs).1 hd
      obtain ⟨members', rfl, hs', hin, hout⟩ :=
        (run?_memberDiffs x y hnd (Assoc.sorted_update k j' hs)).1 hr
      have hkj : Assoc.get? k members' = j' := by
        rw [hout k hk, Assoc.get?_update, if_pos rfl]
      -- the other keys are distinct from the first, so the later steps leave its member alone
      refine ⟨members', rfl, hs', fun key hkey => ?_, fun key hkey => ?_⟩
      · rcases List.mem_cons.1 hkey with rfl | hkey
        · rwa [hkj]
        · have hne : k ≠ key := fun e => hk (e ▸ hkey)
          have h := hin key hkey
          rwa [Assoc.get?_update, if_neg hne] at h
      · obtain ⟨hne, hkey⟩ := not_or.1 (List.mem_cons.not.1 hkey)
        rw [hout key hkey, Assoc.get?_update, if_neg (Ne.symm hne)]
    · rintro ⟨members', rfl, hs', hin, hout⟩
      refine ⟨_, (run?_memberDiff hs).2 ⟨_, hin k List.mem_cons_self, rfl⟩,
        (run?_memberDiffs x y hnd (Assoc.sorted_update k _ hs)).2
          ⟨members', rfl, hs', fun key hkey => ?_, fun key hkey => ?_⟩⟩
      · have hne : k ≠ key := fun e => hk (e ▸ hkey)
        rw [Assoc.get?_update, if_neg hne]
        exact hin key (List.mem_cons_of_mem _ hkey)
      · rw [Assoc.get?_update]
        split
        · subst_vars; rfl
        · exact hout key (by simp_all [eq_comm])

/-! ## Objects -/

/-- The keys of two lists of members, each once. -/
def unionKeys (xs ys : List (String × Json)) : List String :=
  ys.map Prod.fst ++ (xs.map Prod.fst).filter fun key => key ∉ ys.map Prod.fst

/-- The keys of two sorted objects are listed without repeating any. -/
theorem nodup_unionKeys {xs ys : List (String × Json)} (hx : Assoc.Sorted xs)
    (hy : Assoc.Sorted ys) : (unionKeys xs ys).Nodup := by
  refine List.nodup_append.2 ⟨hy.nodup_keys, hx.nodup_keys.filter _, ?_⟩
  intro a ha b hb
  rintro rfl
  simp_all

/-- The keys of two objects are those of the one and those of the other. -/
theorem mem_unionKeys {xs ys : List (String × Json)} {key : String} :
    key ∈ unionKeys xs ys ↔ key ∈ xs.map Prod.fst ∨ key ∈ ys.map Prod.fst := by
  simp only [unionKeys, List.mem_append, List.mem_filter, decide_eq_true_eq]
  tauto

/-- Under any other key, neither of two objects has a member. -/
theorem get?_eq_none_of_not_mem_unionKeys {xs ys : List (String × Json)} {key : String}
    (h : key ∉ unionKeys xs ys) : Assoc.get? key xs = none ∧ Assoc.get? key ys = none := by
  rw [mem_unionKeys, not_or] at h
  exact ⟨Assoc.get?_eq_none_iff.2 h.1, Assoc.get?_eq_none_iff.2 h.2⟩

/-- The steps for the members of the new object are those for each of its keys. -/
theorem diffMembers_eq (xs : List (String × Json)) (z : String → Option Json) :
    ∀ ys : List (String × Json), (∀ key y, (key, y) ∈ ys → z key = some y) →
      diffMembers .root xs ys =
        (ys.map Prod.fst).flatMap fun key => memberDiff key (Assoc.get? key xs) (z key)
  | [], _ => by simp [diffMembers]
  | (k, y) :: ys, h => by
    rw [diffMembers, List.map_cons, List.flatMap_cons,
      diffMembers_eq xs z ys fun key y hm => h key y (List.mem_cons_of_mem _ hm),
      h k y List.mem_cons_self]
    cases Assoc.get? k xs with
    | none => rfl
    | some x => exact congrArg (· ++ _) (diffAt_eq_map_shift [k] x y)

/-- The steps for the members that are gone are those for each key of the old object alone. -/
theorem diffGone_eq (ys : List (String × Json)) (z : String → Option Json) :
    ∀ xs : List (String × Json), (∀ key x, (key, x) ∈ xs → z key = some x) →
      diffGone .root ys xs =
        ((xs.map Prod.fst).filter fun key => key ∉ ys.map Prod.fst).flatMap fun key =>
          memberDiff key (z key) (Assoc.get? key ys)
  | [], _ => by simp [diffGone]
  | (k, x) :: xs, h => by
    have ih := diffGone_eq ys z xs fun key x hm => h key x (List.mem_cons_of_mem _ hm)
    by_cases hk : (Assoc.get? k ys).isSome
    · have hmem : k ∈ ys.map Prod.fst := Assoc.isSome_get?_iff.1 hk
      rw [diffGone, if_pos hk, ih, List.map_cons, List.filter_cons_of_neg (by simpa using hmem)]
    · have hmem : k ∉ ys.map Prod.fst := fun hm => hk (Assoc.isSome_get?_iff.2 hm)
      rw [diffGone, if_neg hk, ih, List.map_cons, List.filter_cons_of_pos (by simpa using hmem),
        List.flatMap_cons, h k x List.mem_cons_self, Assoc.get?_eq_none_iff.2 hmem]
      rfl

/-- The difference of two sorted objects consists of the steps for each of their keys. -/
theorem diff_obj {xs ys : List (String × Json)} (hx : Assoc.Sorted xs) (hy : Assoc.Sorted ys) :
    diff (.obj xs) (.obj ys) =
      (unionKeys xs ys).flatMap fun key =>
        memberDiff key (Assoc.get? key xs) (Assoc.get? key ys) := by
  rw [unionKeys, List.flatMap_append,
    ← diffMembers_eq xs _ ys fun _ _ => Assoc.get?_eq_some_of_mem hy,
    ← diffGone_eq ys _ xs fun _ _ => Assoc.get?_eq_some_of_mem hx]
  rfl

/-- What the difference of two objects does to a third one. -/
theorem run?_diff_obj {xs ys members : List (String × Json)} (hx : Assoc.Sorted xs)
    (hy : Assoc.Sorted ys) (hm : Assoc.Sorted members) {r : Json} :
    run? (diff (.obj xs) (.obj ys)) (.obj members) = some r ↔
      ∃ members', r = .obj members' ∧ Assoc.Sorted members' ∧
        ∀ key, MemberReplay (Assoc.get? key xs) (Assoc.get? key ys) (Assoc.get? key members)
          (Assoc.get? key members') := by
  rw [diff_obj hx hy, run?_memberDiffs _ _ (nodup_unionKeys hx hy) hm]
  refine exists_congr fun members' => and_congr_right fun _ => and_congr_right ?_
  intro _
  constructor
  · rintro ⟨hin, hout⟩ key
    by_cases hkey : key ∈ unionKeys xs ys
    · exact hin key hkey
    · obtain ⟨h1, h2⟩ := get?_eq_none_of_not_mem_unionKeys hkey
      rw [h1, h2]
      exact hout key hkey
  · intro h
    refine ⟨fun key _ => h key, ?_⟩
    intro key hkey
    obtain ⟨h1, h2⟩ := get?_eq_none_of_not_mem_unionKeys hkey
    have := h key
    rwa [h1, h2] at this

/-- A member of an object can be changed on its own. -/
theorem exists_get?_eq (f : String → Option Json) {members : List (String × Json)}
    (hs : Assoc.Sorted members) : ∀ keys : List String,
      ∃ members', Assoc.Sorted members' ∧ (∀ key ∈ keys, Assoc.get? key members' = f key) ∧
        ∀ key, key ∉ keys → Assoc.get? key members' = Assoc.get? key members
  | [] => ⟨members, hs, by simp, fun _ _ => rfl⟩
  | k :: keys => by
    obtain ⟨members', hs', hin, hout⟩ := exists_get?_eq f hs keys
    refine ⟨Assoc.update k (f k) members', Assoc.sorted_update k _ hs', fun key hkey => ?_,
      fun key hkey => ?_⟩
    · rw [Assoc.get?_update]
      split
      · subst_vars; rfl
      · exact hin key ((List.mem_cons.1 hkey).resolve_left (Ne.symm ‹_›))
    · obtain ⟨hne, hkey⟩ := not_or.1 (List.mem_cons.not.1 hkey)
      rw [Assoc.get?_update, if_neg (Ne.symm hne)]
      exact hout key hkey

/-- The difference of two objects can be run on a third one if that is so for each member. -/
theorem exists_run?_diff_obj_iff {xs ys members : List (String × Json)} (hx : Assoc.Sorted xs)
    (hy : Assoc.Sorted ys) (hs : Assoc.Sorted members) :
    (∃ r, run? (diff (.obj xs) (.obj ys)) (.obj members) = some r) ↔
      ∀ key, ∃ j, MemberReplay (Assoc.get? key xs) (Assoc.get? key ys)
        (Assoc.get? key members) j := by
  constructor
  · rintro ⟨r, hr⟩ key
    obtain ⟨members', -, -, hm⟩ := (run?_diff_obj hx hy hs).1 hr
    exact ⟨_, hm key⟩
  · intro h
    choose f hf using h
    obtain ⟨members', hs', hin, hout⟩ := exists_get?_eq f hs (unionKeys xs ys)
    refine ⟨.obj members', (run?_diff_obj hx hy hs).2 ⟨members', rfl, hs', fun key => ?_⟩⟩
    by_cases hkey : key ∈ unionKeys xs ys
    · rw [hin key hkey]
      exact hf key
    · obtain ⟨h1, h2⟩ := get?_eq_none_of_not_mem_unionKeys hkey
      rw [h1, h2, hout key hkey]
      rfl

/-- A difference of objects is empty if every member of one is in the other, unchanged. -/
theorem diff_obj_eq_nil_iff {xs ys : List (String × Json)} (hx : Assoc.Sorted xs)
    (hy : Assoc.Sorted ys) :
    diff (.obj xs) (.obj ys) = [] ↔
      ∀ key, Option.Rel (fun x y => diff x y = []) (Assoc.get? key xs) (Assoc.get? key ys) := by
  rw [diff_obj hx hy, List.flatMap_eq_nil_iff]
  constructor
  · intro h key
    by_cases hkey : key ∈ unionKeys xs ys
    · have hk := h key hkey
      rcases hxk : Assoc.get? key xs with _ | x <;> rcases hyk : Assoc.get? key ys with _ | y <;>
        simp_all [memberDiff]
    · obtain ⟨h1, h2⟩ := get?_eq_none_of_not_mem_unionKeys hkey
      rw [h1, h2]
      exact .none
  · intro h key _
    have hk := h key
    rcases hxk : Assoc.get? key xs with _ | x <;> rcases hyk : Assoc.get? key ys with _ | y <;>
      simp_all [memberDiff]

/-- A token that leads to no place of an array, and behind none. -/
def OutsideArrays (token : String) : Prop := Pointer.index? token = none ∧ token ≠ "-"

/-- Steps for a member of an object cannot be made on an array, if its key is no index. -/
theorem memberDiff_arr {key : String} (hk : OutsideArrays key) {x y : Option Json}
    (hne : memberDiff key x y ≠ []) (items : List Json) :
    run? (memberDiff key x y) (.arr items) = none := by
  obtain ⟨hi, hd⟩ := hk
  rcases x with _ | x <;> rcases y with _ | y
  · exact absurd rfl hne
  · simp [memberDiff, run?, step?_add, Json.addAt?, Json.addChild?, hi, hd]
  · simp [memberDiff, run?, step?_remove, Json.removeAt?, Json.removeChild?, hi]
  · have hxy : diff x y ≠ [] := fun h => hne (by simp [memberDiff, h])
    rw [memberDiff, run?_shift (fun _ => plain_of_mem_diff) hxy]
    simp [Json.within?, hi]

/-- A difference of objects with any step fails on an array. -/
theorem run?_diff_obj_arr {xs ys : List (String × Json)} (hx : Assoc.Sorted xs)
    (hy : Assoc.Sorted ys) (hkeys : ∀ key ∈ unionKeys xs ys, OutsideArrays key)
    {items : List Json} {r : Json} :
    run? (diff (.obj xs) (.obj ys)) (.arr items) = some r ↔
      diff (.obj xs) (.obj ys) = [] ∧ r = .arr items := by
  rw [diff_obj hx hy]
  generalize unionKeys xs ys = keys at hkeys
  induction keys with
  | nil => simp [eq_comm]
  | cons key keys ih =>
    have ih := ih fun k hk => hkeys k (List.mem_cons_of_mem _ hk)
    rw [List.flatMap_cons, run?_append]
    by_cases hne : memberDiff key (Assoc.get? key xs) (Assoc.get? key ys) = []
    · simpa [hne] using ih
    · simp [hne, memberDiff_arr (hkeys key List.mem_cons_self) hne]

/-! ## Arrays -/

/-- What the steps for the items of two arrays do to the items of another one: before they are
`items`, as many as `xs`, and after they are `items'`. -/
def ItemsReplay : (xs ys items items' : List Json) → Prop
  | x :: xs, y :: ys, a :: items, items' =>
    ∃ a' rest, items' = a' :: rest ∧ run? (diff x y) a = some a' ∧ ItemsReplay xs ys items rest
  | [], ys, _, items' => items' = ys
  | _, [], _, items' => items' = []
  | _, _, [], _ => False

section

variable {token : String} {done items : List Json} {a : Json}

/-- An item is removed at its index, and those behind it move up. -/
theorem step?_remove_index (ht : Pointer.index? token = some done.length) :
    (remove ⟨[token]⟩).step? (.arr (done ++ a :: items)) = some (.arr (done ++ items)) := by
  have herase : (done ++ a :: items).eraseIdx done.length = done ++ items := by
    rw [List.eraseIdx_append_of_length_le le_rfl]
    simp
  simp [step?_remove, Json.removeAt?, Json.removeChild?, ht, herase]

/-- An item is added at the index behind the last one. -/
theorem step?_add_index (ht : Pointer.index? token = some done.length) :
    (add ⟨[token]⟩ a).step? (.arr done) = some (.arr (done ++ [a])) := by
  have hdash : token ≠ "-" := by
    rintro rfl
    cases (show none = some done.length from ht)
  simp [step?_add, Json.addAt?, Json.addChild?, ht, hdash]

/-- A change within an array at an index changes the item there. -/
theorem within?_index (ht : Pointer.index? token = some done.length) (f : Json → Option Json) :
    Json.within? token f (.arr (done ++ a :: items)) =
      (f a).map fun a' => .arr (done ++ a' :: items) := by
  simp [Json.within?, ht]

end

/-- A token below the root is a path by itself. -/
theorem push_root (token : String) : Pointer.push .root token = ⟨[token]⟩ := rfl

/-- Removing as often as there are items at the end removes all of them. -/
theorem run?_removes (done xs : List Json) :
    ∀ items : List Json, items.length = xs.length →
      run? (xs.map fun _ => remove ⟨[toString done.length]⟩) (.arr (done ++ items)) =
        some (.arr done) := by
  induction xs with
  | nil =>
    intro items h
    simp [List.length_eq_zero_iff.1 h]
  | cons x xs ih =>
    intro items h
    rcases items with _ | ⟨a, items⟩
    · simp at h
    · rw [List.map_cons, run?, step?_remove_index (Pointer.index?_toString _)]
      exact ih items (by simpa using h)

/-- The steps between two lists do to the items behind some others what they do to each by
itself. -/
theorem run?_diffItems :
    ∀ (ys xs items done : List Json), items.length = xs.length → ∀ {r : Json},
      (run? (diffItems .root done.length xs ys) (.arr (done ++ items)) = some r ↔
        ∃ items', r = .arr (done ++ items') ∧ ItemsReplay xs ys items items')
  | [], xs, items, done, hl, r => by
    rw [diffItems, push_root, run?_removes done xs items hl]
    cases xs <;> simp [ItemsReplay, eq_comm]
  | y :: ys, [], items, done, hl, r => by
    obtain rfl := List.length_eq_zero_iff.1 hl
    have ih := run?_diffItems ys [] [] (done ++ [y]) rfl (r := r)
    rw [List.length_append, List.length_singleton, List.append_nil] at ih
    rw [diffItems, run?, push_root, List.append_nil,
      step?_add_index (Pointer.index?_toString _), Option.bind_some, ih]
    cases ys <;> simp [ItemsReplay]
  | y :: ys, x :: xs, items, done, hl, r => by
    rcases items with _ | ⟨a, items⟩
    · simp at hl
    have hchild : run? ((diff x y).map (shift [toString done.length])) (.arr (done ++ a :: items)) =
        (run? (diff x y) a).map fun a' => .arr (done ++ a' :: items) := by
      by_cases hd : diff x y = []
      · simp [hd]
      · rw [run?_shift (fun _ => plain_of_mem_diff) hd, within?_index (Pointer.index?_toString _)]
    rw [diffItems, run?_append, push_root, diffAt_eq_map_shift, hchild]
    cases ha : run? (diff x y) a with
    | none => simp [ItemsReplay, ha]
    | some a' =>
      have ih := run?_diffItems ys xs items (done ++ [a']) (by simpa using hl) (r := r)
      rw [List.length_append, List.length_singleton, List.append_assoc] at ih
      rw [Option.map_some, Option.bind_some]
      refine ih.trans ?_
      simp [ItemsReplay, ha]

/-- What the difference of two arrays does to a third one that is as long as the first. -/
theorem run?_diff_arr {xs ys items : List Json} (hl : items.length = xs.length) {r : Json} :
    run? (diff (.arr xs) (.arr ys)) (.arr items) = some r ↔
      ∃ items', r = .arr items' ∧ ItemsReplay xs ys items items' :=
  run?_diffItems ys xs items [] hl

end Patch

end TopologyHooks
