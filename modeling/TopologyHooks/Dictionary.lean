/-!
# Association lists and sorted dictionaries

* `Assoc` — lists of keys with values. `Assoc.insert` replaces the first value of a key, or puts
  a new key in front of the first larger one, and `Assoc.erase` drops a key. Looking up
  (`Assoc.get?`) after either is described by one equation each, for every list.
* `Dictionary` — an association list whose keys increase strictly, so that two dictionaries with
  the same look-ups are equal (`Dictionary.ext_get?`). Inserting and erasing keep the order.
-/

set_option autoImplicit false

namespace TopologyHooks

namespace Assoc

variable {α β : Type}

/-- The first value of a key. -/
def get? (key : String) : List (String × α) → Option α
  | [] => none
  | (k, a) :: rest => if k = key then some a else get? key rest

/-- Gives a key a value, in sorted position when the key is new. -/
def insert (key : String) (value : α) : List (String × α) → List (String × α)
  | [] => [(key, value)]
  | (k, a) :: rest =>
    if k = key then (key, value) :: rest
    else if key < k then (key, value) :: (k, a) :: rest
    else (k, a) :: insert key value rest

/-- Drops every entry of a key. -/
def erase (key : String) : List (String × α) → List (String × α)
  | [] => []
  | (k, a) :: rest => if k = key then erase key rest else (k, a) :: erase key rest

/-- Inserts the entries of a list one after the other, so that later ones win. -/
def insertAll (base : List (String × α)) (entries : List (String × α)) : List (String × α) :=
  entries.foldl (fun acc e => insert e.1 e.2 acc) base

/-- Keys increase strictly along the list. -/
def Sorted (entries : List (String × α)) : Prop :=
  entries.Pairwise fun a b => a.1 < b.1

/-! ## Order of keys -/

/-- The order of keys is transitive. -/
theorem lt_trans {a b c : String} (h : a < b) (h' : b < c) : a < c :=
  String.lt_trans h h'

/-- No key stands before itself. -/
theorem lt_irrefl (a : String) : ¬ a < a := String.lt_irrefl a

/-- Of two different keys one stands before the other. -/
theorem lt_of_not_lt_of_ne {a b : String} (h : ¬ a < b) (hne : b ≠ a) : b < a := by
  refine Classical.byContradiction fun h' => hne ?_
  exact String.le_antisymm (String.not_lt.1 h) (String.not_lt.1 h')

/-! ## Looking up -/

/-- Nothing is found where there are no entries. -/
@[simp] theorem get?_nil (key : String) : get? key ([] : List (String × α)) = none := rfl

/-- A look-up after an insertion: the new value under its key, and the old ones elsewhere. -/
theorem get?_insert (key other : String) (value : α) (entries : List (String × α)) :
    get? other (insert key value entries) =
      if key = other then some value else get? other entries := by
  induction entries with
  | nil => simp [insert, get?]
  | cons e rest ih =>
    obtain ⟨k, a⟩ := e
    by_cases hk : k = key
    · subst hk
      by_cases ho : k = other <;> simp [insert, get?, ho]
    · by_cases hlt : key < k
      · simp [insert, get?, hk, hlt]
      · by_cases ho : k = other
        · subst ho
          simp [insert, get?, hk, hlt, Ne.symm hk]
        · simp [insert, get?, hk, hlt, ho, ih]

/-- A look-up after an erasure: nothing under the erased key, and the old values elsewhere. -/
theorem get?_erase (key other : String) (entries : List (String × α)) :
    get? other (erase key entries) = if key = other then none else get? other entries := by
  induction entries with
  | nil => simp [erase]
  | cons e rest ih =>
    obtain ⟨k, a⟩ := e
    by_cases hk : k = key
    · subst hk
      by_cases ho : k = other
      · subst ho
        simpa [erase] using ih
      · simp [erase, get?, ho, ih]
    · by_cases ho : k = other
      · subst ho
        simp [erase, get?, hk, Ne.symm hk]
      · simp [erase, get?, hk, ho, ih]

/-! ## Sorted lists -/

/-- A list without entries is sorted. -/
theorem sorted_nil : Sorted ([] : List (String × α)) := List.Pairwise.nil

/-- An insertion adds no other entry than its own. -/
theorem mem_insert {key : String} {value : α} {e : String × α} :
    ∀ {entries : List (String × α)}, e ∈ insert key value entries →
      e = (key, value) ∨ e ∈ entries
  | [], h => by simpa [insert] using h
  | (k, a) :: rest, h => by
    by_cases hk : k = key
    · rw [insert, if_pos hk] at h
      rcases List.mem_cons.1 h with h | h
      · exact Or.inl h
      · exact Or.inr (List.mem_cons_of_mem _ h)
    · rw [insert, if_neg hk] at h
      by_cases hlt : key < k
      · rw [if_pos hlt] at h
        exact List.mem_cons.1 h
      · rw [if_neg hlt] at h
        rcases List.mem_cons.1 h with h | h
        · exact Or.inr (h ▸ List.mem_cons_self ..)
        · rcases mem_insert h with h | h
          · exact Or.inl h
          · exact Or.inr (List.mem_cons_of_mem _ h)

/-- An insertion keeps entries sorted. -/
theorem sorted_insert (key : String) (value : α) :
    ∀ {entries : List (String × α)}, Sorted entries → Sorted (insert key value entries)
  | [], _ => by simp [insert, Sorted]
  | (k, a) :: rest, h => by
    have hrest : Sorted rest := (List.pairwise_cons.1 h).2
    have hk' : ∀ e ∈ rest, k < e.1 := (List.pairwise_cons.1 h).1
    by_cases hk : k = key
    · rw [insert, if_pos hk]
      exact List.pairwise_cons.2 ⟨fun e he => hk ▸ hk' e he, hrest⟩
    · rw [insert, if_neg hk]
      by_cases hlt : key < k
      · rw [if_pos hlt]
        refine List.pairwise_cons.2 ⟨fun e he => ?_, h⟩
        rcases List.mem_cons.1 he with he | he
        · exact he ▸ hlt
        · exact lt_trans hlt (hk' e he)
      · rw [if_neg hlt]
        refine List.pairwise_cons.2 ⟨fun e he => ?_, sorted_insert key value hrest⟩
        rcases mem_insert he with he | he
        · exact he ▸ lt_of_not_lt_of_ne hlt hk
        · exact hk' e he

/-- An erasure only leaves entries out. -/
theorem erase_sublist (key : String) :
    ∀ entries : List (String × α), (erase key entries).Sublist entries
  | [] => List.Sublist.slnil
  | (k, a) :: rest => by
    by_cases hk : k = key
    · rw [erase, if_pos hk]
      exact (erase_sublist key rest).cons _
    · rw [erase, if_neg hk]
      exact (erase_sublist key rest).cons_cons _

/-- An erasure keeps entries sorted. -/
theorem sorted_erase (key : String) {entries : List (String × α)} (h : Sorted entries) :
    Sorted (erase key entries) :=
  List.Pairwise.sublist (erase_sublist key entries) h

/-- Many insertions keep entries sorted. -/
theorem sorted_insertAll (entries : List (String × α)) :
    ∀ {base : List (String × α)}, Sorted base → Sorted (insertAll base entries) := by
  induction entries with
  | nil => intro base h; exact h
  | cons e rest ih => intro base h; exact ih (sorted_insert e.1 e.2 h)

/-- A key that stands before all others is not among them. -/
theorem get?_eq_none_of_lt {key : String} :
    ∀ {entries : List (String × α)}, (∀ e ∈ entries, key < e.1) → get? key entries = none
  | [], _ => rfl
  | (k, a) :: rest, h => by
    have hk : k ≠ key := fun e => lt_irrefl key (e ▸ h (k, a) (List.mem_cons_self ..))
    rw [get?, if_neg hk]
    exact get?_eq_none_of_lt fun e he => h e (List.mem_cons_of_mem _ he)

/-- Two sorted lists with the same look-ups are the same list. -/
theorem eq_of_get?_eq :
    ∀ {l l' : List (String × α)}, Sorted l → Sorted l' → (∀ key, get? key l = get? key l') → l = l'
  | [], [], _, _, _ => rfl
  | [], (k, a) :: _, _, _, h => by simpa [get?] using h k
  | (k, a) :: _, [], _, _, h => by simpa [get?] using h k
  | (k, a) :: rest, (k', a') :: rest', hl, hl', h => by
    have hk := (List.pairwise_cons.1 hl).1
    have hk' := (List.pairwise_cons.1 hl').1
    have hkk : k = k' := by
      -- the smaller one of two different first keys is in one of the lists only
      refine Classical.byContradiction fun hne => ?_
      by_cases hlt : k < k'
      · have h1 := h k
        rw [get?, if_pos rfl, get?, if_neg (Ne.symm hne)] at h1
        rw [get?_eq_none_of_lt fun e he => lt_trans hlt (hk' e he)] at h1
        exact absurd h1 (by simp)
      · have hlt : k' < k := lt_of_not_lt_of_ne hlt (Ne.symm hne)
        have h1 := h k'
        rw [get?, if_neg hne, get?, if_pos rfl] at h1
        rw [get?_eq_none_of_lt fun e he => lt_trans hlt (hk e he)] at h1
        exact absurd h1 (by simp)
    subst hkk
    have ha : a = a' := by simpa [get?] using h k
    subst ha
    refine congrArg _ (eq_of_get?_eq (List.pairwise_cons.1 hl).2 (List.pairwise_cons.1 hl').2 ?_)
    intro key
    by_cases hkey : k = key
    · subst hkey
      rw [get?_eq_none_of_lt hk, get?_eq_none_of_lt hk']
    · have h1 := h key
      rwa [get?, if_neg hkey, get?, if_neg hkey] at h1

end Assoc

/-! ## Dictionaries -/

/-- An association list with strictly increasing keys. -/
structure Dictionary (α : Type) where
  entries : List (String × α)
  sorted : Assoc.Sorted entries

namespace Dictionary

variable {α : Type}

/-- The dictionary without entries. -/
def empty : Dictionary α := ⟨[], Assoc.sorted_nil⟩

instance : EmptyCollection (Dictionary α) := ⟨empty⟩

/-- The value of a key. -/
def get? (d : Dictionary α) (key : String) : Option α := Assoc.get? key d.entries

/-- Gives a key a value. -/
def insert (d : Dictionary α) (key : String) (value : α) : Dictionary α :=
  ⟨Assoc.insert key value d.entries, Assoc.sorted_insert key value d.sorted⟩

/-- Drops a key. -/
def erase (d : Dictionary α) (key : String) : Dictionary α :=
  ⟨Assoc.erase key d.entries, Assoc.sorted_erase key d.sorted⟩

/-- Inserts entries one after the other, so that later ones win. -/
def insertAll (d : Dictionary α) (entries : List (String × α)) : Dictionary α :=
  ⟨Assoc.insertAll d.entries entries, Assoc.sorted_insertAll entries d.sorted⟩

/-- The dictionary of a list of entries, of which the last one of a key wins. -/
def ofList (entries : List (String × α)) : Dictionary α := empty.insertAll entries

/-- Whether there are no entries. -/
def isEmpty (d : Dictionary α) : Bool := d.entries.isEmpty

/-- Dictionaries with the same entries are the same. -/
theorem ext {d d' : Dictionary α} (h : d.entries = d'.entries) : d = d' := by
  cases d; cases d'; cases h; rfl

instance [DecidableEq α] : DecidableEq (Dictionary α) := fun d d' =>
  if h : d.entries = d'.entries then isTrue (ext h)
  else isFalse fun e => h (congrArg entries e)

/-- Two dictionaries with the same look-ups are equal. -/
theorem ext_get? {d d' : Dictionary α} (h : ∀ key, d.get? key = d'.get? key) : d = d' :=
  ext (Assoc.eq_of_get?_eq d.sorted d'.sorted h)

/-- Nothing is found in the empty dictionary. -/
@[simp] theorem get?_empty (key : String) : (empty : Dictionary α).get? key = none := rfl

/-- A look-up after an insertion: the new value under its key, and the old ones elsewhere. -/
theorem get?_insert (d : Dictionary α) (key other : String) (value : α) :
    (d.insert key value).get? other = if key = other then some value else d.get? other :=
  Assoc.get?_insert key other value d.entries

/-- A look-up after an erasure: nothing under the erased key, and the old values elsewhere. -/
theorem get?_erase (d : Dictionary α) (key other : String) :
    (d.erase key).get? other = if key = other then none else d.get? other :=
  Assoc.get?_erase key other d.entries

end Dictionary

end TopologyHooks
