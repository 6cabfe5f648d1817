import TopologyHooks.Proofs.Json.Ordered
import TopologyHooks.Proofs.Pointwise
import TopologyHooks.Shape.Write

/-!
# What is read as a value

`Shape.Reads` says that an ordered JSON value is read as a value of a shape. For every kind of
shape there is one statement of what exactly is read so.

A record is given as an object or as an array. Both come down to `Fields.Reads`, which goes
through the fields side by side with the values found for them (`Shape.reads_record_obj_iff`,
`Shape.reads_record_arr_iff`).
-/

set_option autoImplicit false

namespace TopologyHooks

/-- Whether an ordered JSON value is read as a value of a shape. -/
def Shape.Reads {α : Type} (s : Shape α) (raw : Json) (a : α) : Prop :=
  raw.Ordered ∧ s.ofJson raw = .ok a

/-- Only ordered values are read. -/
theorem Shape.Reads.ordered {α : Type} {s : Shape α} {raw : Json} {a : α} (h : s.Reads raw a) :
    raw.Ordered :=
  h.1

/-- A value is read in one way at most. -/
theorem Shape.Reads.unique {α : Type} {s : Shape α} {raw : Json} {a b : α} (ha : s.Reads raw a)
    (hb : s.Reads raw b) : a = b :=
  Except.ok.inj (ha.2.symm.trans hb.2)

/-- Whether what is found for a field is read as its value. -/
def Presence.Reads {α : Type} (p : Presence α) (s : Shape α) : Option Json → α → Prop
  | none, a => p.absent? = some a
  | some raw, a => s.Reads raw a

/-- Whether what is found for the fields of a record, in their order, is read as their values. -/
def Fields.Reads : {β : Type} → Fields β → List (Option Json) → β → Prop
  | _, .done, _, _ => True
  | _, .field _ p s rest, slots, b =>
    p.Reads s (slots.headD none) b.1 ∧ rest.Reads slots.tail b.2

/-- What is found for a field is read in one way at most. -/
theorem Presence.Reads.unique {α : Type} {p : Presence α} {s : Shape α} {slot : Option Json}
    {a b : α} (ha : p.Reads s slot a) (hb : p.Reads s slot b) : a = b := by
  cases slot with
  | none => exact Option.some.inj (ha.symm.trans hb)
  | some raw => exact Shape.Reads.unique ha hb

/-- What is found for fields is read in one way at most. -/
theorem Fields.Reads.unique : ∀ {β : Type} {fields : Fields β} {slots : List (Option Json)}
    {b b' : β}, fields.Reads slots b → fields.Reads slots b' → b = b'
  | _, .done, _, _, _, _, _ => rfl
  | _, .field _ _ _ _, _, _, _, h, h' => Prod.ext (h.1.unique h'.1) (Reads.unique h.2 h'.2)

namespace Reading

variable {ν α β : Type}

/-! ## Items and entries -/

/-- Items are read exactly if each of them is. -/
theorem readItems_eq_ok_iff {read : ν → Except Fault α} {xs : List ν} {as : List α} :
    readItems read none xs = .ok as ↔ List.Forall₂ (fun x a => read x = .ok a) xs as := by
  induction xs generalizing as with
  | nil => cases as <;> simp [readItems, closing]
  | cons x xs ih =>
    rw [readItems]
    cases hx : read x with
    | error e => cases as <;> simp [hx]
    | ok a =>
      cases hr : readItems read none xs with
      | error e =>
        have hno : ∀ as, ¬ List.Forall₂ (fun x a => read x = .ok a) xs as := by
          intro as h
          cases hr.symm.trans (ih.2 h)
        cases as <;> simp [hno]
      | ok rest =>
        have hrest : ∀ as, List.Forall₂ (fun x a => read x = .ok a) xs as ↔ rest = as := by
          intro as
          rw [← ih, hr, Except.ok.injEq]
        cases as <;> simp [hx, hrest]

/-- Entries are read exactly if the value of each is, under the same key. -/
theorem readEntries_eq_ok_iff {read : ν → Except Fault α} {xs : List (String × ν)}
    {es : List (String × α)} :
    readEntries read none xs = .ok es ↔
      List.Forall₂ (fun x e => x.1 = e.1 ∧ read x.2 = .ok e.2) xs es := by
  induction xs generalizing es with
  | nil => cases es <;> simp [readEntries, closing]
  | cons x xs ih =>
    obtain ⟨k, x⟩ := x
    rw [readEntries]
    cases hx : read x with
    | error e => cases es <;> simp [hx]
    | ok a =>
      cases hr : readEntries read none xs with
      | error e =>
        have hno : ∀ es : List (String × α),
            ¬ List.Forall₂ (fun x e => x.1 = e.1 ∧ read x.2 = .ok e.2) xs es := by
          intro es h
          cases hr.symm.trans (ih.2 h)
        cases es <;> simp [hno]
      | ok rest =>
        have hrest : ∀ es : List (String × α),
            List.Forall₂ (fun x e => x.1 = e.1 ∧ read x.2 = .ok e.2) xs es ↔ rest = es := by
          intro es
          rw [← ih, hr, Except.ok.injEq]
        rcases es with _ | ⟨⟨l, b⟩, es⟩ <;> simp [hx, hrest]

/-! ## Members -/

/-- A key under which nothing is found does not occur. -/
theorem occurrences_eq_nil {key : String} {members : List (String × ν)}
    (h : Assoc.get? key members = none) (here : Nat) : occurrences key here members = [] := by
  induction members generalizing here with
  | nil => rfl
  | cons e rest ih =>
    obtain ⟨k, x⟩ := e
    by_cases hk : k = key
    · simp [Assoc.get?, hk] at h
    · rw [Assoc.get?, if_neg hk] at h
      rw [occurrences, if_neg hk, ih h]

/-- A key under which something is found occurs once among sorted members. -/
theorem occurrences_eq_singleton {key : String} {members : List (String × ν)} {x : ν}
    (hs : Assoc.Sorted members) (h : Assoc.get? key members = some x) (here : Nat) :
    ∃ i, occurrences key here members = [(i, x)] := by
  induction members generalizing here with
  | nil => simp at h
  | cons e rest ih =>
    obtain ⟨k, y⟩ := e
    obtain ⟨hk, hrest⟩ := List.pairwise_cons.1 hs
    by_cases hkey : k = key
    · subst hkey
      rw [Assoc.get?, if_pos rfl, Option.some.injEq] at h
      refine ⟨here, ?_⟩
      rw [occurrences, if_pos rfl, occurrences_eq_nil (Assoc.get?_eq_none_of_lt hk), h]
    · rw [Assoc.get?, if_neg hkey] at h
      rw [occurrences, if_neg hkey]
      exact ih hrest h (here + 1)

/-- A field is read from sorted members exactly if what is found under its key is. -/
theorem readField_eq_ok_iff {lenient : Bool} {total : Nat} {key : String} {p : Presence α}
    {s : Shape α} {members : List (String × Json)} (hs : Assoc.Sorted members)
    (ho : ∀ x, Assoc.get? key members = some x → x.Ordered) {a : α} :
    readField lenient total key p (fun x => s.read Source.value x) members = .ok a ↔
      p.Reads s (Assoc.get? key members) a := by
  cases hk : Assoc.get? key members with
  | none =>
    rw [readField, occurrences_eq_nil hk, Presence.Reads]
    cases p.absent? <;> simp
  | some x =>
    obtain ⟨i, hi⟩ := occurrences_eq_singleton hs hk 0
    have hx : x.Ordered := ho x hk
    simp only [readField, hi, Presence.Reads, Shape.Reads, Shape.ofJson, hx, true_and]
    cases s.read Source.value x <;> cases lenient <;> simp [readLast]

/-- Members that are not known and hold nothing wrong do not disturb. -/
theorem inStrays_eq_none (known : List String) (here : Nat) (members : List (String × ν)) :
    inStrays (fun _ => none) known here members = none := by
  induction members generalizing here with
  | nil => rfl
  | cons e rest ih =>
    rw [inStrays]
    split <;> exact ih _

/-- Two results are there exactly if each of them is. -/
theorem both_eq_ok_iff {r : Placed α} {q : Placed β} {c : α × β} :
    both r q = .ok c ↔ r = .ok c.1 ∧ q = .ok c.2 := by
  cases r <;> cases q <;> simp [both, Prod.ext_iff]

/-- A result is there exactly if it is, when nothing bars it. -/
theorem barring_none_eq_ok_iff {r : Placed α} {a : α} : barring none r = .ok a ↔ r = .ok a := by
  cases r <;> simp [barring]

end Reading

open Reading

/-! ## Fields -/

namespace Fields

variable {β : Type}

/-- Fields are read from sorted members exactly if what is found under their keys is. -/
theorem collect_eq_ok_iff {lenient : Bool} {total : Nat} {members : List (String × Json)}
    (hs : Assoc.Sorted members) (ho : ∀ key x, Assoc.get? key members = some x → x.Ordered) :
    ∀ {β : Type} {fields : Fields β} {b : β},
      collect Source.value lenient total fields members = .ok b ↔
        fields.Reads (fields.keys.map fun key => Assoc.get? key members) b
  | _, .done, b => by simp [collect, Fields.Reads]
  | _, .field key p s rest, b => by
    rw [collect, both_eq_ok_iff, readField_eq_ok_iff hs (ho key), collect_eq_ok_iff hs ho,
      Fields.Reads, keys, List.map_cons, List.headD_cons, List.tail_cons]

/-- Fields are read from items exactly if the items at their places are, and the others are left. -/
theorem positional_eq_ok_iff {short : Nat → Fault} :
    ∀ {β : Type} {fields : Fields β} {index : Nat} {items : List Json} {r : β × List Json},
      (∀ x ∈ items, Json.Ordered x) →
      (positional Source.value short index none fields items = .ok r ↔
        fields.Reads (items.map some) r.1 ∧ r.2 = items.drop fields.count)
  | _, .done, index, items, (b, left), _ => by
    simp [positional, Fields.Reads, count, eq_comm]
  | _, .field key p s rest, index, [], ((a, b), left), ho => by
    have hrest : positional Source.value short (index + 1) none rest [] = .ok (b, left) ↔
        rest.Reads [] b ∧ left = [] := by
      simpa using positional_eq_ok_iff ho
    simp only [Fields.Reads, List.map_nil, List.headD_nil, List.tail_nil, List.drop_nil,
      Presence.Reads, and_assoc]
    rw [← hrest]
    cases hp : p.absent? with
    | none => simp [positional, hp]
    | some v =>
      cases hr : positional Source.value short (index + 1) none rest [] <;>
        simp [positional, hp, hr, and_assoc, Prod.ext_iff]
  | _, .field key p s rest, index, x :: items, ((a, b), left), ho => by
    have hx : x.Ordered := ho x List.mem_cons_self
    have hrest : positional Source.value short (index + 1) none rest items = .ok (b, left) ↔
        rest.Reads (items.map some) b ∧ left = items.drop rest.count :=
      positional_eq_ok_iff fun y hy => ho y (List.mem_cons_of_mem _ hy)
    simp only [Fields.Reads, List.map_cons, List.headD_cons, List.tail_cons, count,
      List.drop_succ_cons, Presence.Reads, Shape.Reads, Shape.ofJson, hx, true_and, and_assoc]
    rw [← hrest, positional, List.tail_cons]
    cases s.read Source.value x with
    | error e => simp
    | ok v =>
      cases hr : positional Source.value short (index + 1) none rest items <;>
        simp [and_assoc, Prod.ext_iff]

end Fields

/-- An integer is within bounds exactly if it is the value of a bounded one. -/
theorem Bounded.ofInt?_eq_some_iff {low high n : Int} {b : Bounded low high} :
    Bounded.ofInt? n = some b ↔ b.val = n := by
  constructor
  · intro h
    unfold Bounded.ofInt? at h
    split at h
    · rw [← Option.some.inj h]
    · simp at h
  · rintro rfl
    exact b.ofInt?_val

/-! ## Shapes -/

namespace Shape

attribute [local simp] ofJson read

variable {α β : Type}

/-- A text is read from itself alone. -/
theorem reads_text_iff {raw : Json} {a : String} : text.Reads raw a ↔ raw = .str a := by
  cases raw <;>
    simp [Shape.Reads, readString, Source.value, Source.viewValue, Json.Ordered]

/-- A truth value is read from itself alone. -/
theorem reads_flag_iff {raw : Json} {a : Bool} : flag.Reads raw a ↔ raw = .bool a := by
  cases raw <;> simp [Shape.Reads, Source.value, Source.viewValue, Json.Ordered]

/-- An integer is read from the same number, written as an integer. -/
theorem reads_integer_iff {low high : Int} {name : String} {raw : Json} {a : Bounded low high} :
    (integer low high name).Reads raw a ↔ ∃ h, raw = .num (.int a.val h) := by
  cases raw with
  | num n =>
    cases n with
    | int i hi =>
      simp only [Shape.Reads, ofJson, read, readInteger, Source.value, Source.viewValue,
        Json.Ordered, true_and, Json.num.injEq, Number.int.injEq]
      constructor
      · intro h
        split at h
        · rename_i b hb
          rw [Except.ok.injEq] at h
          subst h
          have hv : i = b.val := (Bounded.ofInt?_eq_some_iff.1 hb).symm
          exact ⟨hv ▸ hi, hv⟩
        · simp at h
      · rintro ⟨h, rfl⟩
        simp [Bounded.ofInt?_val]
    | double d => simp [Shape.Reads, readInteger, Source.value, Source.viewValue]
  | _ => simp [Shape.Reads, readInteger, Source.value, Source.viewValue]

/-- JSON that is kept as it is is read from itself, if it is ordered. -/
theorem reads_json_iff {raw a : Json} : json.Reads raw a ↔ raw.Ordered ∧ raw = a := by
  simp [Shape.Reads, Source.value, Except.mapError]

/-- What is spelled out is read from the texts that parse as it. -/
theorem reads_spelled_iff {expected : String} {parse : String → Except Fault α}
    {render : α → String} {raw : Json} {a : α} :
    (spelled expected parse render).Reads raw a ↔ ∃ t, raw = .str t ∧ parse t = .ok a := by
  cases raw <;>
    simp [Shape.Reads, readString, Source.value, Source.viewValue, Json.Ordered]

/-- A list is read from an array, item by item. -/
theorem reads_list_iff {item : Shape α} {raw : Json} {as : List α} :
    item.list.Reads raw as ↔ ∃ items, raw = .arr items ∧ List.Forall₂ item.Reads items as := by
  cases raw with
  | arr items =>
    have hread : (ofJson item.list (.arr items) = .ok as) ↔
        List.Forall₂ (fun x a => item.ofJson x = .ok a) items as := by
      rw [← readItems_eq_ok_iff]
      rfl
    simp only [Shape.Reads, hread, Json.ordered_arr, Json.arr.injEq, exists_eq_left']
    exact (List.forall₂_and_left _ _).symm
  | _ => simp [Shape.Reads, Source.value, Source.viewValue]

/-- Each item of a list was read from something. -/
theorem exists_of_reads_list {item : Shape α} {raw : Json} {as : List α}
    (h : item.list.Reads raw as) : ∀ a ∈ as, ∃ x, item.Reads x a := by
  obtain ⟨items, -, hf⟩ := reads_list_iff.1 h
  intro a ha
  obtain ⟨x, -, hx⟩ := exists_mem_of_forall₂ hf.flip a ha
  exact ⟨x, hx⟩

/-- A value that is written as another one is read from what this is read from. -/
theorem reads_mapped_iff {inner : Shape α} {into : α → β} {outOf : β → α} {raw : Json} {b : β} :
    (mapped inner into outOf).Reads raw b ↔ ∃ a, inner.Reads raw a ∧ into a = b := by
  simp only [Shape.Reads, ofJson, read, map_eq_ok_iff, and_assoc, exists_and_left]

/-- A value of a nested shape is read at the level of the JSON's depth. -/
theorem reads_deferred_iff {level : Nat → Shape α} {height : α → Nat} {raw : Json} {a : α} :
    (deferred level height).Reads raw a ↔ (level raw.depth).Reads raw a := by
  rw [Shape.Reads, Shape.Reads, ofJson, read]
  rfl

/-- What may be missing is read from null as nothing, and from anything else as a value. -/
theorem reads_nullable_iff {inner : Shape α} {raw : Json} {o : Option α} :
    inner.nullable.Reads raw o ↔
      (raw = .null ∧ o = none) ∨ raw ≠ .null ∧ ∃ a, inner.Reads raw a ∧ some a = o := by
  by_cases hn : raw = .null
  · subst hn
    simp [Shape.Reads, Source.value, Source.viewValue, Json.Ordered, eq_comm]
  · have hread : inner.nullable.ofJson raw = (inner.ofJson raw).map some := by
      cases raw <;> first | rfl | exact absurd rfl hn
    simp [Shape.Reads, hread, map_eq_ok_iff, hn, and_assoc, -ofJson]

/-- What is read as a dictionary: an object whose members are read as the entries. -/
theorem reads_dictionary_iff {item : Shape α} {raw : Json} {d : Dictionary α} :
    item.dictionary.Reads raw d ↔ ∃ members, raw = .obj members ∧ Assoc.Sorted members ∧
      ∀ key, Option.Rel item.Reads (Assoc.get? key members) (d.get? key) := by
  cases raw with
  | obj members =>
    have hread : ofJson item.dictionary (.obj members) = .ok d ↔
        ∃ es, List.Forall₂ (fun x e => x.1 = e.1 ∧ item.ofJson x.2 = .ok e.2) members es ∧
          Dictionary.ofList es = d := by
      simp only [← readEntries_eq_ok_iff, ofJson, read, Source.value, Source.viewValue,
        map_eq_ok_iff]
    rw [Shape.Reads, hread, Json.ordered_obj]
    constructor
    · rintro ⟨⟨hs, ho⟩, es, hes, rfl⟩
      refine ⟨members, rfl, hs, ?_⟩
      intro key
      have hkeys : members.map Prod.fst = es.map Prod.fst := by
        rw [← List.forall₂_eq_eq_eq, List.forall₂_map_left_iff, List.forall₂_map_right_iff]
        exact hes.imp fun _ _ h => h.1
      -- the keys are distinct, so nothing is overwritten while the dictionary is built
      have hget : (Dictionary.ofList es).get? key = Assoc.get? key es := by
        have h := Assoc.get?_insertAll key (hkeys ▸ hs.nodup_keys) []
        rwa [Assoc.get?_nil, Option.or_none] at h
      rw [hget]
      have h := Assoc.rel_get?_of_forall₂ (R := fun x a => item.ofJson x = .ok a) hes key
      cases hx : Assoc.get? key members <;> cases hy : Assoc.get? key es <;>
        simp_all [Shape.Reads]
      exact ho _ _ hx
    · rintro ⟨_, ⟨⟩, hs, h⟩
      refine ⟨⟨hs, fun key x hx => ?_⟩, d.entries, ?_, ?_⟩
      · have hk := h key
        rw [hx] at hk
        cases hd : d.get? key <;> simp_all [Shape.Reads]
      · refine (Assoc.forall₂_of_get? hs d.sorted h).imp fun e e' he => ⟨he.1, he.2.2⟩
      · refine Dictionary.ext_get? ?_
        intro key
        have h := Assoc.get?_insertAll key d.sorted.nodup_keys []
        rwa [Assoc.get?_nil, Option.or_none] at h
  | _ => simp [Shape.Reads, Source.value, Source.viewValue]

/-- Each entry of a dictionary was read from something. -/
theorem exists_of_reads_dictionary {item : Shape α} {raw : Json} {d : Dictionary α}
    (h : item.dictionary.Reads raw d) {key : String} {a : α} (ha : d.get? key = some a) :
    ∃ x, item.Reads x a := by
  obtain ⟨members, -, -, hrel⟩ := reads_dictionary_iff.1 h
  have hkey := hrel key
  rw [ha] at hkey
  cases hm : Assoc.get? key members with
  | none => simp [hm] at hkey
  | some x =>
    rw [hm, Option.rel_some_some] at hkey
    exact ⟨x, hkey⟩

/-- An object is read as a record if the members with the keys of the fields are. -/
theorem reads_record_obj_iff {form : Form} {fields : Fields β} {into : β → α} {outOf : α → β}
    {members : List (String × Json)} {a : α} :
    (record form fields into outOf).Reads (.obj members) a ↔ (Json.obj members).Ordered ∧
      ∃ b, fields.Reads (fields.keys.map fun key => Assoc.get? key members) b ∧ into b = a := by
  refine and_congr_right ?_
  intro ho
  have ho := Json.ordered_obj.1 ho
  rw [ofJson, read]
  simp only [Source.value, Source.viewValue, inStrays_eq_none, atClose, Option.map_none,
    Option.or_none, map_eq_ok_iff, barring_none_eq_ok_iff]
  refine exists_congr fun b => and_congr_left ?_
  intro _
  exact Fields.collect_eq_ok_iff ho.1 ho.2

/-- An array is read as a record if it has no more items than the record has fields and its items
are read as the first fields. -/
theorem reads_record_arr_iff {form : Form} {fields : Fields β} {into : β → α} {outOf : α → β}
    {items : List Json} {a : α} :
    (record form fields into outOf).Reads (.arr items) a ↔ (Json.arr items).Ordered ∧
      form.lenient = false ∧ items.length ≤ fields.count ∧
      ∃ b, fields.Reads (items.map some) b ∧ into b = a := by
  refine and_congr_right ?_
  intro ho
  have ho := Json.ordered_arr.1 ho
  rw [ofJson, read]
  simp only [Source.value, Source.viewValue]
  cases hl : form.lenient with
  | true => simp
  | false =>
    simp only [Bool.false_eq_true, if_false, true_and]
    split
    · rename_i e he
      simp only [reduceCtorEq, false_iff]
      rintro ⟨-, b, hb, -⟩
      cases he.symm.trans ((Fields.positional_eq_ok_iff (r := (b, _)) ho).2 ⟨hb, rfl⟩)
    · rename_i b left he
      obtain ⟨hb, rfl⟩ := (Fields.positional_eq_ok_iff (r := (b, left)) ho).1 he
      by_cases hlen : items.length ≤ fields.count
      · rw [List.drop_eq_nil_of_le hlen]
        simp only [atArrayEnd, Except.ok.injEq, hlen, true_and]
        refine ⟨fun h => ⟨b, hb, h⟩, ?_⟩
        rintro ⟨b', hb', rfl⟩
        rw [show b = b' from hb.unique hb']
      · have hne : items.drop fields.count ≠ [] := by simpa using hlen
        obtain ⟨x, xs, hx⟩ := List.exists_cons_of_ne_nil hne
        simp [hx, atArrayEnd, hlen]

/-- Only objects and arrays are read as records. -/
theorem nested_of_reads_record {form : Form} {fields : Fields β} {into : β → α}
    {outOf : α → β} {raw : Json} {a : α} (h : (record form fields into outOf).Reads raw a) :
    (∃ members, raw = .obj members) ∨ ∃ items, raw = .arr items := by
  cases raw <;> simp_all [Shape.Reads, Source.value, Source.viewValue]

/-- A record that was read is made up of fields that were read. -/
theorem exists_reads_of_reads_record {form : Form} {fields : Fields β} {into : β → α}
    {outOf : α → β} {raw : Json} {a : α} (h : (record form fields into outOf).Reads raw a) :
    ∃ slots b, fields.Reads slots b ∧ into b = a := by
  obtain ⟨members, rfl⟩ | ⟨items, rfl⟩ := nested_of_reads_record h
  · obtain ⟨-, b, hb⟩ := reads_record_obj_iff.1 h
    exact ⟨_, b, hb⟩
  · obtain ⟨-, -, -, b, hb⟩ := reads_record_arr_iff.1 h
    exact ⟨_, b, hb⟩

end Shape

/-- What an optional field holds was read of something else than null. -/
theorem Presence.exists_of_reads_optional {α : Type} {s : Shape α} {slot : Option Json} {a : α}
    (h : (Presence.omitted none Option.isNone).Reads s.nullable slot (some a)) :
    ∃ raw, raw ≠ .null ∧ s.Reads raw a := by
  cases slot with
  | none => cases h
  | some raw =>
    rcases Shape.reads_nullable_iff.1 h with ⟨-, h⟩ | ⟨hne, b, hb, hba⟩
    · cases h
    · exact ⟨raw, hne, Option.some.inj hba ▸ hb⟩

/-- The items of a list that may be missing were all read. -/
theorem Presence.exists_of_reads_listed {α : Type} {s : Shape α} {slot : Option Json}
    {as : List α} (h : (Presence.omitted [] List.isEmpty).Reads s.list slot as) {a : α}
    (ha : a ∈ as) : ∃ raw, s.Reads raw a := by
  cases slot with
  | none =>
    obtain rfl : [] = as := Option.some.inj h
    cases ha
  | some raw => exact Shape.exists_of_reads_list h a ha

end TopologyHooks
