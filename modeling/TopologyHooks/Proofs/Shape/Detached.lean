import TopologyHooks.Proofs.Shape.Reach
import TopologyHooks.Proofs.Shape.Stray

/-!
# Changes that can be replayed without the one before

`Shape.Detached` is about two changes of a value, one after the other: whenever the first can be
replayed on what the value was read from and then the second on what that leads to, the second can
be replayed without the first. There is one statement for every kind of shape; that of records says
that two changes are detached if their changes of every field are (`Shape.detached_record`).
-/

set_option autoImplicit false

namespace TopologyHooks

open Patch

/-- Whether of two changes of a value, from `a` to `b` and from `b` to `c`, the second can be
replayed without the first. Without it, it makes `d` of `a`. -/
def Shape.Detached {α : Type} (s : Shape α) (a b c d : α) : Prop :=
  ∀ ⦃raw next last : Json⦄, s.Reads raw a → run? (diff (s.toJson a) (s.toJson b)) raw = some next →
    run? (diff (s.toJson b) (s.toJson c)) next = some last →
    ∃ r, run? (diff (s.toJson a) (s.toJson d)) raw = some r

namespace Shape

variable {α β : Type} {s : Shape α} {raw : Json} {a b c d : α}

/-- A change that makes no difference changes nothing. -/
theorem eq_of_diff_eq_nil (hs : s.Regular) (ha : s.Reads raw a) (hb : s.Follows (some a) b)
    (h : diff (s.toJson a) (s.toJson b) = []) : b = a :=
  (s.replayable hs ha hb (by rw [h, run?_nil])).unique ha

/-- After a change that changes nothing. -/
theorem Detached.of_idle (hs : s.Regular) (a d : α) : s.Detached a a d d := by
  intro raw next last ha hnext hlast
  rw [diff_self (s.ordered_toJson hs ha), run?_nil, Option.some.injEq] at hnext
  exact ⟨last, hnext ▸ hlast⟩

/-- A change that changes nothing without the one before. -/
theorem Detached.of_self (hs : s.Regular) (a b c : α) : s.Detached a b c a := by
  intro raw next last ha _ _
  exact ⟨raw, by rw [diff_self (s.ordered_toJson hs ha), run?_nil]⟩

/-- What is written as a single value can be replayed without anything. -/
theorem detached_of_exact (h : ∀ a, (s.toJson a).Exact) (a b c d : α) : s.Detached a b c d :=
  fun raw _ _ _ _ _ => exists_run?_diff_of_not_bothNested (bothNested_of_exact (h d)) raw

/-! ## Values that may be missing -/

/-- Changes of what may be missing are detached if they are so where it is there at first and at
last. -/
theorem detached_nullable {o p q r : Option α}
    (h : ∀ a d, o = some a → r = some d →
      ∃ b c, p = some b ∧ q = some c ∧ s.Detached a b c d) : s.nullable.Detached o p q r := by
  intro raw next last ho hnext hlast
  rcases reads_nullable_iff.1 ho with ⟨-, rfl⟩ | ⟨-, a, ha, rfl⟩
  · rw [show s.nullable.toJson none = .null by rw [toJson]]
    exact exists_run?_diff_of_not_bothNested rfl raw
  · cases r with
    | none =>
      rw [show s.nullable.toJson none = .null by rw [toJson]]
      refine exists_run?_diff_of_not_bothNested ?_ raw
      cases s.nullable.toJson (some a) <;> rfl
    | some d =>
      obtain ⟨b, c, rfl, rfl, hdet⟩ := h a d rfl rfl
      simp only [toJson] at hnext hlast ⊢
      exact hdet ha hnext hlast

/-! ## Lists -/

end Shape

namespace Patch

/-- Replaying the steps between two lists leaves as many items as the new list has. -/
theorem length_of_itemsReplay : ∀ {xs ys items items' : List Json},
    ItemsReplay xs ys items items' → items'.length = ys.length
  | [], _, _, _, h => congrArg List.length h
  | _ :: _, [], _, _, h => congrArg List.length h
  | _ :: _, _ :: _, [], _, h => h.elim
  | _ :: _, _ :: _, _ :: _, _, h => by
    obtain ⟨_, rest, rfl, -, h⟩ := h
    simp [length_of_itemsReplay h]

/-- The difference of two lists can be replayed if that is so for the items at every place that both
have. -/
theorem exists_itemsReplay : ∀ {xs ys items : List Json}, items.length = xs.length →
    (∀ (i : Nat) x y r, xs[i]? = some x → ys[i]? = some y → items[i]? = some r →
      ∃ r', run? (diff x y) r = some r') → ∃ items', ItemsReplay xs ys items items'
  | [], ys, _, _, _ => ⟨ys, by simp [ItemsReplay]⟩
  | _ :: _, [], _, _, _ => ⟨[], by simp [ItemsReplay]⟩
  | _ :: _, _ :: _, [], hl, _ => by simp at hl
  | x :: xs, y :: ys, r :: items, hl, h => by
    obtain ⟨r', hr⟩ := h 0 x y r rfl rfl rfl
    obtain ⟨rest, hrest⟩ := exists_itemsReplay (by simpa using hl) fun i => h (i + 1)
    exact ⟨r' :: rest, r', rest, rfl, hr, hrest⟩

end Patch

namespace Shape

variable {α β : Type} {s : Shape α}

/-- Changes of a list are detached if they are so for each item that is there at first and at
last. -/
theorem detached_list {as bs cs ds : List α}
    (h : ∀ (i : Nat) a d, as[i]? = some a → ds[i]? = some d →
      ∃ b c, bs[i]? = some b ∧ cs[i]? = some c ∧ s.Detached a b c d) :
    s.list.Detached as bs cs ds := by
  intro raw next last has hnext hlast
  obtain ⟨items, rfl, hf⟩ := reads_list_iff.1 has
  simp only [toJson] at hnext hlast ⊢
  have hl : items.length = (as.map s.toJson).length := by rw [List.length_map, hf.length_eq]
  obtain ⟨nexts, rfl, hnexts⟩ := (run?_diff_arr hl).1 hnext
  obtain ⟨lasts, rfl, hlasts⟩ := (run?_diff_arr (length_of_itemsReplay hnexts)).1 hlast
  suffices hitems : ∃ items', ItemsReplay (as.map s.toJson) (ds.map s.toJson) items items' by
    obtain ⟨items', hitems⟩ := hitems
    exact ⟨.arr items', (run?_diff_arr hl).2 ⟨items', rfl, hitems⟩⟩
  refine exists_itemsReplay hl fun i x w r hx hw hr => ?_
  simp only [List.getElem?_map, Option.map_eq_some_iff] at hx hw
  obtain ⟨a, ha, rfl⟩ := hx
  obtain ⟨d, hd, rfl⟩ := hw
  obtain ⟨b, c, hb, hc, hdet⟩ := h i a d ha hd
  have hwritten {a : α} {as : List α} (ha : as[i]? = some a) :
      (as.map s.toJson)[i]? = some (s.toJson a) := by
    rw [List.getElem?_map, ha, Option.map_some]
  obtain ⟨r', hr', hrun⟩ := exists_item_of_itemsReplay hnexts (hwritten ha) (hwritten hb) hr
  obtain ⟨_, -, hrun'⟩ := exists_item_of_itemsReplay hlasts (hwritten hb) (hwritten hc) hr'
  have hread : s.Reads r a := by
    obtain ⟨hi, rfl⟩ := List.getElem?_eq_some_iff.1 hr
    obtain ⟨hi', rfl⟩ := List.getElem?_eq_some_iff.1 ha
    exact hf.get hi hi'
  exact hdet hread hrun hrun'

end Shape

/-! ## Fields -/

/-- The same for two changes of a field of an object. -/
def Presence.Detached {α : Type} (p : Presence α) (s : Shape α) (a b c d : α) : Prop :=
  ∀ ⦃slot next last : Option Json⦄, p.Reads s slot a →
    MemberReplay (p.written s a) (p.written s b) slot next →
    MemberReplay (p.written s b) (p.written s c) next last →
    ∃ j, MemberReplay (p.written s a) (p.written s d) slot j

namespace Presence

open Shape

variable {α : Type} {p : Presence α} {s : Shape α} {a b c d : α}

/-- Replaying no change of a field leaves what is found for it as it is. -/
theorem memberReplay_self (hp : p.Lawful s) (hs : s.Regular) {slot next : Option Json}
    (ha : p.Reads s slot a) (h : MemberReplay (p.written s a) (p.written s a) slot next) :
    next = slot := by
  have ho := fun x => ordered_of_mem_written hp hs ha (fun raw => s.ordered_toJson hs) (x := x)
  cases hw : p.written s a with
  | none => simpa [hw, MemberReplay] using h
  | some x =>
    rw [hw] at h
    cases slot with
    | none => exact h.2
    | some raw =>
      obtain ⟨r, rfl, hrun⟩ := h
      rw [diff_self (ho x hw), run?_nil, Option.some.injEq] at hrun
      rw [hrun]

/-- A change is detached from one that changes nothing. -/
theorem Detached.of_idle (hp : p.Lawful s) (hs : s.Regular) (a d : α) : p.Detached s a a d d := by
  intro slot next last ha hnext hlast
  obtain rfl := memberReplay_self hp hs ha hnext
  exact ⟨last, hlast⟩

/-- A change of nothing can be replayed without any change before it. -/
theorem Detached.of_self (hp : p.Lawful s) (hs : s.Regular) (a b c : α) : p.Detached s a b c a := by
  intro slot next last ha _ _
  have ho := fun x => ordered_of_mem_written hp hs ha (fun raw => s.ordered_toJson hs) (x := x)
  refine ⟨slot, memberReplay_of_rel ?_ slot⟩
  cases hw : p.written s a with
  | none => exact .none
  | some x => exact .some (diff_self (ho x hw))

/-- Two changes of a field are detached if they are where the field is written, and there is
nothing to change where it is missing. -/
theorem detached (hp : p.Lawful s)
    (hmissing : p.Reads s none a → ¬ p.skips a = true → diff (s.toJson a) (s.toJson b) = [] →
      diff (s.toJson b) (s.toJson c) = [] → diff (s.toJson a) (s.toJson d) = [])
    (h : ¬ p.skips a = true → ¬ p.skips d = true →
      ¬ p.skips b = true ∧ ¬ p.skips c = true ∧ s.Detached a b c d) : p.Detached s a b c d := by
  intro slot next last ha hnext hlast
  unfold written at hnext hlast ⊢
  by_cases hsa : p.skips a = true <;> by_cases hsd : p.skips d = true
  · rw [if_pos hsa, if_pos hsd]
    exact ⟨slot, rfl⟩
  · rw [if_pos hsa, if_neg hsd]
    exact ⟨_, rfl⟩
  · rw [if_neg hsa, if_pos hsd]
    cases slot with
    | none =>
      -- a missing field reads as the value that is not written, which `a` is not
      have had := (show p.absent? = some a from ha).symm.trans (absent?_eq_some_of_skips hp hsd)
      exact absurd (Option.some.inj had ▸ hsd) hsa
    | some raw => exact ⟨none, rfl, rfl⟩
  · obtain ⟨hsb, hsc, hdet⟩ := h hsa hsd
    rw [if_neg hsb] at hnext hlast
    rw [if_neg hsa] at hnext ⊢
    rw [if_neg hsc] at hlast
    rw [if_neg hsd]
    cases slot with
    | none =>
      obtain ⟨hb, rfl⟩ := hnext
      exact ⟨none, hmissing ha hsa hb hlast.1, rfl⟩
    | some raw =>
      obtain ⟨raw', rfl, hb⟩ := hnext
      obtain ⟨raw'', -, hc⟩ := hlast
      obtain ⟨r, hr⟩ := hdet ha hb hc
      exact ⟨some r, r, rfl, hr⟩

/-- Of a field that is left out for some value, nothing is missing. -/
theorem detached_omitted {absent : α} {skip : α → Bool} (hp : (omitted absent skip).Lawful s)
    (h : ¬ skip a = true → ¬ skip d = true →
      ¬ skip b = true ∧ ¬ skip c = true ∧ s.Detached a b c d) :
    (omitted absent skip).Detached s a b c d := by
  refine detached hp (fun ha hsa _ _ => ?_) h
  obtain rfl : absent = a := Option.some.inj ha
  exact absurd ((hp.1 absent).2 rfl) hsa

/-- An optional field, if what is set stays set. -/
theorem detached_optional {o p q r : Option α}
    (h : ∀ a d, o = some a → r = some d →
      ∃ b c, p = some b ∧ q = some c ∧ s.Detached a b c d) :
    (omitted none Option.isNone).Detached s.nullable o p q r := by
  refine detached_omitted (lawful_optional s) fun ho hr => ?_
  obtain ⟨a, rfl⟩ := Option.ne_none_iff_exists'.1 fun hno => ho (Option.isNone_iff_eq_none.2 hno)
  obtain ⟨d, rfl⟩ := Option.ne_none_iff_exists'.1 fun hno => hr (Option.isNone_iff_eq_none.2 hno)
  obtain ⟨b, c, rfl, rfl, hdet⟩ := h a d rfl rfl
  refine ⟨by simp, by simp, detached_nullable ?_⟩
  rintro _ _ ⟨⟩ ⟨⟩
  exact ⟨b, c, rfl, rfl, hdet⟩

/-- A list that is left out when it is empty, if the items that are there stay there. -/
theorem detached_listed {as bs cs ds : List α}
    (h : ∀ (i : Nat) a d, as[i]? = some a → ds[i]? = some d →
      ∃ b c, bs[i]? = some b ∧ cs[i]? = some c ∧ s.Detached a b c d) :
    (omitted [] List.isEmpty).Detached s.list as bs cs ds := by
  refine detached_omitted (lawful_listed s) fun has hds => ?_
  obtain ⟨a, as, rfl⟩ := List.exists_cons_of_ne_nil fun hnil => has (List.isEmpty_iff.2 hnil)
  obtain ⟨d, ds, rfl⟩ := List.exists_cons_of_ne_nil fun hnil => hds (List.isEmpty_iff.2 hnil)
  obtain ⟨b, c, hb, hc, -⟩ := h 0 a d rfl rfl
  refine ⟨?_, ?_, detached_list h⟩
  · rintro hnil
    simp [List.isEmpty_iff.1 hnil] at hb
  · rintro hnil
    simp [List.isEmpty_iff.1 hnil] at hc

/-- A list of values without parts, if it does not become shorter. -/
theorem detached_listed_of_exact (hexact : ∀ a, (s.toJson a).Exact) {as bs cs ds : List α}
    (hb : as.length ≤ bs.length) (hc : as.length ≤ cs.length) :
    (omitted [] List.isEmpty).Detached s.list as bs cs ds := by
  refine detached_listed fun i a d ha _ => ?_
  have hi : i < as.length := (List.getElem?_eq_some_iff.1 ha).1
  exact ⟨bs[i], cs[i], List.getElem?_eq_getElem _, List.getElem?_eq_getElem _,
    detached_of_exact hexact _ _ _ _⟩

/-- A field with a default that is always written. -/
theorem detached_defaulted {absent : α} (hs : s.Regular) (hf : ∀ o b, s.Follows o b)
    (hidle : b = a → c = b → d = a) (h : s.Detached a b c d) :
    (defaulted absent).Detached s a b c d := by
  refine detached (hf none absent) (fun _ _ hb hc => ?_) fun _ _ =>
    ⟨by simp [skips], by simp [skips], h⟩
  have hread : s.Reads (s.toJson a) a := s.reads_toJson hs (hf none a)
  obtain rfl := eq_of_diff_eq_nil hs hread (hf _ b) hb
  obtain rfl := eq_of_diff_eq_nil hs hread (hf _ c) hc
  rw [hidle rfl rfl]
  exact hb

end Presence

namespace Fields

/-- The same for two changes of the fields of an object, of which each field may be left alone by
either. -/
def Detached : {β : Type} → Fields β → β → β → β → β → Prop
  | _, .done, _, _, _, _ => True
  | _, .field _ p s rest, a, b, c, d =>
    (b.1 = a.1 ∧ d.1 = c.1 ∨ d.1 = a.1 ∨ p.Detached s a.1 b.1 c.1 d.1) ∧
      rest.Detached a.2 b.2 c.2 d.2

/-- For each field of detached changes, the steps of the second one can be made on what is found for
it without the first one. -/
theorem exists_memberReplay_of_detached : ∀ {β : Type} (fields : Fields β), fields.Regular →
    ∀ {a b c d : β}, fields.Detached a b c d → ∀ {w x y z look : String → Option Json},
      fields.Reads (fields.keys.map look) a → fields.written a = fields.keys.map w →
      fields.written b = fields.keys.map x → fields.written c = fields.keys.map y →
      fields.written d = fields.keys.map z →
      ∀ {key : String}, key ∈ fields.keys → ∀ {next last : Option Json},
        MemberReplay (w key) (x key) (look key) next → MemberReplay (x key) (y key) next last →
        ∃ j, MemberReplay (w key) (z key) (look key) j
  | _, .done, _, _, _, _, _, _, _, _, _, _, _, _, _, _, _, _, _, hk, _, _, _, _ => by
    simp [keys] at hk
  | _, .field k p s rest, h, a, b, c, d, hdet, w, x, y, z, look, hread, hw, hx, hy, hz, key, hk,
      next, last, hnext, hlast => by
    simp only [written, keys, List.map_cons, List.cons.injEq] at hw hx hy hz
    rcases List.mem_cons.1 hk with rfl | hk
    · rw [← hw.1, ← hx.1] at hnext
      rw [← hx.1, ← hy.1] at hlast
      rw [← hw.1, ← hz.1]
      have hfield : p.Detached s a.1 b.1 c.1 d.1 := by
        obtain ⟨hb, hd⟩ | hd | hfield := hdet.1
        · rw [hb, hd]
          exact .of_idle h.2.2.1 h.2.2.2.1 _ _
        · rw [hd]
          exact .of_self h.2.2.1 h.2.2.2.1 _ _ _
        · exact hfield
      exact hfield hread.1 hnext hlast
    · exact exists_memberReplay_of_detached rest h.2.2.2.2 hdet.2 hread.2 hw.2 hx.2 hy.2 hz.2 hk
        hnext hlast

end Fields

namespace Shape

variable {α β : Type}

/-- Two changes of a record are detached if their changes of every field are. A record that is given
as an array cannot be changed at all. -/
theorem detached_record {form : Form} {fields : Fields β} {into : β → α} {outOf : α → β}
    (hr : (record form fields into outOf).Regular) {a b c d : α}
    (hb : (record form fields into outOf).Follows (some a) b)
    (hc : (record form fields into outOf).Follows (some b) c) (hidle : b = a → c = b → d = a)
    (h : fields.Detached (outOf a) (outOf b) (outOf c) (outOf d)) :
    (record form fields into outOf).Detached a b c d := by
  obtain ⟨-, hout, hf⟩ := id hr
  have hnodup := hf.nodup_keys
  intro raw next last ha hnext hlast
  obtain ⟨members, rfl⟩ | ⟨items, rfl⟩ := nested_of_reads_record ha
  · obtain ⟨ho, found, hread, rfl⟩ := reads_record_obj_iff.1 ha
    have hs : Assoc.Sorted members := (Json.ordered_obj.1 ho).1
    obtain ⟨nexts, rfl, hsnext, hnexts⟩ := (run?_diff_record_obj hs).1 hnext
    obtain ⟨lasts, rfl, -, hlasts⟩ := (run?_diff_record_obj hsnext).1 hlast
    rw [toJson_record, toJson_record]
    refine (exists_run?_diff_obj_iff (fields.sorted_sorted _) (fields.sorted_sorted _) hs).2 ?_
    intro key
    rw [hout] at h hnexts ⊢
    by_cases hkey : key ∈ fields.keys
    · exact Fields.exists_memberReplay_of_detached fields hf h hread
        (Fields.map_get?_sorted hnodup found).symm (Fields.map_get?_sorted hnodup (outOf b)).symm
        (Fields.map_get?_sorted hnodup (outOf c)).symm (Fields.map_get?_sorted hnodup (outOf d)).symm
        hkey (hnexts key) (hlasts key)
    · exact ⟨_, (memberReplay_iff_of_not_mem_keys hnodup hkey).2 rfl⟩
  -- no step can be made in an array, so neither change changes anything
  · obtain ⟨hd, rfl⟩ := (run?_diff_record_arr hf).1 hnext
    obtain rfl := eq_of_diff_eq_nil hr ha hb hd
    obtain ⟨hd', -⟩ := (run?_diff_record_arr hf).1 hlast
    obtain rfl := eq_of_diff_eq_nil hr ha hc hd'
    rw [hidle rfl rfl]
    exact ⟨_, hnext⟩

end Shape

end TopologyHooks
