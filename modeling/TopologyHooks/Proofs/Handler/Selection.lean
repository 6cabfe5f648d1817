import TopologyHooks.Proofs.Variable.Resolution
import TopologyHooks.Selector

/-!
# Which templates a selector applies to

The rules that selectors follow, said without the functions that decide them:

* `Position` — the positions in which a template can stand, and `HolderReference.StandsAt` — which
  holders refer to templates in a position. No holder refers to two of them.
* `ClassPattern.Covers` — the names of classes that a pattern stands for.
* `PatchSelector.Asks` — the positions that a selector asks for; it asks for workers by the name of
  their class.

Main statement: a selector applies to an object exactly if version and kind are the selector's and
the object stands in a position that the selector asks for (`PatchSelector.selects_iff`).
-/

set_option autoImplicit false

namespace TopologyHooks

/-! ## Positions -/

/-- A position in which a template can stand. -/
inductive Position
  | infrastructureCluster
  | controlPlane
  | workers
  deriving DecidableEq

namespace HolderReference

/-- Whether a holder refers to templates in a position. -/
inductive StandsAt (h : HolderReference) : Position → Prop
  | infrastructureCluster : h.kind = "Cluster" → h.fieldPath = "spec.infrastructureRef" →
      StandsAt h .infrastructureCluster
  | controlPlane : h.kind = "Cluster" → h.fieldPath = "spec.controlPlaneRef" →
      StandsAt h .controlPlane
  | controlPlaneMachines : h.fieldPath = "spec.machineTemplate.infrastructureRef" →
      StandsAt h .controlPlane
  | workerMachines : h.kind = "MachineDeployment" →
      h.fieldPath = "spec.template.spec.infrastructureRef" → StandsAt h .workers
  | workerBootstrap : h.kind = "MachineDeployment" →
      h.fieldPath = "spec.template.spec.bootstrap.configRef" → StandsAt h .workers

variable {h : HolderReference}

/-- The test for the infrastructure of a cluster finds exactly the holders that refer to it. -/
theorem isInfrastructureCluster_iff :
    h.isInfrastructureCluster = true ↔ h.StandsAt .infrastructureCluster := by
  unfold isInfrastructureCluster
  rw [Bool.and_eq_true, beq_iff_eq, beq_iff_eq]
  constructor
  · rintro ⟨hkind, hpath⟩
    exact .infrastructureCluster hkind hpath
  · rintro ⟨⟩
    exact ⟨‹_›, ‹_›⟩

/-- The test for the control plane finds exactly the holders that refer to its templates. -/
theorem isControlPlane_iff : h.isControlPlane = true ↔ h.StandsAt .controlPlane := by
  unfold isControlPlane
  rw [Bool.or_eq_true, Bool.and_eq_true, beq_iff_eq, beq_iff_eq, beq_iff_eq]
  constructor
  · rintro (⟨hkind, hpath⟩ | hpath)
    · exact .controlPlane hkind hpath
    · exact .controlPlaneMachines hpath
  · intro hstands
    cases hstands with
    | controlPlane hkind hpath => exact Or.inl ⟨hkind, hpath⟩
    | controlPlaneMachines hpath => exact Or.inr hpath

/-- The test for workers finds exactly the holders that refer to their templates. -/
theorem isMachineDeployment_iff : h.isMachineDeployment = true ↔ h.StandsAt .workers := by
  unfold isMachineDeployment
  rw [Bool.and_eq_true, Bool.or_eq_true, beq_iff_eq, beq_iff_eq, beq_iff_eq]
  constructor
  · rintro ⟨hkind, hpath | hpath⟩
    · exact .workerMachines hkind hpath
    · exact .workerBootstrap hkind hpath
  · intro hstands
    cases hstands with
    | workerMachines hkind hpath => exact ⟨hkind, Or.inl hpath⟩
    | workerBootstrap hkind hpath => exact ⟨hkind, Or.inr hpath⟩

/-- No holder refers to templates in two positions: the fields tell them apart. -/
theorem StandsAt.unique {p q : Position} (hp : h.StandsAt p) (hq : h.StandsAt q) : p = q := by
  cases hp <;> cases hq <;> first | rfl | simp_all

end HolderReference

/-! ## Names of classes -/

namespace ClassPattern

/-- Whether a pattern stands for the name of a class: a text without a star for itself, a star in
front of such a text for all names that end in it, and a star behind it for all names that start
with it. -/
inductive Covers : String → String → Prop
  | exact {cls : String} : '*' ∉ cls.toList → Covers cls cls
  | ending {ending cls : String} : '*' ∉ ending.toList → ending.toList <:+ cls.toList →
      Covers ("*" ++ ending) cls
  | beginning {beginning cls : String} : '*' ∉ beginning.toList →
      beginning.toList <+: cls.toList → Covers (beginning ++ "*") cls

variable {pattern text cls : String}

/-- The letters of a text behind a star. -/
theorem toList_star_append : ("*" ++ text).toList = '*' :: text.toList := String.toList_append

/-- The letters of a text in front of a star. -/
theorem toList_append_star : (text ++ "*").toList = text.toList ++ ['*'] := String.toList_append

/-- A pattern without a star matches the class of the same name alone. -/
theorem classMatches_of_not_mem (h : '*' ∉ pattern.toList) :
    PatchSelector.classMatches pattern cls = (pattern == cls) := by
  unfold PatchSelector.classMatches
  simp only [List.count_eq_zero.2 h]

/-- A star in front of a text matches the classes that end in the text. -/
theorem classMatches_star_append (h : '*' ∉ text.toList) :
    PatchSelector.classMatches ("*" ++ text) cls = text.toList.isSuffixOf cls.toList := by
  unfold PatchSelector.classMatches
  simp only [toList_star_append, List.count_cons_self, List.count_eq_zero.2 h]

/-- The star alone is a star in front of the empty text, and behind it as well. -/
theorem classMatches_append_star (h : '*' ∉ text.toList) :
    PatchSelector.classMatches (text ++ "*") cls = text.toList.isPrefixOf cls.toList := by
  have hcount : (text.toList ++ ['*']).count '*' = 1 := by
    rw [List.count_append, List.count_eq_zero.2 h]
    rfl
  unfold PatchSelector.classMatches
  simp only [toList_append_star, hcount]
  rcases htext : text.toList with _ | ⟨c, cs⟩
  · simp
  · have hc : c ≠ '*' := by
      rintro rfl
      exact h (htext ▸ List.mem_cons_self)
    rw [List.cons_append]
    simp only [List.cons.injEq, hc, false_and, imp_self, implies_true]
    rw [← List.cons_append, List.getLast?_concat, List.dropLast_concat, beq_self_eq_true,
      Bool.true_and]

/-- What a pattern that matches looks like: it has no star, or one at either end. -/
theorem shape_of_classMatches (h : PatchSelector.classMatches pattern cls = true) :
    '*' ∉ pattern.toList ∨
      ∃ text : String, '*' ∉ text.toList ∧ (pattern = "*" ++ text ∨ pattern = text ++ "*") := by
  have hofList : ∀ cs : List Char, ∃ text : String, cs = text.toList :=
    fun cs => ⟨String.ofList cs, String.toList_ofList.symm⟩
  unfold PatchSelector.classMatches at h
  simp only at h
  split at h
  case h_1 hcount => exact Or.inl (List.count_eq_zero.1 hcount)
  case h_2 hcount =>
    refine Or.inr ?_
    split at h
    case h_1 ending hchars =>
      obtain ⟨text, rfl⟩ := hofList ending
      rw [hchars, List.count_cons_self, Nat.add_eq_right, List.count_eq_zero] at hcount
      exact ⟨text, hcount, Or.inl (String.toList_inj.1 (hchars.trans toList_star_append.symm))⟩
    case h_2 =>
      rw [Bool.and_eq_true, beq_iff_eq, List.getLast?_eq_some_iff] at h
      obtain ⟨⟨beginning, hchars⟩, -⟩ := h
      obtain ⟨text, rfl⟩ := hofList beginning
      rw [hchars, List.count_append, List.count_singleton_self, Nat.add_eq_right,
        List.count_eq_zero] at hcount
      exact ⟨text, hcount, Or.inr (String.toList_inj.1 (hchars.trans toList_append_star.symm))⟩
  case h_3 => cases h

/-- A pattern matches exactly the names of classes that it stands for. -/
theorem classMatches_iff : PatchSelector.classMatches pattern cls = true ↔ Covers pattern cls := by
  constructor
  · intro h
    rcases shape_of_classMatches h with hstar | ⟨text, hstar, rfl | rfl⟩
    · rw [classMatches_of_not_mem hstar, beq_iff_eq] at h
      subst h
      exact .exact hstar
    · rw [classMatches_star_append hstar, List.isSuffixOf_iff_suffix] at h
      exact .ending hstar h
    · rw [classMatches_append_star hstar, List.isPrefixOf_iff_prefix] at h
      exact .beginning hstar h
  · intro h
    cases h with
    | exact hstar => rw [classMatches_of_not_mem hstar, beq_iff_eq]
    | ending hstar h => rwa [classMatches_star_append hstar, List.isSuffixOf_iff_suffix]
    | beginning hstar h => rwa [classMatches_append_star hstar, List.isPrefixOf_iff_prefix]

/-- A star inside a pattern stands for nothing. -/
example : ¬ Covers "worker-*-a" "worker-x-a" := by
  rw [← classMatches_iff]
  decide

end ClassPattern

/-! ## Selectors -/

namespace PatchSelector

variable {s : PatchSelector} {vars : Variables} {cls : String}

/-- Whether the variables say that a template belongs to workers of a class. -/
def ClassIs (vars : Variables) (cls : String) : Prop :=
  ∃ builtin group, vars.get? "builtin" = some builtin ∧
    builtin.member? "machineDeployment" = some group ∧ group.member? "class" = some (.str cls)

/-- Whether a selector asks for templates in a position. -/
inductive Asks (s : PatchSelector) (vars : Variables) : Position → Prop
  | infrastructureCluster : s.matchResources.infrastructureCluster = true →
      Asks s vars .infrastructureCluster
  | controlPlane : s.matchResources.controlPlane = true → Asks s vars .controlPlane
  | workers {patterns : ClassSelector} {pattern cls : String} :
      s.matchResources.machineDeploymentClass = some patterns → ClassIs vars cls →
      pattern ∈ patterns.names → ClassPattern.Covers pattern cls → Asks s vars .workers

/-- The class that is looked up is the one that the variables tell. -/
theorem classOf?_eq_some_iff : classOf? vars = some cls ↔ ClassIs vars cls := by
  have hget : classOf? vars = some cls ↔
      vars.get .text Builtins.variableName Builtins.deploymentClass = .ok (some cls) := by
    unfold classOf?
    rcases vars.get .text Builtins.variableName Builtins.deploymentClass with e | found
    · simp
    · simp
  rw [hget, Variables.get_eq_some_iff]
  simp only [Shape.ofJson_text_eq_ok_iff, exists_eq_right, Variables.valueAt_eq_some_iff]
  unfold ClassIs
  constructor
  · rintro ⟨builtin, hbuiltin, hmember, -⟩
    rw [Builtins.deploymentClass, Json.memberAt?, Option.bind_eq_some_iff] at hmember
    obtain ⟨group, hgroup, hclass⟩ := hmember
    rw [Json.memberAt?, Option.bind_eq_some_iff] at hclass
    obtain ⟨x, hx, hclass⟩ := hclass
    cases hclass
    exact ⟨builtin, group, hbuiltin, hgroup, hx⟩
  · rintro ⟨builtin, group, hbuiltin, hgroup, hclass⟩
    refine ⟨builtin, hbuiltin, ?_, fun hnull => ?_⟩
    · rw [Builtins.deploymentClass, Json.memberAt?, hgroup, Option.bind_some, Json.memberAt?,
        hclass]
      rfl
    · cases hnull

/-- The test for the class of workers is whether the selector asks for their templates. -/
theorem selectsClass_iff : s.selectsClass vars = true ↔ s.Asks vars .workers := by
  unfold selectsClass
  constructor
  · intro h
    split at h
    case h_1 patterns cls hpatterns hclass =>
      obtain ⟨pattern, hmem, hmatches⟩ := List.any_eq_true.1 h
      exact .workers hpatterns (classOf?_eq_some_iff.1 hclass) hmem
        (ClassPattern.classMatches_iff.1 hmatches)
    case h_2 => cases h
  · intro h
    cases h with
    | workers hpatterns hclass hmem hcovers =>
      rw [hpatterns, classOf?_eq_some_iff.2 hclass]
      exact List.any_eq_true.2 ⟨_, hmem, ClassPattern.classMatches_iff.2 hcovers⟩

/-- The test for the kind compares the version and the kind in the object, which have to be
texts. -/
theorem selectsKind_iff {object : Json} : s.selectsKind object = true ↔
    object.member? "apiVersion" = some (.str s.apiVersion) ∧
      object.member? "kind" = some (.str s.kind) := by
  unfold selectsKind
  rw [Bool.and_eq_true, beq_iff_eq, beq_iff_eq]

/-- A selector applies to an object exactly if version and kind of the object are the selector's
and the object stands in a position that the selector asks for; and there is one position at most
in which it stands. -/
theorem selects_iff (s : PatchSelector) (object : Json) (holder : HolderReference)
    (vars : Variables) :
    (s.selects object holder vars = true ↔
      object.member? "apiVersion" = some (.str s.apiVersion) ∧
      object.member? "kind" = some (.str s.kind) ∧
      ∃ position, s.Asks vars position ∧ holder.StandsAt position) ∧
    ∀ p q, holder.StandsAt p → holder.StandsAt q → p = q := by
  refine ⟨?_, fun p q hp hq => hp.unique hq⟩
  unfold selects
  simp only [Bool.and_eq_true, Bool.or_eq_true, selectsKind_iff, selectsClass_iff,
    HolderReference.isInfrastructureCluster_iff, HolderReference.isControlPlane_iff,
    HolderReference.isMachineDeployment_iff, and_assoc]
  refine and_congr_right fun _ => and_congr_right fun _ => ?_
  constructor
  · rintro ((⟨hasks, hstands⟩ | ⟨hasks, hstands⟩) | ⟨hstands, hasks⟩)
    · exact ⟨_, .infrastructureCluster hasks, hstands⟩
    · exact ⟨_, .controlPlane hasks, hstands⟩
    · exact ⟨_, hasks, hstands⟩
  · rintro ⟨position, hasks, hstands⟩
    cases hasks with
    | infrastructureCluster h => exact Or.inl (Or.inl ⟨h, hstands⟩)
    | controlPlane h => exact Or.inl (Or.inr ⟨h, hstands⟩)
    | workers hpatterns hclass hmem hcovers =>
      exact Or.inr ⟨hstands, .workers hpatterns hclass hmem hcovers⟩

end PatchSelector

end TopologyHooks
