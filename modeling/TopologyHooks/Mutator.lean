import TopologyHooks.Patch.Diff
import TopologyHooks.Patch.Ledger
import TopologyHooks.Selector
import TopologyHooks.Template.Catalog

/-!
# Mutators

A `Mutator` reads one variable and changes the templates of one kind. It is the typed form of a
mutator, and the only one here.

* `Mutation.patch?` — the patch that a change of a template amounts to: the object is read, changed
  and written, and the result compared with the object written without the change.
* `Ledger.mutate` — the same for an object of a request, on top of its earlier patches.
* `Mutator.lookup`, `Mutator.generate` — what a mutator finds in the variables, and what it does.
-/

set_option autoImplicit false

namespace TopologyHooks

/-- What a change of a template can look at besides the template. -/
structure Mutation.Context where
  vars : Variables
  holder : HolderReference

namespace Mutation

/-- A change of the templates of a kind. -/
abbrev Change (k : TemplateKind) : Type := k.Object → Except Error k.Object

/-- The patch of a change that applies to an object. -/
def patchOf (registry : ObjectRegistry) (k : TemplateKind) (object : Json) (change : Change k) :
    Except Error Patch :=
  match registry.decodeAs k object with
  | .error e => .error e
  | .ok before =>
    match change before with
    | .error e => .error e
    | .ok after => .ok (Patch.diff (k.shape.toJson before) (k.shape.toJson after))

/-- The patch of a change, unless the selector does not apply or nothing changes. -/
def patch? (registry : ObjectRegistry) (k : TemplateKind) (object : Json) (vars : Variables)
    (holder : HolderReference) (selector : PatchSelector) (change : Change k) :
    Except Error (Option Patch) :=
  if selector.selects object holder vars then
    match patchOf registry k object change with
    | .error e => .error e
    | .ok [] => .ok none
    | .ok patch => .ok (some patch)
  else .ok none

end Mutation

/-- A ledger after a change of an object of a request, and the error if it failed. -/
def Ledger.mutate (l : Ledger) (registry : ObjectRegistry) (k : TemplateKind)
    (item : GeneratePatches.RequestItem) (vars : Variables) (selector : PatchSelector)
    (change : Mutation.Change k) : Ledger × Option Error :=
  let object := l.current item.uid item.object
  match Mutation.patch? registry k object vars item.holderReference selector change with
  | .error e => (l, some e)
  | .ok none => (l, none)
  | .ok (some patch) =>
    match l.merge item.uid item.object patch with
    | (l, none) => (l, none)
    | (l, some f) => (l, some (.patch (.failedPatch item.uid f)))

/-- A change of the templates of a kind that depends on a variable. Mutators have this typed form
only: what they read, select and change is data. Other implementations of the interface of mutators,
which could generate patches in any other way, are left out. -/
structure Mutator : Type 1 where
  name : String
  reads : VariableRef
  kind : TemplateKind
  selector : PatchSelector
  /-- The type of the variable. -/
  Input : Type
  input : Shape Input
  /-- The value of an unset variable; without one the mutator does nothing then. -/
  fallback : Option Input
  change : Mutation.Context → Input → Mutation.Change kind

namespace Mutator

/-- Whether the variable of a mutator is set, and of its type. -/
def lookup (m : Mutator) (vars : Variables) : Except Error Bool :=
  match m.reads.get m.input vars with
  | .error e => .error e
  | .ok found => .ok found.isSome

/-- A ledger after a mutator has run on an object of a request. -/
def generate (m : Mutator) (registry : ObjectRegistry) (item : GeneratePatches.RequestItem)
    (vars : Variables) (l : Ledger) : Ledger × Option Error :=
  match m.reads.get m.input vars with
  | .error e => (l, some e)
  | .ok found =>
    match found.or m.fallback with
    | none => (l, none)
    | some value =>
      l.mutate registry m.kind item vars m.selector
        (m.change ⟨vars, item.holderReference⟩ value)

/-- The text that shows a mutator. -/
def text (m : Mutator) : String :=
  "TypedMutator \x7b name: " ++ Text.quoted m.name ++ ", variable: "
    ++ Text.quoted m.reads.text ++ ", kind: " ++ Text.quoted m.kind.name ++ " \x7d"

end Mutator

end TopologyHooks
