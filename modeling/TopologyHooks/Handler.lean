import TopologyHooks.Message.DiscoverVariables
import TopologyHooks.Message.HookResponse
import TopologyHooks.Mutator

/-!
# Handlers

A `Handler` defines variables and holds the mutators that read them; it serves the three hooks
about the topology of clusters.

* `Draft` — a handler before it is checked, and `Draft.fault?`, the first thing wrong with it: a
  variable defined twice, or a mutator that reads what no definition declares, or that selects
  other objects than it changes, or that changes objects of an unknown kind.
* `Handler` — a draft with nothing wrong.
* `CancellationToken` — whether a request was cancelled, each time that the handler asks.
* `Handler.discoverVariables`, `Handler.generatePatches`, `Handler.validateTopology` — the
  answers. Patches are generated item by item and mutator by mutator; the first error fails all,
  and so does a token that is cancelled before some item.
-/

set_option autoImplicit false

namespace TopologyHooks

/-- The definition of a variable. -/
structure VariableDefinition where
  name : String
  required : Bool
  schema : SchemaProps

namespace VariableDefinition

/-- The definition of a variable whose values have a shape. -/
def ofSchema (name : String) (required : Bool) (schema : Except SchemaFault SchemaProps) :
    Except Error VariableDefinition :=
  match schema with
  | .ok schema => .ok ⟨name, required, schema⟩
  | .error f => .error (.schema name (.schemaFault f))

/-- A definition as it is answered. -/
def toClassVariable (d : VariableDefinition) : ClusterClassVariable :=
  ⟨d.name, d.required, ⟨d.schema⟩⟩

end VariableDefinition

/-- A handler before it is checked. It holds typed mutators only (see `Mutator`), so that what is
said of every handler is said of handlers with such mutators. -/
structure Draft : Type 1 where
  name : String
  definitions : List VariableDefinition
  mutators : List Mutator

namespace Draft

/-- The first name that stands twice in a list. -/
def repeated? (seen : List String) : List VariableDefinition → Option String
  | [] => none
  | d :: rest => if d.name ∈ seen then some d.name else repeated? (d.name :: seen) rest

/-- What is wrong with a mutator. -/
def mutatorFault? (definitions : List VariableDefinition) (registry : ObjectRegistry)
    (m : Mutator) : Option Error :=
  match definitions.find? fun d => d.name == m.reads.name with
  | none => some (.schema m.reads.name (.undefinedVariable m.name))
  | some d =>
    if (d.schema.propertyAt? m.reads.path).isNone then
      some (.schema m.reads.name (.undeclaredPath m.name m.reads.text))
    else if m.selector.apiVersion ≠ m.kind.apiVersion ∨ m.selector.kind ≠ m.kind.name then
      some (.config (.otherSelector m.name m.selector.apiVersion m.selector.kind m.kind))
    else if registry.contains m.kind then none
    else some (.config (.unregisteredTemplate m.name m.kind))

/-- The first thing wrong with a draft. -/
def fault? (d : Draft) (registry : ObjectRegistry) : Option Error :=
  match repeated? [] d.definitions with
  | some name => some (.schema name (.definedTwice d.name))
  | none => d.mutators.findSome? (mutatorFault? d.definitions registry)

end Draft

/-- A group of variables and of mutators that read them. -/
structure Handler : Type 1 extends Draft where
  registry : ObjectRegistry
  sound : toDraft.fault? registry = none

/-- Checks a draft. -/
def Draft.build (d : Draft) (registry : ObjectRegistry) : Except Error Handler :=
  match h : d.fault? registry with
  | none => .ok ⟨d, registry, h⟩
  | some e => .error e

/-- The answers of a cancellation token, one for each time that it is asked. Whoever holds the
token can cancel it while a request is worked on, so that the answers depend on nothing here. -/
structure CancellationToken where
  cancelled : Nat → Bool

namespace CancellationToken

/-- A token that nobody cancels. -/
def never : CancellationToken := ⟨fun _ => false⟩

/-- A token that is cancelled once it was asked some times. -/
def after (times : Nat) : CancellationToken := ⟨fun i => decide (times ≤ i)⟩

/-- What is left of a token after it was asked once. -/
def next (token : CancellationToken) : CancellationToken := ⟨fun i => token.cancelled (i + 1)⟩

end CancellationToken

namespace Handler

/-- The definitions of a handler. -/
def discoverVariables (h : Handler) (_request : DiscoverVariablesRequest) :
    DiscoverVariablesResponse :=
  .success (h.definitions.map VariableDefinition.toClassVariable)

/-! ## Patches -/

/-- A ledger after some mutators have run on an object of a request. -/
def runMutators (registry : ObjectRegistry) (item : GeneratePatches.RequestItem)
    (vars : Variables) : List Mutator → Ledger → Except Error Ledger
  | [], l => .ok l
  | m :: rest, l =>
    match m.generate registry item vars l with
    | (l, none) => runMutators registry item vars rest l
    | (_, some e) => .error e

/-- A ledger after all mutators have run on some objects of a request. The token is asked before
each of them. -/
def runItems (h : Handler) (token : CancellationToken) (global : Variables) :
    List GeneratePatches.RequestItem → Ledger → Except Error Ledger
  | [], l => .ok l
  | item :: rest, l =>
    if token.cancelled 0 then .error (.cancelled (.cancelledBefore h.name item.uid))
    else
      match runMutators h.registry item (global.overlay item.bindings) h.mutators l with
      | .error e => .error e
      | .ok l => runItems h token.next global rest l

/-- The patches of a request. -/
def patches (h : Handler) (request : GeneratePatches.Request) (token : CancellationToken) :
    Except Error (List GeneratePatches.ResponseItem) :=
  (runItems h token (.ofList request.bindings) request.items .empty).map
    Ledger.responseItems

/-- The answer to a request for patches. -/
def generatePatches (h : Handler) (request : GeneratePatches.Request)
    (token : CancellationToken) : GeneratePatches.Response :=
  match h.patches request token with
  | .ok items => .success items
  | .error e => GeneratePatches.Response.fail (.success []) e.message

/-! ## Validation -/

/-- The variables in force for each item of a request, or for all of it if it has no items. -/
def scopes (request : ValidateTopology.Request) : List Variables :=
  let global := Variables.ofList request.bindings
  if request.items.isEmpty then [global]
  else request.items.map fun item => global.overlay item.bindings

/-- The first error that mutators meet when they look their variables up. -/
def lookupFault? (mutators : List Mutator) (vars : Variables) : Option Error :=
  mutators.findSome? fun m =>
    match m.lookup vars with
    | .ok _ => none
    | .error e => some e

/-- The answer to a request to validate a topology. -/
def validateTopology (h : Handler) (request : ValidateTopology.Request) : HookResponse :=
  match (scopes request).findSome? (lookupFault? h.mutators) with
  | none => .success .validateTopology
  | some e => .failure .validateTopology e.message

/-- The text that shows a handler. -/
def text (h : Handler) : String :=
  "MetaHandler \x7b name: " ++ Text.quoted h.name ++ ", variables: "
    ++ Text.quotedList (h.definitions.map VariableDefinition.name) ++ ", mutators: "
    ++ Text.quotedList (h.mutators.map Mutator.name) ++ " \x7d"

end Handler

end TopologyHooks
