import TopologyHooks.Json.Printer
import TopologyHooks.Message.GeneratePatches
import TopologyHooks.Patch.Apply

/-!
# The patches of one request

A `Ledger` keeps, for every object that a patch was tried on, the object as it is now and the
steps that led there. Objects are told apart by their identifiers and stand in the order of their
first patch.

* `Ledger.current`, `Ledger.operations` — the object and the steps of an identifier.
* `Ledger.merge` — a ledger after one more patch, and why that patch failed if it did.
* `Ledger.responseItems` — the patches as they are answered.
-/

set_option autoImplicit false

namespace TopologyHooks

/-- An object that a patch was tried on. -/
structure Ledger.Entry where
  uid : String
  working : Json
  operations : Patch

/-- The patches of the objects of one request. -/
structure Ledger where
  entries : List Ledger.Entry

namespace Ledger

/-- The ledger before any patch. -/
def empty : Ledger := ⟨[]⟩

/-- The entry of an identifier. -/
def lookup? (l : Ledger) (uid : String) : Option Entry := l.entries.find? fun e => e.uid == uid

/-- An object as it is now. -/
def current (l : Ledger) (uid : String) (received : Json) : Json :=
  match l.lookup? uid with
  | some e => e.working
  | none => received

/-- The steps that led to an object as it is now. -/
def operations (l : Ledger) (uid : String) : Patch :=
  match l.lookup? uid with
  | some e => e.operations
  | none => []

/-- The entries with steps. -/
def patched (l : Ledger) : List Entry := l.entries.filter fun e => !e.operations.isEmpty

/-- The number of objects with steps. -/
def size (l : Ledger) : Nat := l.patched.length

/-- Whether no object has steps. -/
def isEmpty (l : Ledger) : Bool := l.size == 0

/-- The entries after one more patch; the object gets an entry even if the patch fails. -/
def mergeInto (uid : String) (received : Json) (patch : Patch) :
    List Entry → List Entry × Option Patch.Failure
  | [] =>
    match patch.apply received with
    | .ok new => ([⟨uid, new, patch⟩], none)
    | .error f => ([⟨uid, received, []⟩], some f)
  | e :: rest =>
    if e.uid = uid then
      match patch.apply e.working with
      | .ok new => (⟨e.uid, new, e.operations ++ patch⟩ :: rest, none)
      | .error f => (e :: rest, some f)
    else
      let (rest, failure) := mergeInto uid received patch rest
      (e :: rest, failure)

/-- A ledger after one more patch of an object, and why it failed if it did. -/
def merge (l : Ledger) (uid : String) (received : Json) (patch : Patch) :
    Ledger × Option Patch.Failure :=
  let (entries, failure) := mergeInto uid received patch l.entries
  (⟨entries⟩, failure)

/-- The bytes of a patch. -/
def patchBytes (patch : Patch) : List UInt8 := patch.toJson.render.toUTF8.data.toList

/-- The patches of a ledger as they are answered. -/
def responseItems (l : Ledger) : List GeneratePatches.ResponseItem :=
  l.patched.map fun e => ⟨e.uid, .jsonPatch, patchBytes e.operations⟩

end Ledger

end TopologyHooks
