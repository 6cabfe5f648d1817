import TopologyHooks.Message.Reference
import TopologyHooks.Message.Variable

/-!
# The messages of the hook that asks for patches
-/

set_option autoImplicit false

namespace TopologyHooks

namespace GeneratePatches

/-- A template to be patched. -/
structure RequestItem where
  uid : String
  holderReference : HolderReference
  object : Json
  bindings : List ClusterVariable
  deriving DecidableEq

/-- How a template to be patched is written. -/
def RequestItem.shape : Shape RequestItem :=
  .struct "GeneratePatchesRequestItem"
    (.required "uid" .text <|
     .required "holderReference" HolderReference.shape <|
     .required "object" .json <|
     Message.many "variables" ClusterVariable.shape .done)
    (fun (uid, holder, object, bindings, _) => ⟨uid, holder, object, bindings⟩)
    (fun i => (i.uid, i.holderReference, i.object, i.bindings, ()))

/-- A request for patches. -/
structure Request where
  apiVersion : String
  kind : String
  settings : Settings
  bindings : List ClusterVariable
  items : List RequestItem

/-- How the request is written. -/
def Request.shape : Shape Request :=
  .struct "GeneratePatchesRequest"
    (Message.version <| Message.kind <| Message.settings <|
     Message.many "variables" ClusterVariable.shape <|
     Message.many "items" RequestItem.shape .done)
    (fun (version, kind, settings, bindings, items, _) =>
      ⟨version, kind, settings, bindings, items⟩)
    (fun r => (r.apiVersion, r.kind, r.settings, r.bindings, r.items, ()))

/-- The request without contents. -/
def Request.blank : Request := ⟨"", "", ∅, [], []⟩

/-- How the bytes of a patch are to be understood. -/
inductive PatchType
  | jsonPatch
  | mergePatch
  deriving DecidableEq

namespace PatchType

/-- The name of a patch type. -/
def name : PatchType → String
  | jsonPatch => "JSONPatch"
  | mergePatch => "JSONMergePatch"

/-- How a patch type is written. -/
def shape : Shape PatchType :=
  .choice [("JSONPatch", jsonPatch), ("JSONMergePatch", mergePatch)] name

end PatchType

/-- The patch of one template. -/
structure ResponseItem where
  uid : String
  patchType : PatchType
  patch : List UInt8
  deriving DecidableEq

/-- How the patch of a template is written. -/
def ResponseItem.shape : Shape ResponseItem :=
  .struct "GeneratePatchesResponseItem"
    (.required "uid" .text <|
     .required "patchType" PatchType.shape <|
     .required "patch" .bytes .done)
    (fun (uid, type, patch, _) => ⟨uid, type, patch⟩)
    (fun i => (i.uid, i.patchType, i.patch, ()))

/-- The patches of a request, or why there are none. -/
structure Response where
  apiVersion : String
  kind : String
  status : Status
  message : String
  items : List ResponseItem
  deriving DecidableEq

namespace Response

/-- How the answer is written. -/
def shape : Shape Response :=
  .struct "GeneratePatchesResponse"
    (.required "apiVersion" .text <|
     .required "kind" .text <|
     .required "status" Status.shape <|
     .worded "message" .text <|
     Message.many "items" ResponseItem.shape .done)
    (fun (version, kind, status, message, items, _) => ⟨version, kind, status, message, items⟩)
    (fun r => (r.apiVersion, r.kind, r.status, r.message, r.items, ()))

/-- The answer with some patches. -/
def success (items : List ResponseItem) : Response :=
  ⟨Hook.apiVersion, Hook.generatePatches.responseKind, .success, "", items⟩

/-- The same answer as a failure, without patches. -/
def fail (r : Response) (message : String) : Response :=
  { r with status := .failure, message := message, items := [] }

end Response

end GeneratePatches

end TopologyHooks
