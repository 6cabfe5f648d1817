import TopologyHooks.Shape.Write

/-!
# Metadata of objects

`ObjectMeta` is what every object says about itself: its name, its labels, its owners and who has
changed it. It is read leniently: unknown fields are dropped, null is the same as missing, and of
a repeated field the last one counts. Points in time are written with whole seconds.
-/

set_option autoImplicit false

namespace TopologyHooks

/-- An object that owns another. -/
structure OwnerReference where
  apiVersion : String
  blockOwnerDeletion : Option Bool
  controller : Option Bool
  kind : String
  name : String
  uid : String
  deriving DecidableEq

namespace OwnerReference

/-- A text that is empty when it is missing or null, and always written. -/
def word {β : Type} (key : String) (rest : Fields β) : Fields (String × β) :=
  .defaulted key "" (.mapped (.nullable .text) (·.getD "") some) rest

/-- How an owner is written. -/
def shape : Shape OwnerReference :=
  .lenient "OwnerReference"
    (word "apiVersion" <|
     .optional "blockOwnerDeletion" .flag <|
     .optional "controller" .flag <|
     word "kind" <| word "name" <| word "uid" .done)
    (fun (version, block, controller, kind, name, uid, _) =>
      ⟨version, block, controller, kind, name, uid⟩)
    (fun o => (o.apiVersion, o.blockOwnerDeletion, o.controller, o.kind, o.name, o.uid, ()))

end OwnerReference

/-- Who has changed which fields of an object. -/
structure ManagedFields where
  apiVersion : Option String
  fieldsType : Option String
  fieldsV1 : Option Json
  manager : Option String
  operation : Option String
  subresource : Option String
  time : Option Timestamp

/-- How a change is written. -/
def ManagedFields.shape : Shape ManagedFields :=
  .lenient "ManagedFieldsEntry"
    (.optional "apiVersion" .text <|
     .optional "fieldsType" .text <|
     .optional "fieldsV1" .json <|
     .optional "manager" .text <|
     .optional "operation" .text <|
     .optional "subresource" .text <|
     .optional "time" .time .done)
    (fun (version, type, fields, manager, operation, sub, time, _) =>
      ⟨version, type, fields, manager, operation, sub, time⟩)
    (fun m => (m.apiVersion, m.fieldsType, m.fieldsV1, m.manager, m.operation, m.subresource,
      m.time, ()))

/-- What an object says about itself. -/
structure ObjectMeta where
  annotations : Option (Dictionary String)
  creationTimestamp : Option Timestamp
  deletionGracePeriodSeconds : Option Signed64
  deletionTimestamp : Option Timestamp
  finalizers : Option (List String)
  generateName : Option String
  generation : Option Signed64
  labels : Option (Dictionary String)
  managedFields : Option (List ManagedFields)
  name : Option String
  namespaceName : Option String
  ownerReferences : Option (List OwnerReference)
  resourceVersion : Option String
  selfLink : Option String
  uid : Option String

namespace ObjectMeta

/-- Metadata that say nothing. -/
def blank : ObjectMeta :=
  ⟨none, none, none, none, none, none, none, none, none, none, none, none, none, none, none⟩

instance : Inhabited ObjectMeta := ⟨blank⟩

/-- How metadata are written. -/
def shape : Shape ObjectMeta :=
  .lenient "ObjectMeta"
    (.optional "annotations" (.dictionary .text) <|
     .optional "creationTimestamp" .time <|
     .optional "deletionGracePeriodSeconds" .signed64 <|
     .optional "deletionTimestamp" .time <|
     .optional "finalizers" (.list .text) <|
     .optional "generateName" .text <|
     .optional "generation" .signed64 <|
     .optional "labels" (.dictionary .text) <|
     .optional "managedFields" (.list ManagedFields.shape) <|
     .optional "name" .text <|
     .optional "namespace" .text <|
     .optional "ownerReferences" (.list OwnerReference.shape) <|
     .optional "resourceVersion" .text <|
     .optional "selfLink" .text <|
     .optional "uid" .text .done)
    (fun (a, b, c, d, e, f, g, h, i, j, k, l, m, n, o, _) =>
      ⟨a, b, c, d, e, f, g, h, i, j, k, l, m, n, o⟩)
    (fun ⟨a, b, c, d, e, f, g, h, i, j, k, l, m, n, o⟩ =>
      (a, b, c, d, e, f, g, h, i, j, k, l, m, n, o, ()))

end ObjectMeta

end TopologyHooks
