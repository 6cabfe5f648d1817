import TopologyHooks.Shape.Bounded
import TopologyHooks.Shape.Fault

/-!
# Shapes of JSON values

A `Shape α` describes how the values of a type are written as JSON. Reading, writing and the
schema that is advertised for a type are all computed from its shape, so that they cannot drift
apart.

* `Presence` — whether a field must be there, what it is when it is not, and when it is left out
  in writing.
* `Form` — the name of a record in messages, and how strictly it is read.
* `Shape`, `Fields` — the descriptions themselves. The fields of a record have the type of a
  nested pair, from which and into which the record is converted.
-/

set_option autoImplicit false

namespace TopologyHooks

/-- Whether a field of a record must be there. -/
inductive Presence (α : Type)
  /-- It must be there. -/
  | required
  /-- A missing field has this value; the field is always written. -/
  | defaulted (value : α)
  /-- A missing field has this value; a field that `skip` holds of is not written. -/
  | omitted (value : α) (skip : α → Bool)

namespace Presence

variable {α : Type}

/-- The value of a missing field. -/
def absent? : Presence α → Option α
  | .required => none
  | .defaulted value => some value
  | .omitted value _ => some value

/-- Whether a field with a value is left out in writing. -/
def skips : Presence α → α → Bool
  | .omitted _ skip, a => skip a
  | _, _ => false

/-- Whether a field must be there. -/
def isRequired : Presence α → Bool
  | .required => true
  | _ => false

end Presence

/-- How a record is named in messages, and how strictly it is read. -/
structure Form where
  title : String
  /-- A lenient record is no array of its fields, and of a repeated field the last one counts; in
  any other record a repeated field is a fault. -/
  lenient : Bool

mutual

/-- How the values of a type are written as JSON. -/
inductive Shape : Type → Type 1
  /-- A string. -/
  | text : Shape String
  /-- A boolean. -/
  | flag : Shape Bool
  /-- An integer between bounds, with the name of its range. -/
  | integer (low high : Int) (name : String) : Shape (Bounded low high)
  /-- A double; integers are taken for the nearest one. -/
  | real : Shape Double
  /-- Any value. -/
  | json : Shape Json
  /-- A string that spells a value of another type. -/
  | spelled {α : Type} (expected : String) (parse : String → Except Fault α)
    (render : α → String) : Shape α
  /-- An array. -/
  | list {α : Type} (item : Shape α) : Shape (List α)
  /-- An object with any keys. -/
  | dictionary {α : Type} (item : Shape α) : Shape (Dictionary α)
  /-- Null, or a value of another shape. -/
  | nullable {α : Type} (inner : Shape α) : Shape (Option α)
  /-- One of a list of names. -/
  | choice {α : Type} (values : List (String × α)) (name : α → String) : Shape α
  /-- An object with known fields. -/
  | record {α β : Type} (form : Form) (fields : Fields β) (into : β → α) (outOf : α → β) : Shape α
  /-- An object with known fields, and those of another record among them. -/
  | flattened {α β γ : Type} (form : Form) (own : Fields β) (base : Fields γ)
    (into : β × γ → α) (outOf : α → β × γ) : Shape α
  /-- The values of another type in disguise. -/
  | mapped {α β : Type} (inner : Shape α) (into : α → β) (outOf : β → α) : Shape β
  /-- A shape that repeats inside itself, given for each depth of nesting. -/
  | deferred {α : Type} (level : Nat → Shape α) (height : α → Nat) : Shape α
  /-- A shape with a description for its schema. -/
  | described {α : Type} (doc : String) (inner : Shape α) : Shape α

/-- The fields of a record, in their order. -/
inductive Fields : Type → Type 1
  | done : Fields Unit
  | field {α β : Type} (key : String) (presence : Presence α) (shape : Shape α)
    (rest : Fields β) : Fields (α × β)

end

/-! ## Numbers, strings and records of the usual kinds -/

namespace Shape

/-- An integer of 64 bits. -/
def signed64 : Shape Signed64 := .integer _ _ "i64"

/-- An integer of 32 bits. -/
def signed32 : Shape Signed32 := .integer _ _ "i32"

/-- A natural number of 32 bits. -/
def unsigned32 : Shape Unsigned32 := .integer _ _ "u32"

/-- A natural number of 16 bits. -/
def unsigned16 : Shape Unsigned16 := .integer _ _ "u16"

/-- Bytes, as a string in base 64. -/
def bytes : Shape (List UInt8) :=
  .spelled "a string" (fun s => (Base64.decode s).mapError .notBase64)
    (fun bs => String.ofList (Base64.encode bs))

/-- A point in time. -/
def time : Shape Timestamp :=
  .spelled "an RFC 3339 formatted date and time string"
    (fun s => (Timestamp.parse s).mapError .notTimestamp) Timestamp.render

/-- A path into a JSON value. -/
def pointer : Shape Pointer :=
  .spelled "a string" (fun s => (Pointer.parse s).mapError .notPointer) Pointer.render

/-- A record whose fields may also be given as an array. -/
def struct {α β : Type} (name : String) (fields : Fields β) (into : β → α) (outOf : α → β) :
    Shape α :=
  .record ⟨"struct " ++ name, false⟩ fields into outOf

/-- A record that is read leniently. -/
def lenient {α β : Type} (name : String) (fields : Fields β) (into : β → α) (outOf : α → β) :
    Shape α :=
  .record ⟨name, true⟩ fields into outOf

end Shape

/-! ## Fields of the usual kinds -/

namespace Fields

variable {α β : Type}

/-- A field that must be there. -/
def required (key : String) (shape : Shape α) (rest : Fields β) : Fields (α × β) :=
  .field key .required shape rest

/-- A field that is always written and may be missing. -/
def defaulted (key : String) (value : α) (shape : Shape α) (rest : Fields β) : Fields (α × β) :=
  .field key (.defaulted value) shape rest

/-- A field that may be missing or null, and is not written when it is unset. -/
def optional (key : String) (shape : Shape α) (rest : Fields β) : Fields (Option α × β) :=
  .field key (.omitted none Option.isNone) (.nullable shape) rest

/-- A list that is not written when it is empty. -/
def listed (key : String) (shape : Shape (List α)) (rest : Fields β) : Fields (List α × β) :=
  .field key (.omitted [] List.isEmpty) shape rest

/-- A text that is not written when it is empty. -/
def worded (key : String) (shape : Shape String) (rest : Fields β) : Fields (String × β) :=
  .field key (.omitted "" (· == "")) shape rest

/-- A flag that is not written when it is false. -/
def marked (key : String) (shape : Shape Bool) (rest : Fields β) : Fields (Bool × β) :=
  .field key (.omitted false (· == false)) shape rest

/-- A dictionary that is not written when it is empty. -/
def keyed (key : String) (shape : Shape (Dictionary α)) (rest : Fields β) :
    Fields (Dictionary α × β) :=
  .field key (.omitted ∅ Dictionary.isEmpty) shape rest

/-- The keys of the fields. -/
def keys : {β : Type} → Fields β → List String
  | _, .done => []
  | _, .field key _ _ rest => key :: rest.keys

/-- The number of fields. -/
def count : {β : Type} → Fields β → Nat
  | _, .done => 0
  | _, .field _ _ _ rest => rest.count + 1

end Fields

end TopologyHooks
