import TopologyHooks.Shape.Fault

/-!
# What values are read from

A value of a shape is read from a JSON value, from a JSON text, or from members that were kept
aside while the rest of an object was read. The three differ in the faults that they can meet and
in some messages.

* `View` — one layer of what is read.
* `Source` — how the layers are reached, with `Source.value` and `Source.text`.
-/

set_option autoImplicit false

namespace TopologyHooks

/-- Where a value that is read comes from. -/
inductive Origin
  | value
  | text
  /-- Members kept aside. -/
  | buffered
  deriving DecidableEq

/-- One layer of a value. -/
inductive View (ν : Type)
  | null
  | bool (b : Bool)
  | num (n : Number)
  | str (s : String)
  | arr (items : List ν) (close : Option SyntaxError)
  | obj (members : List (String × ν)) (close : Option SyntaxError)
  | broken (e : SyntaxError)
  /-- A word or a number that goes wrong; the flag tells whether the word begins like `null`. -/
  | misspelt (e : SyntaxError) (likeNull : Bool)

/-- The fault of a layer that stands where something else is expected. -/
def View.fault {ν : Type} (expected : String) : View ν → Fault
  | .null => .invalidType .null expected
  | .bool b => .invalidType (.boolean b) expected
  | .num n => .invalidType (.number n) expected
  | .str s => .invalidType (.string s) expected
  | .arr _ _ => .invalidType .sequence expected
  | .obj _ _ => .invalidType .map expected
  | .broken e => .notJson e
  | .misspelt e _ => .notJson e

/-- How the layers of values are reached. -/
structure Source (ν : Type) where
  origin : Origin
  view : ν → View ν
  /-- The whole value. -/
  json : ν → Except SyntaxError Json
  /-- The fault that a reader meets who ignores the value. -/
  skip : ν → Option SyntaxError
  /-- For what stands in place of a key: the value that was found there. -/
  misplaced? : ν → Option ν
  depth : ν → Nat

namespace Source

/-- The layer of a JSON value. -/
def viewValue : Json → View Json
  | .null => .null
  | .bool b => .bool b
  | .num n => .num n
  | .str s => .str s
  | .arr items => .arr items none
  | .obj members => .obj members none

/-- The layer of a document. -/
def viewText : Document → View Document
  | .null => .null
  | .bool b => .bool b
  | .num n => .num n
  | .str s => .str s
  | .arr items close => .arr items close
  | .obj members close => .obj members close
  | .broken e => .broken e
  | .misspelt e likeNull => .misspelt e likeNull
  | .strict e true _ => .broken e
  | .strict e false _ => .misspelt e false
  | .tooDeep (.arr _ _) => .arr [] (some .tooDeep)
  | .tooDeep _ => .obj [] (some .tooDeep)
  | .key e _ => .broken e

/-- Reading from JSON values. -/
def value : Source Json :=
  ⟨.value, viewValue, .ok, fun _ => none, fun _ => none, Json.depth⟩

/-- What was found in place of a key. -/
def misplacedText? : Document → Option Document
  | .key _ found => some found
  | _ => none

/-- Reading from JSON texts. -/
def text : Source Document :=
  ⟨.text, viewText, Document.json, Document.skip, misplacedText?, Document.depth⟩

/-- The same source for members kept aside. -/
def buffered {ν : Type} (src : Source ν) : Source ν := { src with origin := .buffered }

end Source

end TopologyHooks
