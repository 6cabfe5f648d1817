import TopologyHooks.Json.Reader
import TopologyHooks.Shape.Basic
import TopologyHooks.Shape.Source

/-!
# Reading values of a shape

* `Shape.read` — the value that a layer of a source stands for, or the first fault in it.
* `Fields.collect` — the fields of an object. Every field is looked up by its key; of several
  faults the one that stands first in the object wins, then what is wrong with its end, then the
  first missing field.
* `Fields.positional` — the fields of a record given as an array, in the order of the record.
* `Shape.ofJson`, `Shape.ofText` — reading from a value and from a text.
-/

set_option autoImplicit false

namespace TopologyHooks

namespace Reading

variable {ν α β : Type}

/-! ## Faults and where they stand -/

/-- A result, or a fault with its place in an object. -/
abbrev Placed (α : Type) := Except (Nat × Fault) α

/-- Two results, or the fault that stands first. -/
def both : Placed α → Placed β → Placed (α × β)
  | .ok a, .ok b => .ok (a, b)
  | .error e, .ok _ => .error e
  | .ok _, .error f => .error f
  | .error e, .error f => .error (if f.1 < e.1 then f else e)

/-- A result, unless some other fault stands first. -/
def barring (other : Option (Nat × Fault)) (r : Placed α) : Except Fault α :=
  match other, r with
  | none, .ok a => .ok a
  | none, .error e => .error e.2
  | some f, .ok _ => .error f.2
  | some f, .error e => .error (if f.1 < e.1 then f.2 else e.2)

/-- The fault at the end of an object with a number of members. -/
def atClose (total : Nat) (close : Option SyntaxError) : Option (Nat × Fault) :=
  close.map fun e => (total, .notJson e)

/-! ## Arrays and dictionaries -/

/-- A result, unless something is wrong after it. -/
def closing (close : Option SyntaxError) (a : α) : Except Fault α :=
  match close with
  | none => .ok a
  | some e => .error (.notJson e)

/-- The items of an array, up to the first fault. -/
def readItems (read : ν → Except Fault α) (close : Option SyntaxError) :
    List ν → Except Fault (List α)
  | [] => closing close []
  | x :: xs =>
    match read x with
    | .error e => .error e
    | .ok a =>
      match readItems read close xs with
      | .error e => .error e
      | .ok as => .ok (a :: as)

/-- The entries of an object, up to the first fault. -/
def readEntries (read : ν → Except Fault α) (close : Option SyntaxError) :
    List (String × ν) → Except Fault (List (String × α))
  | [] => closing close []
  | (k, x) :: xs =>
    match read x with
    | .error e => .error e
    | .ok a =>
      match readEntries read close xs with
      | .error e => .error e
      | .ok as => .ok ((k, a) :: as)

/-! ## Members of an object -/

/-- The members with a key, with their places. -/
def occurrences (key : String) (here : Nat) : List (String × ν) → List (Nat × ν)
  | [] => []
  | (k, x) :: rest =>
    if k = key then (here, x) :: occurrences key (here + 1) rest
    else occurrences key (here + 1) rest

/-- The last of several values of a field, of which each must be readable. -/
def readLast (read : ν → Except Fault α) (a : α) : List (Nat × ν) → Placed α
  | [] => .ok a
  | (i, x) :: rest =>
    match read x with
    | .error e => .error (i, e)
    | .ok b => readLast read b rest

/-- A field of an object with a number of members. -/
def readField (lenient : Bool) (total : Nat) (key : String) (presence : Presence α)
    (read : ν → Except Fault α) (members : List (String × ν)) : Placed α :=
  match occurrences key 0 members with
  | [] =>
    match presence.absent? with
    | some a => .ok a
    | none => .error (total + 1, .missingField key)
  | (i, x) :: more =>
    match read x with
    | .error e => .error (i, e)
    | .ok a =>
      if lenient then readLast read a more
      else
        match more with
        | [] => .ok a
        | (j, _) :: _ => .error (j, Fault.duplicateField key)

/-- The first fault in members that are not known, of which each is looked at by `check`. -/
def inStrays (check : ν → Option SyntaxError) (known : List String) (here : Nat) :
    List (String × ν) → Option (Nat × Fault)
  | [] => none
  | (k, x) :: rest =>
    if k ∈ known then inStrays check known (here + 1) rest
    else
      match check x with
      | some e => some (here, .notJson e)
      | none => inStrays check known (here + 1) rest

/-- The fault of a value that is read and kept aside. -/
def keepFault (src : Source ν) (x : ν) : Option SyntaxError :=
  match src.json x with
  | .ok _ => none
  | .error e => some e

/-! ## Records given as arrays -/

/-- How many elements something has. -/
def elements (n : Nat) : String :=
  if n = 1 then "1 element" else toString n ++ " elements"

/-- What is wrong with the end of an array of `total` items, of which `left` follow the fields. -/
def atArrayEnd (origin : Origin) (total : Nat) (left : List ν) (close : Option SyntaxError) :
    Option Fault :=
  match left with
  | _ :: _ =>
    match origin with
    | .value => some (.invalidLength total "fewer elements in array")
    | .text => some (.notJson .trailingCharacters)
    | .buffered => some (.invalidLength total (elements (total - left.length) ++ " in sequence"))
  | [] =>
    match close with
    | none => none
    | some .eofList => some (.notJson .eofList)
    | some .trailingComma => some (.notJson .trailingComma)
    | some _ => some (.notJson .trailingCharacters)

/-! ## Names -/

/-- The value that a name stands for. -/
def pick (values : List (String × α)) (name : String) : Except Fault α :=
  match Assoc.get? name values with
  | some a => .ok a
  | none => .error (.unknownVariant name (values.map Prod.fst))

/-- A name as the only member of an object in a text, whose value is null. -/
def readNamed (src : Source ν) (values : List (String × α)) (key : String) (n : ν)
    (more : List (String × ν)) (close : Option SyntaxError) : Except Fault α :=
  match src.misplaced? n with
  | some found => .error ((src.view found).fault "variant identifier")
  | none =>
    match pick values key with
    | .error e => .error e
    | .ok a =>
      match src.view n with
      | .null =>
        match more, close with
        | [], none => .ok a
        | [], some .eofObject => .error (.notJson .eofObject)
        | _, _ => .error (.notJson .expectedValue)
      | v => .error (v.fault "unit")

/-- A name alone, or with null as a member of that name. -/
def readChoice (src : Source ν) (values : List (String × α)) (n : ν) : Except Fault α :=
  match src.view n, src.origin with
  | .str s, _ => pick values s
  | .broken e, _ => .error (.notJson e)
  | .obj ((k, x) :: more) close, .text => readNamed src values k x more close
  | .obj [] (some .eofObject), .text => .error (.notJson .eofValue)
  | .obj [] (some .tooDeep), .text => .error (.notJson .tooDeep)
  | _, .text => .error (.notJson .expectedValue)
  | .obj [(k, x)] _, _ =>
    match pick values k with
    | .error e => .error e
    | .ok a =>
      match src.view x with
      | .null => .ok a
      | v => .error (v.fault "unit")
  | .obj _ _, _ => .error (.invalidValue .map "map with a single key")
  | v, _ => .error (v.fault "string or map")

/-! ## Scalars -/

/-- A string that stands for something else. -/
def readString (src : Source ν) (expected : String) (parse : String → Except Fault α) (n : ν) :
    Except Fault α :=
  match src.view n with
  | .str s => parse s
  | v => .error (v.fault expected)

/-- An integer between bounds. -/
def readInteger (src : Source ν) (low high : Int) (name : String) (n : ν) :
    Except Fault (Bounded low high) :=
  match src.view n with
  | .num (.int i h) =>
    match Bounded.ofInt? i with
    | some b => .ok b
    | none => .error (.invalidValue (.number (.int i h)) name)
  | v => .error (v.fault name)

end Reading

open Reading

mutual

/-- The value that a layer stands for, or the first fault in it. -/
def Shape.read {ν : Type} : (src : Source ν) → {α : Type} → Shape α → ν → Except Fault α
  | src, _, .text, n => readString src "a string" .ok n
  | src, _, .flag, n =>
    match src.view n with
    | .bool b => .ok b
    | v => .error (v.fault "a boolean")
  | src, _, .integer low high name, n => readInteger src low high name n
  | src, _, .real, n =>
    match src.view n with
    | .num i => .ok i.toDouble
    | v => .error (v.fault "f64")
  | src, _, .json, n => (src.json n).mapError .notJson
  | src, _, .spelled expected parse _, n => readString src expected parse n
  | src, _, .list item, n =>
    match src.view n with
    | .arr items close => readItems (fun x => Shape.read src item x) close items
    | v => .error (v.fault "a sequence")
  | src, _, .dictionary item, n =>
    match src.view n with
    | .obj members close =>
      (readEntries (fun x => Shape.read src item x) close members).map Dictionary.ofList
    | v => .error (v.fault "a map")
  | src, _, .nullable inner, n =>
    match src.view n with
    | .null => .ok none
    | .misspelt e true => .error (.notJson e)
    | _ => (Shape.read src inner n).map some
  | src, _, .choice values _, n => readChoice src values n
  | src, _, .record form fields into _, n =>
    match src.view n with
    | .obj members close =>
      let total := members.length
      let others := (inStrays src.skip fields.keys 0 members).or (atClose total close)
      (barring others (Fields.collect src form.lenient total fields members)).map into
    | .arr items close =>
      if form.lenient then .error (.invalidType .sequence form.title)
      else
        let short (i : Nat) : Fault :=
          .invalidLength i (form.title ++ " with " ++ elements fields.count)
        match Fields.positional src short 0 close fields items with
        | .error e => .error e
        | .ok (b, left) =>
          match atArrayEnd src.origin items.length left close with
          | some e => .error e
          | none => .ok (into b)
    | v => .error (v.fault form.title)
  | src, _, .flattened form own base into _, n =>
    match src.view n with
    | .obj members close =>
      let total := members.length
      let others := (inStrays (keepFault src) own.keys 0 members).or (atClose total close)
      match barring others (Fields.collect src form.lenient total own members) with
      | .error e => .error e
      | .ok b =>
        let kept := members.filter fun m => m.1 ∉ own.keys
        match barring none (Fields.collect src.buffered form.lenient total base kept) with
        | .error e => .error e
        | .ok c => .ok (into (b, c))
    | v => .error (v.fault form.title)
  | src, _, .mapped inner into _, n => (Shape.read src inner n).map into
  | src, _, .deferred level _, n => Shape.read src (level (src.depth n)) n
  | src, _, .described _ inner, n => Shape.read src inner n

/-- The fields of an object with `total` members, or the fault that stands first. -/
def Fields.collect {ν : Type} : (src : Source ν) → (lenient : Bool) → (total : Nat) →
    {β : Type} → Fields β → List (String × ν) → Placed β
  | _, _, _, _, .done, _ => .ok ()
  | src, lenient, total, _, .field key presence shape rest, members =>
    both (readField lenient total key presence (fun x => Shape.read src shape x) members)
      (Fields.collect src lenient total rest members)

/-- The fields of an array, from field number `index` on, and the items after them. -/
def Fields.positional {ν : Type} : (src : Source ν) → (short : Nat → Fault) → (index : Nat) →
    (close : Option SyntaxError) → {β : Type} → Fields β → List ν → Except Fault (β × List ν)
  | _, _, _, _, _, .done, items => .ok ((), items)
  | src, short, index, close, _, .field _ presence shape rest, items =>
    let first := match items with
      | x :: _ => Shape.read src shape x
      | [] =>
        match close, presence.absent? with
        | some e, _ => .error (.notJson e)
        | none, some a => .ok a
        | none, none => .error (short index)
    match first with
    | .error e => .error e
    | .ok a =>
      match Fields.positional src short (index + 1) close rest items.tail with
      | .error e => .error e
      | .ok (b, left) => .ok ((a, b), left)

end

namespace Shape

variable {α : Type}

/-- The value of a shape that a JSON value stands for. -/
def ofJson (shape : Shape α) (j : Json) : Except Fault α := shape.read Source.value j

/-- The value of a shape that a JSON text stands for. -/
def ofText (shape : Shape α) (text : String) : Except Fault α :=
  match Document.read text with
  | (d, after) =>
    match shape.read Source.text d with
    | .error e => .error e
    | .ok a => closing after a

end Shape

end TopologyHooks
