import TopologyHooks.Json.Basic

/-!
# JSON pointers

* `Pointer` — a path into a value: its tokens, each a member's key or an index into an array.
* `Pointer.render` and `Pointer.parse` — its text, in which every token follows a slash and `~0`
  and `~1` stand for a tilde and a slash.
* `Json.at?` — the value that a path leads to. An index is written in decimal without a sign or
  leading zeros.
-/

set_option autoImplicit false

namespace TopologyHooks

/-- A path into a JSON value. -/
structure Pointer where
  tokens : List String
  deriving DecidableEq

namespace Pointer

/-- The path to the whole value. -/
def root : Pointer := ⟨[]⟩

/-- The path one step further. -/
def push (p : Pointer) (token : String) : Pointer := ⟨p.tokens ++ [token]⟩

/-- How a character of a token is written. -/
def escapeChar (c : Char) : List Char :=
  if c = '~' then ['~', '0'] else if c = '/' then ['~', '1'] else [c]

/-- The text of a token after its slash. -/
def escape (token : String) : List Char := token.toList.flatMap escapeChar

/-- The text of a path. -/
def render (p : Pointer) : String :=
  String.ofList (p.tokens.flatMap fun t => '/' :: escape t)

/-- Why a text is no pointer. -/
inductive Malformed
  | noLeadingSlash
  /-- A tilde without `0` or `1` after it, in the token that starts at a byte of the text. -/
  | badEscape (offset : Nat)
  deriving DecidableEq

/-- The text of a malformation. -/
def Malformed.message : Malformed → String
  | .noLeadingSlash =>
    "json pointer failed to parse; does not start with a slash ('/') and is not empty"
  | .badEscape offset =>
    "json pointer failed to parse; the first token in the partial-pointer starting at offset "
      ++ toString offset ++ " is malformed"

/-- Reads the tokens after a slash at byte `start`. The token being read is kept reversed, and the
tokens before it too. -/
def readTokens (start here : Nat) (token : List Char) (done : List String) :
    List Char → Except Malformed (List String)
  | [] => .ok (String.ofList token.reverse :: done).reverse
  | '/' :: cs => readTokens here (here + 1) [] (String.ofList token.reverse :: done) cs
  | '~' :: '0' :: cs => readTokens start (here + 2) ('~' :: token) done cs
  | '~' :: '1' :: cs => readTokens start (here + 2) ('/' :: token) done cs
  | c :: cs =>
    if c = '~' then .error (.badEscape start)
    else readTokens start (here + c.utf8Size) (c :: token) done cs

/-- The path that a text stands for. -/
def parse (s : String) : Except Malformed Pointer :=
  match s.toList with
  | [] => .ok root
  | '/' :: cs => (readTokens 0 1 [] [] cs).map Pointer.mk
  | _ :: _ => .error .noLeadingSlash

/-- The index that a token stands for. -/
def index? (token : String) : Option Nat :=
  match token.toList with
  | [] => none
  | ['0'] => some 0
  | '0' :: _ => none
  | cs =>
    if cs.all Char.isDigit then some (cs.foldl (fun n c => n * 10 + (c.toNat - 48)) 0) else none

end Pointer

namespace Json

/-- The value one step into a value. -/
def child? (token : String) : Json → Option Json
  | .obj members => Assoc.get? token members
  | .arr items => (Pointer.index? token).bind (items[·]?)
  | _ => none

/-- The value at a path. -/
def at? (j : Json) : List String → Option Json
  | [] => some j
  | t :: ts => (child? t j).bind (at? · ts)

end Json

end TopologyHooks
