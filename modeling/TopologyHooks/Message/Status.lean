import TopologyHooks.Hook
import TopologyHooks.Shape.Write

/-!
# What all messages share

* `Status` and `FailurePolicy` — how a call went, and what its caller does when it fails.
* `Settings` — free settings of an extension.
* The fields that open every message (`Message.version`, `Message.kind`).
-/

set_option autoImplicit false

namespace TopologyHooks

/-- How a call of a hook went. -/
inductive Status
  | success
  | failure
  deriving DecidableEq

namespace Status

/-- The name of a status. -/
def name : Status → String
  | success => "Success"
  | failure => "Failure"

/-- How a status is written. -/
def shape : Shape Status := .choice [("Success", success), ("Failure", failure)] name

end Status

/-- What the caller of an extension does when the extension fails. -/
inductive FailurePolicy
  | ignore
  | fail
  deriving DecidableEq

namespace FailurePolicy

/-- The name of a failure policy. -/
def name : FailurePolicy → String
  | ignore => "Ignore"
  | fail => "Fail"

/-- How a failure policy is written. -/
def shape : Shape FailurePolicy := .choice [("Ignore", ignore), ("Fail", fail)] name

end FailurePolicy

/-- Free settings. -/
abbrev Settings := Dictionary String

namespace Message

variable {β : Type}

/-- The version of a request; a missing one is the current one. -/
def version (rest : Fields β) : Fields (String × β) :=
  .defaulted "apiVersion" Hook.apiVersion .text rest

/-- The kind of a request, which may be missing. -/
def kind (rest : Fields β) : Fields (String × β) := .defaulted "kind" "" .text rest

/-- The settings of a request. -/
def settings (rest : Fields β) : Fields (Settings × β) :=
  .defaulted "settings" ∅ (.dictionary .text) rest

/-- A list that is always written and may be missing. -/
def many {α : Type} (key : String) (item : Shape α) (rest : Fields β) : Fields (List α × β) :=
  .defaulted key [] (.list item) rest

end Message

end TopologyHooks
