/-!
# Lower case

`Text.lowercase` changes the letters `A` to `Z` and no other character.
-/

set_option autoImplicit false

namespace TopologyHooks

namespace Text

/-- The text with the letters `A` to `Z` in lower case. -/
def lowercase (s : String) : String := String.ofList (s.toList.map Char.toLower)

end Text

end TopologyHooks
