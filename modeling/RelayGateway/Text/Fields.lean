import RelayGateway.Text.Blank

/-! # Comma-separated lists

* `fields`: the pieces of a text between separators; a text with `n` separators has `n + 1`.
* `splitList`: the pieces between commas, trimmed, without the empty ones.
-/

set_option autoImplicit false

namespace RelayGateway.Text

/-- Puts a character in front of the first field, or starts a new field at a separator. -/
def consField (sep c : Char) (fields : List (List Char)) : List (List Char) :=
  if c = sep then
    [] :: fields
  else
    match fields with
    | [] => [[c]]
    | f :: fs => (c :: f) :: fs

/-- The pieces of a list of characters between the separators. -/
def fields (sep : Char) (cs : List Char) : List (List Char) :=
  cs.foldr (consField sep) [[]]

def splitAt (sep : Char) (text : String) : List String :=
  (fields sep text.toList).map String.ofList

/-- The items of a comma-separated list: trimmed, and never empty. -/
def splitList (text : String) : List String :=
  (((fields ',' text.toList).map trimChars).filter fun item => !item.isEmpty).map String.ofList

end RelayGateway.Text
