/-! # Finding one text in another

* `startsWith`, `endsWith`, `contains`: literal comparison, character by character.
* `after?`: what follows a given beginning.

Texts are compared by code points, so no canonical equivalence is applied.
-/

set_option autoImplicit false

namespace RelayGateway.Text

/-- Whether `needle` occurs somewhere in a list of characters. -/
def occursIn (needle : List Char) : List Char → Bool
  | [] => needle.isEmpty
  | c :: cs => needle.isPrefixOf (c :: cs) || occursIn needle cs

def contains (text needle : String) : Bool :=
  occursIn needle.toList text.toList

def startsWith (text start : String) : Bool :=
  start.toList.isPrefixOf text.toList

def endsWith (text finish : String) : Bool :=
  finish.toList.isSuffixOf text.toList

/-- What follows `start` at the beginning of a list of characters. -/
def charsAfter? : List Char → List Char → Option (List Char)
  | [], cs => some cs
  | _ :: _, [] => none
  | s :: start, c :: cs => if s = c then charsAfter? start cs else none

/-- What follows `start` at the beginning of `text`. -/
def after? (start text : String) : Option String :=
  (charsAfter? start.toList text.toList).map String.ofList

end RelayGateway.Text
