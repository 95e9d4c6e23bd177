import RelayGateway.Text.CaseTable
import RelayGateway.Text.CasedTable
import RelayGateway.Text.CaseIgnorableTable

/-! # Full lower-casing

* `lowerChar`: the lower case of one character, out of context; İ alone becomes two characters.
* `finalSigma`: whether a capital sigma at a given place ends a word.
* `toLower`: the lower case of a text; a capital sigma becomes ς at the end of a word, else σ.
-/

set_option autoImplicit false

namespace RelayGateway.Text

/-- Whether a code point lies in one of the ascending closed ranges. -/
def inRanges (ranges : List (Nat × Nat)) (code : Nat) : Bool :=
  ranges.any fun range => range.1 ≤ code && code ≤ range.2

def isCased (c : Char) : Bool :=
  inRanges casedRanges c.toNat

/-- The characters that do not decide whether a word goes on. -/
def isCaseIgnorable (c : Char) : Bool :=
  inRanges caseIgnorableRanges c.toNat

/-- The lower case of one character, without regard to its neighbours. -/
def lowerChar (c : Char) : List Char :=
  let code := c.toNat
  if code < 0x80 then
    if 0x41 ≤ code && code ≤ 0x5A then [Char.ofNat (code + 0x20)] else [c]
  else if code = 0x130 then
    ['i', '\u0307']
  else
    match caseRuns.find? fun run => run.covers code with
    | some run => [Char.ofNat (code + run.shift).toNat]
    | none => [c]

/-- Whether the first character that is not case-ignorable is a cased one. -/
def meetsCased (cs : List Char) : Bool :=
  match cs.dropWhile isCaseIgnorable with
  | [] => false
  | c :: _ => isCased c

/-- A sigma ends a word if a cased character stands before it and none after it; case-ignorable
characters in between do not count. `before` is read backwards. -/
def finalSigma (before after : List Char) : Bool :=
  meetsCased before && !meetsCased after

/-- Lower-cases what follows `before`, which is read backwards. -/
def lowerFrom (before : List Char) : List Char → List Char
  | [] => []
  | c :: cs =>
    let lower :=
      if c = 'Σ' then (if finalSigma before cs then ['ς'] else ['σ']) else lowerChar c
    lower ++ lowerFrom (c :: before) cs

def toLower (text : String) : String :=
  String.ofList (lowerFrom [] text.toList)

end RelayGateway.Text
