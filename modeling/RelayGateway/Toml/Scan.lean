/-! # Scanning a settings document

* `Scan`: a reader of characters that yields a value and the characters after it.
* `skipBlanks`, `skipComment`, `skipLineEnd`, `skipVoid`: what stands between the parts of a document.
* `isText`: the characters that may stand in comments and strings.
-/

set_option autoImplicit false

namespace RelayGateway.Toml

/-- A reader of characters: fails, or yields a value and the characters that follow it. -/
abbrev Scan (α : Type) := List Char → Option (α × List Char)

def isGap (c : Char) : Bool :=
  c == ' ' || c == '\t'

/-- Every character but the control characters; a tab is allowed. -/
def isText (c : Char) : Bool :=
  c == '\t' || (0x20 ≤ c.toNat && c.toNat != 0x7F)

def skipBlanks (cs : List Char) : List Char :=
  cs.dropWhile isGap

/-- What follows a line break, if one stands here. -/
def afterBreak? : List Char → Option (List Char)
  | '\n' :: cs => some cs
  | '\r' :: '\n' :: cs => some cs
  | _ => none

def skipComment : List Char → Option (List Char)
  | '#' :: cs =>
    let (body, rest) := cs.span fun c => c != '\n'
    let line :=
      if !rest.isEmpty && body.getLast? == some '\r' then body.dropLast else body
    if line.all isText then some rest else none
  | cs => some cs

/-- The end of a statement: blanks, perhaps a comment, and a line break or the end of the document. -/
def skipLineEnd (cs : List Char) : Option (List Char) := do
  match ← skipComment (skipBlanks cs) with
  | [] => some []
  | rest => afterBreak? rest

/-- Skips blanks, comments and line breaks, at most `fuel` lines of them. -/
def skipVoidLines : Nat → List Char → Option (List Char)
  | 0, cs => some cs
  | fuel + 1, cs => do
    let rest ← skipComment (skipBlanks cs)
    match afterBreak? rest with
    | some next => skipVoidLines fuel next
    | none => some rest

def skipVoid (cs : List Char) : Option (List Char) :=
  skipVoidLines (cs.length + 1) cs

end RelayGateway.Toml
