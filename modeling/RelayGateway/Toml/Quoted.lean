import RelayGateway.Text.Numeral
import RelayGateway.Toml.Scan

/-! # Quoted texts

* `basic`: between double quotes, with escapes; `literal`: between single quotes, as it stands.
* `multiBasic`, `multiLiteral`: the same between triple quotes, over several lines. A line break right
  after the opening quotes is dropped, and a backslash at the end of a line joins it to the next
  word.

Each reader starts after the opening quotes and collects the text in reverse.
-/

set_option autoImplicit false

namespace RelayGateway.Toml

def collected (acc : List Char) : String :=
  String.ofList acc.reverse

/-- The character that a letter after a backslash stands for. -/
def simpleEscape? : Char → Option Char
  | 'b' => some '\x08'
  | 't' => some '\t'
  | 'n' => some '\n'
  | 'f' => some '\x0c'
  | 'r' => some '\r'
  | '"' => some '"'
  | '\\' => some '\\'
  | _ => none

/-- The character with the given hexadecimal number; surrogates are none. -/
def numbered? (digits : List Char) : Option Char := do
  let code ← Text.digits? 16 digits
  if h : code.isValidChar then some (Char.ofNatAux code h) else none

def basic (acc : List Char) : Scan String
  | [] => none
  | '"' :: cs => some (collected acc, cs)
  | '\\' :: 'u' :: a :: b :: c :: d :: cs => do basic ((← numbered? [a, b, c, d]) :: acc) cs
  | '\\' :: 'U' :: a :: b :: c :: d :: e :: f :: g :: h :: cs => do
    basic ((← numbered? [a, b, c, d, e, f, g, h]) :: acc) cs
  | '\\' :: c :: cs => do basic ((← simpleEscape? c) :: acc) cs
  | c :: cs => if isText c then basic (c :: acc) cs else none

def literal (acc : List Char) : Scan String
  | [] => none
  | c :: cs =>
    if c = '\x27' then some (collected acc, cs)
    else if isText c then literal (c :: acc) cs
    else none

def lineIsBlank (cs : List Char) : Bool :=
  (afterBreak? (skipBlanks cs)).isSome

/-- A text between triple double quotes. `joining` drops white space up to the next other character. -/
def multiBasic (joining : Bool) (acc : List Char) : Scan String
  | [] => none
  | '"' :: '"' :: '"' :: '"' :: '"' :: cs => some (collected ('"' :: '"' :: acc), cs)
  | '"' :: '"' :: '"' :: '"' :: cs => some (collected ('"' :: acc), cs)
  | '"' :: '"' :: '"' :: cs => some (collected acc, cs)
  | '\\' :: 'u' :: a :: b :: c :: d :: cs => do
    multiBasic false ((← numbered? [a, b, c, d]) :: acc) cs
  | '\\' :: 'U' :: a :: b :: c :: d :: e :: f :: g :: h :: cs => do
    multiBasic false ((← numbered? [a, b, c, d, e, f, g, h]) :: acc) cs
  | '\\' :: c :: cs =>
    if lineIsBlank (c :: cs) then multiBasic true acc (c :: cs)
    else do multiBasic false ((← simpleEscape? c) :: acc) cs
  | '\r' :: '\n' :: cs => multiBasic joining (if joining then acc else '\n' :: '\r' :: acc) cs
  | '\n' :: cs => multiBasic joining (if joining then acc else '\n' :: acc) cs
  | c :: cs =>
    if joining && isGap c then multiBasic true acc cs
    else if isText c then multiBasic false (c :: acc) cs
    else none

def isSingle (c : Char) : Bool := c == '\x27'

def singles (cs : List Char) : Nat := (cs.takeWhile isSingle).length

def multiLiteral (acc : List Char) : Scan String
  | [] => none
  | c :: cs =>
    if isSingle c && 2 ≤ singles cs then
      let extra := min 2 (singles cs - 2)
      some (collected (List.replicate extra '\x27' ++ acc), cs.drop (2 + extra))
    else if c = '\r' then
      if cs.head? = some '\n' then multiLiteral (c :: acc) cs else none
    else if c = '\n' || isText c then multiLiteral (c :: acc) cs
    else none

/-- A text of several lines starts after the line break that follows the opening quotes. -/
def skipFirstBreak (cs : List Char) : List Char :=
  (afterBreak? cs).getD cs

end RelayGateway.Toml
