import QueryScope.Json.Numeral
import QueryScope.Text.Hexadecimal

/-!
# Tokens of documents

A text is cut into tokens by one pass over its characters. The scanner's state is the token it is in
the middle of and the tokens before it.
-/
namespace QueryScope.Json

inductive Token where
  | openArray
  | closeArray
  | openObject
  | closeObject
  | comma
  | colon
  | null
  | bool (b : Bool)
  | number (n : JsonNumber)
  | string (s : String)

/-- What the scanner is in the middle of; characters already seen are kept in reverse. -/
inductive Pending where
  | nothing
  | word (letters : List Char)
  | numeral (chars : List Char)
  | text (chars : List Char)
  /-- A backslash has been seen. -/
  | escape (chars : List Char)
  /-- So many digits of a code unit are still missing; `high` is the surrogate before it. -/
  | unit (chars : List Char) (high : Option Nat) (missing : Nat) (value : Nat)
  /-- The other half of a surrogate pair must follow. -/
  | pair (chars : List Char) (high : Nat)
  | pairEscape (chars : List Char) (high : Nat)

/-- The scanner: its unfinished token and the finished ones, in reverse. -/
structure Scanner where
  current : Pending
  tokens : List Token

namespace Scanner

def emit (s : Scanner) (token : Token) : Scanner := ⟨.nothing, token :: s.tokens⟩

def word? (letters : List Char) : Option Token :=
  match letters.reverse with
  | ['n', 'u', 'l', 'l'] => some .null
  | ['t', 'r', 'u', 'e'] => some (.bool true)
  | ['f', 'a', 'l', 's', 'e'] => some (.bool false)
  | _ => none

def finish? (s : Scanner) : Option Scanner :=
  match s.current with
  | .nothing => some s
  | .word letters => (word? letters).map s.emit
  | .numeral chars => do s.emit (.number (← (← Numeral.ofChars? chars.reverse).number?))
  | _ => none

def isNumeralChar (c : Char) : Bool := c.isDigit || ['+', '-', '.', 'e', 'E'].contains c

/-- A character between tokens. -/
def start? (s : Scanner) (c : Char) : Option Scanner :=
  if c = ' ' ∨ c = '\t' ∨ c = '\n' ∨ c = '\r' then some s
  else if c = '[' then some (s.emit .openArray)
  else if c = ']' then some (s.emit .closeArray)
  else if c = '\x7b' then some (s.emit .openObject)
  else if c = '\x7d' then some (s.emit .closeObject)
  else if c = ',' then some (s.emit .comma)
  else if c = ':' then some (s.emit .colon)
  else if c = '"' then some { s with current := .text [] }
  else if c.isLower then some { s with current := .word [c] }
  else if c.isDigit ∨ c = '-' then some { s with current := .numeral [c] }
  else none

/-- What a character stands for after a backslash. -/
def escaped? (c : Char) : Option Char :=
  if c = '"' ∨ c = '\\' ∨ c = '/' then some c
  else if c = 'b' then some '\x08'
  else if c = 'f' then some '\x0c'
  else if c = 'n' then some '\n'
  else if c = 'r' then some '\r'
  else if c = 't' then some '\t'
  else none

/-- A complete code unit: a character, the first half of a surrogate pair, or its second half. -/
def unit? (chars : List Char) (high : Option Nat) (value : Nat) : Option Pending :=
  let isHigh := 0xd800 ≤ value && value < 0xdc00
  let isLow := 0xdc00 ≤ value && value < 0xe000
  match high with
  | none =>
    if isHigh then some (.pair chars value)
    else if isLow then none
    else some (.text (Char.ofNat value :: chars))
  | some high =>
    if isLow then
      some (.text (Char.ofNat (0x10000 + (high - 0xd800) * 0x400 + (value - 0xdc00)) :: chars))
    else none

def step? (s : Scanner) (c : Char) : Option Scanner :=
  match s.current with
  | .nothing => s.start? c
  | .word letters =>
    if c.isLower then some { s with current := .word (c :: letters) }
    else do (← s.finish?).start? c
  | .numeral chars =>
    if isNumeralChar c then some { s with current := .numeral (c :: chars) }
    else do (← s.finish?).start? c
  | .text chars =>
    if c = '"' then some (s.emit (.string (String.ofList chars.reverse)))
    else if c = '\\' then some { s with current := .escape chars }
    else if c.toNat < 0x20 then none
    else some { s with current := .text (c :: chars) }
  | .escape chars =>
    if c = 'u' then some { s with current := .unit chars none 4 0 }
    else (escaped? c).map fun e => { s with current := .text (e :: chars) }
  | .unit chars high missing value => do
    let value := 16 * value + (← Text.hexValue? c)
    if missing ≤ 1 then some { s with current := (← unit? chars high value) }
    else some { s with current := .unit chars high (missing - 1) value }
  | .pair chars high =>
    if c = '\\' then some { s with current := .pairEscape chars high } else none
  | .pairEscape chars high =>
    if c = 'u' then some { s with current := .unit chars (some high) 4 0 } else none

end Scanner

/-- The tokens of a text; none if it cannot be cut into tokens. -/
def tokens? (text : String) : Option (List Token) := do
  let scanner ← text.toList.foldlM Scanner.step? ⟨.nothing, []⟩
  some (← scanner.finish?).tokens.reverse

end QueryScope.Json
