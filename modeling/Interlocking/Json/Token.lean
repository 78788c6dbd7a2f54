/-
The tokens of a JSON text.

A text is read one character at a time, and a short note about the unfinished
token is all that is remembered between two characters. Nothing is ever read
twice and nothing is nested, so the length of a text and the depth of what it
describes do not matter here.

The first character that fits nowhere ends the tokens with `junk`; what comes
after it is not looked at.
-/
import Interlocking.Json.Tree

set_option autoImplicit false

namespace Interlocking.Json

/-- A token of a JSON text. -/
inductive Token where
  | beginArray
  | endArray
  | beginObject
  | endObject
  | colon
  | comma
  | null
  | bool (b : Bool)
  | number (n : Numeral)
  | string (s : String)
  /-- A string with half of a surrogate pair. -/
  | unpaired
  /-- Something that is no token. -/
  | junk
  deriving DecidableEq, Repr

/-! ## Strings -/

/-- Whether a code unit is the first half of a surrogate pair. -/
def isHighSurrogate (u : Nat) : Bool := 0xD800 ≤ u && u ≤ 0xDBFF

/-- Whether a code unit is the second half of a surrogate pair. -/
def isLowSurrogate (u : Nat) : Bool := 0xDC00 ≤ u && u ≤ 0xDFFF

/-- The code point of a surrogate pair. -/
def surrogatePair (high low : Nat) : Nat :=
  0x10000 + (high - 0xD800) * 0x400 + (low - 0xDC00)

/-- Puts the characters of code units in front of `text`. The units come last
first; half of a surrogate pair without the other half spoils the string. -/
def charsOfUnits (text : List Char) : List Nat → Option (List Char)
  | [] => some text
  | [u] => if isHighSurrogate u || isLowSurrogate u then none else some (.ofNat u :: text)
  | u :: v :: rest =>
    if isLowSurrogate u then
      if isHighSurrogate v then charsOfUnits (.ofNat (surrogatePair v u) :: text) rest else none
    else if isHighSurrogate u then none
    else charsOfUnits (.ofNat u :: text) (v :: rest)

/-- The token of a string, given by its code units, last first. -/
def Token.ofUnits (units : List Nat) : Token :=
  match charsOfUnits [] units with
  | some text => .string (String.ofList text)
  | none => .unpaired

/-- The character that a backslash and a letter stand for. -/
def escaped? : Char → Option Char
  | '"' => some '"'
  | '\\' => some '\\'
  | '/' => some '/'
  | 'b' => some '\x08'
  | 'f' => some '\x0c'
  | 'n' => some '\n'
  | 'r' => some '\r'
  | 't' => some '\t'
  | _ => none

/-- The value of a hexadecimal digit. -/
def hexDigit? (c : Char) : Option Nat :=
  if '0' ≤ c ∧ c ≤ '9' then some (c.toNat - '0'.toNat)
  else if 'a' ≤ c ∧ c ≤ 'f' then some (c.toNat - 'a'.toNat + 10)
  else if 'A' ≤ c ∧ c ≤ 'F' then some (c.toNat - 'A'.toNat + 10)
  else none

/-! ## One character after another -/

/-- The unfinished token between two characters. -/
inductive Scan where
  /-- None. -/
  | between
  /-- A word that stands for `token`, with the letters that are left. -/
  | word (left : List Char) (token : Token)
  | number (n : Numeral) (stage : Numeral.Stage)
  /-- A string with its code units so far, last first. -/
  | string (units : List Nat)
  /-- The same behind a backslash. -/
  | escape (units : List Nat)
  /-- The same inside a code unit in hexadecimal digits; `left` more digits
  follow the next one. -/
  | hex (units : List Nat) (value left : Nat)
  /-- Behind junk. -/
  | stopped
  deriving DecidableEq, Repr

/-- The tokens read so far, last first, and the unfinished one. -/
structure Lexer where
  tokens : List Token := []
  scan : Scan := .between
  deriving DecidableEq, Repr

namespace Lexer

/-- Goes on with the unfinished token. -/
def goOn (x : Lexer) (scan : Scan) : Lexer := { x with scan := scan }

/-- Finishes a token. -/
def emit (x : Lexer) (t : Token) : Lexer := ⟨t :: x.tokens, .between⟩

/-- Ends the tokens. -/
def stop (x : Lexer) : Lexer := ⟨.junk :: x.tokens, .stopped⟩

/-- Takes a character between two tokens. -/
def start (x : Lexer) (c : Char) : Lexer :=
  match c with
  | ' ' | '\t' | '\n' | '\r' => x.goOn .between
  | '[' => x.emit .beginArray
  | ']' => x.emit .endArray
  | '\x7b' => x.emit .beginObject
  | '\x7d' => x.emit .endObject
  | ':' => x.emit .colon
  | ',' => x.emit .comma
  | '"' => x.goOn (.string [])
  | 'n' => x.goOn (.word ['u', 'l', 'l'] .null)
  | 't' => x.goOn (.word ['r', 'u', 'e'] (.bool true))
  | 'f' => x.goOn (.word ['a', 'l', 's', 'e'] (.bool false))
  | c =>
    match ({} : Numeral).take .start c with
    | some (n, stage) => x.goOn (.number n stage)
    | none => x.stop

/-- Takes a character inside a string. A control character has to be escaped. -/
def inString (x : Lexer) (units : List Nat) (c : Char) : Lexer :=
  if c = '"' then x.emit (.ofUnits units)
  else if c = '\\' then x.goOn (.escape units)
  else if c.toNat < 0x20 then x.stop
  else x.goOn (.string (c.toNat :: units))

/-- Takes a character. -/
def step (x : Lexer) (c : Char) : Lexer :=
  match x.scan with
  | .between => x.start c
  | .word [] _ => x.stop
  | .word [l] t => if c = l then x.emit t else x.stop
  | .word (l :: left) t => if c = l then x.goOn (.word left t) else x.stop
  | .number n stage =>
    match n.take stage c with
    | some (n, stage) => x.goOn (.number n stage)
    | none =>
      if stage.complete && !(stage = .zero && (Decimal.digit? c).isSome) then
        (x.emit (.number n)).start c
      else x.stop
  | .string units => x.inString units c
  | .escape units =>
    if c = 'u' then x.goOn (.hex units 0 3)
    else
      match escaped? c with
      | some e => x.goOn (.string (e.toNat :: units))
      | none => x.stop
  | .hex units value left =>
    match hexDigit? c, left with
    | some d, 0 => x.goOn (.string ((16 * value + d) :: units))
    | some d, left + 1 => x.goOn (.hex units (16 * value + d) left)
    | none, _ => x.stop
  | .stopped => x

/-- Ends the text: a token may be unfinished only if it is a number that may
end here. -/
def finish (x : Lexer) : List Token :=
  match x.scan with
  | .between | .stopped => x.tokens.reverse
  | .number n stage => ((if stage.complete then Token.number n else .junk) :: x.tokens).reverse
  | _ => (.junk :: x.tokens).reverse

end Lexer

/-- The tokens of a text. -/
def tokens (text : List Char) : List Token :=
  (text.foldl Lexer.step {}).finish

end Interlocking.Json
