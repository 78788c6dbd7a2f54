/-
Escapes in web addresses.

A part of an address is a list of characters in which `%` and two hexadecimal
digits stand for a byte; together with the bytes of the other characters it
has to be UTF-8. A `%` without two digits stands for itself. The query of an
address is a list of pairs between `&`, and in it `+` stands for a blank.
-/
import Interlocking.Json.Token
import Interlocking.Text.Split

set_option autoImplicit false

namespace Interlocking.Web

/-- The bytes that a list of characters with escapes stands for. -/
def unescapeBytes : List Char → List UInt8
  | [] => []
  | '%' :: a :: b :: cs =>
    match Json.hexDigit? a, Json.hexDigit? b with
    | some x, some y => UInt8.ofNat (16 * x + y) :: unescapeBytes cs
    | _, _ => String.utf8EncodeChar '%' ++ unescapeBytes (a :: b :: cs)
  | c :: cs => String.utf8EncodeChar c ++ unescapeBytes cs

/-- The text that a list of characters with escapes stands for; nothing if its
bytes are not UTF-8. -/
def unescape (cs : List Char) : Option String :=
  String.fromUTF8? ⟨(unescapeBytes cs).toArray⟩

/-- A name or a value in a query. -/
def unescapeQuery (cs : List Char) : Option String :=
  unescape (cs.map fun c => if c = '+' then ' ' else c)

/-- The pairs of a query. A pair without `=` has an empty value; an empty pair
is none. -/
def queryPairs (query : List Char) : List (Option String × Option String) :=
  ((Text.split '&' query).filter (!·.isEmpty)).map fun pair =>
    match Text.splitOnce '=' pair with
    | some (name, value) => (unescapeQuery name, unescapeQuery value)
    | none => (unescapeQuery pair, some "")

end Interlocking.Web
