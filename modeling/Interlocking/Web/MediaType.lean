/-
Media types.

The sender of a body says what the body is: a type and a subtype, then
parameters. Only the question whether it is JSON matters here, and it is
answered by the names alone; but a sender that gets the parameters wrong has
not said anything, so they have to be well-formed.

The subtype may end in a suffix behind its last plus sign. Letters are
compared without regard to case.
-/
import Interlocking.Text.Blank

set_option autoImplicit false

namespace Interlocking.Web

/-- Whether a character may stand in a name. -/
def isNameChar (c : Char) : Bool :=
  c.isAlphanum || "!#$%&'*+-.^_\x60|~".toList.contains c

/-! ## Parameters -/

/-- What of the parameters has been read. -/
inductive Parameters where
  /-- A separator; blanks may follow. -/
  | start
  | name
  /-- The equals sign. -/
  | equals
  | value
  /-- An opening quote. The next character belongs to the value, whatever it is. -/
  | quote
  | quoted
  /-- A closing quote; blanks may follow. -/
  | behindQuote
  | malformed
  deriving DecidableEq, Repr

namespace Parameters

/-- Whether a character may stand between quotes. -/
def isQuotable (c : Char) : Bool := 0x20 ≤ c.toNat && c.toNat < 0x7F

/-- Takes a character. -/
def step (p : Parameters) (c : Char) : Parameters :=
  match p with
  | start => if c = ' ' then start else if isNameChar c then name else malformed
  | name => if isNameChar c then name else if c = '=' then equals else malformed
  | equals => if c = '"' then quote else if isNameChar c then value else malformed
  | value => if isNameChar c then value else if c = ';' then start else malformed
  | quote => if isQuotable c then quoted else malformed
  | quoted => if c = '"' then behindQuote else if isQuotable c then quoted else malformed
  | behindQuote => if c = ' ' then behindQuote else if c = ';' then start else malformed
  | malformed => malformed

/-- Whether parameters may end here. -/
def complete : Parameters → Bool
  | start | equals | value | behindQuote => true
  | name | quote | quoted | malformed => false

/-- Whether what stands behind the first semicolon is a list of parameters. -/
def wellFormed (cs : List Char) : Bool := (cs.foldl step start).complete

end Parameters

/-! ## Media types -/

/-- The names in a media type, in small letters. -/
structure MediaType where
  type : String
  /-- The subtype without its suffix. -/
  subtype : String
  suffix : Option String
  deriving DecidableEq, Repr

namespace MediaType

/-- The characters behind the last plus sign, and those in front of it. A plus
sign at the beginning belongs to the name. -/
def cutSuffix (cs : List Char) : List Char × Option (List Char) :=
  let behind := (cs.reverse.takeWhile (· ≠ '+')).reverse
  match (cs.take (cs.length - behind.length)).reverse with
  | _ :: c :: front => ((c :: front).reverse, some behind)
  | _ => (cs, none)

/-- Reads a media type. -/
def parse? (s : String) : Option MediaType :=
  let cs := s.toList
  let type := cs.takeWhile isNameChar
  match cs.dropWhile isNameChar with
  | '/' :: rest =>
    let subtype := rest.takeWhile isNameChar
    let ok :=
      match rest.dropWhile isNameChar with
      | [] => true
      | ';' :: parameters => !subtype.isEmpty && Parameters.wellFormed parameters
      | _ => false
    if !type.isEmpty && ok then
      let small (cs : List Char) := Text.lowerAscii (String.ofList cs)
      let (front, suffix) := cutSuffix subtype
      some { type := small type, subtype := small front, suffix := suffix.map small }
    else none
  | _ => none

/-- Whether a media type is one of JSON. -/
def isJson (m : MediaType) : Bool :=
  m.type = "application" && (m.subtype = "json" || m.suffix = some "json")

end MediaType

/-- Whether the sender of a body says that it is JSON. -/
def declaresJson (contentType : Option String) : Bool :=
  (contentType.bind MediaType.parse?).any MediaType.isJson

end Interlocking.Web
