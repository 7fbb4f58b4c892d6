import UpnpAv.Markup.Token

/-!
# Documents about changed variables

A document lists variables with their new values.  Each variable is an empty
element that bears the variable's name and holds the value in the attribute
`val`; all of them stand in the single instance of the service.
-/

namespace UpnpAv
namespace LastChange

/-- Namespace of documents about transport variables. -/
def transportNamespace : String :=
  "urn:schemas-upnp-org:metadata-1-0/AVT/"

/-- Namespace of documents about rendering variables. -/
def renderingNamespace : String :=
  "urn:schemas-upnp-org:metadata-1-0/RCS/"

namespace Document

/-! # Writing -/

/-- The element of one variable. -/
def element (name value : String) : List Char :=
  '<' :: name.toList ++ " val=\"".toList ++ Markup.escape value.toList ++ "\"/>".toList

/-- What stands before the elements of the variables. -/
def opening (space : String) : List Char :=
  "<Event xmlns=\"".toList ++ Markup.escape space.toList ++
    "\"><InstanceID val=\"0\">".toList

/-- What stands after the elements of the variables. -/
def closing : List Char :=
  "</InstanceID></Event>".toList

/-- The characters of a document. -/
def chars (space : String) (pairs : List (String × String)) : List Char :=
  opening space ++ (pairs.flatMap fun (name, value) => element name value) ++ closing

/-- The document that lists the given pairs of name and value. -/
def encode (space : String) (pairs : List (String × String)) : String :=
  String.ofList (chars space pairs)

/-! # Reading -/

/-- The names of the open elements, the innermost first, and the pairs found so far. -/
structure Reading where
  opened : List (List Char)
  pairs : List (String × String)
deriving Repr, DecidableEq

/-- The elements around the variables. -/
def isWrapper (name : List Char) : Bool :=
  name == "Event".toList || name == "InstanceID".toList

/-- The pair that an element denotes; none for a wrapper or without a value. -/
def pair? (content : List Char) : Except Markup.Error (Option (String × String)) :=
  let name := Markup.localName (Markup.tagName content)
  if isWrapper name then .ok none
  else
    (Markup.attribute? "val".toList content).map fun value =>
      value.map fun text => (String.ofList name, String.ofList text)

/--
The name in an end tag.  Blanks at its end do not belong to it, but where there
are only blanks they are kept.
-/
def closingName (content : List Char) : List Char :=
  if content.all Markup.isSpace then content
  else (content.reverse.dropWhile Markup.isSpace).reverse

/-- Go on reading with one more tag. -/
def Reading.accept (reading : Reading) : Markup.Token -> Except Markup.Error Reading
  | .standalone content => do
      let pair ← pair? content
      pure { reading with pairs := reading.pairs ++ pair.toList }
  | .opening content => do
      let pair ← pair? content
      pure ⟨Markup.tagName content :: reading.opened, reading.pairs ++ pair.toList⟩
  | .closing content =>
      match reading.opened with
      | [] => throw (.mismatched [] content)
      | innermost :: outer =>
          let name := closingName content
          if name = innermost then pure { reading with opened := outer }
          else throw (.mismatched innermost name)

/-- Read the tags in order, then fail if the text broke off. -/
def readTokens (tokens : List Markup.Token) (reason : Option Markup.Error) :
    Except Markup.Error (List (String × String)) := do
  let reading ← tokens.foldlM Reading.accept ⟨[], []⟩
  match reason with
  | some e => throw e
  | none => pure reading.pairs

/-- A text without the byte order mark at its start. -/
def withoutByteOrderMark : List Char -> List Char
  | '\uFEFF' :: rest => rest
  | text => text

/-- The pairs of name and value that a text lists, in order. -/
def decodeChars (text : List Char) : Except Markup.Error (List (String × String)) :=
  let (tokens, reason) := Markup.scan (withoutByteOrderMark text)
  readTokens tokens reason

/-- The pairs of name and value that a document lists, in order. -/
def decode (document : String) : Except Markup.Error (List (String × String)) :=
  decodeChars document.toList

end Document
end LastChange
end UpnpAv
