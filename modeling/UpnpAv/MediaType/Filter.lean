import UpnpAv.Journal
import UpnpAv.Text.Ascii
import UpnpAv.Text.Blank
import UpnpAv.Text.Split
import UpnpAv.Text.StringSet

/-!
# Filters on media types

A filter is a list of entries separated by commas.  An entry is a full type or
a top-level type; a leading dash makes it an exclusion.  A type is kept when no
exclusion matches it and, if there are inclusions, one of them does.
-/

namespace UpnpAv
namespace MediaType

/-- What an entry of a filter asks of a type. -/
inductive Pattern where
  | full (type : List Char)
  | topLevel (type : List Char)
deriving Repr, DecidableEq

namespace Pattern

/-- The pattern that an entry spells out. -/
def ofEntry (entry : List Char) : Pattern :=
  if '/' ∈ entry then full entry else topLevel entry

/-- A type without its parameters and the blanks around it. -/
def essence (type : List Char) : List Char :=
  Text.trim (Text.upTo ';' type)

/-- Whether a type has what the pattern asks for, in any case of ASCII letters. -/
def accepts : Pattern -> List Char -> Bool
  | full wanted, type => Text.sameIgnoringCase (essence type) wanted
  | topLevel wanted, type => Text.sameIgnoringCase (Text.upTo '/' (essence type)) wanted

end Pattern

/-- A filter: what it includes and what it excludes. -/
structure Filter where
  inclusions : List Pattern
  exclusions : List Pattern
deriving Repr, DecidableEq

namespace Filter

/-- The filter that keeps every type. -/
def allowAll : Filter :=
  ⟨[], []⟩

/-- The entries of a filter text, without the blanks around them and without empty ones. -/
def entries (text : List Char) : List (List Char) :=
  ((Text.splitOn ',' text).map Text.trim).filter fun entry => !entry.isEmpty

/-- The filter with one more entry. -/
def add (filter : Filter) : List Char -> Filter
  | ['-'] => filter
  | '-' :: removed =>
      { filter with exclusions := filter.exclusions ++ [.ofEntry (Text.trim removed)] }
  | entry => { filter with inclusions := filter.inclusions ++ [.ofEntry entry] }

/-- The filter that a text spells out. -/
def parse (text : String) : Filter :=
  (entries text.toList).foldl add allowAll

/-- The log lines about entries that exclude nothing. -/
def parseLines (text : String) : List Line :=
  ((entries text.toList).filter (· == ['-'])).map fun _ =>
    .debug "Ignoring empty MIME filter exclusion"

/-- Whether a filter has no entry. -/
def isEmpty (filter : Filter) : Bool :=
  filter.inclusions.isEmpty && filter.exclusions.isEmpty

/-- Whether a type is kept. -/
def allows (filter : Filter) (type : String) : Bool :=
  let type := type.toList
  !(filter.exclusions.any fun pattern => pattern.accepts type) &&
    (filter.inclusions.isEmpty || filter.inclusions.any fun pattern => pattern.accepts type)

/-- The members of a set that are kept. -/
def apply (filter : Filter) (types : StringSet) : StringSet :=
  types.filter filter.allows

end Filter
end MediaType
end UpnpAv
