import UpnpAv.MediaType.Aliases
import UpnpAv.MediaType.Filter

/-!
# Advertised media types

The types of a pipeline are widened by their aliases, narrowed by the filter
and published as one list of protocol entries.
-/

namespace UpnpAv
namespace MediaType

/-- The types to advertise for a pipeline. -/
def advertised (supported : StringSet) (filter : Filter) : StringSet :=
  filter.apply (augment supported)

/-- The log lines about the advertised types. -/
def advertisedLines (types : StringSet) : List Line :=
  types.toList.map fun type => .info s!"Registering support for '{type}'"

/-- The protocol entry of a type. -/
def protocolEntry (type : String) : List Char :=
  "http-get:*:".toList ++ type.toList ++ ":*".toList

/-- The protocol entries of a set of types, in order, with commas between them. -/
def protocolInfo (types : StringSet) : String :=
  String.ofList (Text.join [','] (types.toList.map protocolEntry))

end MediaType
end UpnpAv
