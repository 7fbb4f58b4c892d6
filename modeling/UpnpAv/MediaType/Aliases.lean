import UpnpAv.Text.StringSet

/-!
# Aliases of media types

Control points ask for some media types under several names.  A set of types
is widened by the other names of its members.
-/

namespace UpnpAv
namespace MediaType

/-- Types with the further names under which they are asked for. -/
def aliases : List (String × List String) :=
  [ ("audio/mpeg", ["audio/x-mpeg", "audio/x-scpls", "audio/L16;rate=44100;channels=2"]),
    ("audio/x-alac", ["audio/alac"]),
    ("audio/x-aiff", ["audio/aiff"]),
    ("audio/x-m4a", ["audio/m4a", "audio/mp4"]) ]

/-- The set with the further names of one type, if the type is a member. -/
def widen (types : StringSet) (entry : String × List String) : StringSet :=
  if types.contains entry.1 then types.insertAll entry.2 else types

/-- The set with the further names of all its members. -/
def augment (types : StringSet) : StringSet :=
  aliases.foldl widen types

end MediaType
end UpnpAv
