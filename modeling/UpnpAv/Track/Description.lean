import UpnpAv.Markup.Escape
import UpnpAv.Track.Metadata

/-!
# Track descriptions

The tags of a track are published as a DIDL-Lite text with one item.  Each tag
with a value is one element of the item, in the order of the tags.
-/

namespace UpnpAv
namespace Description

/-- The element that holds a tag. -/
def elementName : Tag -> String
  | .title => "dc:title"
  | .artist => "upnp:artist"
  | .album => "upnp:album"
  | .genre => "upnp:genre"
  | .composer => "dc:creator"

/-- What stands before the elements of the tags. -/
def opening : List Char :=
  ("<DIDL-Lite xmlns=\"urn:schemas-upnp-org:metadata-1-0/DIDL-Lite/\" " ++
    "xmlns:dc=\"http://purl.org/dc/elements/1.1/\" " ++
    "xmlns:upnp=\"urn:schemas-upnp-org:metadata-1-0/upnp/\"><item id=\"\">").toList

/-- What stands after the elements of the tags. -/
def closing : List Char :=
  "</item></DIDL-Lite>".toList

/-- The element of one tag; nothing for a missing tag. -/
def element (name value : List Char) : List Char :=
  if value.isEmpty then []
  else '<' :: name ++ '>' :: Markup.escape value ++ '<' :: '/' :: name ++ ['>']

/-- The characters of a description. -/
def chars (tags : Metadata) : List Char :=
  if tags.isEmpty then []
  else
    opening ++
      (Tag.all.flatMap fun tag => element (elementName tag).toList (tags.get tag).toList) ++
      closing

/-- The description of the tags; an empty text when every tag is missing. -/
def encode (tags : Metadata) : String :=
  String.ofList (chars tags)

end Description
end UpnpAv
