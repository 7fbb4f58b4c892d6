import UpnpAv.JsonText.Record
import UpnpAv.JsonText.Written
import UpnpAv.Track.Metadata
import UpnpAv.Track.Target
import UpnpAv.Track.Timing

/-!
# Tracks as JSON
-/

namespace UpnpAv

open JsonText (Form Reader Record Written required omittable)

/-! # Locators -/

namespace Target

/-- The locators that were read. -/
structure Known where
  uri : Option String
  nextUri : Option String
deriving Repr, DecidableEq

/-- The locators, both of which must be there. -/
def ofKnown (form : Form) (known : Known) : Except JsonText.Error Target := do
  let expected := "struct TrackTarget with 2 elements"
  let uri ← required form "uri" expected known.uri
  let nextUri ← required form "next_uri" expected known.nextUri
  pure ⟨uri, nextUri⟩

/-- How the locators are read. -/
def record : Record Known Target where
  name := "TrackTarget"
  blank := ⟨Option.none, Option.none⟩
  fields :=
    [ .of "uri" Known.uri (fun value known => { known with uri := some value }) Reader.text,
      .of "next_uri" Known.nextUri (fun value known => { known with nextUri := some value })
        Reader.text ]
  isStrict := false
  finish := ofKnown

/-- The locators that a JSON text spells out. -/
def ofJson (text : String) : Except JsonText.Error Target :=
  (Reader.record record).run text

/-- The locators as a JSON text. -/
def toJson (target : Target) : String :=
  String.ofList (Written.object [("uri", .text target.uri), ("next_uri", .text target.nextUri)])

end Target

/-! # Times -/

namespace Timing

/-- The times that were read. -/
structure Known where
  duration : Option (Option Int)
  position : Option (Option Int)
  stale : Option Bool
deriving Repr, DecidableEq

/-- The times; unknown ones may be left out of an object. -/
def ofKnown (form : Form) (known : Known) : Except JsonText.Error Timing := do
  let expected := "struct TrackTiming with 3 elements"
  let duration ← omittable form expected known.duration
  let position ← omittable form expected known.position
  let stale ← required form "stale" expected known.stale
  pure ⟨duration, position, stale⟩

/-- How the times are read. -/
def record : Record Known Timing where
  name := "TrackTiming"
  blank := ⟨none, none, none⟩
  fields :=
    [ .of "duration_ns" Known.duration (fun value known => { known with duration := some value })
        (Reader.optional Reader.int64),
      .of "position_ns" Known.position (fun value known => { known with position := some value })
        (Reader.optional Reader.int64),
      .of "stale" Known.stale (fun value known => { known with stale := some value })
        Reader.boolean ]
  isStrict := false
  finish := ofKnown

/-- The times that a JSON text spells out. -/
def ofJson (text : String) : Except JsonText.Error Timing :=
  (Reader.record record).run text

/-- The times as a JSON text. -/
def toJson (timing : Timing) : String :=
  String.ofList <| Written.object
    [ ("duration_ns", .optional .int timing.duration),
      ("position_ns", .optional .int timing.position), ("stale", .boolean timing.stale) ]

end Timing

/-! # Tags -/

namespace Metadata

/-- The tags that were read. -/
abbrev Known :=
  Tag -> Option String

/-- What is known after one more tag. -/
def Known.put (tag : Tag) (value : String) (known : Known) : Known := fun other =>
  if other = tag then some value else known other

/-- The tags, all of which must be there. -/
def ofKnown (form : Form) (known : Known) : Except JsonText.Error Metadata := do
  let need (tag : Tag) : Except JsonText.Error String :=
    required form tag.name "struct TrackMetadata with 5 elements" (known tag)
  pure
    { title := ← need .title
      artist := ← need .artist
      album := ← need .album
      genre := ← need .genre
      composer := ← need .composer }

/-- How the tags are read. -/
def record : Record Known Metadata where
  name := "TrackMetadata"
  blank := fun _ => none
  fields := Tag.all.map fun tag =>
    .of tag.name (fun known => known tag) (Known.put tag) Reader.text
  isStrict := false
  finish := ofKnown

/-- The tags that a JSON text spells out. -/
def ofJson (text : String) : Except JsonText.Error Metadata :=
  (Reader.record record).run text

/-- The tags as a JSON text. -/
def toJson (tags : Metadata) : String :=
  String.ofList <| Written.object <| Tag.all.map fun tag => (tag.name, .text (tags.get tag))

end Metadata
end UpnpAv
