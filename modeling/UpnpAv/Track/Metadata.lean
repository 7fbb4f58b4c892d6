import UpnpAv.Journal

/-!
# Descriptive tags of a track

A pipeline reports tags in batches.  The tags named here are kept; a batch
overwrites the ones it mentions, and later entries of a batch win.
-/

namespace UpnpAv

/-- The tags that are kept. -/
inductive Tag where
  | title
  | artist
  | album
  | genre
  | composer
deriving Repr, DecidableEq

namespace Tag

/-- All tags that are kept, in their order. -/
def all : List Tag :=
  [title, artist, album, genre, composer]

/-- The name under which a pipeline reports a tag. -/
def name : Tag -> String
  | title => "title"
  | artist => "artist"
  | album => "album"
  | genre => "genre"
  | composer => "composer"

/-- The tag with a given name. -/
def ofName? (text : String) : Option Tag :=
  all.find? fun tag => tag.name == text

theorem ofName?_name (tag : Tag) : ofName? tag.name = some tag := by
  cases tag <;> decide

end Tag

/-- The kept tags of a track; an empty text stands for a missing tag. -/
structure Metadata where
  title : String
  artist : String
  album : String
  genre : String
  composer : String
deriving Repr, DecidableEq

namespace Metadata

/-- No tag is known. -/
def empty : Metadata :=
  ⟨"", "", "", "", ""⟩

/-- The value of a tag. -/
def get (tags : Metadata) : Tag -> String
  | .title => tags.title
  | .artist => tags.artist
  | .album => tags.album
  | .genre => tags.genre
  | .composer => tags.composer

/-- The tags with one of them replaced. -/
def put (tags : Metadata) (tag : Tag) (value : String) : Metadata :=
  match tag with
  | .title => { tags with title := value }
  | .artist => { tags with artist := value }
  | .album => { tags with album := value }
  | .genre => { tags with genre := value }
  | .composer => { tags with composer := value }

/-- The values of all tags in order. -/
def values (tags : Metadata) : List String :=
  Tag.all.map tags.get

/-- Whether every tag is missing. -/
def isEmpty (tags : Metadata) : Bool :=
  Tag.all.all fun tag => tags.get tag == ""

/--
Merge one reported pair of name and value.  Answers the tags afterwards and
whether a value was replaced by a different one.
-/
def mergePair (tags : Metadata) (name value : String) : Metadata × Bool :=
  match Tag.ofName? name with
  | none => (tags, false)
  | some tag =>
      if tags.get tag = value then (tags, false) else (tags.put tag value, true)

/-- Merge a batch.  Answers the tags afterwards and whether any value was replaced. -/
def merge (tags : Metadata) : List (String × String) -> Metadata × Bool
  | [] => (tags, false)
  | (name, value) :: rest =>
      let (merged, replaced) := tags.mergePair name value
      let (final, later) := merge merged rest
      (final, replaced || later)

/-- The log lines about names of a batch that no kept tag has. -/
def mergeLines (batch : List (String × String)) : List Line :=
  (batch.filter fun pair => (Tag.ofName? pair.1).isNone).map fun pair =>
    .debug s!"Ignoring unsupported tag '{pair.1}'"

@[simp] theorem merge_nil (tags : Metadata) : tags.merge [] = (tags, false) :=
  rfl

theorem get_put_same (tags : Metadata) (tag : Tag) (value : String) :
    (tags.put tag value).get tag = value := by
  cases tag <;> rfl

theorem get_put_other {tags : Metadata} {tag other : Tag} {value : String}
    (differ : other ≠ tag) : (tags.put tag value).get other = tags.get other := by
  cases tag <;> cases other <;> first | rfl | exact absurd rfl differ

end Metadata
end UpnpAv
