import UpnpAv.Proofs.Markup.Escape
import UpnpAv.Proofs.StateTable.Written
import UpnpAv.Proofs.Text.Split
import UpnpAv.Service.Tables
import UpnpAv.Track.Description

/-!
# Descriptions tell tracks apart

The elements of a description stand in the order of the tags, each tag at most
once.  A value is written without the bracket that opens a tag, so it ends where
the closing tag of its element begins, whatever markup it holds itself.
-/

namespace UpnpAv

namespace Metadata

theorem isEmpty_iff {tags : Metadata} : tags.isEmpty = true <-> tags = .empty := by
  rcases tags with ⟨title, artist, album, genre, composer⟩
  simp [Metadata.isEmpty, Tag.all, Metadata.get, Metadata.empty]

theorem eq_of_get {tags other : Metadata}
    (hget : forall tag, tags.get tag = other.get tag) : tags = other := by
  rcases tags with ⟨title, artist, album, genre, composer⟩
  rcases other with ⟨title', artist', album', genre', composer'⟩
  have htitle : title = title' := hget .title
  have hartist : artist = artist' := hget .artist
  have halbum : album = album' := hget .album
  have hgenre : genre = genre' := hget .genre
  have hcomposer : composer = composer' := hget .composer
  rw [htitle, hartist, halbum, hgenre, hcomposer]

theorem eq_empty_iff {tags : Metadata} : tags = .empty <-> forall tag, tags.get tag = "" := by
  constructor
  · rintro rfl tag
    cases tag <;> rfl
  · intro hmissing
    apply eq_of_get
    intro tag
    rw [hmissing tag]
    cases tag <;> rfl

end Metadata

namespace Description

/-!
# One element
-/

theorem bracket_not_mem_elementName (tag : Tag) : '>' ∉ (elementName tag).toList := by
  cases tag <;> decide

theorem elementName_injective {first second : Tag}
    (hsame : (elementName first).toList = (elementName second).toList) : first = second := by
  revert hsame
  cases first <;> cases second <;> decide

theorem element_append {name value : List Char} (hvalue : value ≠ []) (rest : List Char) :
    element name value ++ rest =
      '<' :: (name ++
        '>' :: (Markup.escape value ++ '<' :: ('/' :: (name ++ '>' :: rest)))) := by
  rw [element, if_neg (by simpa using hvalue)]
  simp only [List.append_assoc, List.cons_append, List.nil_append]

theorem element_append_inj {name value other rest more : List Char}
    (hvalue : value ≠ []) (hother : other ≠ [])
    (hsame : element name value ++ rest = element name other ++ more) :
    value = other ∧ rest = more := by
  have hbracket : '<' ∈ ['<', '>', '"', '\''] := by decide
  rw [element_append hvalue, element_append hother] at hsame
  have hcontent := List.append_cancel_left (List.cons.inj hsame).2
  rcases Text.append_cons_inj (Markup.not_mem_escape hbracket value)
    (Markup.not_mem_escape hbracket other) (List.cons.inj hcontent).2 with ⟨hescaped, hafter⟩
  have hclosed := List.append_cancel_left (List.cons.inj hafter).2
  exact ⟨Markup.escape_injective hescaped, (List.cons.inj hclosed).2⟩

/-!
# The elements of several tags
-/

/-- The elements of some of the tags, in the given order. -/
def elements (tags : Metadata) (listed : List Tag) : List Char :=
  listed.flatMap fun tag => element (elementName tag).toList (tags.get tag).toList

theorem elements_cons (tags : Metadata) (tag : Tag) (rest : List Tag) :
    elements tags (tag :: rest) =
      element (elementName tag).toList (tags.get tag).toList ++ elements tags rest :=
  rfl

theorem elements_cons_missing {tags : Metadata} {tag : Tag} (hmissing : tags.get tag = "")
    (rest : List Tag) : elements tags (tag :: rest) = elements tags rest := by
  rw [elements_cons, hmissing]
  rfl

theorem toList_get_ne_nil {tags : Metadata} {tag : Tag} (hpresent : tags.get tag ≠ "") :
    (tags.get tag).toList ≠ [] := by
  simpa using hpresent

/-- What begins with the opening tag of an element is not made of elements of other tags. -/
theorem elements_ne_opened {tags : Metadata} {tag : Tag} {after : List Char} :
    forall {listed : List Tag}, tag ∉ listed ->
      elements tags listed ≠ '<' :: ((elementName tag).toList ++ '>' :: after) := by
  intro listed
  induction listed with
  | nil =>
      intro _ hopened
      cases hopened
  | cons head rest ih =>
      intro htag
      rw [List.mem_cons, not_or] at htag
      by_cases hmissing : tags.get head = ""
      · rw [elements_cons_missing hmissing]
        exact ih htag.2
      · rw [elements_cons, element_append (toList_get_ne_nil hmissing)]
        intro hopened
        have hnames := (Text.append_cons_inj (bracket_not_mem_elementName head)
          (bracket_not_mem_elementName tag) (List.cons.inj hopened).2).1
        exact htag.1 (elementName_injective hnames).symm

/-- Equal elements were written for equal values of all the tags. -/
theorem get_eq_of_elements_eq {tags other : Metadata} :
    forall {listed : List Tag}, listed.Nodup -> elements tags listed = elements other listed ->
      forall tag, tag ∈ listed -> tags.get tag = other.get tag := by
  intro listed
  induction listed with
  | nil =>
      intro _ _ tag htag
      cases htag
  | cons head rest ih =>
      intro hnodup hsame
      rcases List.nodup_cons.mp hnodup with ⟨hhead, hrest⟩
      -- an element that only one of the two has would have to be one of a later tag
      have hboth : tags.get head = other.get head ∧ elements tags rest = elements other rest := by
        by_cases htags : tags.get head = ""
        · by_cases hother : other.get head = ""
          · rw [elements_cons_missing htags, elements_cons_missing hother] at hsame
            exact ⟨htags.trans hother.symm, hsame⟩
          · rw [elements_cons_missing htags, elements_cons,
              element_append (toList_get_ne_nil hother)] at hsame
            exact absurd hsame (elements_ne_opened hhead)
        · by_cases hother : other.get head = ""
          · rw [elements_cons_missing hother, elements_cons,
              element_append (toList_get_ne_nil htags)] at hsame
            exact absurd hsame.symm (elements_ne_opened hhead)
          · rw [elements_cons, elements_cons] at hsame
            rcases element_append_inj (toList_get_ne_nil htags) (toList_get_ne_nil hother) hsame
              with ⟨hvalue, hafter⟩
            exact ⟨String.toList_inj.mp hvalue, hafter⟩
      intro tag htag
      rcases List.mem_cons.mp htag with rfl | htag
      · exact hboth.1
      · exact ih hrest hboth.2 tag htag

/-!
# Whole descriptions
-/

theorem encode_eq_empty {tags : Metadata} : encode tags = "" <-> tags = .empty := by
  have hopening : opening ≠ [] := by decide +kernel
  rw [← Metadata.isEmpty_iff, encode, chars]
  cases tags.isEmpty with
  | true =>
      simp
  | false =>
      simp [hopening]

theorem chars_present {tags : Metadata} (htags : tags ≠ .empty) :
    chars tags = opening ++ elements tags Tag.all ++ closing := by
  rw [chars, if_neg (fun hempty => htags (Metadata.isEmpty_iff.mp hempty))]
  rfl

theorem encode_injective {tags other : Metadata} (hsame : encode tags = encode other) :
    tags = other := by
  by_cases htags : tags = .empty
  · have hempty : encode other = "" := hsame.symm.trans (encode_eq_empty.mpr htags)
    rw [htags, encode_eq_empty.mp hempty]
  by_cases hother : other = .empty
  · have hempty : encode tags = "" := hsame.trans (encode_eq_empty.mpr hother)
    exact absurd (encode_eq_empty.mp hempty) htags
  have hchars : chars tags = chars other := String.ofList_injective hsame
  rw [chars_present htags, chars_present hother] at hchars
  have helements : elements tags Tag.all = elements other Tag.all :=
    List.append_cancel_left (List.append_cancel_right hchars)
  apply Metadata.eq_of_get
  intro tag
  have htag : tag ∈ Tag.all := by cases tag <;> decide
  exact get_eq_of_elements_eq (by decide) helements tag htag

/--
Two tracks have the same description exactly if they have the same tags, and an
empty one exactly if they have none.  So a variable that shows one description
takes another for a change exactly if the tags differ.
-/
theorem descriptions_told_apart (tags other : Metadata) :
    (encode tags = encode other <-> tags = other) ∧
    (encode tags = "" <-> forall tag, tags.get tag = "") ∧
    forall (table : StateTable) (id : VariableId),
      table.get? id = some (encode tags) ->
        ((exists next change, table.assign id (encode other) = .ok (next, some change)) <->
          tags ≠ other) := by
  have hsame : encode tags = encode other <-> tags = other :=
    ⟨encode_injective, fun htags => congrArg encode htags⟩
  refine ⟨hsame, encode_eq_empty.trans Metadata.eq_empty_iff, ?_⟩
  intro table id hshown
  rw [Ne, ← hsame]
  exact StateTable.assign_changes_iff hshown

/-- The tags of a track whose title looks as if it closed its element early. -/
def closingTitle : Metadata :=
  { Metadata.empty with title := "T</dc:title><upnp:artist>A", artist := "B" }

/-- The tags of a track whose artist looks like the rest of that title. -/
def openingArtist : Metadata :=
  { Metadata.empty with title := "T", artist := "A</dc:title><upnp:artist>B" }

theorem descriptions_told_apart_imitated :
    let table := (StateTable.ofVariables TransportVariable.declared).written
      TransportVariable.currentTrackMetaData.id (encode closingTitle)
    table.get? TransportVariable.currentTrackMetaData.id = some (encode closingTitle) ∧
      encode closingTitle ≠ encode openingArtist ∧
      exists next change,
        table.assign TransportVariable.currentTrackMetaData.id (encode openingArtist) =
          .ok (next, some change) := by
  intro table
  have hshown : table.get? TransportVariable.currentTrackMetaData.id =
      some (encode closingTitle) := rfl
  have hdiffers : closingTitle ≠ openingArtist := by decide
  rcases descriptions_told_apart closingTitle openingArtist with ⟨hsame, _, hchanged⟩
  exact ⟨hshown, fun hequal => hdiffers (hsame.mp hequal),
    (hchanged table _ hshown).mpr hdiffers⟩

end Description
end UpnpAv
