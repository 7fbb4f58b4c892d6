import UpnpAv.Proofs.LastChange.Nesting
import UpnpAv.Proofs.Markup.Escape
import UpnpAv.Proofs.Markup.Token

/-!
# Reading back a document about changed variables

A written document is scanned into one tag per variable between the tags of
its two wrappers, and each of these tags denotes the pair it was written for.
-/

namespace UpnpAv
namespace LastChange

open Markup (isMarker isSpace IsPlain startsElement Token Writes)

/-!
# Names of variables
-/

/-- The characters of a name after its first letter. -/
def isNameChar (c : Char) : Bool :=
  c.isAlphanum || c == '-' || c == '_' || c == '.'

/-- Whether a text can name a variable in a document. -/
def isName (name : String) : Bool :=
  match name.toList with
  | [] => false
  | first :: rest =>
      first.isAlpha && rest.all isNameChar && !Document.isWrapper (first :: rest)

/-- The characters that have a meaning of their own inside a tag. -/
def isReserved (c : Char) : Bool :=
  isMarker c || isSpace c || c == '>' || c == '"' || c == '\'' || c == ':' || c == '='

theorem isReserved_eq_false_of_isNameChar {c : Char} (hc : isNameChar c = true) :
    isReserved c = false := by
  apply Bool.eq_false_iff.mpr
  intro hreserved
  have hone : c ∈ ['!', '/', '?', ' ', '\n', '\r', '\t', '>', '"', '\'', ':', '='] := by
    simpa [isReserved, isMarker, isSpace, or_assoc] using hreserved
  simp only [List.mem_cons, List.not_mem_nil, or_false] at hone
  rcases hone with rfl | rfl | rfl | rfl | rfl | rfl | rfl | rfl | rfl | rfl | rfl | rfl <;>
    revert hc <;> decide

theorem isNameChar_of_isAlpha {c : Char} (hc : c.isAlpha = true) : isNameChar c = true := by
  simp [isNameChar, Char.isAlphanum, hc]

theorem isReserved_eq_false_of_mem {name : String} (hname : isName name = true) {c : Char}
    (hc : c ∈ name.toList) : isReserved c = false := by
  apply isReserved_eq_false_of_isNameChar
  unfold isName at hname
  split at hname
  · cases hname
  · rename_i first rest heq
    simp only [Bool.and_eq_true, List.all_eq_true] at hname
    rw [heq] at hc
    rcases List.mem_cons.mp hc with rfl | hmem
    · exact isNameChar_of_isAlpha hname.1.1
    · exact hname.1.2 c hmem

theorem isWrapper_eq_false_of_isName {name : String} (hname : isName name = true) :
    Document.isWrapper name.toList = false := by
  unfold isName at hname
  split at hname
  · cases hname
  · rename_i first rest heq
    simp only [Bool.and_eq_true, Bool.not_eq_true'] at hname
    rw [heq]
    exact hname.2

theorem isPlain_of_isName {name : String} (hname : isName name = true) :
    IsPlain name.toList := by
  intro c hc
  have hfree := isReserved_eq_false_of_mem hname hc
  simp only [isReserved, Bool.or_eq_false_iff, beq_eq_false_iff_ne] at hfree
  simp [hfree]

theorem startsElement_of_isName {name : String} (hname : isName name = true) :
    startsElement name.toList = true := by
  have hfree := fun c => isReserved_eq_false_of_mem (c := c) hname
  unfold isName at hname
  split at hname
  · cases hname
  · rename_i first rest heq
    have hfirst := hfree first (by rw [heq]; exact List.mem_cons_self)
    simp only [isReserved, Bool.or_eq_false_iff] at hfirst
    rw [heq]
    simp [startsElement, hfirst]

namespace Document

/-!
# The tags of a document
-/

/-- What stands in the tag of a variable, up to the slash. -/
def elementContent (name value : String) : List Char :=
  name.toList ++ " val=".toList ++ '"' :: (Markup.escape value.toList ++ ['"'])

/-- What stands in the tag of the outer wrapper. -/
def eventContent (space : String) : List Char :=
  "Event xmlns=".toList ++ '"' :: (Markup.escape space.toList ++ ['"'])

/-- What stands in the tag of the inner wrapper. -/
def instanceContent : List Char :=
  "InstanceID val=".toList ++ '"' :: ("0".toList ++ ['"'])

theorem element_eq (name value : String) :
    element name value = '<' :: (elementContent name value ++ ['/'] ++ ['>']) := by
  delta element elementContent
  simp

theorem opening_eq (space : String) :
    opening space =
      '<' :: (eventContent space ++ ['>']) ++ '<' :: (instanceContent ++ ['>']) := by
  delta opening eventContent instanceContent
  simp

theorem closing_eq :
    closing =
      '<' :: '/' :: ("InstanceID".toList ++ ['>']) ++
        '<' :: '/' :: ("Event".toList ++ ['>']) := by
  decide

/-- The tags of a document, as they are written. -/
def pieces (space : String) (pairs : List (String × String)) : List (List Char) :=
  [ '<' :: (eventContent space ++ ['>']), '<' :: (instanceContent ++ ['>']) ] ++
    (pairs.map fun (name, value) => element name value) ++
      [ '<' :: '/' :: ("InstanceID".toList ++ ['>']), '<' :: '/' :: ("Event".toList ++ ['>']) ]

/-- The tags of a document, as they are scanned. -/
def pieceTags (space : String) (pairs : List (String × String)) : List Token :=
  [ .opening (eventContent space), .opening instanceContent ] ++
    (pairs.map fun (name, value) => .standalone (elementContent name value)) ++
      [ .closing "InstanceID".toList, .closing "Event".toList ]

theorem chars_eq_flatten (space : String) (pairs : List (String × String)) :
    chars space pairs = (pieces space pairs).flatten := by
  rw [chars, opening_eq, closing_eq]
  simp [pieces, List.flatMap_def]

/-!
# The scan of a document
-/

theorem quote_not_mem_escape (text : String) : '"' ∉ Markup.escape text.toList :=
  Markup.not_mem_escape (by decide) text.toList

theorem elementToken_slash (content : List Char) :
    Markup.elementToken (content ++ ['/']) = .standalone content := by
  simp [Markup.elementToken]

theorem elementToken_quoted (before value : List Char) :
    Markup.elementToken (before ++ '"' :: (value ++ ['"'])) =
      .opening (before ++ '"' :: (value ++ ['"'])) := by
  have hlast : (before ++ '"' :: (value ++ ['"'])).getLast? = some '"' := by
    rw [← List.cons_append, ← List.append_assoc, List.getLast?_concat]
  simp [Markup.elementToken, hlast]

/-- The tag of a variable is scanned as an element without content. -/
theorem writes_element {name : String} (hname : isName name = true) (value : String) :
    Writes (element name value) (.standalone (elementContent name value)) := by
  have hplain : IsPlain (name.toList ++ " val=".toList) :=
    Markup.isPlain_append (isPlain_of_isName hname) (by decide)
  have hquotes : (elementContent name value ++ ['/']).foldlM Markup.tagStep none =
      some none := by
    have hassigned := Markup.foldlM_tagStep_assigned _ _ ['/'] hplain
      (quote_not_mem_escape value) (by decide)
    simpa [elementContent] using hassigned
  have hstart : startsElement (elementContent name value ++ ['/']) = true :=
    Markup.startsElement_append
      (Markup.startsElement_append
        (Markup.startsElement_append (startsElement_of_isName hname) _) _) _
  rw [element_eq, ← elementToken_slash]
  exact .element hstart hquotes

/-- The tag of a wrapper, whose only attribute has any value. -/
theorem writes_wrapper {before value : List Char} (hstart : startsElement before = true)
    (hplain : IsPlain before) (hvalue : '"' ∉ value) :
    Writes ('<' :: (before ++ '"' :: (value ++ ['"']) ++ ['>']))
      (.opening (before ++ '"' :: (value ++ ['"']))) := by
  have hquotes : (before ++ '"' :: (value ++ ['"'])).foldlM Markup.tagStep none = some none :=
    Markup.foldlM_tagStep_assigned _ _ [] hplain hvalue (by decide)
  rw [← elementToken_quoted]
  exact .element (Markup.startsElement_append hstart _) hquotes

theorem writes_pieces (space : String) {pairs : List (String × String)}
    (hnames : forall pair, pair ∈ pairs -> isName pair.1 = true) :
    List.Forall₂ Writes (pieces space pairs) (pieceTags space pairs) := by
  have hevent : Writes ('<' :: (eventContent space ++ ['>'])) (.opening (eventContent space)) :=
    writes_wrapper (show startsElement "Event xmlns=".toList = true by decide) (by decide)
      (quote_not_mem_escape space)
  have hinstance : Writes ('<' :: (instanceContent ++ ['>'])) (.opening instanceContent) :=
    writes_wrapper (show startsElement "InstanceID val=".toList = true by decide) (by decide)
      (show '"' ∉ "0".toList by decide)
  have helements : List.Forall₂ Writes (pairs.map fun (name, value) => element name value)
      (pairs.map fun (name, value) => .standalone (elementContent name value)) := by
    rw [List.forall₂_map_left_iff, List.forall₂_map_right_iff, List.forall₂_same]
    exact fun pair hpair => writes_element (hnames pair hpair) pair.2
  have hends : List.Forall₂ Writes
      [ '<' :: '/' :: ("InstanceID".toList ++ ['>']), '<' :: '/' :: ("Event".toList ++ ['>']) ]
      [ .closing "InstanceID".toList, .closing "Event".toList ] :=
    .cons (.closing (by decide)) (.cons (.closing (by decide)) .nil)
  exact List.rel_append (List.rel_append (.cons hevent (.cons hinstance .nil)) helements) hends

/-!
# What the tags denote
-/

theorem pair?_elementContent {name : String} (hname : isName name = true) (value : String) :
    pair? (elementContent name value) = .ok (some (name, value)) := by
  have hspaces : forall c, c ∈ name.toList -> isSpace c = false := by
    intro c hc
    have hfree := isReserved_eq_false_of_mem hname hc
    simp only [isReserved, Bool.or_eq_false_iff] at hfree
    exact hfree.1.1.1.1.1.2
  have hcolon : ':' ∉ name.toList := by
    intro hmem
    have := isReserved_eq_false_of_mem hname hmem
    revert this
    decide
  have hcontent : elementContent name value =
      name.toList ++ ' ' :: 'v' :: ("al".toList ++ '=' :: '"' ::
        (Markup.escape value.toList ++ ['"'])) := by
    delta elementContent
    simp
  have hfound : Markup.attribute? "val".toList (elementContent name value) =
      .ok (some value.toList) := by
    have honly := Markup.findAttribute_only
      (Markup.byteLength (elementContent name value)) (show isSpace 'v' = false by decide)
      (show forall c, c ∈ "al".toList -> Markup.isKeyChar c = true from
        List.all_eq_true.mp rfl)
      (quote_not_mem_escape value)
    have hattributes : Markup.tagAttributes (elementContent name value) =
        ' ' :: 'v' :: ("al".toList ++ '=' :: '"' ::
          (Markup.escape value.toList ++ ['"'])) := by
      rw [hcontent, Markup.tagAttributes_append hspaces]
    rw [Markup.attribute?, hattributes,
      show "val".toList = 'v' :: "al".toList by decide, honly]
    simp only [Markup.unescape_escape]
    rfl
  have htag : Markup.localName (Markup.tagName (elementContent name value)) =
      name.toList := by
    rw [hcontent, Markup.tagName_append hspaces, Markup.localName_eq_self hcolon]
  rw [pair?, htag, isWrapper_eq_false_of_isName hname, hfound]
  simp [Except.map]

theorem tagName_eventContent (space : String) :
    Markup.tagName (eventContent space) = "Event".toList := by
  have hcontent : eventContent space =
      "Event".toList ++ ' ' :: ("xmlns=".toList ++ '"' ::
        (Markup.escape space.toList ++ ['"'])) := by
    delta eventContent
    simp
  rw [hcontent, Markup.tagName_append (by simp [isSpace])]

theorem tagName_instanceContent :
    Markup.tagName instanceContent = "InstanceID".toList := by
  decide

/-- A wrapper denotes no pair. -/
theorem pair?_eq_none {content name : List Char} (htag : Markup.tagName content = name)
    (hcolon : ':' ∉ name) (hwrapper : isWrapper name = true) : pair? content = .ok none := by
  rw [pair?, htag, Markup.localName_eq_self hcolon, hwrapper]
  rfl

theorem listed_elements {pairs : List (String × String)}
    (hnames : forall pair, pair ∈ pairs -> isName pair.1 = true) :
    listed (pairs.map fun (name, value) => .standalone (elementContent name value)) =
      .ok pairs := by
  induction pairs with
  | nil =>
      rfl
  | cons pair rest ih =>
      exact listed_cons_eq_ok.mpr ⟨some pair, rest,
        pair?_elementContent (hnames pair List.mem_cons_self) pair.2,
        ih fun other hother => hnames other (List.mem_cons_of_mem pair hother), rfl⟩

/-- Only the tags of the variables denote pairs, and the first tags the first pairs. -/
theorem listed_take (space : String) {pairs : List (String × String)}
    (hnames : forall pair, pair ∈ pairs -> isName pair.1 = true) (count : Nat) :
    listed ((pieceTags space pairs).take count) = .ok (pairs.take (count - 2)) := by
  have hevent : pairOf (.opening (eventContent space)) = .ok none :=
    pair?_eq_none (tagName_eventContent space) (by decide) (by decide)
  have hinstance : pairOf (.opening instanceContent) = .ok none :=
    pair?_eq_none tagName_instanceContent (by decide) (by decide)
  match count with
  | 0 =>
      rfl
  | 1 =>
      exact listed_cons_eq_ok.mpr ⟨none, [], hevent, rfl, rfl⟩
  | count + 2 =>
      have helements : listed ((pairs.take count).map fun (name, value) =>
          .standalone (elementContent name value)) = .ok (pairs.take count) :=
        listed_elements fun pair hpair => hnames pair (List.mem_of_mem_take hpair)
      have hends : listed
          ([ .closing "InstanceID".toList, .closing "Event".toList ].take
            (count - (pairs.map fun (name, value) =>
              (.standalone (elementContent name value) : Token)).length)) = .ok [] := by
        apply listed_closing
        intro tag htag
        have hmem := List.mem_of_mem_take htag
        simp only [List.mem_cons, List.not_mem_nil, or_false] at hmem
        rcases hmem with rfl | rfl <;> exact ⟨_, rfl⟩
      have hrest := listed_append_eq_ok.mpr
        ⟨_, _, helements, hends, (List.append_nil (pairs.take count)).symm⟩
      rw [List.map_take, ← List.take_append] at hrest
      rw [pieceTags, List.append_assoc, List.cons_append, List.cons_append, List.nil_append]
      exact listed_cons_eq_ok.mpr ⟨none, _, hevent,
        listed_cons_eq_ok.mpr ⟨none, _, hinstance, hrest, rfl⟩, rfl⟩

theorem nested_pieceTags (space : String) (pairs : List (String × String)) :
    Nested (pieceTags space pairs) := by
  have helements :
      Nested (pairs.map fun (name, value) => .standalone (elementContent name value)) := by
    induction pairs with
    | nil =>
        exact .nil
    | cons pair rest ih =>
        exact .standalone _ ih
  have hinstance : closingName "InstanceID".toList = Markup.tagName instanceContent := by
    rw [tagName_instanceContent]
    decide
  have hevent : closingName "Event".toList = Markup.tagName (eventContent space) := by
    rw [tagName_eventContent]
    decide
  have hnested := Nested.element hevent (.element hinstance helements .nil) .nil
  simpa [pieceTags] using hnested

/-!
# Reading
-/

/-- The namespace is what the first quotes of a document enclose. -/
theorem chars_eq (space : String) (pairs : List (String × String)) :
    exists after, chars space pairs =
      '<' :: ("Event xmlns=".toList ++
        '"' :: (Markup.escape space.toList ++ '"' :: after)) := by
  rw [chars, opening_eq]
  delta eventContent
  simp only [List.append_assoc, List.cons_append, List.nil_append]
  exact ⟨_, rfl⟩

theorem withoutByteOrderMark_part {space : String} {pairs : List (String × String)}
    {part : List Char} (hpart : part <+: chars space pairs) :
    withoutByteOrderMark part = part := by
  rcases chars_eq space pairs with ⟨after, hchars⟩
  rw [hchars] at hpart
  rcases List.prefix_cons_iff.mp hpart with rfl | ⟨rest, rfl, _⟩
  · rfl
  · rfl

/-- A written document lists the pairs that it was written for. -/
theorem decodeChars_chars (space : String) {pairs : List (String × String)}
    (hnames : forall pair, pair ∈ pairs -> isName pair.1 = true) :
    decodeChars (chars space pairs) = .ok pairs := by
  have hscan := Markup.scan_flatten (writes_pieces space hnames) []
  have hlisted := listed_take space hnames (pieceTags space pairs).length
  have hlength : pairs.length ≤ (pieceTags space pairs).length - 2 := by
    simp [pieceTags]
  rw [Markup.scan_nil, List.append_nil, List.append_nil] at hscan
  rw [List.take_length, List.take_of_length_le hlength] at hlisted
  rw [decodeChars, withoutByteOrderMark_part List.prefix_rfl, chars_eq_flatten, hscan]
  exact readTokens_eq_ok.mpr ⟨rfl, hlisted, [], nested_iff_foldlM.mp (nested_pieceTags space pairs)⟩

theorem decode_encode (space : String) {pairs : List (String × String)}
    (hnames : forall pair, pair ∈ pairs -> isName pair.1 = true) :
    decode (encode space pairs) = .ok pairs := by
  rw [decode, encode, String.toList_ofList]
  exact decodeChars_chars space hnames

/-!
# Telling documents apart
-/

theorem space_eq_of_chars_eq {space other : String} {pairs more : List (String × String)}
    (hsame : chars space pairs = chars other more) : space = other := by
  rcases chars_eq space pairs with ⟨after, hspace⟩
  rcases chars_eq other more with ⟨rest, hother⟩
  rw [hspace, hother] at hsame
  have hvalues : Markup.escape space.toList ++ '"' :: after =
      Markup.escape other.toList ++ '"' :: rest :=
    (List.cons.inj (List.append_cancel_left (List.cons.inj hsame).2)).2
  have hcut := congrArg (Markup.cutAt '"') hvalues
  rw [Markup.cutAt_append (quote_not_mem_escape space),
    Markup.cutAt_append (quote_not_mem_escape other)] at hcut
  have hescaped : Markup.escape space.toList = Markup.escape other.toList :=
    congrArg Prod.fst (Option.some.inj hcut)
  exact String.toList_inj.mp (Markup.escape_injective hescaped)

/--
Reading gives back the pairs that a document was written for, in their order and
whatever the values hold, and no other namespace or pairs lead to that document.
-/
theorem document_faithful (space : String) {pairs : List (String × String)}
    (hnames : forall pair, pair ∈ pairs -> isName pair.1 = true) :
    decode (encode space pairs) = .ok pairs ∧
    (forall (other : String) (more : List (String × String)),
      (forall pair, pair ∈ more -> isName pair.1 = true) ->
        encode other more = encode space pairs -> other = space ∧ more = pairs) := by
  constructor
  · exact decode_encode space hnames
  · intro other more hmore hsame
    constructor
    · have hchars : chars other more = chars space pairs := String.ofList_injective hsame
      exact space_eq_of_chars_eq hchars
    · have hread := decode_encode other hmore
      rw [hsame, decode_encode space hnames] at hread
      exact (Except.ok.inj hread).symm

/-- A document whose values look like markup, one of them a document itself. -/
def nestedPairs : List (String × String) :=
  [ ("AVTransportURI", "http://host/a?x=1&y=\"<2>\""),
    ("CurrentTrackMetaData", encode transportNamespace [("TransportState", "&amp;")]),
    ("AVTransportURI", "]]>\n</Event>") ]

theorem document_faithful_nested :
    (forall pair, pair ∈ nestedPairs -> isName pair.1 = true) ∧
      decode (encode renderingNamespace nestedPairs) = .ok nestedPairs := by
  have hnames : forall pair, pair ∈ nestedPairs -> isName pair.1 = true := by
    intro pair hpair
    simp only [nestedPairs, List.mem_cons, List.not_mem_nil, or_false] at hpair
    rcases hpair with rfl | rfl | rfl <;> decide
  exact ⟨hnames, (document_faithful renderingNamespace hnames).1⟩

end Document
end LastChange
end UpnpAv
