import Mathlib.Data.List.Infix
import UpnpAv.Proofs.LastChange.Document
import UpnpAv.Proofs.Markup.Truncation

/-!
# Documents that end too early

An initial part of a document that is accepted lists the first of its pairs.  A
written document can be cut behind each of its tags without being rejected.
-/

namespace UpnpAv
namespace LastChange
namespace Document

open Markup (isSpace Token Writes)

/-!
# Parts of any document
-/

theorem withoutByteOrderMark_cons {first : Char} (hfirst : first ≠ '\uFEFF')
    (rest : List Char) : withoutByteOrderMark (first :: rest) = first :: rest := by
  unfold withoutByteOrderMark
  split
  · rename_i heq
    exact absurd (List.cons.inj heq).1 hfirst
  · rfl

theorem withoutByteOrderMark_prefix {part whole : List Char} (hpart : part <+: whole) :
    withoutByteOrderMark part <+: withoutByteOrderMark whole := by
  rcases hpart with ⟨later, rfl⟩
  cases part with
  | nil =>
      exact List.nil_prefix
  | cons first rest =>
      by_cases hfirst : first = '\uFEFF'
      · subst hfirst
        exact List.prefix_append rest later
      · rw [List.cons_append, withoutByteOrderMark_cons hfirst, withoutByteOrderMark_cons hfirst]
        exact List.prefix_append (first :: rest) later

/-- An initial part that is accepted lists the first pairs of the whole. -/
theorem decode_part {part whole : String} (hpart : part.toList <+: whole.toList)
    {found all : List (String × String)} (hfound : decode part = .ok found)
    (hall : decode whole = .ok all) : found <+: all := by
  rcases decode_eq_ok.mp hfound with ⟨hwhole, hfirst, _⟩
  rcases decode_eq_ok.mp hall with ⟨_, hboth, _⟩
  rcases withoutByteOrderMark_prefix hpart with ⟨more, hmore⟩
  rcases Markup.scan_append more hwhole with ⟨kept, unfinished, later, hkept, hlater, hclosing⟩
  rw [hmore] at hlater
  rw [tags, hkept, listed_append_eq_ok] at hfirst
  rw [tags, hlater, listed_append_eq_ok] at hboth
  rcases hfirst with ⟨early, nothing, hearly, hnothing, rfl⟩
  rcases hboth with ⟨same, late, hsame, _, rfl⟩
  rw [listed_closing hclosing] at hnothing
  rw [hearly] at hsame
  cases hnothing
  cases hsame
  rw [List.append_nil]
  exact List.prefix_append early late

/-!
# Parts of tags that are written out
-/

/-- A part of written tags that ends behind as many of them as are counted. -/
inductive EndsBehind (texts : List (List Char)) : Nat -> List Char -> Prop where
  | tag (count : Nat) : EndsBehind texts count (texts.take count).flatten
  /-- The bracket of the next tag is still there. -/
  | bracket (count : Nat) : EndsBehind texts count ((texts.take count).flatten ++ ['<'])
  /-- The bracket at the end of an end tag is missing. -/
  | endTag {count : Nat} {name : List Char} :
      texts[count]? = some ('<' :: '/' :: (name ++ ['>'])) ->
        EndsBehind texts (count + 1) ((texts.take count).flatten ++ '<' :: '/' :: name)

section Written

variable {texts : List (List Char)} {tokens : List Token} {part : List Char}

theorem writes_at (hwrites : List.Forall₂ Writes texts tokens) {count : Nat}
    {text : List Char} (htext : texts[count]? = some text) :
    exists token, Writes text token ∧ tokens.take (count + 1) = tokens.take count ++ [token] := by
  rcases List.forall₂_iff_get.mp hwrites with ⟨hlength, hget⟩
  rcases List.getElem?_eq_some_iff.mp htext with ⟨hcount, rfl⟩
  have hbound : count < tokens.length := hlength ▸ hcount
  refine ⟨tokens[count], hget count hcount hbound, ?_⟩
  rw [List.take_add_one, List.getElem?_eq_getElem hbound]
  rfl

theorem scan_take (hwrites : List.Forall₂ Writes texts tokens) (count : Nat)
    (rest : List Char) :
    Markup.scan ((texts.take count).flatten ++ rest) =
      (tokens.take count ++ (Markup.scan rest).1, (Markup.scan rest).2) :=
  Markup.scan_flatten (List.forall₂_take count hwrites) rest

theorem EndsBehind.scan {count : Nat} (hends : EndsBehind texts count part)
    (hwrites : List.Forall₂ Writes texts tokens) :
    Markup.scan part = (tokens.take count, none) := by
  cases hends with
  | tag =>
      have hscan := scan_take hwrites count []
      rwa [Markup.scan_nil, List.append_nil, List.append_nil] at hscan
  | bracket =>
      rw [scan_take hwrites, Markup.scan_bracket, List.append_nil]
  | @endTag count name htext =>
      rcases writes_at hwrites htext with ⟨token, hwritten, htake⟩
      rcases hwritten.closing_inv with ⟨rfl, hname⟩
      rw [scan_take hwrites, Markup.scan_unclosed_closing hname, htake]

theorem nested_take (hnested : Nested tokens) (count : Nat) :
    exists opened, (tokens.take count).foldlM follow [] = some opened := by
  rw [nested_iff_foldlM, ← List.take_append_drop count tokens] at hnested
  rcases foldlM_follow_append.mp hnested with ⟨opened, hopened, _⟩
  exact ⟨opened, hopened⟩

theorem follow_last {kept later : List Token} {name : List Char}
    {left : List (List Char)}
    (hfold : (kept ++ .closing name :: later).foldlM follow [] = some left) :
    exists outer, kept.foldlM follow [] = some (closingName name :: outer) := by
  rcases foldlM_follow_append.mp hfold with ⟨opened, hopened, hlast⟩
  rcases foldlM_follow_cons.mp hlast with ⟨outer, hfollow, _⟩
  exact ⟨outer, follow_closing.mp hfollow ▸ hopened⟩

/-- Only the name of the innermost element can stand in an end tag. -/
theorem closingName_eq {kept later : List Token} {read name : List Char}
    {left : List (List Char)}
    (hread : (kept ++ [Token.closing read]).foldlM follow [] = some left)
    (hnested : Nested (kept ++ .closing name :: later)) :
    closingName read = closingName name := by
  rcases follow_last hread with ⟨outer, hopened⟩
  rcases follow_last (nested_iff_foldlM.mp hnested) with ⟨other, hsame⟩
  rw [hopened] at hsame
  exact (List.cons.inj (Option.some.inj hsame)).1

/-- An accepted part of nested tags ends behind one of them. -/
theorem endsBehind_of_foldlM (hwrites : List.Forall₂ Writes texts tokens)
    (hnested : Nested tokens)
    (hnames : forall name, .closing name ∈ tokens -> name.any isSpace = false)
    (hpart : part <+: texts.flatten) (hwhole : (Markup.scan part).2 = none)
    {left : List (List Char)}
    (hleft : (Markup.scan part).1.foldlM follow [] = some left) :
    exists count, EndsBehind texts count part := by
  rcases Markup.prefix_flatten hpart with ⟨count, cut, rfl, rfl | ⟨text, htext, hcut, hproper⟩⟩
  · rw [List.append_nil]
    exact ⟨count, .tag count⟩
  -- The part ends inside of a tag, of which something is read only if it is an end tag.
  rcases writes_at hwrites htext with ⟨token, hwritten, htake⟩
  rcases hwritten.cut hcut hproper with (rfl | rfl) | ⟨e, hbroken⟩ |
    ⟨name, read, rfl, rfl, rfl, hread⟩
  · rw [List.append_nil]
    exact ⟨count, .tag count⟩
  · exact ⟨count, .bracket count⟩
  · rw [scan_take hwrites, hbroken] at hwhole
    cases hwhole
  · have hsplit : tokens = tokens.take count ++ .closing name :: tokens.drop (count + 1) := by
      rw [List.append_cons, ← htake, List.take_append_drop]
    have hspaces : forall c, c ∈ name -> isSpace c = false := by
      simpa using hnames name (by rw [hsplit]; simp)
    have hbracket := hwritten.closing_inv.2
    rw [scan_take hwrites,
      Markup.scan_unclosed_closing fun hc => hbracket (hread.subset hc)] at hleft
    have hname := closingName_eq hleft (hsplit ▸ hnested)
    rw [closingName_eq_self hspaces,
      closingName_eq_self fun c hc => hspaces c (hread.subset hc)] at hname
    subst hname
    exact ⟨count + 1, .endTag htext⟩

theorem endTag_prefix {count : Nat} {name : List Char}
    (htext : texts[count]? = some ('<' :: '/' :: (name ++ ['>']))) :
    (texts.take count).flatten ++ '<' :: '/' :: name <+: texts.flatten := by
  have hwhole : (texts.take (count + 1)).flatten =
      (texts.take count).flatten ++ '<' :: '/' :: name ++ ['>'] := by
    rw [List.take_add_one, htext, List.flatten_append]
    simp
  exact (hwhole ▸ List.prefix_append _ _).trans (List.take_prefix _ _).flatten

/-- A part of nested tags is accepted exactly if it ends behind one of them. -/
theorem readTokens_part (hwrites : List.Forall₂ Writes texts tokens) (hnested : Nested tokens)
    (hnames : forall name, .closing name ∈ tokens -> name.any isSpace = false)
    (hpart : part <+: texts.flatten) {found : List (String × String)} :
    readTokens (Markup.scan part).1 (Markup.scan part).2 = .ok found <->
      exists count, EndsBehind texts count part ∧ listed (tokens.take count) = .ok found := by
  rw [readTokens_eq_ok]
  constructor
  · rintro ⟨hwhole, hlisted, left, hleft⟩
    rcases endsBehind_of_foldlM hwrites hnested hnames hpart hwhole hleft with ⟨count, hends⟩
    rw [hends.scan hwrites] at hlisted
    exact ⟨count, hends, hlisted⟩
  · rintro ⟨count, hends, hlisted⟩
    rw [hends.scan hwrites]
    exact ⟨rfl, hlisted, nested_take hnested count⟩

end Written

/-!
# Parts of a written document
-/

theorem toList_encode (space : String) (pairs : List (String × String)) :
    (encode space pairs).toList = chars space pairs :=
  String.toList_ofList

/-- What is read from an initial part of a document, and when it is accepted. -/
theorem decode_part_eq_ok (space : String) {pairs : List (String × String)}
    (hnames : forall pair, pair ∈ pairs -> isName pair.1 = true) {part : String}
    (hpart : part.toList <+: chars space pairs) {found : List (String × String)} :
    decode part = .ok found <->
      exists count, EndsBehind (pieces space pairs) count part.toList ∧
        found = pairs.take (count - 2) := by
  have hspaces : forall name, Token.closing name ∈ pieceTags space pairs ->
      name.any isSpace = false := by
    intro name hname
    simp only [pieceTags, List.cons_append, List.nil_append, List.mem_cons, List.mem_append,
      List.mem_map, reduceCtorEq, and_false, exists_false, false_or, or_false,
      Token.closing.injEq, List.not_mem_nil] at hname
    rcases hname with rfl | rfl <;> rfl
  rw [decode, decodeChars, withoutByteOrderMark_part hpart]
  rw [chars_eq_flatten] at hpart
  rw [readTokens_part (writes_pieces space hnames) (nested_pieceTags space pairs) hspaces hpart]
  simp only [listed_take space hnames, Except.ok.injEq, eq_comm]

/-- The tags of an initial part are the first ones of the document. -/
theorem tags_part (space : String) {pairs : List (String × String)}
    (hnames : forall pair, pair ∈ pairs -> isName pair.1 = true) {part : String}
    (hpart : part.toList <+: chars space pairs) {count : Nat}
    (hends : EndsBehind (pieces space pairs) count part.toList) :
    tags part = (pieceTags space pairs).take count := by
  rw [tags, withoutByteOrderMark_part hpart, hends.scan (writes_pieces space hnames)]

/--
A document is accepted exactly if it does not break off inside a construct, its
values can be read, and its tags are nested once the end tags are added for the
elements that it leaves open; only if it leaves none open, each of its start tags has
an end tag.  What is read from an initial part is what the whole begins with.  A
part of a written document is accepted exactly if it ends behind one of the tags, where
the next tag may have begun and the bracket of an end tag may be missing.
-/
theorem broken_rejected_unless_left_open (document : String) :
    (forall found, decode document = .ok found <->
      breakingOff document = none ∧ listed (tags document) = .ok found ∧
        exists left : List (List Char), Nested (tags document ++ left.map .closing) ∧
          (Nested (tags document) <-> left = [])) ∧
    (forall whole found all, document.toList <+: whole.toList -> decode document = .ok found ->
      decode whole = .ok all -> found <+: all) ∧
    forall space pairs, (forall pair, pair ∈ pairs -> isName pair.1 = true) ->
      document.toList <+: (encode space pairs).toList ->
        forall found, decode document = .ok found <->
          exists count, EndsBehind (pieces space pairs) count document.toList ∧
            found = pairs.take (count - 2) := by
  refine ⟨?_, ?_, ?_⟩
  · intro found
    rw [decode_eq_ok]
    refine and_congr_right fun _ => and_congr_right fun _ => ?_
    constructor
    · rintro ⟨left, hleft⟩
      exact ⟨left, hleft, nested_iff_nothing_left hleft⟩
    · rintro ⟨left, hleft, _⟩
      exact ⟨left, hleft⟩
  · intro whole found all hpart hfound hall
    exact decode_part hpart hfound hall
  · intro space pairs hnames hpart found
    rw [toList_encode] at hpart
    exact decode_part_eq_ok space hnames hpart

/-- A document with two variables. -/
def twoPairs : List (String × String) :=
  [("TransportState", "PLAYING"), ("CurrentTrackURI", "http://host/track.flac")]

theorem isName_twoPairs : forall pair, pair ∈ twoPairs -> isName pair.1 = true := by
  decide

/-- The document with two variables, cut off in the first of its end tags. -/
def unclosed : String :=
  String.ofList (((pieces transportNamespace twoPairs).take 4).flatten ++
    '<' :: '/' :: "InstanceID".toList)

theorem broken_rejected_unless_left_open_unclosed :
    unclosed.toList <+: (encode transportNamespace twoPairs).toList ∧
      decode unclosed = .ok twoPairs ∧
      exists left : List (List Char), Nested (tags unclosed ++ left.map .closing) := by
  have hchars : unclosed.toList = ((pieces transportNamespace twoPairs).take 4).flatten ++
      '<' :: '/' :: "InstanceID".toList := String.toList_ofList
  have hname : (pieces transportNamespace twoPairs)[4]? =
      some ('<' :: '/' :: ("InstanceID".toList ++ ['>'])) := rfl
  have hpart : unclosed.toList <+: (encode transportNamespace twoPairs).toList := by
    rw [hchars, toList_encode, chars_eq_flatten]
    exact endTag_prefix hname
  have hends : EndsBehind (pieces transportNamespace twoPairs) 5 unclosed.toList := by
    rw [hchars]
    exact .endTag hname
  rcases broken_rejected_unless_left_open unclosed with ⟨hread, _, hparts⟩
  have hunclosed : decode unclosed = .ok twoPairs :=
    (hparts transportNamespace twoPairs isName_twoPairs hpart twoPairs).mpr ⟨5, hends, rfl⟩
  rcases ((hread twoPairs).mp hunclosed).2.2 with ⟨left, hleft, _⟩
  exact ⟨hpart, hunclosed, left, hleft⟩

/-- The document with two variables, cut off behind the first of them. -/
def shortened : String :=
  String.ofList ((pieces transportNamespace twoPairs).take 3).flatten

example : shortened =
    "<Event xmlns=\"urn:schemas-upnp-org:metadata-1-0/AVT/\"><InstanceID val=\"0\">" ++
      "<TransportState val=\"PLAYING\"/>" := by
  decide +kernel

/-- A part of a document is taken for a document with fewer variables. -/
theorem shortened_taken_for_whole :
    shortened.toList <+: (encode transportNamespace twoPairs).toList ∧
      decode shortened = .ok [("TransportState", "PLAYING")] ∧
      decode (encode transportNamespace twoPairs) = .ok twoPairs ∧ ¬ Nested (tags shortened) := by
  have hchars : shortened.toList = ((pieces transportNamespace twoPairs).take 3).flatten :=
    String.toList_ofList
  have hpart : shortened.toList <+: chars transportNamespace twoPairs := by
    rw [hchars, chars_eq_flatten]
    exact (List.take_prefix 3 _).flatten
  have hends : EndsBehind (pieces transportNamespace twoPairs) 3 shortened.toList := by
    rw [hchars]
    exact .tag 3
  refine ⟨?_, ?_, decode_encode transportNamespace isName_twoPairs, ?_⟩
  · rwa [toList_encode]
  · exact (decode_part_eq_ok transportNamespace isName_twoPairs hpart).mpr ⟨3, hends, rfl⟩
  · rw [tags_part transportNamespace isName_twoPairs hpart hends, nested_iff_foldlM]
    show some [_, _] ≠ some []
    simp

end Document
end LastChange
end UpnpAv
