import UpnpAv.LastChange.Document

/-!
# Documents that are accepted

A document is accepted if it does not break off, its values can be read, and its
end tags fit.  An element that the end of the document leaves open is no reason
to reject it.
-/

namespace UpnpAv
namespace LastChange
namespace Document

open Markup (isSpace Token)

/-!
# Nested tags
-/

/-- Tags among which every start tag has its end tag, in the right order. -/
inductive Nested : List Token -> Prop where
  | nil : Nested []
  | standalone (content : List Char) {rest : List Token} :
      Nested rest -> Nested (.standalone content :: rest)
  | element {content name : List Char} {inner rest : List Token} :
      closingName name = Markup.tagName content -> Nested inner -> Nested rest ->
        Nested (.opening content :: (inner ++ .closing name :: rest))

/-- What open elements, the innermost first, demand of the tags that follow. -/
def Closes : List (List Char) -> List Token -> Prop
  | [], tokens => Nested tokens
  | innermost :: outer, tokens =>
      exists inner name rest, tokens = inner ++ .closing name :: rest ∧ Nested inner ∧
        closingName name = innermost ∧ Closes outer rest

theorem nested_standalone {content : List Char} {rest : List Token} :
    Nested (.standalone content :: rest) <-> Nested rest := by
  constructor
  · intro hnested
    cases hnested with
    | standalone _ hrest =>
        exact hrest
  · exact Nested.standalone content

theorem nested_opening {content : List Char} {tokens : List Token} :
    Nested (.opening content :: tokens) <-> Closes [Markup.tagName content] tokens := by
  constructor
  · intro hnested
    cases hnested with
    | element hname hinner hrest =>
        exact ⟨_, _, _, rfl, hinner, hname, hrest⟩
  · rintro ⟨inner, name, rest, rfl, hinner, hname, hrest⟩
    exact .element hname hinner hrest

theorem not_nested_closing {name : List Char} {rest : List Token} :
    ¬ Nested (.closing name :: rest) := by
  intro hnested
  cases hnested

theorem closes_nil {opened : List (List Char)} : Closes opened [] <-> opened = [] := by
  cases opened with
  | nil =>
      exact ⟨fun _ => rfl, fun _ => .nil⟩
  | cons innermost outer =>
      constructor
      · rintro ⟨inner, name, rest, hsplit, _⟩
        simp at hsplit
      · intro hnone
        cases hnone

theorem closes_standalone {opened : List (List Char)} {content : List Char}
    {rest : List Token} : Closes opened (.standalone content :: rest) <-> Closes opened rest := by
  cases opened with
  | nil =>
      exact nested_standalone
  | cons innermost outer =>
      constructor
      · rintro ⟨inner, name, after, hsplit, hinner, hname, hafter⟩
        cases inner with
        | nil =>
            cases hsplit
        | cons token inner =>
            cases hsplit
            exact ⟨inner, name, after, rfl, nested_standalone.mp hinner, hname, hafter⟩
      · rintro ⟨inner, name, after, rfl, hinner, hname, hafter⟩
        exact ⟨_ :: inner, name, after, rfl, .standalone content hinner, hname, hafter⟩

theorem closes_opening {opened : List (List Char)} {content : List Char} {rest : List Token} :
    Closes opened (.opening content :: rest) <->
      Closes (Markup.tagName content :: opened) rest := by
  cases opened with
  | nil =>
      exact nested_opening
  | cons innermost outer =>
      constructor
      · rintro ⟨inner, name, after, hsplit, hinner, hname, hafter⟩
        cases inner with
        | nil =>
            cases hsplit
        | cons token inner =>
            cases hsplit
            -- What comes before the end tag begins with an element of its own.
            rcases nested_opening.mp hinner with
              ⟨within, closer, between, rfl, hwithin, hcloser, hbetween⟩
            exact ⟨within, closer, between ++ .closing name :: after,
              List.append_assoc within (.closing closer :: between) _, hwithin, hcloser,
              between, name, after, rfl, hbetween, hname, hafter⟩
      · rintro ⟨within, closer, _, rfl, hwithin, hcloser,
          between, name, after, rfl, hbetween, hname, hafter⟩
        refine ⟨.opening content :: (within ++ .closing closer :: between), name, after, ?_,
          .element hcloser hwithin hbetween, hname, hafter⟩
        simp only [List.cons_append, List.append_assoc]

theorem closes_closing {opened : List (List Char)} {name : List Char} {rest : List Token} :
    Closes opened (.closing name :: rest) <->
      exists outer, opened = closingName name :: outer ∧ Closes outer rest := by
  cases opened with
  | nil =>
      constructor
      · intro hnested
        exact absurd hnested not_nested_closing
      · rintro ⟨outer, hnone, _⟩
        cases hnone
  | cons innermost outer =>
      constructor
      · rintro ⟨inner, closer, after, hsplit, hinner, hname, hafter⟩
        cases inner with
        | nil =>
            cases hsplit
            exact ⟨outer, by rw [hname], hafter⟩
        | cons token inner =>
            cases hsplit
            exact absurd hinner not_nested_closing
      · rintro ⟨_, ⟨⟩, hafter⟩
        exact ⟨[], name, rest, rfl, .nil, rfl, hafter⟩

/-!
# Following the open elements
-/

/-- The open elements after one more tag; none if it ends another than the innermost. -/
def follow (opened : List (List Char)) : Token -> Option (List (List Char))
  | .standalone _ => some opened
  | .opening content => some (Markup.tagName content :: opened)
  | .closing name =>
      match opened with
      | [] => none
      | innermost :: outer => if closingName name = innermost then some outer else none

theorem follow_closing {opened next : List (List Char)} {name : List Char} :
    follow opened (.closing name) = some next <-> opened = closingName name :: next := by
  cases opened with
  | nil =>
      simp [follow]
  | cons innermost outer =>
      simp only [follow]
      split
      · rename_i hname
        simp [hname]
      · rename_i hname
        simp [Ne.symm hname]

theorem foldlM_follow_cons {token : Token} {rest : List Token}
    {opened left : List (List Char)} :
    (token :: rest).foldlM follow opened = some left <->
      exists next, follow opened token = some next ∧ rest.foldlM follow next = some left := by
  rw [List.foldlM_cons, Option.bind_eq_bind, Option.bind_eq_some_iff]

theorem foldlM_follow_append {first second : List Token} {opened left : List (List Char)} :
    (first ++ second).foldlM follow opened = some left <->
      exists between, first.foldlM follow opened = some between ∧
        second.foldlM follow between = some left := by
  rw [List.foldlM_append, Option.bind_eq_bind, Option.bind_eq_some_iff]

/-- Tags close the open elements if nothing is open after them. -/
theorem closes_iff_foldlM {tokens : List Token} :
    forall {opened : List (List Char)},
      Closes opened tokens <-> tokens.foldlM follow opened = some [] := by
  induction tokens with
  | nil =>
      intro opened
      rw [closes_nil, List.foldlM_nil]
      simp [pure]
  | cons token rest ih =>
      intro opened
      rw [foldlM_follow_cons]
      cases token with
      | standalone content =>
          rw [closes_standalone, ih]
          simp [follow]
      | opening content =>
          rw [closes_opening, ih]
          simp [follow]
      | closing name =>
          rw [closes_closing]
          simp only [follow_closing, ih]

theorem nested_iff_foldlM {tokens : List Token} :
    Nested tokens <-> tokens.foldlM follow [] = some [] := by
  show Closes [] tokens <-> _
  exact closes_iff_foldlM

theorem foldlM_follow_closing {left opened : List (List Char)} :
    (left.map Token.closing).foldlM follow opened = some [] <->
      opened = left.map closingName := by
  induction left generalizing opened with
  | nil =>
      simp [pure]
  | cons name rest ih =>
      rw [List.map_cons, foldlM_follow_cons]
      simp [follow_closing, ih]

/-- The end tags that are missing are those of the elements left open. -/
theorem nested_append_closing {tokens : List Token} {left : List (List Char)} :
    Nested (tokens ++ left.map .closing) <->
      tokens.foldlM follow [] = some (left.map closingName) := by
  rw [nested_iff_foldlM, foldlM_follow_append]
  simp [foldlM_follow_closing]

theorem nested_iff_nothing_left {tokens : List Token} {left : List (List Char)}
    (hleft : Nested (tokens ++ left.map .closing)) : Nested tokens <-> left = [] := by
  rw [nested_iff_foldlM, nested_append_closing.mp hleft]
  simp

/-!
# Names of open elements
-/

theorem closingName_eq_self {name : List Char} (hname : forall c, c ∈ name -> isSpace c = false) :
    closingName name = name := by
  unfold closingName
  split
  · rfl
  · have hlast : name.reverse.dropWhile isSpace = name.reverse := by
      cases hreverse : name.reverse with
      | nil =>
          rfl
      | cons last rest =>
          have hmem : last ∈ name := List.mem_reverse.mp (hreverse ▸ List.mem_cons_self)
          rw [List.dropWhile_cons_of_neg (by simp [hname last hmem])]
    rw [hlast, List.reverse_reverse]

theorem closingName_tagName (content : List Char) :
    closingName (Markup.tagName content) = Markup.tagName content := by
  apply closingName_eq_self
  intro c hc
  simpa using List.all_eq_true.mp List.all_takeWhile c hc

theorem follow_names {opened next : List (List Char)} {token : Token}
    (hfollow : follow opened token = some next)
    (hopened : opened.map closingName = opened) : next.map closingName = next := by
  cases token with
  | standalone content =>
      cases hfollow
      exact hopened
  | opening content =>
      cases hfollow
      rw [List.map_cons, closingName_tagName, hopened]
  | closing name =>
      rw [follow_closing.mp hfollow, List.map_cons] at hopened
      exact (List.cons.inj hopened).2

theorem foldlM_follow_names {tokens : List Token} :
    forall {opened left : List (List Char)}, tokens.foldlM follow opened = some left ->
      opened.map closingName = opened -> left.map closingName = left := by
  induction tokens with
  | nil =>
      rintro opened _ ⟨⟩ hopened
      exact hopened
  | cons token rest ih =>
      intro opened left hfold hopened
      rcases foldlM_follow_cons.mp hfold with ⟨next, hfollow, hrest⟩
      exact ih hrest (follow_names hfollow hopened)

/-!
# Reading
-/

/-- The pair that a tag denotes. -/
def pairOf : Token -> Except Markup.Error (Option (String × String))
  | .standalone content => pair? content
  | .opening content => pair? content
  | .closing _ => .ok none

/-- The pairs that tags denote, in order. -/
def listed : List Token -> Except Markup.Error (List (String × String))
  | [] => .ok []
  | token :: rest => do
      let pair ← pairOf token
      let pairs ← listed rest
      pure (pair.toList ++ pairs)

theorem listed_cons_eq_ok {token : Token} {rest : List Token}
    {pairs : List (String × String)} :
    listed (token :: rest) = .ok pairs <->
      exists pair more, pairOf token = .ok pair ∧ listed rest = .ok more ∧
        pairs = pair.toList ++ more := by
  rw [listed]
  cases pairOf token with
  | error e =>
      simp [bind, Except.bind]
  | ok pair =>
      cases listed rest with
      | error e =>
          simp [bind, Except.bind]
      | ok more =>
          simp [bind, Except.bind, pure, Except.pure, eq_comm]

theorem listed_append_eq_ok {first second : List Token} {pairs : List (String × String)} :
    listed (first ++ second) = .ok pairs <->
      exists early late, listed first = .ok early ∧ listed second = .ok late ∧
        pairs = early ++ late := by
  induction first generalizing pairs with
  | nil =>
      simp [listed, eq_comm]
  | cons token rest ih =>
      simp only [List.cons_append, listed_cons_eq_ok, ih]
      constructor
      · rintro ⟨pair, _, hpair, ⟨early, late, hearly, hlate, rfl⟩, rfl⟩
        exact ⟨_, late, ⟨pair, early, hpair, hearly, rfl⟩, hlate,
          (List.append_assoc _ _ _).symm⟩
      · rintro ⟨_, late, ⟨pair, early, hpair, hearly, rfl⟩, hlate, rfl⟩
        exact ⟨pair, _, hpair, ⟨early, late, hearly, hlate, rfl⟩, List.append_assoc _ _ _⟩

theorem listed_closing {tokens : List Token}
    (hclosing : forall tag, tag ∈ tokens -> exists name, tag = .closing name) :
    listed tokens = .ok [] := by
  induction tokens with
  | nil =>
      rfl
  | cons token rest ih =>
      rcases hclosing token List.mem_cons_self with ⟨name, rfl⟩
      exact listed_cons_eq_ok.mpr
        ⟨none, [], rfl, ih fun tag htag => hclosing tag (List.mem_cons_of_mem _ htag), rfl⟩

theorem accept_eq_ok {reading next : Reading} {token : Token} :
    reading.accept token = .ok next <->
      follow reading.opened token = some next.opened ∧
        exists pair, pairOf token = .ok pair ∧ next.pairs = reading.pairs ++ pair.toList := by
  rcases reading with ⟨opened, found⟩
  rcases next with ⟨left, all⟩
  cases token with
  | standalone content =>
      rw [Reading.accept, pairOf, follow]
      cases pair? content with
      | error e =>
          simp [bind, Except.bind]
      | ok pair =>
          simp [bind, Except.bind, pure, Except.pure, eq_comm]
  | opening content =>
      rw [Reading.accept, pairOf, follow]
      cases pair? content with
      | error e =>
          simp [bind, Except.bind]
      | ok pair =>
          simp [bind, Except.bind, pure, Except.pure, eq_comm]
  | closing name =>
      cases opened with
      | nil =>
          simp [Reading.accept, follow, throw, throwThe, MonadExceptOf.throw]
      | cons innermost outer =>
          by_cases hname : closingName name = innermost
          · simp [Reading.accept, follow, pairOf, hname, pure, Except.pure, eq_comm]
          · simp [Reading.accept, follow, hname, throw, throwThe, MonadExceptOf.throw]

/-- Reading on follows the open elements and collects the pairs, each on its own. -/
theorem foldlM_accept_eq_ok {tokens : List Token} :
    forall {opened left : List (List Char)} {found all : List (String × String)},
      tokens.foldlM Reading.accept ⟨opened, found⟩ = .ok ⟨left, all⟩ <->
        tokens.foldlM follow opened = some left ∧
          exists pairs, listed tokens = .ok pairs ∧ all = found ++ pairs := by
  induction tokens with
  | nil =>
      intro opened left found all
      simp [pure, Except.pure, listed, eq_comm]
  | cons token rest ih =>
      intro opened left found all
      rw [List.foldlM_cons, foldlM_follow_cons]
      constructor
      · intro hread
        cases haccept : Reading.accept ⟨opened, found⟩ token with
        | error e =>
            rw [haccept] at hread
            cases hread
        | ok next =>
            rw [haccept] at hread
            rcases accept_eq_ok.mp haccept with ⟨hfollow, pair, hpair, hnext⟩
            rcases ih.mp hread with ⟨hrest, more, hmore, hall⟩
            refine ⟨⟨next.opened, hfollow, hrest⟩, pair.toList ++ more,
              listed_cons_eq_ok.mpr ⟨pair, more, hpair, hmore, rfl⟩, ?_⟩
            rw [hall, hnext, List.append_assoc]
      · rintro ⟨⟨next, hfollow, hrest⟩, pairs, hpairs, hall⟩
        rcases listed_cons_eq_ok.mp hpairs with ⟨pair, more, hpair, hmore, rfl⟩
        have haccept : Reading.accept ⟨opened, found⟩ token =
            .ok ⟨next, found ++ pair.toList⟩ :=
          accept_eq_ok.mpr ⟨hfollow, pair, hpair, rfl⟩
        rw [haccept]
        refine ih.mpr ⟨hrest, more, hmore, ?_⟩
        rw [hall, List.append_assoc]

/-- The tags of a document. -/
def tags (document : String) : List Token :=
  (Markup.scan (withoutByteOrderMark document.toList)).1

/-- Why a document breaks off inside a construct, if it does. -/
def breakingOff (document : String) : Option Markup.Error :=
  (Markup.scan (withoutByteOrderMark document.toList)).2

theorem readTokens_eq_ok {tokens : List Token} {reason : Option Markup.Error}
    {found : List (String × String)} :
    readTokens tokens reason = .ok found <->
      reason = none ∧ listed tokens = .ok found ∧
        exists left, tokens.foldlM follow [] = some left := by
  have hread : forall {left : List (List Char)} {all : List (String × String)},
      tokens.foldlM Reading.accept ⟨[], []⟩ = .ok ⟨left, all⟩ <->
        tokens.foldlM follow [] = some left ∧ listed tokens = .ok all := by
    intro left all
    rw [foldlM_accept_eq_ok]
    simp
  rw [readTokens]
  constructor
  · intro hfound
    cases hfold : tokens.foldlM Reading.accept ⟨[], []⟩ with
    | error e =>
        rw [hfold] at hfound
        cases hfound
    | ok reading =>
        rw [hfold] at hfound
        cases reason with
        | some e =>
            cases hfound
        | none =>
            cases hfound
            have hboth := hread.mp hfold
            exact ⟨rfl, hboth.2, reading.opened, hboth.1⟩
  · rintro ⟨rfl, hlisted, left, hleft⟩
    rw [hread.mpr ⟨hleft, hlisted⟩]
    rfl

/--
What is accepted, and what is read from it: the end tags that are missing have
to be those of elements that the document leaves open.
-/
theorem decode_eq_ok {document : String} {found : List (String × String)} :
    decode document = .ok found <->
      breakingOff document = none ∧ listed (tags document) = .ok found ∧
        exists left : List (List Char), Nested (tags document ++ left.map .closing) := by
  have hdecode : decode document = readTokens (tags document) (breakingOff document) := rfl
  rw [hdecode, readTokens_eq_ok]
  refine and_congr_right fun _ => and_congr_right fun _ => ?_
  constructor
  · rintro ⟨left, hleft⟩
    refine ⟨left, nested_append_closing.mpr ?_⟩
    rw [foldlM_follow_names hleft rfl, hleft]
  · rintro ⟨left, hleft⟩
    exact ⟨_, nested_append_closing.mp hleft⟩

end Document
end LastChange
end UpnpAv
