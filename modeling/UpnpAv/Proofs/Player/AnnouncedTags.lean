import UpnpAv.Proofs.Player.Announcements
import UpnpAv.Proofs.Player.Tags

/-!
# Tags that are announced

A batch leaves every kept tag at the value that it gives last.  It is announced
when it gives some tag a value that was not known before, and that is not quite
the same as leaving other tags than before: a batch can give a tag another value
first and the old one last.
-/

namespace UpnpAv

namespace Metadata

/-!
# What a batch gives
-/

/-- The values that a batch gives to a tag, in order. -/
def given (tag : Tag) : List (String × String) -> List String
  | [] => []
  | (name, value) :: rest =>
      if Tag.ofName? name = some tag then value :: given tag rest else given tag rest

theorem given_named {tag : Tag} {name : String} (hname : Tag.ofName? name = some tag)
    (value : String) (rest : List (String × String)) :
    given tag ((name, value) :: rest) = value :: given tag rest :=
  if_pos hname

theorem given_unnamed {tag : Tag} {name : String} (hname : Tag.ofName? name ≠ some tag)
    (value : String) (rest : List (String × String)) :
    given tag ((name, value) :: rest) = given tag rest :=
  if_neg hname

theorem mem_given {tag : Tag} {value : String} {batch : List (String × String)} :
    value ∈ given tag batch <->
      exists pair, pair ∈ batch ∧ Tag.ofName? pair.1 = some tag ∧ pair.2 = value := by
  induction batch with
  | nil =>
      simp [given]
  | cons pair rest ih =>
      rcases pair with ⟨name, first⟩
      by_cases hname : Tag.ofName? name = some tag
      · rw [given_named hname]
        simp [hname, ih, eq_comm]
      · rw [given_unnamed hname]
        simp [hname, ih]

theorem get_mergePair (tags : Metadata) (tag : Tag) (name value : String) :
    (tags.mergePair name value).1.get tag =
      if Tag.ofName? name = some tag then value else tags.get tag := by
  rw [mergePair]
  cases hname : Tag.ofName? name with
  | none =>
      rfl
  | some named =>
      by_cases hsame : tags.get named = value
      · simp only [if_pos hsame]
        by_cases htag : named = tag
        · rw [if_pos (congrArg some htag), ← htag, hsame]
        · rw [if_neg fun hnamed => htag (Option.some.inj hnamed)]
      · simp only [if_neg hsame]
        by_cases htag : named = tag
        · rw [if_pos (congrArg some htag), ← htag, get_put_same]
        · rw [if_neg fun hnamed => htag (Option.some.inj hnamed),
            get_put_other fun hother => htag hother.symm]

/-- A tag has the value that the batch gave it last, or the one it had. -/
theorem get_merge (batch : List (String × String)) (tag : Tag) :
    forall tags : Metadata,
      (tags.merge batch).1.get tag = (given tag batch).getLast?.getD (tags.get tag) := by
  induction batch with
  | nil =>
      intro tags
      rfl
  | cons pair rest ih =>
      intro tags
      rcases pair with ⟨name, value⟩
      rw [merge]
      show ((tags.mergePair name value).1.merge rest).1.get tag = _
      rw [ih, get_mergePair]
      by_cases hname : Tag.ofName? name = some tag
      · rw [if_pos hname, given_named hname, List.getLast?_cons, Option.getD_some]
      · rw [if_neg hname, given_unnamed hname]

/-- A batch replaces a value exactly when it gives some tag a value that was not known. -/
theorem merge_replaced {tags : Metadata} {batch : List (String × String)} :
    (tags.merge batch).2 = true <->
      exists tag value, value ∈ given tag batch ∧ value ≠ tags.get tag := by
  rw [← Bool.not_eq_false, merge_unreplaced]
  constructor
  · intro hnew
    apply Classical.byContradiction
    intro hknown
    apply hnew
    intro pair hpair tag htag
    apply Classical.byContradiction
    intro hdiffers
    exact hknown ⟨tag, pair.2, mem_given.mpr ⟨pair, hpair, htag, rfl⟩, Ne.symm hdiffers⟩
  · rintro ⟨tag, value, hgiven, hdiffers⟩ hcovers
    rcases mem_given.mp hgiven with ⟨pair, hpair, htag, rfl⟩
    exact hdiffers (hcovers pair hpair tag htag).symm

/-- The batch leaves the tags as they were, though it gave one of them another value before. -/
def Restores (tags : Metadata) (batch : List (String × String)) : Prop :=
  (tags.merge batch).1 = tags ∧
    exists tag value, value ∈ given tag batch ∧ value ≠ tags.get tag

/-- The batch gives a tag two values. -/
def Wavers (batch : List (String × String)) : Prop :=
  exists tag first second,
    first ∈ given tag batch ∧ second ∈ given tag batch ∧ first ≠ second

/-- A value is replaced when the tags change, and only then unless the old ones are restored. -/
theorem merge_replaced_unless_restored {tags : Metadata} {batch : List (String × String)} :
    (tags.merge batch).2 = true <-> (tags.merge batch).1 ≠ tags ∨ tags.Restores batch := by
  constructor
  · intro hreplaced
    by_cases hsame : (tags.merge batch).1 = tags
    · exact Or.inr ⟨hsame, merge_replaced.mp hreplaced⟩
    · exact Or.inl hsame
  · rintro (hchanged | ⟨_, hgiven⟩)
    · apply Classical.byContradiction
      intro hkept
      exact hchanged (merge_eq_self (Bool.eq_false_iff.mpr hkept))
    · exact merge_replaced.mpr hgiven

theorem get_merge_mem {tags : Metadata} {tag : Tag} {batch : List (String × String)}
    {value : String} (hgiven : value ∈ given tag batch) :
    (tags.merge batch).1.get tag ∈ given tag batch := by
  rw [get_merge]
  cases hlast : (given tag batch).getLast? with
  | none =>
      rw [List.getLast?_eq_none_iff.mp hlast] at hgiven
      cases hgiven
  | some last =>
      exact List.mem_of_getLast? hlast

theorem Restores.wavers {tags : Metadata} {batch : List (String × String)}
    (hrestores : tags.Restores batch) : Wavers batch := by
  rcases hrestores with ⟨hsame, tag, value, hgiven, hdiffers⟩
  have hleft : (tags.merge batch).1.get tag ∈ given tag batch := get_merge_mem hgiven
  rw [hsame] at hleft
  exact ⟨tag, value, tags.get tag, hgiven, hleft, hdiffers⟩

/-- Merged once more, a batch replaces a value exactly when it gives some tag two values. -/
theorem merge_again {tags : Metadata} {batch : List (String × String)} :
    ((tags.merge batch).1.merge batch).2 = true <-> Wavers batch := by
  rw [merge_replaced]
  constructor
  · rintro ⟨tag, value, hgiven, hdiffers⟩
    exact ⟨tag, value, _, hgiven, get_merge_mem hgiven, hdiffers⟩
  · rintro ⟨tag, first, second, hfirst, hsecond, hdiffer⟩
    -- The value that is left cannot be both of the two.
    by_cases hleft : first = (tags.merge batch).1.get tag
    · exact ⟨tag, second, hsecond, fun hsame => hdiffer (hleft.trans hsame.symm)⟩
    · exact ⟨tag, first, hfirst, hleft⟩

end Metadata

namespace Player
namespace Attended

variable {P L X : Type} [Pipeline P]

/-!
# Announcements
-/

theorem tags_tell {react : Reaction P L X} (hreact : react.Commanding)
    (batch : List (String × String)) (attended : Attended P L X) :
    exists calls,
      (attended.after react (.event (.tags batch))).told = attended.told ++ calls ∧
      calls.map Call.place =
        (if (attended.player.metadata.merge batch).2 then
          List.range attended.onMetadata.length else []) ∧
      forall call, call ∈ calls ->
        call.notice = .metadata (attended.player.metadata.merge batch).1 := by
  rcases handleEvent_tells hreact (.tags batch) attended with
    ⟨announced, calls, hannounced, htells⟩
  rw [handle_tags_result] at hannounced
  refine ⟨calls, htells.told, ?_, ?_⟩
  · rw [htells.placed, ← Except.ok.inj hannounced]
    cases (attended.player.metadata.merge batch).2 <;> rfl
  · intro call hcall
    have habout := htells.about call hcall
    rw [← Except.ok.inj hannounced] at habout
    cases hreplaced : (attended.player.metadata.merge batch).2 with
    | true =>
        rw [hreplaced] at habout
        exact (Option.some.inj habout).symm
    | false =>
        rw [hreplaced] at habout
        cases habout

/--
A batch gives each tag the value that comes last for it, and changes nothing else.
Everybody who listens to tags is called once with all of them if they are not what
they were before, or if the batch restored the old ones, and otherwise nobody is
called.  If nobody has touched the tags since and the same batch comes again, there
are calls exactly if it gives some tag two values, which it does if it restores.
-/
theorem tags_announced_unless_restored {react : Reaction P L X} (hreact : react.Commanding)
    (batch : List (String × String)) (attended : Attended P L X) :
    let before := attended.player
    let updated := (attended.handled (.tags batch)).player
    let now := attended.after react (.event (.tags batch))
    updated = { before with metadata := updated.metadata } ∧
    (forall tag, updated.metadata.get tag =
      (Metadata.given tag batch).getLast?.getD (before.metadata.get tag)) ∧
    (exists calls,
      now.told = attended.told ++ calls ∧
      (forall call, call ∈ calls -> call.notice = .metadata updated.metadata) ∧
      (updated.metadata ≠ before.metadata ∨ before.metadata.Restores batch ->
        calls.map Call.place = List.range attended.onMetadata.length) ∧
      (updated.metadata = before.metadata -> ¬ before.metadata.Restores batch -> calls = [])) ∧
    (now.player.metadata = updated.metadata ->
      exists calls,
        (now.after react (.event (.tags batch))).told = now.told ++ calls ∧
        (Metadata.Wavers batch -> calls.map Call.place = List.range now.onMetadata.length) ∧
        (¬ Metadata.Wavers batch -> calls = [])) ∧
    (before.metadata.Restores batch -> Metadata.Wavers batch) := by
  intro before updated now
  have hupdated : updated.metadata = (before.metadata.merge batch).1 := rfl
  refine ⟨rfl, fun tag => Metadata.get_merge batch tag before.metadata, ?_, ?_,
    Metadata.Restores.wavers⟩
  · rcases tags_tell hreact batch attended with ⟨calls, htold, hplaces, hnotice⟩
    refine ⟨calls, htold, hnotice, ?_, ?_⟩
    · intro hnews
      rw [hplaces, if_pos (Metadata.merge_replaced_unless_restored.mpr hnews)]
    · intro hsame hunrestored
      have hkept : ¬ (before.metadata.merge batch).2 = true := by
        rw [Metadata.merge_replaced_unless_restored]
        rintro (hchanged | hrestores)
        · exact hchanged hsame
        · exact hunrestored hrestores
      rw [if_neg hkept] at hplaces
      exact List.map_eq_nil_iff.mp hplaces
  · intro huntouched
    rcases tags_tell hreact batch now with ⟨calls, htold, hplaces, _⟩
    rw [huntouched, hupdated] at hplaces
    refine ⟨calls, htold, ?_, ?_⟩
    · intro hwavers
      rw [hplaces, if_pos (Metadata.merge_again.mpr hwavers)]
    · intro hsteady
      rw [if_neg fun hagain => hsteady (Metadata.merge_again.mp hagain)] at hplaces
      exact List.map_eq_nil_iff.mp hplaces

/-- A player whose tags somebody listens to. -/
def overheardPlayer : Attended Pipeline.Scripted (List Request) Unit :=
  (around willingPlayer ()).after requesting (.listenToMetadata [])

/-- A batch with two titles. -/
def twoTitles : List (String × String) :=
  [("title", "B"), ("title", "A")]

/-- The second time it leaves the tags as they are, and is announced all the same. -/
theorem announced_without_change :
    let first := overheardPlayer.after requesting (.event (.tags twoTitles))
    let second := first.after requesting (.event (.tags twoTitles))
    second.player.metadata = first.player.metadata ∧
      first.told.length = 1 ∧ second.told.length = 2 := by
  decide

/--
A batch that names an artist twice, but the same one, is heard of once though it
comes twice.  A batch that then restores the title is heard of again.
-/
theorem tags_announced_unless_restored_thrice :
    let sameArtist := [("artist", "C"), ("bitrate", "320"), ("title", "A"), ("artist", "C")]
    let first := overheardPlayer.after requesting (.event (.tags sameArtist))
    let second := first.after requesting (.event (.tags sameArtist))
    let third := second.after requesting (.event (.tags twoTitles))
    first.told.map Call.place = [0] ∧ second.told = first.told ∧
      second.player.metadata.Restores twoTitles ∧
      third.told.map Call.place = [0, 0] := by
  intro sameArtist first second third
  have hsame : forall tag one, one ∈ Metadata.given tag sameArtist ->
      forall other, other ∈ Metadata.given tag sameArtist -> one = other := by
    intro tag
    cases tag <;> decide
  have hsteady : ¬ Metadata.Wavers sameArtist := by
    rintro ⟨tag, one, other, hone, hother, hdiffer⟩
    exact hdiffer (hsame tag one hone other hother)
  have hrestores : second.player.metadata.Restores twoTitles :=
    ⟨by decide, .title, "B", by decide, by decide⟩
  rcases tags_announced_unless_restored requesting_commanding sameArtist overheardPlayer with
    ⟨_, _, ⟨once, htold, _, hplaces, _⟩, hagain, _⟩
  rcases hagain (by decide) with ⟨twice, htoldTwice, _, hnobody⟩
  rcases tags_announced_unless_restored requesting_commanding twoTitles second with
    ⟨_, _, ⟨thrice, htoldThrice, _, hplacesThrice, _⟩, _⟩
  have hfirst : first.told.map Call.place = [0] := by
    rw [show first.told = _ from htold, List.map_append, hplaces (Or.inl (by decide))]
    rfl
  have hsecond : second.told = first.told := by
    rw [show second.told = _ from htoldTwice, hnobody hsteady, List.append_nil]
  refine ⟨hfirst, hsecond, hrestores, ?_⟩
  rw [show third.told = _ from htoldThrice, List.map_append, hsecond, hfirst,
    hplacesThrice (Or.inr hrestores)]
  rfl

end Attended
end Player
end UpnpAv
