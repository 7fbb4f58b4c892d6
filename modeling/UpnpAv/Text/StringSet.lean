/-!
# Sets of texts in code point order

A set of texts is kept as its list in strictly ascending order.  The order of
code points is also the order of the UTF-8 bytes.
-/

namespace UpnpAv
namespace Text

/-- Put a text into an ascending list, where it stands only once. -/
def insertSorted (text : String) : List String -> List String
  | [] => [text]
  | head :: rest =>
      if text < head then text :: head :: rest
      else if head < text then head :: insertSorted text rest
      else head :: rest

theorem mem_insertSorted {text other : String} {list : List String} :
    other ∈ insertSorted text list ↔ other = text ∨ other ∈ list := by
  induction list with
  | nil =>
      simp [insertSorted]
  | cons head rest ih =>
      unfold insertSorted
      split
      · simp
      · split
        · simp only [List.mem_cons, ih]
          constructor
          · rintro (h | h | h)
            · exact Or.inr (Or.inl h)
            · exact Or.inl h
            · exact Or.inr (Or.inr h)
          · rintro (h | h | h)
            · exact Or.inr (Or.inl h)
            · exact Or.inl h
            · exact Or.inr (Or.inr h)
        · rename_i notBelow notAbove
          have same : text = head :=
            String.le_antisymm (String.not_lt.1 notAbove) (String.not_lt.1 notBelow)
          subst same
          simp

theorem pairwise_insertSorted {text : String} {list : List String}
    (sorted : list.Pairwise (· < ·)) :
    (insertSorted text list).Pairwise (· < ·) := by
  induction list with
  | nil =>
      simp [insertSorted]
  | cons head rest ih =>
      have tail := List.pairwise_cons.1 sorted
      unfold insertSorted
      split
      · rename_i below
        apply List.pairwise_cons.2
        refine ⟨?_, sorted⟩
        intro other member
        rcases List.mem_cons.1 member with h | h
        · exact h ▸ below
        · exact String.lt_trans below (tail.1 other h)
      · split
        · rename_i above
          apply List.pairwise_cons.2
          refine ⟨?_, ih tail.2⟩
          intro other member
          rcases mem_insertSorted.1 member with h | h
          · exact h ▸ above
          · exact tail.1 other h
        · exact sorted

end Text

/-- A finite set of texts. -/
structure StringSet where
  toList : List String
  sorted : toList.Pairwise (· < ·)
deriving DecidableEq

namespace StringSet

instance : Membership String StringSet where
  mem set text := text ∈ set.toList

instance (text : String) (set : StringSet) : Decidable (text ∈ set) :=
  inferInstanceAs (Decidable (text ∈ set.toList))

/-- The set without members. -/
def empty : StringSet :=
  ⟨[], List.Pairwise.nil⟩

/-- Whether a set has no member. -/
def isEmpty (set : StringSet) : Bool :=
  set.toList.isEmpty

/-- The number of members. -/
def size (set : StringSet) : Nat :=
  set.toList.length

/-- The set with one more member. -/
def insert (set : StringSet) (text : String) : StringSet :=
  ⟨Text.insertSorted text set.toList, Text.pairwise_insertSorted set.sorted⟩

/-- The set with the members of a list besides its own. -/
def insertAll (set : StringSet) (texts : List String) : StringSet :=
  texts.foldl insert set

/-- The set of the members of a list. -/
def ofList (texts : List String) : StringSet :=
  empty.insertAll texts

/-- The members that pass a test. -/
def filter (keep : String -> Bool) (set : StringSet) : StringSet :=
  ⟨set.toList.filter keep, set.sorted.filter keep⟩

/-- Whether a text is a member. -/
def contains (set : StringSet) (text : String) : Bool :=
  decide (text ∈ set)

@[simp] theorem not_mem_empty (text : String) : ¬ text ∈ empty := by
  show ¬ text ∈ ([] : List String)
  simp

@[simp] theorem mem_insert {set : StringSet} {text other : String} :
    other ∈ set.insert text ↔ other = text ∨ other ∈ set :=
  Text.mem_insertSorted

@[simp] theorem mem_insertAll {set : StringSet} {texts : List String} {other : String} :
    other ∈ set.insertAll texts ↔ other ∈ texts ∨ other ∈ set := by
  induction texts generalizing set with
  | nil =>
      simp [insertAll]
  | cons head rest ih =>
      show other ∈ (set.insert head).insertAll rest ↔ _
      rw [ih, mem_insert, List.mem_cons]
      constructor
      · rintro (h | h | h)
        · exact Or.inl (Or.inr h)
        · exact Or.inl (Or.inl h)
        · exact Or.inr h
      · rintro ((h | h) | h)
        · exact Or.inr (Or.inl h)
        · exact Or.inl h
        · exact Or.inr (Or.inr h)

@[simp] theorem mem_ofList {texts : List String} {other : String} :
    other ∈ ofList texts ↔ other ∈ texts := by
  simp [ofList]

@[simp] theorem mem_filter {keep : String -> Bool} {set : StringSet} {other : String} :
    other ∈ set.filter keep ↔ other ∈ set ∧ keep other = true :=
  List.mem_filter

end StringSet
end UpnpAv
