import UpnpAv.MediaType.Aliases
import UpnpAv.Proofs.Text.StringSet

/-!
# Widening is a closure

No further name of a type has further names itself.  So one pass over the table
finds them all, in whatever order the table lists its entries.
-/

namespace UpnpAv
namespace MediaType

/-- A table in which no further name of a type has an entry of its own. -/
def IsFlat (table : List (String × List String)) : Prop :=
  forall entry, entry ∈ table -> forall other, other ∈ table -> other.1 ∉ entry.2

theorem mem_widen {types : StringSet} {entry : String × List String} {type : String} :
    type ∈ widen types entry <-> type ∈ types ∨ (entry.1 ∈ types ∧ type ∈ entry.2) := by
  rw [widen]
  by_cases hmember : entry.1 ∈ types
  · have hpresent : types.contains entry.1 = true := decide_eq_true hmember
    rw [if_pos hpresent, StringSet.mem_insertAll, and_iff_right hmember, or_comm]
  · have habsent : ¬ types.contains entry.1 = true := fun h => hmember (of_decide_eq_true h)
    rw [if_neg habsent]
    constructor
    · exact Or.inl
    · rintro (htype | ⟨hbase, _⟩)
      · exact htype
      · exact absurd hbase hmember

/-- What one pass over a table adds: the further names of the members there were. -/
theorem mem_widenAll {table : List (String × List String)} {type : String} :
    forall {types : StringSet}, IsFlat table ->
      (type ∈ table.foldl widen types <->
        type ∈ types ∨ exists entry, entry ∈ table ∧ entry.1 ∈ types ∧ type ∈ entry.2) := by
  induction table with
  | nil =>
      intro types _
      simp
  | cons head rest ih =>
      intro types hflat
      have hrest : IsFlat rest := fun entry hentry other hother =>
        hflat entry (List.mem_cons_of_mem head hentry) other (List.mem_cons_of_mem head hother)
      -- the names that the head adds have no entries, so they lead to nothing further
      have hbase : forall entry, entry ∈ rest ->
          (entry.1 ∈ widen types head <-> entry.1 ∈ types) := by
        intro entry hentry
        rw [mem_widen]
        constructor
        · rintro (hmember | ⟨_, hadded⟩)
          · exact hmember
          · exact absurd hadded
              (hflat head List.mem_cons_self entry (List.mem_cons_of_mem head hentry))
        · exact Or.inl
      rw [List.foldl_cons, ih hrest, mem_widen]
      constructor
      · rintro ((htype | ⟨hhead, htype⟩) | ⟨entry, hentry, hmember, htype⟩)
        · exact Or.inl htype
        · exact Or.inr ⟨head, List.mem_cons_self, hhead, htype⟩
        · exact Or.inr ⟨entry, List.mem_cons_of_mem head hentry,
            (hbase entry hentry).mp hmember, htype⟩
      · rintro (htype | ⟨entry, hentry, hmember, htype⟩)
        · exact Or.inl (Or.inl htype)
        · rcases List.mem_cons.mp hentry with rfl | hentry
          · exact Or.inl (Or.inr ⟨hmember, htype⟩)
          · exact Or.inr ⟨entry, hentry, (hbase entry hentry).mpr hmember, htype⟩

theorem aliases_flat : IsFlat aliases := by
  unfold IsFlat
  decide

theorem mem_augment {types : StringSet} {type : String} :
    type ∈ augment types <->
      type ∈ types ∨ exists entry, entry ∈ aliases ∧ entry.1 ∈ types ∧ type ∈ entry.2 :=
  mem_widenAll aliases_flat

theorem augment_forall {holds : String -> Prop}
    (haliases : forall entry, entry ∈ aliases -> forall type, type ∈ entry.2 -> holds type)
    {types : StringSet} (htypes : forall type, type ∈ types -> holds type) {type : String}
    (htype : type ∈ augment types) : holds type := by
  rcases mem_augment.mp htype with hmember | ⟨entry, hentry, _, hadded⟩
  · exact htypes type hmember
  · exact haliases entry hentry type hadded

theorem augment_extends {types : StringSet} {type : String} (htype : type ∈ types) :
    type ∈ augment types :=
  mem_augment.mpr (Or.inl htype)

theorem augment_mono {types others : StringSet}
    (hsubset : forall type, type ∈ types -> type ∈ others) {type : String}
    (htype : type ∈ augment types) : type ∈ augment others := by
  rcases mem_augment.mp htype with hmember | ⟨entry, hentry, hbase, hadded⟩
  · exact augment_extends (hsubset type hmember)
  · exact mem_augment.mpr (Or.inr ⟨entry, hentry, hsubset entry.1 hbase, hadded⟩)

theorem augment_augment (types : StringSet) : augment (augment types) = augment types := by
  apply StringSet.eq_of_mem_iff
  intro type
  constructor
  · intro htype
    rcases mem_augment.mp htype with hmember | ⟨entry, hentry, hbase, hadded⟩
    · exact hmember
    · rcases mem_augment.mp hbase with hbase | ⟨other, hother, _, hnamed⟩
      · exact mem_augment.mpr (Or.inr ⟨entry, hentry, hbase, hadded⟩)
      · exact absurd hnamed (aliases_flat other hother entry hentry)
  · exact augment_extends

/-- An operation that only adds members, keeps inclusions and adds nothing a second time. -/
structure IsClosure (close : StringSet -> StringSet) : Prop where
  adds : forall types type, type ∈ types -> type ∈ close types
  monotone : forall types others, (forall type, type ∈ types -> type ∈ others) ->
    forall type, type ∈ close types -> type ∈ close others
  idempotent : forall types, close (close types) = close types

theorem augment_isClosure : IsClosure augment where
  adds := fun _ _ => augment_extends
  monotone := fun _ _ hsubset _ => augment_mono hsubset
  idempotent := augment_augment

/-- The order in which the table lists its entries does not matter. -/
theorem augment_eq_of_perm {table : List (String × List String)} (hperm : table.Perm aliases)
    (types : StringSet) : table.foldl widen types = augment types := by
  have hflat : IsFlat table := fun entry hentry other hother =>
    aliases_flat entry (hperm.mem_iff.mp hentry) other (hperm.mem_iff.mp hother)
  apply StringSet.eq_of_mem_iff
  intro type
  rw [mem_widenAll hflat, mem_augment]
  simp only [hperm.mem_iff]

end MediaType
end UpnpAv
