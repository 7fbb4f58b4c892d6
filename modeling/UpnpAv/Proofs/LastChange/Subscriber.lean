import Mathlib.Data.List.Nodup
import UpnpAv.Proofs.LastChange.Reporter
import UpnpAv.Proofs.StateTable.Written

/-!
# What a subscriber holds

A subscriber keeps a list of pairs of name and value and overwrites it, name by
name, with the pairs of each document that arrives.
-/

namespace UpnpAv
namespace LastChange
namespace Subscriber

open StateTable (replaced)

/-- Overwrite the value of a name; a name that is not held yet is added. -/
def overwrite (held : List (String × String)) (pair : String × String) :
    List (String × String) :=
  if pair.1 ∈ held.map Prod.fst then replaced pair held else held ++ [pair]

/-- Overwrite with several pairs in order. -/
def overwriteAll (held pairs : List (String × String)) : List (String × String) :=
  pairs.foldl overwrite held

/-!
# Names that are held
-/

@[simp] theorem overwriteAll_nil (held : List (String × String)) :
    overwriteAll held [] = held :=
  rfl

@[simp] theorem overwriteAll_cons (held : List (String × String)) (pair : String × String)
    (rest : List (String × String)) :
    overwriteAll held (pair :: rest) = overwriteAll (overwrite held pair) rest :=
  rfl

theorem overwriteAll_append (held first second : List (String × String)) :
    overwriteAll held (first ++ second) = overwriteAll (overwriteAll held first) second :=
  List.foldl_append

theorem overwrite_of_mem {held : List (String × String)} {pair : String × String}
    (hpair : pair.1 ∈ held.map Prod.fst) : overwrite held pair = replaced pair held :=
  if_pos hpair

theorem names_overwrite {held : List (String × String)} {pair : String × String}
    (hpair : pair.1 ∈ held.map Prod.fst) :
    (overwrite held pair).map Prod.fst = held.map Prod.fst := by
  rw [overwrite_of_mem hpair, StateTable.names_replaced]

/-- Overwriting names that are held adds none. -/
theorem names_overwriteAll :
    forall {pairs held : List (String × String)},
      (forall pair, pair ∈ pairs -> pair.1 ∈ held.map Prod.fst) ->
        (overwriteAll held pairs).map Prod.fst = held.map Prod.fst := by
  intro pairs
  induction pairs with
  | nil =>
      intro held _
      rfl
  | cons pair rest ih =>
      intro held hpairs
      have hnames := names_overwrite (hpairs pair List.mem_cons_self)
      rw [overwriteAll_cons, ih, hnames]
      intro other hother
      rw [hnames]
      exact hpairs other (List.mem_cons_of_mem pair hother)

/-- Overwriting with pairs that are held already changes nothing. -/
theorem overwriteAll_eq_self {pairs held : List (String × String)}
    (hnames : (held.map Prod.fst).Nodup) :
    (forall pair, pair ∈ pairs -> pair ∈ held) -> overwriteAll held pairs = held := by
  induction pairs with
  | nil =>
      intro _
      rfl
  | cons pair rest ih =>
      intro hpairs
      have hpair := hpairs pair List.mem_cons_self
      have hsame : overwrite held pair = held := by
        rw [overwrite_of_mem (List.mem_map.mpr ⟨pair, hpair, rfl⟩)]
        apply StateTable.replaced_eq_self
        intro old hold hname
        exact List.inj_on_of_nodup_map hnames hold hpair hname
      rw [overwriteAll_cons, hsame]
      exact ih fun other hother => hpairs other (List.mem_cons_of_mem pair hother)

/-!
# Order of overwriting
-/

theorem overwrite_comm {held : List (String × String)} {first second : String × String}
    (hfirst : first.1 ∈ held.map Prod.fst) (hsecond : second.1 ∈ held.map Prod.fst)
    (hnames : first.1 ≠ second.1) :
    overwrite (overwrite held first) second = overwrite (overwrite held second) first := by
  have hfirst' : first.1 ∈ (overwrite held second).map Prod.fst := by
    rw [names_overwrite hsecond]
    exact hfirst
  have hsecond' : second.1 ∈ (overwrite held first).map Prod.fst := by
    rw [names_overwrite hfirst]
    exact hsecond
  rw [overwrite_of_mem hfirst', overwrite_of_mem hsecond', overwrite_of_mem hfirst,
    overwrite_of_mem hsecond, StateTable.replaced_comm held hnames]

theorem overwrite_overwrite {held : List (String × String)} {first second : String × String}
    (hfirst : first.1 ∈ held.map Prod.fst) (hnames : first.1 = second.1) :
    overwrite (overwrite held first) second = overwrite held second := by
  have hsecond : second.1 ∈ held.map Prod.fst := hnames ▸ hfirst
  have hsecond' : second.1 ∈ (overwrite held first).map Prod.fst := by
    rw [names_overwrite hfirst]
    exact hsecond
  rw [overwrite_of_mem hsecond', overwrite_of_mem hfirst, overwrite_of_mem hsecond,
    StateTable.replaced_replaced held hnames]

/-- Pairs of other names can be overwritten before or after a pair. -/
theorem overwriteAll_overwrite {pair : String × String} :
    forall {pairs held : List (String × String)},
      pair.1 ∈ held.map Prod.fst ->
      (forall other, other ∈ pairs -> other.1 ∈ held.map Prod.fst ∧ other.1 ≠ pair.1) ->
        overwriteAll (overwrite held pair) pairs =
          overwrite (overwriteAll held pairs) pair := by
  intro pairs
  induction pairs with
  | nil =>
      intro held _ _
      rfl
  | cons other rest ih =>
      intro held hpair hpairs
      rcases hpairs other List.mem_cons_self with ⟨hother, hne⟩
      rw [overwriteAll_cons, overwriteAll_cons, overwrite_comm hpair hother (Ne.symm hne)]
      apply ih
      · rw [names_overwrite hother]
        exact hpair
      · intro next hnext
        rw [names_overwrite hother]
        exact hpairs next (List.mem_cons_of_mem other hnext)

/-- Overwriting with the entries that wait, after one more entry was put among them. -/
theorem overwriteAll_insert {entry : Pending} :
    forall {entries : List Pending} {held : List (String × String)},
      Pending.Ascending entries ->
      (forall other, other ∈ entries ->
        other.name ∈ held.map Prod.fst ∧ (other.name = entry.name <-> other.id = entry.id)) ->
      entry.name ∈ held.map Prod.fst ->
        overwriteAll held ((Pending.insert entry entries).map Pending.pair) =
          overwrite (overwriteAll held (entries.map Pending.pair)) entry.pair := by
  intro entries
  induction entries with
  | nil =>
      intro held _ _ _
      rfl
  | cons head rest ih =>
      intro held hascending hentries hentry
      rcases List.pairwise_cons.mp hascending with ⟨hfirst, hrest⟩
      rcases hentries head List.mem_cons_self with ⟨hhead, hheadName⟩
      have hothers : forall other, other ∈ rest -> entry.id ≤ head.id ->
          other.name ≠ entry.name := by
        intro other hother hle hname
        have hid := (hentries other (List.mem_cons_of_mem head hother)).2.mp hname
        exact Nat.ne_of_gt (Nat.lt_of_le_of_lt hle (hfirst other hother)) hid
      by_cases hlt : entry.id < head.id
      · rw [Pending.insert, if_pos hlt, List.map_cons, overwriteAll_cons]
        apply overwriteAll_overwrite hentry
        intro pair hpair
        rcases List.mem_map.mp hpair with ⟨other, hother, rfl⟩
        refine ⟨(hentries other hother).1, ?_⟩
        rcases List.mem_cons.mp hother with rfl | hmem
        · intro hname
          exact Nat.ne_of_gt hlt (hheadName.mp hname)
        · exact hothers other hmem (Nat.le_of_lt hlt)
      · by_cases heq : entry.id = head.id
        · rw [Pending.insert, if_neg hlt, if_pos heq, List.map_cons, overwriteAll_cons,
            List.map_cons, overwriteAll_cons]
          have hsame : head.pair.1 = entry.pair.1 := hheadName.mpr heq.symm
          rw [← overwrite_overwrite hhead hsame]
          apply overwriteAll_overwrite
          · rw [names_overwrite hhead]
            exact hentry
          · intro pair hpair
            rcases List.mem_map.mp hpair with ⟨other, hother, rfl⟩
            rw [names_overwrite hhead]
            exact ⟨(hentries other (List.mem_cons_of_mem head hother)).1,
              hothers other hother (Nat.le_of_eq heq)⟩
        · rw [Pending.insert, if_neg hlt, if_neg heq, List.map_cons, overwriteAll_cons,
            List.map_cons, overwriteAll_cons]
          apply ih hrest
          · intro other hother
            rw [names_overwrite hhead]
            exact hentries other (List.mem_cons_of_mem head hother)
          · rw [names_overwrite hhead]
            exact hentry

end Subscriber
end LastChange
end UpnpAv
