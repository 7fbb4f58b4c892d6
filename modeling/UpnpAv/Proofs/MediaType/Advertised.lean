import UpnpAv.MediaType.Advertised
import UpnpAv.Proofs.MediaType.Aliases
import UpnpAv.Proofs.Text.Split

/-!
# Reading advertised types back

A published list is taken apart at its commas, and each part loses what stands
around its type.  Types without commas come back as they were, and in their order.
-/

namespace UpnpAv
namespace MediaType

/-- The type that one protocol entry is about. -/
def offeredType? (part : List Char) : Option String :=
  ((part.dropPrefix? "http-get:*:".toList).bind fun rest =>
    rest.dropSuffix? ":*".toList).map String.ofList

/-- The types that the parts of a published list are about, in order. -/
def offeredTypes (info : String) : List (Option String) :=
  (Text.splitOn ',' info.toList).map offeredType?

/-- Only types without commas can be told apart in a published list. -/
def CommaFree (types : StringSet) : Prop :=
  forall type, type ∈ types -> ',' ∉ type.toList

/-!
# What can be advertised
-/

theorem mem_advertised {types : StringSet} {filter : Filter} {type : String} :
    type ∈ advertised types filter <-> type ∈ augment types ∧ filter.allows type = true :=
  StringSet.mem_filter

theorem advertised_commaFree {types : StringSet} (htypes : CommaFree types) (filter : Filter) :
    CommaFree (advertised types filter) := by
  have haliases : forall entry, entry ∈ aliases -> forall type, type ∈ entry.2 ->
      ',' ∉ type.toList := by decide
  intro type htype
  exact augment_forall haliases htypes (mem_advertised.mp htype).1

/-!
# What is published
-/

theorem drop_surroundings (before type after : List Char) :
    ((before ++ type ++ after).dropPrefix? before).bind (fun rest => rest.dropSuffix? after) =
      some type := by
  rw [List.append_assoc, List.dropPrefix?_append_of_beq _ (beq_self_eq_true before),
    Option.bind_some, List.dropSuffix?_eq_some_iff]
  exact ⟨after, rfl, beq_self_eq_true after⟩

theorem offeredType?_protocolEntry (type : String) :
    offeredType? (protocolEntry type) = some type := by
  unfold offeredType? protocolEntry
  rw [drop_surroundings, Option.map_some, String.ofList_toList]

theorem comma_not_mem_protocolEntry {type : String} (htype : ',' ∉ type.toList) :
    ',' ∉ protocolEntry type := by
  have hbefore : ',' ∉ "http-get:*:".toList := by decide
  have hafter : ',' ∉ ":*".toList := by decide
  unfold protocolEntry
  rw [List.mem_append, List.mem_append]
  exact not_or.mpr ⟨not_or.mpr ⟨hbefore, htype⟩, hafter⟩

theorem protocolEntry_ne_nil (type : String) : protocolEntry type ≠ [] := by
  have hafter : ":*".toList ≠ [] := by decide
  unfold protocolEntry
  exact List.append_ne_nil_of_right_ne_nil _ hafter

theorem protocolInfo_eq_empty {types : StringSet} :
    protocolInfo types = "" <-> forall type, type ∉ types := by
  have hparts : forall part, part ∈ types.toList.map protocolEntry -> part ≠ [] := by
    intro part hpart
    rcases List.mem_map.mp hpart with ⟨type, _, rfl⟩
    exact protocolEntry_ne_nil type
  rw [protocolInfo, String.ofList_eq_empty_iff, Text.join_eq_nil hparts, List.map_eq_nil_iff]
  exact List.eq_nil_iff_forall_not_mem

/-- A published list is read back as the types that it was made of. -/
theorem offeredTypes_protocolInfo {types : StringSet} (htypes : CommaFree types)
    (hsome : protocolInfo types ≠ "") :
    offeredTypes (protocolInfo types) = types.toList.map some := by
  have hparts : types.toList.map protocolEntry ≠ [] := by
    intro hnone
    apply hsome
    rw [protocolInfo, hnone]
    rfl
  have hfree : forall part, part ∈ types.toList.map protocolEntry -> ',' ∉ part := by
    intro part hpart
    rcases List.mem_map.mp hpart with ⟨type, htype, rfl⟩
    exact comma_not_mem_protocolEntry (htypes type htype)
  rw [offeredTypes, protocolInfo, String.toList_ofList, Text.splitOn_join hparts hfree,
    List.map_map]
  exact List.map_congr_left fun type _ => offeredType?_protocolEntry type

end MediaType
end UpnpAv
