import UpnpAv.Proofs.MediaType.Aliases
import UpnpAv.Proofs.MediaType.Filter

/-!
# Entries that name advertised types

An entry matches a type by what the type is without its parameters.  So every
advertised type has an entry that keeps it and one that removes it, but an entry
that spells out parameters matches no type at all.
-/

namespace UpnpAv
namespace MediaType

open Text (lowered trim upTo)

/-- A type and a subtype, perhaps with parameters. -/
def IsType (type : String) : Prop :=
  '/' ∈ upTo ';' type.toList

theorem augment_isType {types : StringSet} (htypes : forall type, type ∈ types -> IsType type)
    {type : String} (htype : type ∈ augment types) : IsType type := by
  have haliases : forall entry, entry ∈ aliases -> forall type, type ∈ entry.2 ->
      IsType type := by
    unfold IsType
    decide
  exact augment_forall haliases htypes htype

/-!
# Filters of one entry
-/

namespace Filter

open Pattern (essence)

/-- A text that a filter takes as one entry, and as an inclusion. -/
structure IsEntry (entry : String) : Prop where
  nonempty : entry.toList ≠ []
  comma : ',' ∉ entry.toList
  trimmed : trim entry.toList = entry.toList
  dash : entry.toList.head? ≠ some '-'

theorem names_lowered {entry type : List Char} : Names (lowered entry) type <-> Names entry type := by
  have hslash : '/' ∈ lowered entry <-> '/' ∈ entry := Text.mem_lowered (by decide)
  rw [Names, Names, Text.lowered_lowered]
  simp only [hslash]

section

variable {entry : String}

theorem rules_entry (hentry : IsEntry entry) : rules entry = [lowered entry.toList] := by
  rcases hentry with ⟨hnonempty, hcomma, htrimmed, hdash⟩
  rw [rules, Text.splitOn_of_not_mem hcomma]
  cases hcons : entry.toList with
  | nil =>
      exact absurd hcons hnonempty
  | cons c rest =>
      rw [hcons] at htrimmed hdash
      have hc : c ≠ '-' := fun hc => hdash (congrArg some hc)
      rw [List.filterMap_cons_some (rule?_included htrimmed hc), List.filterMap_nil]

theorem rules_dash (hentry : IsEntry entry) :
    rules ("-" ++ entry) = ['-' :: lowered entry.toList] := by
  rcases hentry with ⟨hnonempty, hcomma, htrimmed, _⟩
  have hlist : ("-" ++ entry).toList = '-' :: entry.toList := String.toList_append
  have hcommas : ',' ∉ '-' :: entry.toList := List.not_mem_cons_of_ne_of_not_mem (by decide) hcomma
  rw [rules, hlist, Text.splitOn_of_not_mem hcommas]
  cases hcons : entry.toList with
  | nil =>
      exact absurd hcons hnonempty
  | cons c rest =>
      rw [hcons] at htrimmed
      have hwhole : trim ('-' :: c :: rest) = '-' :: c :: rest := by
        apply Text.trim_eq_self
        · rintro _ ⟨⟩
          decide
        · intro d hd
          rw [List.getLast?_cons_cons, ← htrimmed] at hd
          exact Text.isBlank_of_getLast?_trim hd
      simp [rule?, hwhole, htrimmed]

theorem entry_allows (hentry : IsEntry entry) (type : String) :
    (parse entry).allows type = true <-> Names entry.toList type.toList := by
  have hhead : (lowered entry.toList).head? ≠ some '-' := by
    cases hcons : entry.toList with
    | nil =>
        exact absurd hcons hentry.nonempty
    | cons c rest =>
        have hdash := hentry.dash
        rw [hcons] at hdash
        exact head?_lowered (fun hc => hdash (congrArg some hc)) rest
  rw [allows_iff, rules_entry hentry, ← names_lowered]
  constructor
  · rintro ⟨_, hincluded⟩
    rcases hincluded ⟨_, List.mem_singleton_self _, hhead⟩ with ⟨named, ⟨hnamed, _⟩, hnames⟩
    rw [List.mem_singleton.mp hnamed] at hnames
    exact hnames
  · intro hnames
    constructor
    · intro excluded hexcluded
      rw [← List.mem_singleton.mp hexcluded] at hhead
      exact absurd rfl hhead
    · intro _
      exact ⟨_, ⟨List.mem_singleton_self _, hhead⟩, hnames⟩

theorem keeps_nil (type : List Char) : Keeps [] type := by
  constructor
  · intro entry hentry
    cases hentry
  · rintro ⟨entry, hentry, _⟩
    cases hentry

theorem dash_allows (hentry : IsEntry entry) (type : String) :
    (parse ("-" ++ entry)).allows type = true <-> ¬ Names entry.toList type.toList := by
  rw [allows_iff, rules_dash hentry, ← List.nil_append [_], keeps_excluding,
    and_iff_right (keeps_nil _), names_lowered]

end

/-!
# Entries with parameters and without
-/

theorem semicolon_not_mem_essence (type : List Char) : ';' ∉ essence type := by
  intro hmem
  have hcut : ';' ∈ upTo ';' type := (Text.mem_trim (by decide)).mp hmem
  have hother := List.mem_takeWhile_imp hcut
  simp at hother

theorem not_names_of_semicolon {entry type : List Char} (hslash : '/' ∈ entry)
    (hsemicolon : ';' ∈ entry) : ¬ Names entry type := by
  have hlower : forall {text : List Char}, ';' ∈ lowered text <-> ';' ∈ text :=
    Text.mem_lowered (by decide)
  rw [Names, if_pos hslash]
  intro hsame
  rw [← hlower, hsame, hlower] at hsemicolon
  exact semicolon_not_mem_essence type hsemicolon

section

variable {type : String}

theorem slash_mem_essence (htype : IsType type) : '/' ∈ essence type.toList :=
  (Text.mem_trim (by decide)).mpr htype

theorem head?_essence (htype : IsType type) (htrimmed : trim type.toList = type.toList) :
    (essence type.toList).head? = type.toList.head? := by
  unfold IsType at htype
  cases hcons : type.toList with
  | nil =>
      rw [hcons] at htype
      cases htype
  | cons c rest =>
      have hstarts : (trim type.toList).head? = some c := by
        rw [htrimmed, hcons, List.head?_cons]
      have hblank : Text.isBlank c = false := Text.isBlank_of_head?_trim hstarts
      have hc : c ≠ ';' := by
        rintro rfl
        rw [hcons, upTo, List.takeWhile_cons_of_neg (by simp)] at htype
        cases htype
      have hstart : upTo ';' (c :: rest) = c :: upTo ';' rest :=
        List.takeWhile_cons_of_pos (by simp [hc])
      rw [essence, hstart, Text.head?_trim hblank, List.head?_cons]

theorem isEntry_essence (htype : IsType type) (hcomma : ',' ∉ type.toList)
    (htrimmed : trim type.toList = type.toList) (hdash : type.toList.head? ≠ some '-') :
    IsEntry (String.ofList (essence type.toList)) := by
  constructor
  · rw [String.toList_ofList]
    exact List.ne_nil_of_mem (slash_mem_essence htype)
  · rw [String.toList_ofList]
    intro hmem
    exact hcomma (List.takeWhile_subset _ ((Text.mem_trim (by decide)).mp hmem))
  · rw [String.toList_ofList]
    exact Text.trim_trim _
  · rw [String.toList_ofList, head?_essence htype htrimmed]
    exact hdash

theorem isEntry_type (htype : IsType type) (hcomma : ',' ∉ type.toList)
    (htrimmed : trim type.toList = type.toList) (hdash : type.toList.head? ≠ some '-') :
    IsEntry type :=
  ⟨List.ne_nil_of_mem (List.takeWhile_subset _ htype), hcomma, htrimmed, hdash⟩

end

/--
An advertised type is kept and removed by the entry that is the type without its
parameters, which is the type itself if it has none.  Spelled out with parameters it
keeps nothing and removes nothing.
-/
theorem types_named_without_parameters {types : StringSet}
    (htypes : forall type, type ∈ types -> IsType type) {type : String}
    (hadvertised : type ∈ augment types) (hcomma : ',' ∉ type.toList)
    (htrimmed : trim type.toList = type.toList) (hdash : type.toList.head? ≠ some '-') :
    let plain := String.ofList (essence type.toList)
    (parse plain).allows type = true ∧
      (parse ("-" ++ plain)).allows type = false ∧
      (';' ∉ type.toList -> plain = type) ∧
      (';' ∈ type.toList -> forall other,
        (parse type).allows other = false ∧ (parse ("-" ++ type)).allows other = true) := by
  intro plain
  have htype : IsType type := augment_isType htypes hadvertised
  have hplain : IsEntry plain := isEntry_essence htype hcomma htrimmed hdash
  have hnames : Names plain.toList type.toList := by
    rw [String.toList_ofList, Names, if_pos (slash_mem_essence htype)]
  refine ⟨(entry_allows hplain type).mpr hnames, ?_, ?_, ?_⟩
  · rw [← Bool.not_eq_true, dash_allows hplain]
    exact not_not_intro hnames
  · intro hsemicolon
    have hwhole : essence type.toList = type.toList := by
      rw [essence, Text.upTo_of_not_mem hsemicolon, htrimmed]
    exact (congrArg String.ofList hwhole).trans String.ofList_toList
  · intro hsemicolon other
    have hentry : IsEntry type := isEntry_type htype hcomma htrimmed hdash
    have hslash : '/' ∈ type.toList := List.takeWhile_subset _ htype
    have hunnamed : ¬ Names type.toList other.toList := not_names_of_semicolon hslash hsemicolon
    rw [← Bool.not_eq_true, entry_allows hentry, dash_allows hentry]
    exact ⟨hunnamed, hunnamed⟩

/-- The name that is added for streams of samples has parameters. -/
theorem types_named_without_parameters_samples :
    let types := StringSet.ofList ["audio/mpeg"]
    let type := "audio/L16;rate=44100;channels=2"
    (forall type, type ∈ types -> IsType type) ∧ type ∈ augment types ∧
      (parse "audio/L16").allows type = true ∧ (parse "-audio/L16").allows type = false ∧
      (parse type).allows "audio/L16" = false := by
  intro types type
  have htypes : forall type, type ∈ types -> IsType type := by
    intro type htype
    rw [List.mem_singleton.mp (StringSet.mem_ofList.mp htype)]
    exact (by decide : '/' ∈ upTo ';' "audio/mpeg".toList)
  have hadvertised : type ∈ augment types := by decide
  have hplain : String.ofList (essence type.toList) = "audio/L16" := by decide
  rcases types_named_without_parameters htypes hadvertised (by decide) (by decide) (by decide) with
    ⟨hkept, hremoved, _, hspelled⟩
  rw [hplain] at hkept hremoved
  exact ⟨htypes, hadvertised, hkept, hremoved, (hspelled (by decide) _).1⟩

/-- Spelled out with its parameters, that name does not match itself. -/
theorem samples_not_named_by_parameters :
    let types := StringSet.ofList ["audio/mpeg"]
    let type := "audio/L16;rate=44100;channels=2"
    (forall type, type ∈ types.toList -> IsType type) ∧ type ∈ augment types ∧
      ',' ∉ type.toList ∧ trim type.toList = type.toList ∧ type.toList.head? ≠ some '-' ∧
      (parse type).allows type = false ∧ (parse ("-" ++ type)).allows type = true := by
  unfold IsType
  decide

end Filter
end MediaType
end UpnpAv
