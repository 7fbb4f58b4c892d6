import UpnpAv.MediaType.Filter
import UpnpAv.Proofs.Text.LetterCase

/-!
# A filter is a set of rules

Every entry of a filter text comes to one rule or to none, and a type is kept as
the rules say, whatever their order and however often they are repeated.  Rules are
written in small letters and without blanks; one that excludes begins with a dash.
-/

namespace UpnpAv
namespace MediaType

open Text (lowered trim upTo Blank)

namespace Pattern

/-!
# Types without their parameters
-/

theorem essence_lowered (type : List Char) : essence (lowered type) = lowered (essence type) := by
  rw [essence, Text.upTo_lowered (by decide), Text.trim_lowered, essence]

/-- The first semicolon of a type ends its essence, and blanks around that do not count. -/
theorem essence_surrounded {before type after parameters : List Char} (hbefore : Blank before)
    (hafter : Blank after) (htype : ';' ∉ type)
    (hparameters : parameters = [] ∨ exists more, parameters = ';' :: more) :
    essence (before ++ type ++ after ++ parameters) = essence type := by
  have hblank : forall {blanks : List Char}, Blank blanks -> ';' ∉ blanks := by
    intro blanks hblanks hmem
    have hsemicolon := hblanks ';' hmem
    revert hsemicolon
    decide
  have hwhole : ';' ∉ before ++ type ++ after := by
    simp only [List.mem_append, not_or]
    exact ⟨⟨hblank hbefore, htype⟩, hblank hafter⟩
  have hcut : upTo ';' parameters = [] := by
    rcases hparameters with rfl | ⟨more, rfl⟩ <;> rfl
  rw [essence, Text.upTo_append hwhole, hcut, List.append_nil,
    Text.trim_surrounded hbefore hafter, essence, Text.upTo_of_not_mem htype]

/-!
# Patterns in small letters
-/

/-- A pattern in small letters. -/
def small : Pattern -> Pattern
  | full wanted => full (lowered wanted)
  | topLevel wanted => topLevel (lowered wanted)

theorem small_ofEntry (entry : List Char) : (ofEntry entry).small = ofEntry (lowered entry) := by
  have hslash : '/' ∈ lowered entry <-> '/' ∈ entry := Text.mem_lowered (by decide)
  by_cases hfull : '/' ∈ entry
  · rw [ofEntry, if_pos hfull, ofEntry, if_pos (hslash.mpr hfull), small]
  · rw [ofEntry, if_neg hfull, ofEntry, if_neg (fun h => hfull (hslash.mp h)), small]

theorem accepts_small (pattern : Pattern) (type : List Char) :
    pattern.small.accepts type = pattern.accepts type := by
  cases pattern with
  | full wanted =>
      rw [small, accepts, accepts, Text.sameIgnoringCase, Text.lowered_lowered,
        Text.sameIgnoringCase]
  | topLevel wanted =>
      rw [small, accepts, accepts, Text.sameIgnoringCase, Text.lowered_lowered,
        Text.sameIgnoringCase]

end Pattern

namespace Filter

open Pattern (essence)

/-!
# Rules
-/

/-- The rule that one part of a filter text comes to, if it says anything. -/
def rule? (part : List Char) : Option (List Char) :=
  match trim part with
  | [] => none
  | ['-'] => none
  | '-' :: removed => some ('-' :: lowered (trim removed))
  | entry => some (lowered entry)

/-- The rules of a filter text. -/
def rules (text : String) : List (List Char) :=
  (Text.splitOn ',' text.toList).filterMap rule?

/-- Whether an entry names a type: all of it, or without a slash what stands before the slash. -/
def Names (entry type : List Char) : Prop :=
  lowered entry = lowered (if '/' ∈ entry then essence type else upTo '/' (essence type))

/-- An entry that a list of rules includes. -/
def Includes (rules : List (List Char)) (entry : List Char) : Prop :=
  entry ∈ rules ∧ entry.head? ≠ some '-'

/-- An entry that a list of rules excludes. -/
def Excludes (rules : List (List Char)) (entry : List Char) : Prop :=
  '-' :: entry ∈ rules

/-- No exclusion names the type, and if there are inclusions, one of them does. -/
structure Keeps (rules : List (List Char)) (type : List Char) : Prop where
  notExcluded : forall entry, Excludes rules entry -> ¬ Names entry type
  included : (exists entry, Includes rules entry) ->
    exists entry, Includes rules entry ∧ Names entry type

theorem accepts_ofEntry {entry type : List Char} :
    (Pattern.ofEntry entry).accepts type = true <-> Names entry type := by
  rw [Names, Pattern.ofEntry]
  by_cases hfull : '/' ∈ entry
  · rw [if_pos hfull, if_pos hfull, Pattern.accepts, Text.sameIgnoringCase_iff, eq_comm]
  · rw [if_neg hfull, if_neg hfull, Pattern.accepts, Text.sameIgnoringCase_iff, eq_comm]

/-- Only the essence of a type counts, in any case of its letters. -/
theorem names_congr {entry type other : List Char}
    (hsame : lowered (essence type) = lowered (essence other)) :
    Names entry type <-> Names entry other := by
  rw [Names, Names]
  by_cases hfull : '/' ∈ entry
  · rw [if_pos hfull, if_pos hfull, hsame]
  · have hslash : '/'.isAlpha = false := by decide
    rw [if_neg hfull, if_neg hfull, ← Text.upTo_lowered hslash, ← Text.upTo_lowered hslash, hsame]

theorem keeps_congr_type {rules : List (List Char)} {type other : List Char}
    (hsame : lowered (essence type) = lowered (essence other)) :
    Keeps rules type <-> Keeps rules other := by
  have hnames : forall entry, Names entry type <-> Names entry other :=
    fun _ => names_congr hsame
  constructor
  · rintro ⟨hexcluded, hincluded⟩
    simp only [hnames] at hexcluded hincluded
    exact ⟨hexcluded, hincluded⟩
  · rintro ⟨hexcluded, hincluded⟩
    simp only [← hnames] at hexcluded hincluded
    exact ⟨hexcluded, hincluded⟩

theorem keeps_congr_rules {rules others : List (List Char)} {type : List Char}
    (hsame : forall rule, rule ∈ rules <-> rule ∈ others) :
    Keeps rules type <-> Keeps others type := by
  constructor
  · rintro ⟨hexcluded, hincluded⟩
    simp only [Excludes, Includes, hsame] at hexcluded hincluded
    exact ⟨hexcluded, hincluded⟩
  · rintro ⟨hexcluded, hincluded⟩
    simp only [Excludes, Includes, ← hsame] at hexcluded hincluded
    exact ⟨hexcluded, hincluded⟩

theorem rules_append (text entry : String) :
    rules (text ++ "," ++ entry) = rules text ++ rules entry := by
  have hlist : (text ++ "," ++ entry).toList = text.toList ++ ',' :: entry.toList := by
    simp
  rw [rules, hlist, Text.splitOn_append_cons, List.filterMap_append]
  rfl

/-!
# What a text is parsed to
-/

/-- The entry that a rule includes. -/
def included? : List Char -> Option (List Char)
  | '-' :: _ => none
  | entry => some entry

/-- The entry that a rule excludes. -/
def excluded? : List Char -> Option (List Char)
  | '-' :: removed => some removed
  | _ => none

theorem included?_eq_some {rule entry : List Char} :
    included? rule = some entry <-> rule = entry ∧ entry.head? ≠ some '-' := by
  unfold included?
  split
  · rename_i removed
    constructor
    · intro hnone
      cases hnone
    · rintro ⟨rfl, hhead⟩
      exact absurd rfl hhead
  · rename_i hdash
    constructor
    · intro hsome
      cases hsome
      refine ⟨rfl, ?_⟩
      intro hhead
      rcases List.head?_eq_some_iff.mp hhead with ⟨removed, hremoved⟩
      exact hdash removed hremoved
    · rintro ⟨rfl, _⟩
      rfl

theorem excluded?_eq_some {rule entry : List Char} :
    excluded? rule = some entry <-> rule = '-' :: entry := by
  unfold excluded?
  split
  · rename_i removed
    rw [Option.some.injEq, List.cons.injEq, and_iff_right rfl]
  · rename_i hdash
    constructor
    · intro hnone
      cases hnone
    · rintro rfl
      exact absurd rfl (hdash entry)

/-- A filter that has, up to the case of letters, the patterns of some rules. -/
structure Obeys (filter : Filter) (rules : List (List Char)) : Prop where
  inclusions : filter.inclusions.map Pattern.small =
    (rules.filterMap included?).map Pattern.ofEntry
  exclusions : filter.exclusions.map Pattern.small =
    (rules.filterMap excluded?).map Pattern.ofEntry

theorem add_excluded (filter : Filter) (c : Char) (removed : List Char) :
    filter.add ('-' :: c :: removed) =
      { filter with
        exclusions := filter.exclusions ++ [.ofEntry (trim (c :: removed))] } :=
  rfl

theorem add_included (filter : Filter) {c : Char} (hc : c ≠ '-') (rest : List Char) :
    filter.add (c :: rest) =
      { filter with inclusions := filter.inclusions ++ [.ofEntry (c :: rest)] } := by
  unfold add
  split
  · rename_i hdash
    exact absurd (List.cons.inj hdash).1 hc
  · rename_i hdash
    exact absurd (List.cons.inj hdash).1 hc
  · rfl

theorem rule?_included {part rest : List Char} {c : Char} (hpart : trim part = c :: rest)
    (hc : c ≠ '-') : rule? part = some (lowered (c :: rest)) := by
  unfold rule?
  rw [hpart]
  split
  · rename_i hnil
    cases hnil
  · rename_i hdash
    exact absurd (List.cons.inj hdash).1 hc
  · rename_i hdash
    exact absurd (List.cons.inj hdash).1 hc
  · rfl

theorem head?_lowered {c : Char} (hc : c ≠ '-') (rest : List Char) :
    (lowered (c :: rest)).head? ≠ some '-' := by
  rw [lowered, List.map_cons, List.head?_cons, Ne, Option.some.injEq,
    Text.toLower_eq_iff (by decide)]
  exact hc

theorem obeys_add {filter : Filter} {rules : List (List Char)} (hobeys : Obeys filter rules)
    {part : List Char} (hpart : trim part ≠ []) :
    Obeys (filter.add (trim part)) (rules ++ (rule? part).toList) := by
  rcases hobeys with ⟨hinclusions, hexclusions⟩
  cases hentry : trim part with
  | nil =>
      exact absurd hentry hpart
  | cons c rest =>
      by_cases hdash : c = '-'
      · subst hdash
        cases rest with
        | nil =>
            have hrule : rule? part = none := by simp [rule?, hentry]
            rw [hrule, Option.toList_none, List.append_nil]
            exact ⟨hinclusions, hexclusions⟩
        | cons d removed =>
            have hrule : rule? part = some ('-' :: lowered (trim (d :: removed))) := by
              simp [rule?, hentry]
            rw [hrule, add_excluded]
            constructor
            · simp [hinclusions, included?]
            · simp [hexclusions, excluded?, Pattern.small_ofEntry]
      · have hincluded := included?_eq_some.mpr ⟨rfl, head?_lowered hdash rest⟩
        have hexcluded : excluded? (lowered (c :: rest)) = none := by
          rw [Option.eq_none_iff_forall_ne_some]
          intro entry hentry
          apply head?_lowered hdash rest
          rw [excluded?_eq_some.mp hentry, List.head?_cons]
        rw [rule?_included hentry hdash, add_included filter hdash]
        constructor
        · simp [hinclusions, hincluded, Pattern.small_ofEntry]
        · simp [hexclusions, hexcluded]

theorem obeys_addAll (parts : List (List Char)) :
    forall {filter : Filter} {rules : List (List Char)}, Obeys filter rules ->
      Obeys (((parts.map trim).filter fun entry => !entry.isEmpty).foldl add filter)
        (rules ++ parts.filterMap rule?) := by
  induction parts with
  | nil =>
      intro filter rules hobeys
      rw [List.filterMap_nil, List.append_nil]
      exact hobeys
  | cons part rest ih =>
      intro filter rules hobeys
      by_cases hpart : trim part = []
      · have hrule : rule? part = none := by rw [rule?, hpart]
        rw [List.map_cons, List.filter_cons_of_neg (by simp [hpart]),
          List.filterMap_cons_none hrule]
        exact ih hobeys
      · have hrules : rules ++ (part :: rest).filterMap rule? =
            (rules ++ (rule? part).toList) ++ rest.filterMap rule? := by
          rw [List.append_assoc]
          cases hrule : rule? part with
          | none =>
              rw [List.filterMap_cons_none hrule, Option.toList_none, List.nil_append]
          | some rule =>
              rw [List.filterMap_cons_some hrule, Option.toList_some, List.singleton_append]
        rw [List.map_cons, List.filter_cons_of_pos (by simp [hpart]), List.foldl_cons, hrules]
        exact ih (obeys_add hobeys hpart)

theorem obeys_parse (text : String) : Obeys (parse text) (rules text) := by
  have hnone : Obeys allowAll [] := ⟨rfl, rfl⟩
  exact obeys_addAll (Text.splitOn ',' text.toList) hnone

/-!
# What a parsed filter keeps
-/

section

variable {filter : Filter} {rules : List (List Char)}

theorem any_accepts {patterns : List Pattern} {named? : List Char -> Option (List Char)}
    (hpatterns : patterns.map Pattern.small = (rules.filterMap named?).map Pattern.ofEntry)
    (type : List Char) :
    (patterns.any fun pattern => pattern.accepts type) = true <->
      exists rule entry, rule ∈ rules ∧ named? rule = some entry ∧ Names entry type := by
  have hsmall : (patterns.any fun pattern => pattern.accepts type) =
      (patterns.map Pattern.small).any fun pattern => pattern.accepts type := by
    rw [List.any_map]
    congr 1
    funext pattern
    exact (pattern.accepts_small type).symm
  rw [hsmall, hpatterns, List.any_map, List.any_eq_true]
  constructor
  · rintro ⟨entry, hentry, haccepts⟩
    rcases List.mem_filterMap.mp hentry with ⟨rule, hrule, hsome⟩
    exact ⟨rule, entry, hrule, hsome, accepts_ofEntry.mp haccepts⟩
  · rintro ⟨rule, entry, hrule, hsome, hnames⟩
    exact ⟨entry, List.mem_filterMap.mpr ⟨rule, hrule, hsome⟩, accepts_ofEntry.mpr hnames⟩

theorem patterns_eq_nil {patterns : List Pattern} {named? : List Char -> Option (List Char)}
    (hpatterns : patterns.map Pattern.small = (rules.filterMap named?).map Pattern.ofEntry) :
    patterns = [] <-> rules.filterMap named? = [] := by
  rw [← List.map_eq_nil_iff (f := Pattern.small), hpatterns, List.map_eq_nil_iff]

theorem Obeys.excluded (hobeys : Obeys filter rules) (type : List Char) :
    (filter.exclusions.any fun pattern => pattern.accepts type) = true <->
      exists entry, Excludes rules entry ∧ Names entry type := by
  rw [any_accepts hobeys.exclusions]
  constructor
  · rintro ⟨rule, entry, hrule, hentry, hnames⟩
    rw [excluded?_eq_some.mp hentry] at hrule
    exact ⟨entry, hrule, hnames⟩
  · rintro ⟨entry, hrule, hnames⟩
    exact ⟨_, entry, hrule, excluded?_eq_some.mpr rfl, hnames⟩

theorem Obeys.included (hobeys : Obeys filter rules) (type : List Char) :
    (filter.inclusions.any fun pattern => pattern.accepts type) = true <->
      exists entry, Includes rules entry ∧ Names entry type := by
  rw [any_accepts hobeys.inclusions]
  constructor
  · rintro ⟨rule, entry, hrule, hentry, hnames⟩
    rcases included?_eq_some.mp hentry with ⟨rfl, hhead⟩
    exact ⟨rule, ⟨hrule, hhead⟩, hnames⟩
  · rintro ⟨entry, ⟨hrule, hhead⟩, hnames⟩
    exact ⟨entry, entry, hrule, included?_eq_some.mpr ⟨rfl, hhead⟩, hnames⟩

theorem Obeys.unincluded (hobeys : Obeys filter rules) :
    filter.inclusions = [] <-> ¬ exists entry, Includes rules entry := by
  rw [patterns_eq_nil hobeys.inclusions, List.filterMap_eq_nil_iff]
  constructor
  · rintro hnone ⟨entry, hrule, hhead⟩
    have := hnone entry hrule
    rw [included?_eq_some.mpr ⟨rfl, hhead⟩] at this
    cases this
  · intro hnone rule hrule
    rw [Option.eq_none_iff_forall_ne_some]
    intro entry hentry
    rcases included?_eq_some.mp hentry with ⟨rfl, hhead⟩
    exact hnone ⟨rule, hrule, hhead⟩

theorem Obeys.allows (hobeys : Obeys filter rules) (type : String) :
    filter.allows type = true <-> Keeps rules type.toList := by
  rw [Filter.allows, Bool.and_eq_true, Bool.not_eq_true', Bool.or_eq_true, List.isEmpty_iff,
    hobeys.included, hobeys.unincluded, ← Bool.not_eq_true, hobeys.excluded]
  constructor
  · rintro ⟨hexcluded, hincluded⟩
    constructor
    · intro entry hentry hnames
      exact hexcluded ⟨entry, hentry, hnames⟩
    · intro hsome
      exact hincluded.resolve_left (not_not_intro hsome)
  · rintro ⟨hexcluded, hincluded⟩
    constructor
    · rintro ⟨entry, hentry, hnames⟩
      exact hexcluded entry hentry hnames
    · by_cases hsome : exists entry, Includes rules entry
      · exact Or.inr (hincluded hsome)
      · exact Or.inl hsome

theorem Obeys.isEmpty (hobeys : Obeys filter rules) :
    filter.isEmpty = true <-> rules = [] := by
  rw [Filter.isEmpty, Bool.and_eq_true, List.isEmpty_iff, List.isEmpty_iff,
    patterns_eq_nil hobeys.inclusions, patterns_eq_nil hobeys.exclusions,
    List.filterMap_eq_nil_iff, List.filterMap_eq_nil_iff]
  constructor
  · rintro ⟨hincluded, hexcluded⟩
    rw [List.eq_nil_iff_forall_not_mem]
    intro rule hrule
    by_cases hhead : rule.head? = some '-'
    · rcases List.head?_eq_some_iff.mp hhead with ⟨entry, hentry⟩
      have hnone := hexcluded rule hrule
      rw [excluded?_eq_some.mpr hentry] at hnone
      cases hnone
    · have hnone := hincluded rule hrule
      rw [included?_eq_some.mpr ⟨rfl, hhead⟩] at hnone
      cases hnone
  · rintro rfl
    exact ⟨fun _ hrule => absurd hrule List.not_mem_nil,
      fun _ hrule => absurd hrule List.not_mem_nil⟩

end

/-!
# Texts
-/

theorem allows_iff {text type : String} :
    (parse text).allows type = true <-> Keeps (rules text) type.toList :=
  (obeys_parse text).allows type

theorem allows_eq {text other type counterpart : String}
    (hsame : Keeps (rules text) type.toList <-> Keeps (rules other) counterpart.toList) :
    (parse text).allows type = (parse other).allows counterpart := by
  rw [Bool.eq_iff_iff, allows_iff, allows_iff]
  exact hsame

theorem keeps_excluding {rules : List (List Char)} {removed type : List Char} :
    Keeps (rules ++ ['-' :: removed]) type <-> Keeps rules type ∧ ¬ Names removed type := by
  have hincludes : forall entry, Includes (rules ++ ['-' :: removed]) entry <->
      Includes rules entry := by
    intro entry
    rw [Includes, List.mem_append, List.mem_singleton, Includes]
    constructor
    · rintro ⟨hrule | rfl, hhead⟩
      · exact ⟨hrule, hhead⟩
      · exact absurd rfl hhead
    · rintro ⟨hrule, hhead⟩
      exact ⟨Or.inl hrule, hhead⟩
  have hexcludes : forall entry, Excludes (rules ++ ['-' :: removed]) entry <->
      Excludes rules entry ∨ entry = removed := by
    intro entry
    rw [Excludes, List.mem_append, List.mem_singleton, List.cons.injEq, and_iff_right rfl,
      Excludes]
  constructor
  · rintro ⟨hexcluded, hincluded⟩
    simp only [hincludes] at hincluded
    refine ⟨⟨?_, hincluded⟩, hexcluded removed ((hexcludes removed).mpr (Or.inr rfl))⟩
    intro entry hentry
    exact hexcluded entry ((hexcludes entry).mpr (Or.inl hentry))
  · rintro ⟨⟨hexcluded, hincluded⟩, hremoved⟩
    simp only [← hincludes] at hincluded
    refine ⟨?_, hincluded⟩
    intro entry hentry
    rcases (hexcludes entry).mp hentry with hentry | rfl
    · exact hexcluded entry hentry
    · exact hremoved

theorem keeps_including {rules : List (List Char)} {added type : List Char}
    (hadded : added.head? ≠ some '-') (hsome : exists entry, Includes rules entry)
    (hkeeps : Keeps rules type) : Keeps (rules ++ [added]) type := by
  rcases hkeeps with ⟨hexcluded, hincluded⟩
  constructor
  · intro entry hentry
    rcases List.mem_append.mp hentry with hrule | hrule
    · exact hexcluded entry hrule
    · rw [← List.mem_singleton.mp hrule] at hadded
      exact absurd rfl hadded
  · intro _
    rcases hincluded hsome with ⟨entry, ⟨hrule, hhead⟩, hnames⟩
    exact ⟨entry, ⟨List.mem_append_left _ hrule, hhead⟩, hnames⟩

/--
A filter keeps what its rules keep, so texts with the same rules keep the same types,
whatever the case, the parameters and the surrounding blanks of these.  A further
exclusion removes just what it names, a further inclusion beside another removes
nothing, exclusions win, and the filter is empty just if there is no rule.
-/
theorem filter_keeps_by_rules (text : String) :
    (forall type, (parse text).allows type = true <-> Keeps (rules text) type.toList) ∧
    (forall other, (forall rule, rule ∈ rules text <-> rule ∈ rules other) ->
      forall type, (parse text).allows type = (parse other).allows type) ∧
    (forall type other : String, lowered type.toList = lowered other.toList ->
      (parse text).allows type = (parse text).allows other) ∧
    (forall before type after parameters : List Char, Blank before -> Blank after ->
      ';' ∉ type -> (parameters = [] ∨ exists more, parameters = ';' :: more) ->
        (parse text).allows (String.ofList (before ++ type ++ after ++ parameters)) =
          (parse text).allows (String.ofList type)) ∧
    (forall entry removed, rules entry = ['-' :: removed] -> forall type,
      (parse (text ++ "," ++ entry)).allows type = true <->
        (parse text).allows type = true ∧ ¬ Names removed type.toList) ∧
    (forall entry added, rules entry = [added] -> added.head? ≠ some '-' ->
      (exists included, Includes (rules text) included) -> forall type,
        (parse text).allows type = true ->
          (parse (text ++ "," ++ entry)).allows type = true) ∧
    (forall removed, Excludes (rules text) removed -> forall type, Names removed type.toList ->
      (parse text).allows type = false) ∧
    ((parse text).isEmpty = true <-> rules text = []) := by
  refine ⟨fun _ => allows_iff, ?_, ?_, ?_, ?_, ?_, ?_, (obeys_parse text).isEmpty⟩
  · intro other hsame type
    exact allows_eq (keeps_congr_rules hsame)
  · intro type other hsame
    apply allows_eq
    apply keeps_congr_type
    rw [← Pattern.essence_lowered, hsame, Pattern.essence_lowered]
  · intro before type after parameters hbefore hafter htype hparameters
    apply allows_eq
    apply keeps_congr_type
    rw [String.toList_ofList, String.toList_ofList,
      Pattern.essence_surrounded hbefore hafter htype hparameters]
  · intro entry removed hentry type
    rw [allows_iff, allows_iff, rules_append, hentry]
    exact keeps_excluding
  · intro entry added hentry hadded hsome type
    rw [allows_iff, allows_iff, rules_append, hentry]
    exact keeps_including hadded hsome
  · intro removed hexcludes type hnames
    rw [← Bool.not_eq_true, allows_iff]
    intro hkeeps
    exact hkeeps.notExcluded removed hexcludes hnames

theorem filter_keeps_by_rules_spaced :
    let text := " Audio ,- audio/X-AIFF , -"
    let other := "-audio/x-aiff,audio,,AUDIO"
    (forall rule, rule ∈ rules text <-> rule ∈ rules other) ∧
      (forall type, (parse text).allows type = (parse other).allows type) ∧
      (Blank [' '] ∧
        (parse text).allows
            (String.ofList ([' '] ++ "audio/ogg".toList ++ [' '] ++ ";rate=8".toList)) =
          (parse text).allows (String.ofList "audio/ogg".toList)) ∧
      (rules "--x" = ["--x".toList] ∧ (parse (text ++ "," ++ "--x")).allows "-x/y" = false) ∧
      (rules "video" = ["video".toList] ∧
        (parse (text ++ "," ++ "video")).allows "audio/ogg" = true) ∧
      (Excludes (rules text) "audio/x-aiff".toList ∧
        (parse text).allows "audio/x-aiff;q=1" = false) := by
  intro text other
  have htext : rules text = ["audio".toList, "-audio/x-aiff".toList] := by decide
  have hother : rules other = ["-audio/x-aiff".toList, "audio".toList, "audio".toList] := by
    decide
  have hsame : forall rule, rule ∈ rules text <-> rule ∈ rules other := by
    intro rule
    rw [htext, hother]
    simp only [List.mem_cons, List.not_mem_nil, or_false]
    rw [or_comm, or_self]
  have hblank : Blank [' '] := by
    intro c hc
    rw [List.mem_singleton.mp hc]
    rfl
  have haudio : Includes (rules text) "audio".toList := by
    rw [htext]
    exact ⟨List.mem_cons_self, by decide⟩
  have hremoved : Excludes (rules text) "audio/x-aiff".toList := by
    rw [htext]
    exact List.mem_cons_of_mem _ List.mem_cons_self
  rcases filter_keeps_by_rules text with
    ⟨_, halike, _, hsurrounded, hexcluding, hincluding, hwins, _⟩
  have hvideo : rules "video" = ["video".toList] := by decide
  have hdashes : rules "--x" = ["--x".toList] := by decide
  have hogg : (parse text).allows "audio/ogg" = true := by decide
  refine ⟨hsame, halike other hsame, ⟨hblank, ?_⟩, ⟨hdashes, ?_⟩, ⟨hvideo, ?_⟩, hremoved, ?_⟩
  · exact hsurrounded [' '] "audio/ogg".toList [' '] _ hblank hblank (by decide)
      (Or.inr ⟨_, rfl⟩)
  · rw [← Bool.not_eq_true, hexcluding "--x" "-x".toList hdashes]
    rintro ⟨_, hunnamed⟩
    exact hunnamed (by unfold Names; decide)
  · exact hincluding "video" _ hvideo (by decide) ⟨_, haudio⟩ _ hogg
  · exact hwins _ hremoved _ (by unfold Names; decide)

end Filter
end MediaType
end UpnpAv
