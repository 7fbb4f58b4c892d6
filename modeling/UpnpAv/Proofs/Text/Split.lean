import Mathlib.Data.List.TakeWhile
import UpnpAv.Text.Blank
import UpnpAv.Text.Split

/-!
# Texts put together and taken apart

A text that was put together from parts without the separator splits into these
parts, and trimming takes away just the blanks that were put around a text.
-/

namespace UpnpAv
namespace Text

/-!
# Splitting
-/

theorem splitOn_eq (separator : Char) (text : List Char) :
    splitOn separator text = text.splitOn separator := by
  induction text with
  | nil =>
      rw [splitOn_nil, List.splitOn_nil]
  | cons c rest ih =>
      rw [List.splitOn_cons_eq_if_modifyHead, ← ih, splitOn]
      by_cases hsame : c = separator
      · simp [hsame]
      · rw [if_neg hsame, if_neg (by simpa using hsame)]
        cases hparts : splitOn separator rest with
        | nil =>
            exact absurd hparts (splitOn_ne_nil separator rest)
        | cons first more =>
            rfl

theorem splitOn_of_not_mem {separator : Char} {text : List Char} (htext : separator ∉ text) :
    splitOn separator text = [text] := by
  rw [splitOn_eq, List.splitOn_eq_singleton htext]

theorem splitOn_append {separator : Char} {part : List Char} (hpart : separator ∉ part)
    (rest : List Char) :
    splitOn separator (part ++ separator :: rest) = part :: splitOn separator rest := by
  rw [splitOn_eq, splitOn_eq, List.splitOn_append_cons_self_of_not_mem hpart]

/-- A separator in between parts the pieces before it from those after it. -/
theorem splitOn_append_cons (separator : Char) (first second : List Char) :
    splitOn separator (first ++ separator :: second) =
      splitOn separator first ++ splitOn separator second := by
  induction first with
  | nil =>
      exact splitOn_cons_self separator second
  | cons c rest ih =>
      by_cases hsame : c = separator
      · rw [hsame, List.cons_append, splitOn_cons_self, ih, splitOn_cons_self, List.cons_append]
      · rw [List.cons_append, splitOn, if_neg hsame, ih, splitOn, if_neg hsame]
        cases hparts : splitOn separator rest with
        | nil =>
            exact absurd hparts (splitOn_ne_nil separator rest)
        | cons part more =>
            rfl

theorem join_eq (separator : List Char) (parts : List (List Char)) :
    join separator parts = separator.intercalate parts := by
  induction parts with
  | nil =>
      rfl
  | cons part rest ih =>
      cases rest with
      | nil =>
          exact List.intercalate_singleton.symm
      | cons next more =>
          rw [join, ih, List.intercalate_cons_cons]
          exact fun hnil => List.cons_ne_nil next more hnil

theorem join_eq_nil {separator : List Char} {parts : List (List Char)}
    (hparts : forall part, part ∈ parts -> part ≠ []) : join separator parts = [] <-> parts = [] := by
  cases parts with
  | nil =>
      exact iff_of_true rfl rfl
  | cons part rest =>
      apply iff_of_false _ (List.cons_ne_nil part rest)
      cases rest with
      | nil =>
          exact hparts part List.mem_cons_self
      | cons next more =>
          rw [join, List.append_assoc]
          · exact List.append_ne_nil_of_left_ne_nil (hparts part List.mem_cons_self) _
          · exact fun hnil => List.cons_ne_nil next more hnil

/-- Splitting undoes joining. -/
theorem splitOn_join {separator : Char} {parts : List (List Char)} (hparts : parts ≠ [])
    (hfree : forall part, part ∈ parts -> separator ∉ part) :
    splitOn separator (join [separator] parts) = parts := by
  rw [splitOn_eq, join_eq, List.splitOn_intercalate separator hfree hparts]

theorem upTo_append {separator : Char} {part : List Char} (hpart : separator ∉ part)
    (rest : List Char) : upTo separator (part ++ rest) = part ++ upTo separator rest := by
  rw [upTo, List.takeWhile_append_of_pos, upTo]
  intro c hc
  simp only [decide_eq_true_eq]
  rintro rfl
  exact hpart hc

theorem upTo_of_not_mem {separator : Char} {text : List Char} (htext : separator ∉ text) :
    upTo separator text = text := by
  simpa [upTo] using upTo_append htext []

theorem splitOnce?_of_not_mem {separator : Char} {text : List Char}
    (htext : separator ∉ text) : splitOnce? separator text = none := by
  have hdropped : text.dropWhile (· ≠ separator) = [] := by
    rw [List.dropWhile_eq_nil_iff]
    intro c hc
    simp only [decide_eq_true_eq]
    rintro rfl
    exact htext hc
  rw [splitOnce?, hdropped]

theorem splitOnce?_append {separator : Char} {part : List Char} (hpart : separator ∉ part)
    (rest : List Char) :
    splitOnce? separator (part ++ separator :: rest) = some (part, rest) := by
  have hother : forall c, c ∈ part -> decide (c ≠ separator) = true := by
    intro c hc
    simp only [decide_eq_true_eq]
    rintro rfl
    exact hpart hc
  rw [splitOnce?, List.dropWhile_append_of_pos hother, List.dropWhile_cons_of_neg (by simp),
    upTo, List.takeWhile_append_of_pos hother, List.takeWhile_cons_of_neg (by simp),
    List.append_nil]

/-- Texts before a separator that neither of them holds split uniquely. -/
theorem append_cons_inj {separator : Char} {part other rest more : List Char}
    (hpart : separator ∉ part) (hother : separator ∉ other)
    (hsame : part ++ separator :: rest = other ++ separator :: more) :
    part = other ∧ rest = more := by
  have hsplit := congrArg (splitOnce? separator) hsame
  rw [splitOnce?_append hpart, splitOnce?_append hother] at hsplit
  exact Prod.mk.inj (Option.some.inj hsplit)

theorem eq_of_splitOnce? {separator : Char} {text part rest : List Char}
    (hsplit : splitOnce? separator text = some (part, rest)) :
    text = part ++ separator :: rest := by
  rw [splitOnce?] at hsplit
  cases hdropped : text.dropWhile (· ≠ separator) with
  | nil =>
      rw [hdropped] at hsplit
      cases hsplit
  | cons c after =>
      have hseparator : c = separator := by
        have hhead := List.head?_dropWhile_not (· ≠ separator) text
        rw [hdropped] at hhead
        simpa using hhead
      rw [hdropped, hseparator] at hsplit
      cases hsplit
      rw [upTo, ← hseparator, ← hdropped, hseparator, List.takeWhile_append_dropWhile]

/-!
# Trimming
-/

/-- A text that consists of blanks, if it consists of anything. -/
def Blank (text : List Char) : Prop :=
  forall c, c ∈ text -> isBlank c = true

theorem dropWhile_blank {before : List Char} (hbefore : Blank before) {text : List Char}
    (hfirst : forall c, text.head? = some c -> isBlank c = false) :
    (before ++ text).dropWhile isBlank = text := by
  rw [List.dropWhile_append_of_pos hbefore]
  cases text with
  | nil =>
      rfl
  | cons c rest =>
      rw [List.dropWhile_cons_of_neg]
      rw [hfirst c rfl]
      exact Bool.false_ne_true

theorem trimRight_append {text after : List Char} (hafter : Blank after)
    (hlast : forall c, text.getLast? = some c -> isBlank c = false) :
    trimRight (text ++ after) = text := by
  have hblank : Blank after.reverse := by
    intro c hc
    exact hafter c (List.mem_reverse.mp hc)
  rw [trimRight, List.reverse_append, dropWhile_blank hblank, List.reverse_reverse]
  rw [List.head?_reverse]
  exact hlast

theorem trim_append {before text after : List Char} (hbefore : Blank before)
    (hafter : Blank after) (hfirst : forall c, text.head? = some c -> isBlank c = false)
    (hlast : forall c, text.getLast? = some c -> isBlank c = false) :
    trim (before ++ text ++ after) = text := by
  rw [trim]
  cases text with
  | nil =>
      have hnothing : (before ++ [] ++ after).dropWhile isBlank = [] := by
        rw [List.dropWhile_eq_nil_iff]
        intro c hc
        rw [List.append_nil] at hc
        exact (List.mem_append.mp hc).elim (hbefore c) (hafter c)
      rw [hnothing]
      rfl
  | cons c rest =>
      rw [List.append_assoc, dropWhile_blank hbefore, trimRight_append hafter hlast]
      exact hfirst

theorem exists_trim (text : List Char) :
    exists before after, Blank before ∧ Blank after ∧ text = before ++ trim text ++ after := by
  let started := text.dropWhile isBlank
  refine ⟨text.takeWhile isBlank, (started.reverse.takeWhile isBlank).reverse, ?_, ?_, ?_⟩
  · intro c hc
    exact List.mem_takeWhile_imp hc
  · intro c hc
    exact List.mem_takeWhile_imp (List.mem_reverse.mp hc)
  · rw [trim, trimRight, List.append_assoc, ← List.reverse_append,
      List.takeWhile_append_dropWhile, List.reverse_reverse, List.takeWhile_append_dropWhile]

theorem isBlank_of_head?_dropWhile {text : List Char} {c : Char}
    (hc : (text.dropWhile isBlank).head? = some c) : isBlank c = false := by
  have hhead := List.head?_dropWhile_not isBlank text
  rw [hc] at hhead
  exact hhead

theorem isBlank_of_getLast?_trim {text : List Char} {c : Char}
    (hc : (trim text).getLast? = some c) : isBlank c = false := by
  rw [trim, trimRight, List.getLast?_reverse] at hc
  exact isBlank_of_head?_dropWhile hc

theorem isBlank_of_head?_trim {text : List Char} {c : Char}
    (hc : (trim text).head? = some c) : isBlank c = false := by
  -- what trimming on the right leaves begins as the text did
  have hstarts : trim text <+: text.dropWhile isBlank := by
    rw [trim, trimRight]
    exact List.reverse_suffix.mp (by simpa using List.dropWhile_suffix isBlank)
  rcases hstarts with ⟨after, hafter⟩
  apply isBlank_of_head?_dropWhile
  rw [← hafter, List.head?_append, hc]
  rfl

/-- Blanks around a text do not show once it is trimmed. -/
theorem trim_surrounded {before after : List Char} (hbefore : Blank before)
    (hafter : Blank after) (text : List Char) : trim (before ++ text ++ after) = trim text := by
  rcases exists_trim text with ⟨first, last, hfirst, hlast, htext⟩
  have hbefores : Blank (before ++ first) := by
    intro c hc
    exact (List.mem_append.mp hc).elim (hbefore c) (hfirst c)
  have hafters : Blank (last ++ after) := by
    intro c hc
    exact (List.mem_append.mp hc).elim (hlast c) (hafter c)
  have hwhole : before ++ text ++ after = (before ++ first) ++ trim text ++ (last ++ after) := by
    conv => lhs; rw [htext]
    simp only [List.append_assoc]
  rw [hwhole]
  exact trim_append hbefores hafters (fun _ => isBlank_of_head?_trim)
    (fun _ => isBlank_of_getLast?_trim)

theorem trim_eq_self {text : List Char}
    (hfirst : forall c, text.head? = some c -> isBlank c = false)
    (hlast : forall c, text.getLast? = some c -> isBlank c = false) : trim text = text := by
  have hnone : Blank [] := fun c hc => absurd hc List.not_mem_nil
  simpa using trim_append hnone hnone hfirst hlast

theorem trim_trim (text : List Char) : trim (trim text) = trim text :=
  trim_eq_self (fun _ => isBlank_of_head?_trim) (fun _ => isBlank_of_getLast?_trim)

theorem mem_trim {c : Char} (hc : isBlank c = false) {text : List Char} :
    c ∈ trim text <-> c ∈ text := by
  rcases exists_trim text with ⟨before, after, hbefore, hafter, htext⟩
  have hother : forall {blanks : List Char}, Blank blanks -> c ∉ blanks := by
    intro blanks hblanks hmem
    rw [hblanks c hmem] at hc
    cases hc
  conv => rhs; rw [htext]
  simp [hother hbefore, hother hafter]

/-- A text that begins with no blank begins with the same character once it is trimmed. -/
theorem head?_trim {c : Char} (hc : isBlank c = false) (rest : List Char) :
    (trim (c :: rest)).head? = some c := by
  have hstart : (c :: rest).dropWhile isBlank = c :: rest :=
    List.dropWhile_cons_of_neg (by rw [hc]; exact Bool.false_ne_true)
  rw [trim, hstart, trimRight, List.head?_reverse, List.reverse_cons, List.dropWhile_append]
  split
  · rw [List.dropWhile_cons_of_neg (by rw [hc]; exact Bool.false_ne_true), List.getLast?_singleton]
  · rw [List.getLast?_concat]

end Text
end UpnpAv
