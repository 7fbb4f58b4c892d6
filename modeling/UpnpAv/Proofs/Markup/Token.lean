import Mathlib.Data.List.Forall2
import UpnpAv.Markup.Token

/-!
# Scanning tags that are written out

A tag whose quotes are balanced is cut at its closing bracket, and the scan of
a text that begins with a tag is this tag followed by the scan of the rest.
-/

namespace UpnpAv
namespace Markup

/-!
# Cutting
-/

/-- A text is cut where the step, folded over what stands before, stops. -/
theorem cutBy_append {σ : Type} {step : σ -> Char -> Option σ} {c : Char}
    {rest : List Char} :
    forall {before : List Char} {s t : σ},
      before.foldlM step s = some t -> step t c = none ->
        cutBy step s (before ++ c :: rest) = some (before, rest) := by
  intro before
  induction before with
  | nil =>
      intro s t hfold hstop
      have hst : s = t := by simpa using hfold
      subst hst
      simp [cutBy, hstop]
  | cons d before ih =>
      intro s t hfold hstop
      rw [List.foldlM_cons] at hfold
      cases hstep : step s d with
      | none =>
          rw [hstep] at hfold
          cases hfold
      | some next =>
          rw [hstep] at hfold
          simp [cutBy, hstep, ih hfold hstop]

/-- A text in which the step does not stop is not cut. -/
theorem cutBy_eq_none {σ : Type} {step : σ -> Char -> Option σ} {text : List Char} :
    forall {s t : σ}, text.foldlM step s = some t -> cutBy step s text = none := by
  induction text with
  | nil =>
      intro s t _
      rfl
  | cons c rest ih =>
      intro s t hfold
      rw [List.foldlM_cons] at hfold
      cases hstep : step s c with
      | none =>
          rw [hstep] at hfold
          cases hfold
      | some next =>
          rw [hstep] at hfold
          simp [cutBy, hstep, ih hfold]

theorem foldlM_other {stop : Char} {text : List Char} (htext : stop ∉ text) :
    text.foldlM (fun () c => if c = stop then none else some ()) () = some () := by
  induction text with
  | nil =>
      rfl
  | cons d text ih =>
      rw [List.mem_cons, not_or] at htext
      rw [List.foldlM_cons, if_neg (Ne.symm htext.1)]
      exact ih htext.2

theorem cutAt_append {stop : Char} {before rest : List Char} (hbefore : stop ∉ before) :
    cutAt stop (before ++ stop :: rest) = some (before, rest) :=
  cutBy_append (foldlM_other hbefore) (if_pos rfl)

theorem cutAt_eq_none {stop : Char} {text : List Char} (htext : stop ∉ text) :
    cutAt stop text = none :=
  cutBy_eq_none (foldlM_other htext)

/-!
# Quotes inside a tag
-/

/-- A text that neither closes a tag nor begins a quoted value. -/
def IsPlain (text : List Char) : Prop :=
  forall c, c ∈ text -> c ∉ ['>', '"', '\'']

instance (text : List Char) : Decidable (IsPlain text) :=
  List.decidableBAll (fun c => c ∉ ['>', '"', '\'']) text

theorem isPlain_append {first second : List Char} (hfirst : IsPlain first)
    (hsecond : IsPlain second) : IsPlain (first ++ second) := by
  intro c hc
  rcases List.mem_append.mp hc with hmem | hmem
  · exact hfirst c hmem
  · exact hsecond c hmem

theorem foldlM_tagStep_plain {text : List Char} (hplain : IsPlain text) :
    text.foldlM tagStep none = some none := by
  induction text with
  | nil =>
      rfl
  | cons c text ih =>
      have hc := hplain c List.mem_cons_self
      simp only [List.mem_cons, List.not_mem_nil, or_false, not_or] at hc
      rw [List.foldlM_cons, tagStep, if_neg hc.1, if_neg (by simp [hc.2.1, hc.2.2])]
      exact ih fun d hd => hplain d (List.mem_cons_of_mem c hd)

theorem foldlM_tagStep_quoted {quote : Char} {text : List Char} (hquote : quote ∉ text) :
    text.foldlM tagStep (some quote) = some (some quote) := by
  induction text with
  | nil =>
      rfl
  | cons c text ih =>
      rw [List.mem_cons, not_or] at hquote
      rw [List.foldlM_cons, tagStep, if_neg (Ne.symm hquote.1)]
      exact ih hquote.2

/-- A plain text, a quoted value and another plain text leave no quote open. -/
theorem foldlM_tagStep_assigned (before value after : List Char)
    (hbefore : IsPlain before) (hvalue : '"' ∉ value) (hafter : IsPlain after) :
    (before ++ '"' :: (value ++ '"' :: after)).foldlM tagStep none = some none := by
  rw [List.foldlM_append, foldlM_tagStep_plain hbefore]
  show ('"' :: (value ++ '"' :: after)).foldlM tagStep none = some none
  rw [List.foldlM_cons]
  show (value ++ '"' :: after).foldlM tagStep (some '"') = some none
  rw [List.foldlM_append, foldlM_tagStep_quoted hvalue]
  show ('"' :: after).foldlM tagStep (some '"') = some none
  rw [List.foldlM_cons]
  exact foldlM_tagStep_plain hafter

/-!
# One construct
-/

/-- The characters that make something else than a start tag of what follows a bracket. -/
def isMarker (c : Char) : Bool :=
  c == '!' || c == '/' || c == '?'

/-- Whether a text can stand in a start tag. -/
def startsElement : List Char -> Bool
  | [] => false
  | first :: _ => !isMarker first

theorem startsElement_append {first : List Char} (hfirst : startsElement first = true)
    (second : List Char) : startsElement (first ++ second) = true := by
  cases first with
  | nil =>
      cases hfirst
  | cons c first =>
      exact hfirst

theorem readConstruct_unmarked {first : Char} (hfirst : isMarker first = false)
    (more : List Char) :
    readConstruct (first :: more) =
      match cutBy tagStep none (first :: more) with
      | none => .error (.unfinished .element)
      | some (content, rest) => .ok (some (elementToken content), rest) := by
  simp only [isMarker, Bool.or_eq_false_iff, beq_eq_false_iff_ne] at hfirst
  unfold readConstruct
  split
  · rename_i heq
    exact absurd (List.cons.inj heq).1 hfirst.1.1
  · rename_i heq
    exact absurd (List.cons.inj heq).1 hfirst.1.1
  · rename_i heq
    exact absurd (List.cons.inj heq).1 hfirst.1.2
  · rename_i heq
    exact absurd (List.cons.inj heq).1 hfirst.2
  · rfl

theorem readConstruct_element {content rest : List Char}
    (hstart : startsElement content = true)
    (hquotes : content.foldlM tagStep none = some none) :
    readConstruct (content ++ '>' :: rest) =
      .ok (some (elementToken content), rest) := by
  have hcut : cutBy tagStep none (content ++ '>' :: rest) = some (content, rest) :=
    cutBy_append hquotes rfl
  cases content with
  | nil =>
      cases hstart
  | cons first more =>
      have hfirst : isMarker first = false := by simpa [startsElement] using hstart
      rw [List.cons_append] at hcut ⊢
      rw [readConstruct_unmarked hfirst, hcut]

theorem readConstruct_closing {name rest : List Char} (hname : '>' ∉ name) :
    readConstruct ('/' :: (name ++ '>' :: rest)) = .ok (some (.closing name), rest) := by
  simp [readConstruct, cutAt_append hname]

/-!
# The scan
-/

@[simp] theorem scan_nil : scan [] = ([], none) := by
  rw [scan]
  rfl

/-- A text in which nothing begins has no tags. -/
theorem scan_bare {text : List Char} (hbare : (text.dropWhile (· ≠ '<')).length ≤ 1) :
    scan text = ([], none) := by
  rw [scan]
  split
  · rfl
  · rfl
  · rename_i heq
    rw [heq] at hbare
    simp at hbare

/-- The scan of a text whose first construct is read. -/
theorem scan_started {text after rest : List Char} {start next : Char} {token : Option Token}
    (hstart : text.dropWhile (· ≠ '<') = start :: next :: after)
    (hread : readConstruct (next :: after) = .ok (token, rest)) :
    scan text = (token.toList ++ (scan rest).1, (scan rest).2) := by
  rw [scan]
  split
  · rename_i heq
    rw [hstart] at heq
    cases heq
  · rename_i heq
    rw [hstart] at heq
    cases heq
  · rename_i heq
    rw [hstart] at heq
    cases heq
    split
    · rename_i hfail
      rw [hread] at hfail
      cases hfail
    · rename_i hok
      rw [hread] at hok
      cases hok
      rfl

/-- The scan of a text that breaks off in its first construct. -/
theorem scan_broken {text after : List Char} {start next : Char} {e : Error}
    (hstart : text.dropWhile (· ≠ '<') = start :: next :: after)
    (hread : readConstruct (next :: after) = .error e) : scan text = ([], some e) := by
  rw [scan]
  split
  · rename_i heq
    rw [hstart] at heq
    cases heq
  · rename_i heq
    rw [hstart] at heq
    cases heq
  · rename_i heq
    rw [hstart] at heq
    cases heq
    split
    · rename_i hfail
      rw [hread] at hfail
      cases hfail
      rfl
    · rename_i hok
      rw [hread] at hok
      cases hok

/-- The scan of a text that begins with a construct. -/
theorem scan_construct {next : Char} {after rest : List Char} {token : Option Token}
    (hread : readConstruct (next :: after) = .ok (token, rest)) :
    scan ('<' :: next :: after) =
      (token.toList ++ (scan rest).1, (scan rest).2) :=
  scan_started rfl hread

theorem scan_element {content rest : List Char} (hstart : startsElement content = true)
    (hquotes : content.foldlM tagStep none = some none) :
    scan ('<' :: (content ++ '>' :: rest)) =
      (elementToken content :: (scan rest).1, (scan rest).2) := by
  have hread : readConstruct (content ++ '>' :: rest) = _ :=
    readConstruct_element hstart hquotes
  cases content with
  | nil =>
      cases hstart
  | cons first more =>
      exact scan_construct hread

theorem scan_closing {name rest : List Char} (hname : '>' ∉ name) :
    scan ('<' :: '/' :: (name ++ '>' :: rest)) =
      (.closing name :: (scan rest).1, (scan rest).2) :=
  scan_construct (readConstruct_closing hname)

/-!
# Tags that are written out
-/

/-- How a tag is written. -/
inductive Writes : List Char -> Token -> Prop where
  | element {content : List Char} : startsElement content = true ->
      content.foldlM tagStep none = some none ->
        Writes ('<' :: (content ++ ['>'])) (elementToken content)
  | closing {name : List Char} : '>' ∉ name ->
      Writes ('<' :: '/' :: (name ++ ['>'])) (.closing name)

theorem Writes.scan {text : List Char} {token : Token} (hwrites : Writes text token)
    (rest : List Char) :
    Markup.scan (text ++ rest) =
      (token :: (Markup.scan rest).1, (Markup.scan rest).2) := by
  cases hwrites with
  | element hstart hquotes =>
      rw [List.cons_append, List.append_assoc]
      exact scan_element hstart hquotes
  | closing hname =>
      rw [List.cons_append, List.cons_append, List.append_assoc]
      exact scan_closing hname

/-- Written tags are scanned one after the other. -/
theorem scan_flatten {texts : List (List Char)} {tokens : List Token}
    (hwrites : List.Forall₂ Writes texts tokens) (rest : List Char) :
    scan (texts.flatten ++ rest) = (tokens ++ (scan rest).1, (scan rest).2) := by
  induction hwrites with
  | nil =>
      rfl
  | cons hfirst _ ih =>
      rw [List.flatten_cons, List.append_assoc, hfirst.scan, ih]
      rfl

/-!
# Inside a tag
-/

theorem localName_eq_self {name : List Char} (hname : ':' ∉ name) : localName name = name := by
  rw [localName, cutAt_eq_none hname]

theorem tagName_append {name rest : List Char} (hname : forall c, c ∈ name -> isSpace c = false) :
    tagName (name ++ ' ' :: rest) = name := by
  rw [tagName, List.takeWhile_append_of_pos (by simpa using hname)]
  simp [List.takeWhile, isSpace]

theorem tagAttributes_append {name rest : List Char}
    (hname : forall c, c ∈ name -> isSpace c = false) :
    tagAttributes (name ++ ' ' :: rest) = ' ' :: rest := by
  rw [tagAttributes, List.dropWhile_append_of_pos (by simpa using hname)]
  simp [List.dropWhile, isSpace]

theorem nextAttribute_only (total : Nat) {first : Char} {more value : List Char}
    (hfirst : isSpace first = false) (hmore : forall c, c ∈ more -> isKeyChar c = true)
    (hvalue : '"' ∉ value) :
    nextAttribute total (' ' :: first :: (more ++ '=' :: '"' :: (value ++ ['"']))) =
      .ok (some (⟨first :: more, value⟩, [])) := by
  have hstart :
      (' ' :: first :: (more ++ '=' :: '"' :: (value ++ ['"']))).dropWhile isSpace =
        first :: (more ++ '=' :: '"' :: (value ++ ['"'])) := by
    rw [List.dropWhile_cons_of_pos (by decide), List.dropWhile_cons_of_neg (by simp [hfirst])]
  have hequals :
      ((more ++ '=' :: '"' :: (value ++ ['"'])).dropWhile isKeyChar).dropWhile isSpace =
        '=' :: '"' :: (value ++ ['"']) := by
    rw [List.dropWhile_append_of_pos hmore, List.dropWhile_cons_of_neg (by decide),
      List.dropWhile_cons_of_neg (by decide)]
  have hquote : ('"' :: (value ++ ['"'])).dropWhile isSpace = '"' :: (value ++ ['"']) := by
    rw [List.dropWhile_cons_of_neg (by decide)]
  have hkey : (more ++ '=' :: '"' :: (value ++ ['"'])).takeWhile isKeyChar = more := by
    rw [List.takeWhile_append_of_pos hmore, List.takeWhile_cons_of_neg (by decide),
      List.append_nil]
  simp only [nextAttribute, hstart, hequals, hquote, hkey, true_or, if_true,
    cutAt_append hvalue]

/-- The only attribute of a tag is found by its key. -/
theorem findAttribute_only (total : Nat) {first : Char} {more value : List Char}
    (hfirst : isSpace first = false) (hmore : forall c, c ∈ more -> isKeyChar c = true)
    (hvalue : '"' ∉ value) :
    findAttribute total (first :: more)
        (' ' :: first :: (more ++ '=' :: '"' :: (value ++ ['"']))) =
      .ok (some value) := by
  have hnext := nextAttribute_only total hfirst hmore hvalue
  rw [findAttribute]
  split
  · rename_i heq
    rw [hnext] at heq
    cases heq
  · rename_i heq
    rw [hnext] at heq
    cases heq
  · rename_i heq
    rw [hnext] at heq
    cases heq
    exact if_pos rfl

end Markup
end UpnpAv
