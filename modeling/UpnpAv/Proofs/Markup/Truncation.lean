import UpnpAv.Proofs.Markup.Token

/-!
# Texts that end too early

What stands in an initial part of a text is cut in the same way in the whole text.
Only an end tag or a processing instruction may go on where the part ends.
-/

namespace UpnpAv
namespace Markup

/-!
# Going on after the end
-/

theorem cutBy_append_right {σ : Type} {step : σ -> Char -> Option σ} (more : List Char)
    {text : List Char} :
    forall {s : σ} {before after : List Char}, cutBy step s text = some (before, after) ->
      cutBy step s (text ++ more) = some (before, after ++ more) := by
  induction text with
  | nil =>
      intro s before after hcut
      cases hcut
  | cons c rest ih =>
      intro s before after hcut
      rw [cutBy] at hcut
      rw [List.cons_append, cutBy]
      cases hstep : step s c with
      | none =>
          rw [hstep] at hcut
          cases hcut
          rfl
      | some next =>
          rw [hstep] at hcut
          rcases Option.map_eq_some_iff.mp hcut with ⟨⟨first, last⟩, hrest, hsame⟩
          cases hsame
          simp only [ih hrest, Option.map_some]

theorem cutAt_append_right {stop : Char} {text before after : List Char} (more : List Char)
    (hcut : cutAt stop text = some (before, after)) :
    cutAt stop (text ++ more) = some (before, after ++ more) :=
  cutBy_append_right more hcut

theorem skipBang_append {symbol : Char} {text rest : List Char} (more : List Char)
    (hskip : skipBang symbol text = .ok rest) :
    skipBang symbol (text ++ more) = .ok (rest ++ more) := by
  unfold skipBang at hskip ⊢
  cases hrule : bangRule symbol with
  | none =>
      simp [hrule] at hskip
  | some rule =>
      rcases rule with ⟨construct, keyword, test⟩
      cases hcut : cutBy (closedWhen test) [] text with
      | none =>
          simp [hrule, hcut] at hskip
      | some parts =>
          simp only [hrule, hcut] at hskip
          simp only [cutBy_append_right more hcut]
          split at hskip
          · cases hskip
          · rename_i hkeyword
            split at hskip
            · cases hskip
            · rename_i hempty
              cases hskip
              rw [if_neg hkeyword, if_neg hempty]

theorem readConstruct_bang_append {symbol : Char} {tail rest : List Char}
    {token : Option Token} (more : List Char)
    (hread : readConstruct ('!' :: symbol :: tail) = .ok (token, rest)) :
    readConstruct ('!' :: symbol :: (tail ++ more)) = .ok (token, rest ++ more) := by
  simp only [readConstruct] at hread ⊢
  cases hskip : skipBang symbol ('!' :: symbol :: tail) with
  | error e =>
      rw [hskip] at hread
      cases hread
  | ok after =>
      rw [hskip] at hread
      cases hread
      have hlonger := skipBang_append more hskip
      rw [List.cons_append, List.cons_append] at hlonger
      rw [hlonger]
      rfl

theorem readConstruct_unmarked_append {first : Char} (hfirst : isMarker first = false)
    {tail rest : List Char} {token : Option Token} (more : List Char)
    (hread : readConstruct (first :: tail) = .ok (token, rest)) :
    readConstruct (first :: (tail ++ more)) = .ok (token, rest ++ more) := by
  rw [readConstruct_unmarked hfirst] at hread ⊢
  cases hcut : cutBy tagStep none (first :: tail) with
  | none =>
      rw [hcut] at hread
      cases hread
  | some parts =>
      have hlonger := cutBy_append_right more hcut
      rw [List.cons_append] at hlonger
      rw [hcut] at hread
      cases hread
      rw [hlonger]

/-- What is read of a construct that the end of the text cuts off. -/
structure Unfinished (token : Option Token) (rest : List Char) : Prop where
  ending : rest = []
  closing : forall tag, tag ∈ token -> exists name, tag = .closing name

theorem readConstruct_closing_append {tail rest : List Char} {token : Option Token}
    (more : List Char) (hread : readConstruct ('/' :: tail) = .ok (token, rest)) :
    readConstruct ('/' :: (tail ++ more)) = .ok (token, rest ++ more) ∨
      Unfinished token rest := by
  simp only [readConstruct] at hread ⊢
  cases hcut : cutAt '>' tail with
  | none =>
      right
      rw [hcut] at hread
      cases hread
      exact ⟨rfl, by simp⟩
  | some parts =>
      left
      rw [hcut] at hread
      cases hread
      rw [cutAt_append_right more hcut]
      rfl

theorem readConstruct_instruction_append {tail rest : List Char} {token : Option Token}
    (more : List Char) (hread : readConstruct ('?' :: tail) = .ok (token, rest)) :
    readConstruct ('?' :: (tail ++ more)) = .ok (token, rest ++ more) ∨
      Unfinished token rest := by
  simp only [readConstruct] at hread ⊢
  cases hcut : cutAt '>' ('?' :: tail) with
  | none =>
      right
      rw [hcut] at hread
      split at hread
      · cases hread
        exact ⟨rfl, by simp⟩
      · cases hread
  | some parts =>
      left
      have hlonger := cutAt_append_right more hcut
      rw [List.cons_append] at hlonger
      rw [hcut] at hread
      rw [hlonger]
      simp only [Option.getD_some] at hread ⊢
      split at hread
      · rename_i hclosed
        cases hread
        rw [if_pos hclosed]
      · cases hread

/-- A construct is read in the same way in a longer text, unless the end cut it off. -/
theorem readConstruct_append {text rest : List Char} {token : Option Token} (more : List Char)
    (hread : readConstruct text = .ok (token, rest)) :
    readConstruct (text ++ more) = .ok (token, rest ++ more) ∨ Unfinished token rest := by
  cases text with
  | nil =>
      cases hread
  | cons first tail =>
      cases hmarker : isMarker first with
      | false =>
          exact .inl (readConstruct_unmarked_append hmarker more hread)
      | true =>
          simp only [isMarker, Bool.or_eq_true, beq_iff_eq] at hmarker
          rcases hmarker with (rfl | rfl) | rfl
          · cases tail with
            | nil =>
                cases hread
            | cons symbol tail =>
                exact .inl (readConstruct_bang_append more hread)
          · exact readConstruct_closing_append more hread
          · exact readConstruct_instruction_append more hread

/--
The tags of a text that does not break off are the first ones of any longer
text, but for an end tag that the end of the text cut off.
-/
theorem scan_append (more : List Char) {text : List Char} (hwhole : (scan text).2 = none) :
    exists kept unfinished later,
      (scan text).1 = kept ++ unfinished ∧ (scan (text ++ more)).1 = kept ++ later ∧
        forall tag, tag ∈ unfinished -> exists name, tag = .closing name := by
  induction text using scan.induct with
  | case1 text hstart =>
      rw [scan_bare (by rw [hstart]; exact Nat.zero_le 1)]
      exact ⟨[], [], _, rfl, rfl, by simp⟩
  | case2 text start hstart =>
      rw [scan_bare (by rw [hstart]; exact Nat.le_refl 1)]
      exact ⟨[], [], _, rfl, rfl, by simp⟩
  | case3 text start next after hstart e hread =>
      rw [scan_broken hstart hread] at hwhole
      cases hwhole
  | case4 text start next after hstart token rest hread _ _ _ ih =>
      rw [scan_started hstart hread] at hwhole ⊢
      rcases readConstruct_append more hread with hlonger | hunfinished
      · rcases ih hwhole with ⟨kept, unfinished, later, hkept, hlater, hclosing⟩
        have hmore : (text ++ more).dropWhile (· ≠ '<') = start :: next :: (after ++ more) := by
          rw [List.dropWhile_append, hstart]
          rfl
        refine ⟨token.toList ++ kept, unfinished, later, ?_, ?_, hclosing⟩
        · rw [hkept, List.append_assoc]
        · rw [scan_started hmore hlonger, hlater, List.append_assoc]
      · refine ⟨[], token.toList, _, ?_, rfl, ?_⟩
        · rw [hunfinished.ending, scan_nil]
          exact List.append_nil _
        · intro tag htag
          exact hunfinished.closing tag (Option.mem_toList.mp htag)

/-!
# Written tags that are cut off
-/

theorem Writes.closing_inv {name : List Char} {token : Token}
    (hwrites : Writes ('<' :: '/' :: (name ++ ['>'])) token) :
    token = .closing name ∧ '>' ∉ name := by
  generalize htext : '<' :: '/' :: (name ++ ['>']) = text at hwrites
  cases hwrites with
  | @element content hstart _ =>
      cases content with
      | nil =>
          cases hstart
      | cons first more =>
          have hfirst : '/' = first := (List.cons.inj (List.cons.inj htext).2).1
          subst hfirst
          cases hstart
  | closing hname =>
      have hsame := List.append_cancel_right (List.cons.inj (List.cons.inj htext).2).2
      subst hsame
      exact ⟨rfl, hname⟩

/-- The content of a start tag is not read as long as its bracket is missing. -/
theorem scan_unclosed {content : List Char} (hstart : startsElement content = true)
    {quote : Option Char} (hquotes : content.foldlM tagStep none = some quote) :
    scan ('<' :: content) = ([], some (.unfinished .element)) := by
  cases content with
  | nil =>
      cases hstart
  | cons first more =>
      have hfirst : isMarker first = false := by simpa [startsElement] using hstart
      apply scan_broken rfl
      rw [readConstruct_unmarked hfirst, cutBy_eq_none hquotes]

/-- An end tag is read even if its bracket is missing at the end of the text. -/
theorem scan_unclosed_closing {name : List Char} (hname : '>' ∉ name) :
    scan ('<' :: '/' :: name) = ([.closing name], none) := by
  have hread : readConstruct ('/' :: name) = .ok (some (.closing name), []) := by
    simp [readConstruct, cutAt_eq_none hname]
  rw [scan_construct hread, scan_nil]
  rfl

theorem scan_bracket : scan ['<'] = ([], none) :=
  scan_bare (by decide)

/--
A written tag that the end of the text cuts off is not read, or the text breaks
off, or it is an end tag and read with what there is of its name.
-/
theorem Writes.cut {text cut : List Char} {token : Token} (hwrites : Writes text token)
    (hcut : cut <+: text) (hproper : cut ≠ text) :
    (cut = [] ∨ cut = ['<']) ∨
    (exists e, Markup.scan cut = ([], some e)) ∨
    (exists name read, text = '<' :: '/' :: (name ++ ['>']) ∧ token = .closing name ∧
      cut = '<' :: '/' :: read ∧ read <+: name) := by
  cases hwrites with
  | @element content hstart hquotes =>
      have hopen : cut <+: '<' :: content :=
        (List.prefix_concat_iff.mp hcut).resolve_left hproper
      rcases List.prefix_cons_iff.mp hopen with rfl | ⟨inner, rfl, hinner⟩
      · exact .inl (.inl rfl)
      cases inner with
      | nil =>
          exact .inl (.inr rfl)
      | cons first more =>
          right
          left
          rcases hinner with ⟨rest, rfl⟩
          rw [List.foldlM_append, Option.bind_eq_bind, Option.bind_eq_some_iff] at hquotes
          rcases hquotes with ⟨quote, hquote, _⟩
          exact ⟨_, scan_unclosed hstart hquote⟩
  | @closing name hname =>
      have hopen : cut <+: '<' :: '/' :: name :=
        (List.prefix_concat_iff.mp hcut).resolve_left hproper
      rcases List.prefix_cons_iff.mp hopen with rfl | ⟨slashed, rfl, hslashed⟩
      · exact .inl (.inl rfl)
      rcases List.prefix_cons_iff.mp hslashed with rfl | ⟨read, rfl, hread⟩
      · exact .inl (.inr rfl)
      · exact .inr (.inr ⟨name, read, rfl, rfl, rfl, hread⟩)

/-- A list of texts is cut between two of them or inside of one. -/
theorem prefix_flatten {texts : List (List Char)} {part : List Char}
    (hpart : part <+: texts.flatten) :
    exists count cut, part = (texts.take count).flatten ++ cut ∧
      (cut = [] ∨ exists text, texts[count]? = some text ∧ cut <+: text ∧ cut ≠ text) := by
  induction texts generalizing part with
  | nil =>
      exact ⟨0, [], List.prefix_nil.mp hpart, .inl rfl⟩
  | cons text rest ih =>
      rw [List.flatten_cons] at hpart
      by_cases hfirst : text <+: part
      · rcases hfirst with ⟨later, rfl⟩
        rcases ih ((List.prefix_append_right_inj text).mp hpart) with ⟨count, cut, rfl, hcut⟩
        refine ⟨count + 1, cut, ?_, hcut⟩
        rw [List.take_succ_cons, List.flatten_cons, List.append_assoc]
      · have hcut : part <+: text :=
          (List.prefix_or_prefix_of_prefix hpart (List.prefix_append text _)).resolve_right hfirst
        refine ⟨0, part, rfl, .inr ⟨text, rfl, hcut, ?_⟩⟩
        rintro rfl
        exact hfirst List.prefix_rfl

end Markup
end UpnpAv
