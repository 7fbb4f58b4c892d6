import UpnpAv.Markup.Escape

/-!
# Escaping is undone by reading

An escaped text holds none of the characters that end a tag or a quoted value,
and reading it gives back the text that was escaped.
-/

namespace UpnpAv
namespace Markup

/-!
# How one character is written

A character is written as an entity that stands for it, or as itself.
-/

theorem escapeChar_cases (c : Char) :
    (exists name : List Char,
      escapeChar c = '&' :: (name ++ [';']) ∧
        (forall d, d ∈ name -> d.isAlpha = true) ∧
        forall start stop, resolve start stop name = .ok c) ∨
      (escapeChar c = [c] ∧ c ≠ '&' ∧ c ∉ ['<', '>', '"', '\'']) := by
  by_cases hlt : c = '<'
  · subst hlt
    exact Or.inl ⟨"lt".toList, rfl, by simp, fun _ _ => rfl⟩
  by_cases hgt : c = '>'
  · subst hgt
    exact Or.inl ⟨"gt".toList, rfl, by simp, fun _ _ => rfl⟩
  by_cases hamp : c = '&'
  · subst hamp
    exact Or.inl ⟨"amp".toList, rfl, by simp, fun _ _ => rfl⟩
  by_cases hapos : c = '\''
  · subst hapos
    exact Or.inl ⟨"apos".toList, rfl, by simp, fun _ _ => rfl⟩
  by_cases hquot : c = '"'
  · subst hquot
    exact Or.inl ⟨"quot".toList, rfl, by simp, fun _ _ => rfl⟩
  apply Or.inr
  refine ⟨?_, hamp, ?_⟩
  · simp [escapeChar, hlt, hgt, hamp, hapos, hquot]
  · simp [hlt, hgt, hapos, hquot]

/-- No written text holds a character that ends a tag or a quoted value. -/
theorem not_mem_escape {stop : Char} (hstop : stop ∈ ['<', '>', '"', '\''])
    (text : List Char) : stop ∉ escape text := by
  intro hmem
  have hspecial : stop ≠ '&' ∧ stop ≠ ';' ∧ stop.isAlpha = false := by
    simp only [List.mem_cons, List.not_mem_nil, or_false] at hstop
    rcases hstop with rfl | rfl | rfl | rfl <;> decide
  rcases List.mem_flatMap.mp hmem with ⟨c, _hc, hwritten⟩
  rcases escapeChar_cases c with ⟨name, hname, halpha, _⟩ | ⟨hsame, _, hplain⟩
  · rw [hname] at hwritten
    simp only [List.mem_cons, List.mem_append, List.not_mem_nil, or_false] at hwritten
    rcases hwritten with hamp | hletter | hsemicolon
    · exact hspecial.1 hamp
    · have := halpha stop hletter
      rw [hspecial.2.2] at this
      cases this
    · exact hspecial.2.1 hsemicolon
  · rw [hsame, List.mem_singleton] at hwritten
    subst hwritten
    exact hplain hstop

/-!
# Reading
-/

/-- Inside an entity the name is collected up to the semicolon. -/
theorem unescapeFrom_name (total start : Nat) (rest : List Char) :
    forall (name seen : List Char) (place : Nat),
      (forall d, d ∈ name -> d.isAlpha = true) ->
      exists stop,
        unescapeFrom total place (some (start, seen)) (name ++ ';' :: rest) =
          (do
            let resolved ← resolve start stop (seen.reverse ++ name)
            let more ← unescapeFrom total (stop + 1) none rest
            pure (resolved :: more)) := by
  intro name
  induction name with
  | nil =>
      intro seen place _
      refine ⟨place, ?_⟩
      rw [List.nil_append, List.append_nil, unescapeFrom, if_pos rfl]
  | cons c name ih =>
      intro seen place halpha
      have hletter := halpha c List.mem_cons_self
      have hsemicolon : c ≠ ';' := by
        rintro rfl
        revert hletter
        decide
      have hamp : c ≠ '&' := by
        rintro rfl
        revert hletter
        decide
      rcases ih (c :: seen) (place + c.utf8Size)
        (fun d hd => halpha d (List.mem_cons_of_mem c hd)) with ⟨stop, hread⟩
      refine ⟨stop, ?_⟩
      rw [List.cons_append, unescapeFrom, if_neg hsemicolon, if_neg hamp, hread]
      simp

theorem unescapeFrom_escape (total : Nat) (text : List Char) :
    forall place, unescapeFrom total place none (escape text) = .ok text := by
  induction text with
  | nil =>
      intro place
      rfl
  | cons c rest ih =>
      intro place
      rw [escape_cons]
      rcases escapeChar_cases c with ⟨name, hname, halpha, hresolve⟩ | ⟨hsame, hamp, _⟩
      · rw [hname, List.cons_append, unescapeFrom, if_pos rfl, List.append_assoc,
          List.singleton_append]
        rcases unescapeFrom_name total place (escape rest) name [] (place + 1) halpha with
          ⟨stop, hread⟩
        rw [hread, List.reverse_nil, List.nil_append, hresolve, ih]
        rfl
      · rw [hsame, List.singleton_append, unescapeFrom, if_neg hamp, ih]
        rfl

/-- Reading gives back what was written. -/
theorem unescape_escape (text : List Char) : unescape (escape text) = .ok text :=
  unescapeFrom_escape _ text 0

theorem escape_injective {first second : List Char} (hsame : escape first = escape second) :
    first = second := by
  have hread : unescape (escape first) = unescape (escape second) := congrArg unescape hsame
  rw [unescape_escape, unescape_escape] at hread
  exact Except.ok.inj hread

end Markup
end UpnpAv
