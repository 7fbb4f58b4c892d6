import UpnpAv.Proofs.Text.Split
import UpnpAv.Text.Ascii

/-!
# Small letters

Making the ASCII capitals of a text small turns letters into letters, so it moves
no separator and no blank.
-/

namespace UpnpAv
namespace Text

/-!
# One character
-/

theorem isUpper_iff {c : Char} : c.isUpper = true <-> 65 ≤ c.toNat ∧ c.toNat ≤ 90 :=
  decide_eq_true_iff

theorem isLower_iff {c : Char} : c.isLower = true <-> 97 ≤ c.toNat ∧ c.toNat ≤ 122 :=
  Bool.and_eq_true_iff.trans (and_congr decide_eq_true_iff decide_eq_true_iff)

/-- A character is small already, or a capital that is 32 places before its small letter. -/
theorem toLower_cases (c : Char) :
    c.toLower = c ∨ c.isUpper = true ∧ c.toLower.toNat = c.toNat + 32 := by
  by_cases hupper : c.isUpper = true
  · refine Or.inr ⟨hupper, ?_⟩
    have hbounds := isUpper_iff.mp hupper
    have hlower : c.toLower.toNat = (c.val + 32).toNat := congrArg Char.toNat (dif_pos hbounds)
    -- The sum stays below the size of a word.
    rw [hlower, UInt32.toNat_add, Char.toNat_val, show (32 : UInt32).toNat = 32 from rfl]
    exact Nat.mod_eq_of_lt (by omega)
  · exact Or.inl (dif_neg (mt isUpper_iff.mpr hupper))

theorem isLower_toLower {c : Char} (hupper : c.isUpper = true)
    (hlower : c.toLower.toNat = c.toNat + 32) : c.toLower.isLower = true := by
  rw [isUpper_iff] at hupper
  rw [isLower_iff, hlower]
  omega

theorem toLower_toLower (c : Char) : c.toLower.toLower = c.toLower := by
  rcases toLower_cases c with hsame | ⟨hupper, hlower⟩
  · rw [hsame, hsame]
  · rcases toLower_cases c.toLower with hsame | ⟨hcapital, _⟩
    · exact hsame
    · rw [isUpper_iff] at hupper hcapital
      omega

theorem toLower_eq_iff {c sign : Char} (hsign : sign.isAlpha = false) :
    c.toLower = sign <-> c = sign := by
  have hletter : sign.isUpper = false ∧ sign.isLower = false := Bool.or_eq_false_iff.mp hsign
  constructor
  · rintro rfl
    rcases toLower_cases c with hsame | ⟨hupper, hlower⟩
    · exact hsame.symm
    · rw [isLower_toLower hupper hlower] at hletter
      cases hletter.2
  · rintro rfl
    rcases toLower_cases c with hsame | ⟨hupper, _⟩
    · exact hsame
    · rw [hupper] at hletter
      cases hletter.1

/-- There is no blank from the first capital to the last small letter. -/
theorem isBlank_eq_false {c : Char} (hlow : 65 ≤ c.toNat) (hhigh : c.toNat ≤ 122) :
    isBlank c = false := by
  simp only [isBlank, Bool.or_eq_false_iff, Bool.and_eq_false_iff, decide_eq_false_iff_not,
    beq_eq_false_iff_ne]
  omega

theorem isBlank_toLower (c : Char) : isBlank c.toLower = isBlank c := by
  rcases toLower_cases c with hsame | ⟨hupper, hlower⟩
  · rw [hsame]
  · rw [isUpper_iff] at hupper
    rw [isBlank_eq_false (c := c) (by omega) (by omega), isBlank_eq_false (by omega) (by omega)]

/-!
# Texts
-/

theorem sameIgnoringCase_iff {first second : List Char} :
    sameIgnoringCase first second = true <-> lowered first = lowered second :=
  beq_iff_eq

theorem lowered_lowered (text : List Char) : lowered (lowered text) = lowered text := by
  rw [lowered, lowered, List.map_map]
  exact List.map_congr_left fun c _ => toLower_toLower c

theorem mem_lowered {sign : Char} (hsign : sign.isAlpha = false) {text : List Char} :
    sign ∈ lowered text <-> sign ∈ text := by
  rw [lowered, List.mem_map]
  constructor
  · rintro ⟨c, hc, hlower⟩
    exact (toLower_eq_iff hsign).mp hlower ▸ hc
  · intro hmem
    exact ⟨sign, hmem, (toLower_eq_iff hsign).mpr rfl⟩

theorem upTo_lowered {separator : Char} (hseparator : separator.isAlpha = false)
    (text : List Char) : upTo separator (lowered text) = lowered (upTo separator text) := by
  rw [upTo, lowered, List.takeWhile_map, upTo, lowered]
  congr 2
  funext c
  exact decide_eq_decide.mpr (not_congr (toLower_eq_iff hseparator))

theorem trimRight_lowered (text : List Char) :
    trimRight (lowered text) = lowered (trimRight text) := by
  have hblank : isBlank ∘ Char.toLower = isBlank := funext isBlank_toLower
  rw [trimRight, lowered, ← List.map_reverse, List.dropWhile_map, hblank, ← List.map_reverse]
  rfl

theorem trim_lowered (text : List Char) : trim (lowered text) = lowered (trim text) := by
  have hblank : isBlank ∘ Char.toLower = isBlank := funext isBlank_toLower
  rw [trim, trim, ← trimRight_lowered, lowered, List.dropWhile_map, hblank, lowered]

end Text
end UpnpAv
