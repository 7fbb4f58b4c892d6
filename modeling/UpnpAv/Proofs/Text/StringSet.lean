import Mathlib.Algebra.Group.Nat.Defs
import Mathlib.Data.List.Sort
import UpnpAv.Text.StringSet

/-!
# The one list of a set of texts

Two sets with the same members are the same, and a set lists its members in the
order of the bytes of their UTF-8 forms: the character with the smaller code has
the smaller lead byte, or the same one and a smaller byte after it.
-/

namespace UpnpAv

theorem StringSet.eq_of_mem_iff {first second : StringSet}
    (hmem : forall text, text ∈ first <-> text ∈ second) : first = second := by
  have : Std.Irrefl fun earlier later : String => earlier < later :=
    ⟨fun text => String.lt_irrefl text⟩
  have : Std.Antisymm fun earlier later : String => earlier < later :=
    ⟨fun _ _ hlt hgt => absurd hgt (String.lt_asymm hlt)⟩
  have hlists : first.toList = second.toList :=
    List.Pairwise.eq_of_mem_iff first.sorted second.sorted fun {text} => hmem text
  rcases first with ⟨list, hsorted⟩
  rcases second with ⟨other, hother⟩
  cases hlists
  rfl

namespace Text

/-!
# Characters
-/

/-- The bytes of a text in UTF-8. -/
def bytes (text : String) : List UInt8 :=
  text.toUTF8.data.toList

/-- The bytes that follow a lead byte, with six bits of the code in each. -/
def trailing : Nat -> Nat -> List UInt8
  | 0, _ => []
  | count + 1, code => UInt8.ofNat (code / 64 ^ count % 64 + 128) :: trailing count code

/-- The number of trailing bytes and the lead byte that a code has. -/
inductive HasLead (code : Nat) : Nat -> Nat -> Prop where
  | one (hcode : code < 128) : HasLead code 0 code
  | two (hlow : 128 ≤ code) (hcode : code < 2048) : HasLead code 1 (code / 64 + 192)
  | three (hlow : 2048 ≤ code) (hcode : code < 65536) : HasLead code 2 (code / 4096 + 224)
  | four (hlow : 65536 ≤ code) (hcode : code < 1114112) : HasLead code 3 (code / 262144 + 240)

theorem HasLead.lt {code count lead : Nat} (hlead : HasLead code count lead) : lead < 256 := by
  cases hlead <;> omega

theorem exists_lead (c : Char) :
    exists count lead, HasLead c.toNat count lead ∧
      String.utf8EncodeChar c = UInt8.ofNat lead :: trailing count c.toNat := by
  have hcode : c.toNat < 1114112 := by
    have hvalid : c.toNat < 55296 ∨ (57343 < c.toNat ∧ c.toNat < 1114112) := c.valid
    omega
  have hval : c.val.toNat = c.toNat := rfl
  unfold String.utf8EncodeChar
  rw [hval]
  by_cases hone : c.toNat ≤ 127
  · exact ⟨0, _, .one (by omega), by simp [hone, trailing]⟩
  by_cases htwo : c.toNat ≤ 2047
  · refine ⟨1, _, .two (by omega) (by omega), ?_⟩
    have hlead : c.toNat / 64 % 32 = c.toNat / 64 := by omega
    simp [hone, htwo, hlead, trailing]
  by_cases hthree : c.toNat ≤ 65535
  · refine ⟨2, _, .three (by omega) (by omega), ?_⟩
    have hlead : c.toNat / 4096 % 16 = c.toNat / 4096 := by omega
    simp [hone, htwo, hthree, hlead, trailing]
  · refine ⟨3, _, .four (by omega) hcode, ?_⟩
    have hlead : c.toNat / 262144 % 8 = c.toNat / 262144 := by omega
    simp [hone, htwo, hthree, hlead, trailing]

theorem ofNat_lt {first second : Nat} (hlt : first < second) (hsecond : second < 256) :
    UInt8.ofNat first < UInt8.ofNat second := by
  rw [UInt8.lt_iff_toNat_lt, UInt8.toNat_ofNat', UInt8.toNat_ofNat']
  omega

/-- Of two codes that agree in their higher bits, the smaller has the smaller last bytes. -/
theorem trailing_lt {first second : Nat} (hlt : first < second) (rest more : List UInt8) :
    forall {count : Nat}, first / 64 ^ count = second / 64 ^ count ->
      trailing count first ++ rest < trailing count second ++ more := by
  intro count
  induction count with
  | zero =>
      intro hhigher
      omega
  | succ count ih =>
      intro hhigher
      rw [trailing, trailing, List.cons_append, List.cons_append, List.cons_lt_cons_iff]
      by_cases hsame : first / 64 ^ count = second / 64 ^ count
      · exact Or.inr ⟨by rw [hsame], ih hsame⟩
      · apply Or.inl
        have hbelow : first / 64 ^ count ≤ second / 64 ^ count :=
          Nat.div_le_div_right (Nat.le_of_lt hlt)
        rw [Nat.pow_succ, ← Nat.div_div_eq_div_mul, ← Nat.div_div_eq_div_mul] at hhigher
        apply ofNat_lt
        · omega
        · omega

theorem lead_lt {first second count counts lead leads : Nat} (hlt : first < second)
    (hfirst : HasLead first count lead) (hsecond : HasLead second counts leads) :
    lead < leads ∨
      (lead = leads ∧ count = counts ∧ first / 64 ^ count = second / 64 ^ counts) := by
  cases hfirst <;> cases hsecond <;> simp <;> omega

theorem utf8EncodeChar_lt {c d : Char} (hlt : c < d) (rest more : List UInt8) :
    String.utf8EncodeChar c ++ rest < String.utf8EncodeChar d ++ more := by
  have hcodes : c.toNat < d.toNat := hlt
  rcases exists_lead c with ⟨count, lead, hc, hfirst⟩
  rcases exists_lead d with ⟨counts, leads, hd, hsecond⟩
  rw [hfirst, hsecond, List.cons_append, List.cons_append, List.cons_lt_cons_iff]
  rcases lead_lt hcodes hc hd with hlead | ⟨hlead, rfl, hhigher⟩
  · exact Or.inl (ofNat_lt hlead hd.lt)
  · exact Or.inr ⟨congrArg UInt8.ofNat hlead, trailing_lt hcodes rest more hhigher⟩

/-!
# Texts
-/

theorem bytes_eq (text : String) : bytes text = text.toList.flatMap String.utf8EncodeChar := by
  rw [bytes, String.toUTF8_eq_toByteArray, ← String.utf8Encode_toList, List.utf8Encode,
    List.data_toByteArray]

theorem flatMap_utf8EncodeChar_lt : forall {first second : List Char}, first < second ->
    first.flatMap String.utf8EncodeChar < second.flatMap String.utf8EncodeChar
  | [], [], hlt => absurd hlt (List.lt_irrefl [])
  | [], d :: more, _ => by
      rcases exists_lead d with ⟨count, lead, _, hbytes⟩
      rw [List.flatMap_nil, List.flatMap_cons, hbytes]
      exact List.nil_lt_cons _ _
  | c :: rest, [], hlt => absurd hlt (List.not_lt_nil _)
  | c :: rest, d :: more, hlt => by
      rw [List.flatMap_cons, List.flatMap_cons]
      rcases List.cons_lt_cons_iff.mp hlt with hcd | ⟨rfl, htail⟩
      · exact utf8EncodeChar_lt hcd _ _
      · exact List.append_left_lt (flatMap_utf8EncodeChar_lt htail)

theorem bytes_lt {first second : String} (hlt : first < second) : bytes first < bytes second := by
  rw [bytes_eq, bytes_eq]
  exact flatMap_utf8EncodeChar_lt hlt

end Text
end UpnpAv
