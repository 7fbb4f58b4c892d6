import UpnpAv.JsonText.Escape
import UpnpAv.JsonText.Numeral

/-!
# Tokens of a JSON text

A text is read as a list of tokens.  A token that is not well formed carries
the reason, which only counts when the token is reached; nothing is read
behind it.
-/

namespace UpnpAv
namespace JsonText

/-- The values that are words. -/
inductive Word where
  | null
  | boolean (value : Bool)
deriving Repr, DecidableEq

/-- The smallest parts of a text. -/
inductive Token where
  | word (word : Except Error Word)
  | number (negative : Bool) (numeral : Except Malformed Numeral)
  /-- A string, for readers who want to know it and for those who do not. -/
  | string (text : Except Error String) (skipped : Except Error Unit)
  | beginList
  | endList
  | beginObject
  | endObject
  | comma
  | colon
  /-- A character that begins none of these. -/
  | stray

namespace Token

/-- Whether a character may stand between tokens. -/
def isSpace (c : Char) : Bool :=
  c == ' ' || c == '\n' || c == '\r' || c == '\t'

/-- A token, with what stands behind it if reading can go on. -/
abbrev Scanned :=
  Token × Option (List Char)

/-- The rest of a word whose first letter was read. -/
def scanWord (word : Word) : (expected : List Char) -> List Char -> Scanned
  | [], text => (.word (.ok word), some text)
  | _ :: _, [] => (.word (.error .endInValue), none)
  | wanted :: expected, c :: text =>
      if c = wanted then scanWord word expected text else (.word (.error .expectedWord), none)

/-- A number whose sign was read. -/
def scanNumber (negative : Bool) (text : List Char) : Scanned :=
  match Numeral.scan text with
  | .ok (numeral, rest) => (.number negative (.ok numeral), some rest)
  | .error malformed => (.number negative (.error malformed), none)

/-- A string whose first quote was read. -/
def scanString (text : List Char) : Scanned :=
  let value := (decode text).map String.ofList
  match skip text with
  | .ok rest => (.string value (.ok ()), some rest)
  | .error e => (.string value (.error e), none)

/-- The token that begins with a character that is no space. -/
def scanFrom (c : Char) (text : List Char) : Scanned :=
  match c with
  | '[' => (.beginList, some text)
  | ']' => (.endList, some text)
  | '\x7b' => (.beginObject, some text)
  | '\x7d' => (.endObject, some text)
  | ',' => (.comma, some text)
  | ':' => (.colon, some text)
  | 'n' => scanWord .null ['u', 'l', 'l'] text
  | 't' => scanWord (.boolean true) ['r', 'u', 'e'] text
  | 'f' => scanWord (.boolean false) ['a', 'l', 's', 'e'] text
  | '-' => scanNumber true text
  | '"' => scanString text
  | c => if c.isDigit then scanNumber false (c :: text) else (.stray, none)

theorem scanWord_length {word : Word} {expected text rest : List Char} {token : Token}
    (done : scanWord word expected text = (token, some rest)) :
    rest.length ≤ text.length := by
  induction expected generalizing text with
  | nil =>
      cases done
      exact Nat.le_refl _
  | cons wanted expected ih =>
      cases text with
      | nil =>
          cases done
      | cons c text =>
          unfold scanWord at done
          split at done
          · exact Nat.le_succ_of_le (ih done)
          · cases done

theorem scanNumber_length {negative : Bool} {text rest : List Char} {token : Token}
    (done : scanNumber negative text = (token, some rest)) : rest.length < text.length := by
  unfold scanNumber at done
  split at done
  · rename_i read
    cases done
    exact Numeral.scan_length read
  · cases done

theorem scanString_length {text rest : List Char} {token : Token}
    (done : scanString text = (token, some rest)) : rest.length ≤ text.length := by
  unfold scanString at done
  simp only at done
  split at done
  · rename_i skipped
    cases done
    exact skip_length skipped
  · cases done

/-- A token takes at least its first character. -/
theorem scanFrom_length {c : Char} {text rest : List Char} {token : Token}
    (done : scanFrom c text = (token, some rest)) : rest.length ≤ text.length := by
  unfold scanFrom at done
  split at done
  case h_12 =>
    split at done
    · exact Nat.le_of_lt_succ (scanNumber_length done)
    · cases done
  all_goals first
    | exact scanWord_length done
    | exact Nat.le_of_lt (scanNumber_length done)
    | exact scanString_length done
    | (cases done; exact Nat.le_refl _)

/-- The tokens of a text, up to the first one that is not well formed. -/
def scan (text : List Char) : List Token :=
  match text with
  | [] => []
  | c :: text =>
      if isSpace c then scan text
      else
        match _ : scanFrom c text with
        | (token, none) => [token]
        | (token, some rest) => token :: scan rest
termination_by text.length
decreasing_by
  all_goals simp only [List.length_cons]
  · omega
  · have bound := scanFrom_length ‹_›
    omega

end Token
end JsonText
end UpnpAv
