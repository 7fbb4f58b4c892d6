import UpnpAv.Markup.Escape
import UpnpAv.Text.Quoted

/-!
# Tags of a markup text

A markup text is cut into its tags.  Comments, character data sections,
document type declarations, processing instructions and the text between tags
are checked for their ends and skipped.  A text may break off in the middle of
a construct; the tags before that place are still reported, followed by the
reason.
-/

namespace UpnpAv
namespace Markup

/-! # Reasons for rejecting a text -/

/-- The constructs whose end may be missing. -/
inductive Construct where
  | bang
  | comment
  | characterData
  | doctype
  | instruction
  | element
deriving Repr, DecidableEq

/-- The name of a construct in messages. -/
def Construct.name : Construct -> String
  | bang => "Bang"
  | comment => "Comment"
  | characterData => "CData"
  | doctype => "DOCTYPE"
  | instruction => "XmlDecl"
  | element => "Element"

/-- Why the attributes of a tag cannot be read.  Places are byte offsets in the tag. -/
inductive AttributeError where
  | noEquals (place : Nat)
  | noQuote (place : Nat)
  | noValue (place : Nat)
  | noClosingQuote (place : Nat) (quote : Char)
deriving Repr, DecidableEq

/-- Why a markup text is rejected. -/
inductive Error where
  | unfinished (construct : Construct)
  | unknownBang (byte : Nat)
  | emptyDoctype
  | mismatched (expected found : List Char)
  | badAttribute (cause : AttributeError)
  | badEscape (cause : EscapeError)
deriving Repr, DecidableEq

/-- A byte shown as the character of the same number. -/
def byteText (byte : Nat) : String :=
  String.singleton (Char.ofNat byte)

/-- The text of an attribute error. -/
def AttributeError.message : AttributeError -> String
  | noEquals place =>
      s!"position {place}: attribute key must be directly followed by `=` or space"
  | noQuote place =>
      s!"position {place}: attribute value must be enclosed in `\"` or `'`"
  | noValue place =>
      s!"position {place}: `=` must be followed by an attribute value"
  | noClosingQuote place quote =>
      s!"position {place}: missing closing quote `" ++ String.singleton quote ++
        "` in attribute value"

/-- The text of an error about an entity or a character reference. -/
def EscapeError.message : EscapeError -> String
  | unterminated start stop =>
      s!"Error while escaping character at range {start}..{stop}: " ++
        "Cannot find ';' after '&'"
  | unknownEntity start stop name =>
      s!"Error while escaping character at range {start}..{stop}: " ++
        "Unrecognized escape symbol: " ++ Text.quoted (String.ofList name)
  | nullCharacter start stop =>
      s!"Error while escaping character at range {start}..{stop}: " ++
        "Null character entity not allowed"
  | longHexadecimal => "Cannot convert hexadecimal to utf8"
  | badHexadecimal byte =>
      "'" ++ byteText byte ++ "' is not a valid hexadecimal character"
  | longDecimal => "Cannot convert decimal to utf8"
  | badDecimal byte =>
      "'" ++ byteText byte ++ "' is not a valid decimal character"
  | notACharacter code => s!"'{code}' is not a valid codepoint"

/-- The text of an error. -/
def Error.message : Error -> String
  | unfinished construct => "Unexpected EOF during reading " ++ construct.name
  | unknownBang byte =>
      "Only Comment (`--`), CDATA (`[CDATA[`) and DOCTYPE (`DOCTYPE`) nodes can start " ++
        "with a '!', but symbol `" ++ byteText byte ++ "` found"
  | emptyDoctype => "DOCTYPE declaration must not be empty"
  | mismatched expected found =>
      "Expecting </" ++ String.ofList expected ++ "> found </" ++ String.ofList found ++ ">"
  | badAttribute cause => "error while parsing attribute: " ++ cause.message
  | badEscape cause => cause.message

/-! # Cutting -/

/-- The four blanks of markup. -/
def isSpace (c : Char) : Bool :=
  c = ' ' || c = '\n' || c = '\r' || c = '\t'

/--
The part before the character at which `step` stops, and the part after it.
Nothing when `step` never stops.
-/
def cutBy {σ : Type} (step : σ -> Char -> Option σ) :
    σ -> List Char -> Option (List Char × List Char)
  | _, [] => none
  | s, c :: rest =>
      match step s c with
      | none => some ([], rest)
      | some next => (cutBy step next rest).map fun (before, after) => (c :: before, after)

/-- The parts before and after the first occurrence of a character. -/
def cutAt (stop : Char) : List Char -> Option (List Char × List Char) :=
  cutBy (fun () c => if c = stop then none else some ()) ()

theorem cutBy_length {σ : Type} {step : σ -> Char -> Option σ} {s : σ}
    {text before after : List Char} (found : cutBy step s text = some (before, after)) :
    after.length < text.length := by
  induction text generalizing s before after with
  | nil =>
      simp [cutBy] at found
  | cons c rest ih =>
      unfold cutBy at found
      split at found
      · simp only [Option.some.injEq, Prod.mk.injEq] at found
        simp [← found.2]
      · simp only [Option.map_eq_some_iff, Prod.mk.injEq, Prod.exists] at found
        obtain ⟨first, second, cut, _, same⟩ := found
        have shorter := ih cut
        rw [same] at shorter
        simp only [List.length_cons]
        omega

theorem cutAt_length {stop : Char} {text before after : List Char}
    (found : cutAt stop text = some (before, after)) :
    after.length < text.length :=
  cutBy_length found

/-- Stops at a `>` when the reversed text before it passes a test. -/
def closedWhen (test : List Char -> Bool) (before : List Char) (c : Char) :
    Option (List Char) :=
  if c = '>' && test before then none else some (c :: before)

/-- Stops at the first `>` outside quotes. -/
def tagStep : Option Char -> Char -> Option (Option Char)
  | none, c =>
      if c = '>' then none
      else if c = '"' || c = '\'' then some (some c)
      else some none
  | some quote, c =>
      if c = quote then some none else some (some quote)

/-! # Tags -/

/-- A tag, with everything that stands between its angle brackets. -/
inductive Token where
  /-- A start tag. -/
  | opening (content : List Char)
  /-- An element without content; the slash at its end is left out. -/
  | standalone (content : List Char)
  /-- An end tag; the slash at its start is left out. -/
  | closing (content : List Char)
deriving Repr, DecidableEq

/-- Whether a text begins with a given word, in any case of ASCII letters. -/
def startsWithWord (word : List Char) (text : List Char) : Bool :=
  (text.take word.length).map Char.toUpper == word

/-- What a construct that begins with an exclamation mark has to look like. -/
def bangRule (c : Char) : Option (Construct × List Char × (List Char -> Bool)) :=
  if c = '[' then
    some (.characterData, "![CDATA[".toList, fun before => before.take 2 == [']', ']'])
  else if c = '-' then
    some (.comment, "!--".toList, fun before =>
      4 < before.length && before.take 2 == ['-', '-'])
  else if c = 'D' || c = 'd' then
    some (.doctype, "!DOCTYPE".toList, fun before => before.count '<' == before.count '>')
  else none

/--
Read a construct from its exclamation mark on; `symbol` is the character after
the mark.  Answers the rest of the text.
-/
def skipBang (symbol : Char) (text : List Char) : Except Error (List Char) :=
  match bangRule symbol with
  | none => .error (.unknownBang (leadByte symbol))
  | some (construct, keyword, test) =>
      match cutBy (closedWhen test) [] text with
      | none => .error (.unfinished construct)
      | some (content, rest) =>
          if !startsWithWord keyword content then
            .error (.unfinished construct)
          else if construct == .doctype && (content.drop keyword.length).all isSpace then
            .error .emptyDoctype
          else
            .ok rest

/-- Whether the content of a processing instruction is closed. -/
def instructionClosed (content : List Char) : Bool :=
  2 < content.length && content.getLast? == some '?'

/-- The tag with a given content that is neither an end tag nor anything special. -/
def elementToken (content : List Char) : Token :=
  if content.getLast? = some '/' then .standalone content.dropLast else .opening content

/-- Read what follows a `<`: a tag if it is one, and the rest of the text. -/
def readConstruct (text : List Char) : Except Error (Option Token × List Char) :=
  match text with
  | ['!'] => .error (.unfinished .bang)
  | '!' :: symbol :: _ => (skipBang symbol text).map fun rest => (none, rest)
  | '/' :: name =>
      let (content, rest) := (cutAt '>' name).getD (name, [])
      .ok (some (.closing content), rest)
  | '?' :: _ =>
      let (content, rest) := (cutAt '>' text).getD (text, [])
      if instructionClosed content then .ok (none, rest)
      else .error (.unfinished .instruction)
  | _ =>
      match cutBy tagStep none text with
      | none => .error (.unfinished .element)
      | some (content, rest) => .ok (some (elementToken content), rest)

theorem skipBang_length {symbol : Char} {text rest : List Char}
    (read : skipBang symbol text = .ok rest) : rest.length < text.length := by
  unfold skipBang at read
  split at read
  · simp at read
  · split at read
    · simp at read
    · rename_i cut
      split at read
      · simp at read
      · split at read
        · simp at read
        · simp only [Except.ok.injEq] at read
          exact read ▸ cutBy_length cut

theorem cutAt_getD_length (stop : Char) (text : List Char) :
    ((cutAt stop text).getD (text, [])).2.length ≤ text.length := by
  cases cut : cutAt stop text with
  | none =>
      simp
  | some parts =>
      obtain ⟨before, after⟩ := parts
      have shorter := cutAt_length cut
      simp only [Option.getD_some]
      omega

theorem readConstruct_length {text rest : List Char} {token : Option Token}
    (read : readConstruct text = .ok (token, rest)) : rest.length ≤ text.length := by
  unfold readConstruct at read
  split at read
  · simp at read
  · rename_i symbol tail
    cases skipped : skipBang symbol ('!' :: symbol :: tail) with
    | error e =>
        simp [skipped, Except.map] at read
    | ok after =>
        simp only [skipped, Except.map, Except.ok.injEq, Prod.mk.injEq] at read
        have shorter := skipBang_length skipped
        rw [read.2] at shorter
        omega
  · rename_i name
    simp only [Except.ok.injEq, Prod.mk.injEq] at read
    have shorter := cutAt_getD_length '>' name
    rw [read.2] at shorter
    simp only [List.length_cons]
    omega
  · rename_i tail
    simp only at read
    split at read
    · simp only [Except.ok.injEq, Prod.mk.injEq] at read
      exact read.2 ▸ cutAt_getD_length '>' ('?' :: tail)
    · simp at read
  · split at read
    · simp at read
    · rename_i cut
      simp only [Except.ok.injEq, Prod.mk.injEq] at read
      have shorter := cutBy_length cut
      rw [read.2] at shorter
      omega

/-- The tags of a text in order, and why the text breaks off, if it does. -/
def scan (text : List Char) : List Token × Option Error :=
  match _ : text.dropWhile (· ≠ '<') with
  | [] => ([], none)
  | [_] => ([], none)
  | _ :: next :: after =>
      match _ : readConstruct (next :: after) with
      | .error e => ([], some e)
      | .ok (token, rest) =>
          let (more, reason) := scan rest
          (token.toList ++ more, reason)
termination_by text.length
decreasing_by
  have shorter := readConstruct_length ‹_›
  have start : text.dropWhile (· ≠ '<') = _ := ‹_›
  have suffix := (List.dropWhile_suffix (l := text) (· ≠ '<')).length_le
  rw [start] at suffix
  simp only [List.length_cons] at shorter suffix
  omega

/-! # Inside a tag -/

/-- The name of a tag: its content up to the first blank. -/
def tagName (content : List Char) : List Char :=
  content.takeWhile fun c => !isSpace c

/-- The attributes of a tag: its content from the first blank on. -/
def tagAttributes (content : List Char) : List Char :=
  content.dropWhile fun c => !isSpace c

/-- A name without the part up to its first colon. -/
def localName (name : List Char) : List Char :=
  match cutAt ':' name with
  | none => name
  | some (_, after) => after

/-- The characters of a key after its first one. -/
def isKeyChar (c : Char) : Bool :=
  !(c = '=' || isSpace c)

/-- An attribute: its key and its value as written. -/
structure Attribute where
  key : List Char
  value : List Char
deriving Repr, DecidableEq

/--
The first attribute of a text and the text after it.  The text ends the
content of a tag that has `total` bytes.
-/
def nextAttribute (total : Nat) (text : List Char) :
    Except AttributeError (Option (Attribute × List Char)) :=
  match text.dropWhile isSpace with
  | [] => .ok none
  | first :: more =>
      match (more.dropWhile isKeyChar).dropWhile isSpace with
      | '=' :: assigned =>
          match assigned.dropWhile isSpace with
          | [] => .error (.noValue total)
          | quote :: body =>
              if quote = '"' ∨ quote = '\'' then
                match cutAt quote body with
                | none => .error (.noClosingQuote total quote)
                | some (value, rest) =>
                    .ok (some (⟨first :: more.takeWhile isKeyChar, value⟩, rest))
              else
                .error (.noQuote (total - byteLength (quote :: body)))
      | other => .error (.noEquals (total - byteLength other))

theorem length_dropWhile_le (p : Char -> Bool) (text : List Char) :
    (text.dropWhile p).length ≤ text.length :=
  (List.dropWhile_suffix p).length_le

theorem nextAttribute_length {total : Nat} {text rest : List Char} {found : Attribute}
    (read : nextAttribute total text = .ok (some (found, rest))) :
    rest.length < text.length := by
  unfold nextAttribute at read
  split at read
  · simp at read
  · rename_i first more start
    have startLe := length_dropWhile_le isSpace text
    rw [start] at startLe
    split at read
    · rename_i assigned equals
      have equalsLe := length_dropWhile_le isSpace (more.dropWhile isKeyChar)
      have keyLe := length_dropWhile_le isKeyChar more
      rw [equals] at equalsLe
      split at read
      · simp at read
      · rename_i quote body quoted
        have quotedLe := length_dropWhile_le isSpace assigned
        rw [quoted] at quotedLe
        split at read
        · split at read
          · simp at read
          · rename_i cut
            have shorter := cutAt_length cut
            simp only [Except.ok.injEq, Option.some.injEq, Prod.mk.injEq] at read
            rw [read.2] at shorter
            simp only [List.length_cons] at startLe equalsLe quotedLe
            omega
        · simp at read
    · simp at read

/-- The written value of the first attribute with a given key. -/
def findAttribute (total : Nat) (key text : List Char) :
    Except AttributeError (Option (List Char)) :=
  match _ : nextAttribute total text with
  | .error e => .error e
  | .ok none => .ok none
  | .ok (some (found, rest)) =>
      if found.key = key then .ok (some found.value)
      else findAttribute total key rest
termination_by text.length
decreasing_by exact nextAttribute_length ‹_›

/-- The value of the first attribute of a tag with a given key. -/
def attribute? (key content : List Char) : Except Error (Option (List Char)) :=
  match findAttribute (byteLength content) key (tagAttributes content) with
  | .error e => .error (.badAttribute e)
  | .ok none => .ok none
  | .ok (some written) => ((unescape written).mapError .badEscape).map some

end Markup
end UpnpAv
