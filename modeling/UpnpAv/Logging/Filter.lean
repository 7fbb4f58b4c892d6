import UpnpAv.Journal
import UpnpAv.Logging.Pattern
import UpnpAv.Text.Alphanumeric
import UpnpAv.Text.Ascii
import UpnpAv.Text.Blank
import UpnpAv.Text.Split

/-!
# Log filters

A filter is a list of directives separated by commas.  A directive names a
level, or a target, or a target with a level; brackets behind the target limit
it to a span, to lines with a field, or to lines with a certain value of a
field.  Directives about spans and values never hold for a line on its own.
For such a line the directive counts whose target is the longest one that
begins the target of the line; of two directives that say the same but for
their levels, the later one counts.
-/

namespace UpnpAv
namespace Logging

/-- The least grave level that is shown; none when nothing is. -/
abbrev Threshold :=
  Option Level

/-- A field that lines must have. -/
structure Field where
  name : String
  /-- Whether the field must have a certain value. -/
  hasValue : Bool
deriving Repr, DecidableEq

/-- What is shown of the lines that a directive speaks of. -/
structure Directive where
  /-- How the targets of the lines begin; none for all lines. -/
  target : Option (List Char)
  /-- The span around the lines, if there must be one. -/
  span : Option (List Char)
  field : Option Field
  threshold : Threshold
deriving Repr, DecidableEq

/-- A log filter. -/
structure Filter where
  directives : List Directive
deriving Repr, DecidableEq

/-! # Levels -/

/-- The thresholds, each at the place that is its number. -/
def thresholds : List Threshold :=
  [none, some .error, some .warn, some .info, some .debug, some .trace]

/-- The name of a threshold. -/
def thresholdName : Threshold -> String
  | none => "OFF"
  | some level => level.name

/-- The number that a text denotes; a plus sign may stand before it. -/
def number? : List Char -> Option Nat
  | '+' :: digits => Text.digitsValue? digits
  | digits => Text.digitsValue? digits

/-- The threshold that a text names, by its number or in any case of ASCII letters. -/
def threshold? (text : List Char) : Option Threshold :=
  match number? text with
  | some number => thresholds[number]?
  | none => thresholds.find? fun threshold =>
      Text.sameIgnoringCase (thresholdName threshold).toList text

/-! # Directives -/

/-- Whether a directive may begin with a character, other than by a bracket. -/
def isInitial (c : Char) : Bool :=
  Text.isAlphanumeric c || c == '-' || c == ':' || c == '_'

/-- The field that a text between braces spells out. -/
def field? (text : List Char) : Option Field :=
  let (name, rest) := text.span (· ≠ '=')
  let value := (rest.drop 1).takeWhile (· ≠ '=')
  if text.isEmpty || !((number? value).isSome || Pattern.isWellFormed value) then none
  else some ⟨String.ofList name, !rest.isEmpty⟩

/-- A directive as it is written: what blanks surround it, and the text between them. -/
structure Spelling where
  before : List Char
  text : List Char
  after : List Char
deriving Repr, DecidableEq

namespace Spelling

/-- The spelling of a text. -/
def ofText (text : List Char) : Spelling :=
  let rest := text.dropWhile Text.isBlank
  ⟨text.takeWhile Text.isBlank, Text.trimRight rest, rest.drop (Text.trimRight rest).length⟩

/-- The threshold behind an equals sign.  It has to stand alone, and only where no blank leads. -/
def threshold? (spelling : Spelling) (level : List Char) : Option Threshold :=
  if !spelling.before.isEmpty then none
  else if level.isEmpty && spelling.after.isEmpty then some (some .trace)
  else Logging.threshold? (level ++ spelling.after)

/-- The directive that consists of a level or a target, with its blanks. -/
def bare (spelling : Spelling) : Directive :=
  let text := spelling.before ++ spelling.text ++ spelling.after
  match Logging.threshold? text with
  | some threshold => ⟨none, none, none, threshold⟩
  | none => ⟨some text, none, none, some .trace⟩

/-- The threshold behind a closing bracket. -/
def closing? (spelling : Spelling) : List Char -> Option Threshold
  | [] => some (some .trace)
  | '=' :: level => spelling.threshold? level
  | _ :: _ => none

/-- The directive with the given target whose opening bracket was read. -/
def bracketed? (spelling : Spelling) (target : Option (List Char)) (text : List Char) :
    Option Directive :=
  let (span, rest) := text.span fun c => c ≠ ']' && c ≠ '\x7b'
  match rest with
  | ']' :: rest => do
      pure ⟨target, some span, none, ← spelling.closing? rest⟩
  | '\x7b' :: rest =>
      let (content, rest) := rest.span (· ≠ '\x7d')
      match rest with
      | '\x7d' :: ']' :: rest => do
          let field ← field? content
          let span := if span.isEmpty then none else some span
          pure ⟨target, span, some field, ← spelling.closing? rest⟩
      | _ => none
  | _ => none

/-- The directive that is spelled out; none when it is malformed. -/
def directive? (spelling : Spelling) : Option Directive :=
  match spelling.text with
  | [] => none
  | '[' :: rest => spelling.bracketed? none rest
  | first :: _ =>
      let (name, rest) := spelling.text.span fun c => c ≠ '=' && c ≠ '['
      let target := (spelling.before ++ name).take name.length
      if !isInitial first then none
      else
        match rest with
        | [] => some spelling.bare
        | '=' :: level => do
            pure ⟨some target, none, none, ← spelling.threshold? level⟩
        | _ :: rest => spelling.bracketed? (some target) rest

end Spelling

/-! # Filters -/

/-- The filter of some directives; without any, errors are shown. -/
def Filter.ofDirectives (directives : List Directive) : Filter :=
  if directives.isEmpty then ⟨[⟨none, none, none, some .error⟩]⟩ else ⟨directives⟩

/-- The filter that a text spells out; malformed directives do not count. -/
def Filter.parse (text : String) : Filter :=
  .ofDirectives <| (Text.splitOn ',' text.toList).filterMap fun part =>
    (Spelling.ofText part).directive?

namespace Directive

/-- Whether a directive asks nothing but what a line on its own can meet. -/
def holdsOutsideSpans (directive : Directive) : Bool :=
  directive.span.isNone && !directive.field.any Field.hasValue

/-- Whether a directive speaks of the lines of a target. -/
def speaksOf (directive : Directive) (target : List Char) : Bool :=
  directive.holdsOutsideSpans && directive.target.all (·.isPrefixOf target)

/--
Whether a directive is at least as special as another one for the same lines: by
the length of its target, then by its field.
-/
def isAtLeast (next known : Directive) : Bool :=
  let length (directive : Directive) : Nat :=
    (directive.target.map fun target => target.length + 1).getD 0
  if length next ≠ length known then length known < length next
  else
    match next.field, known.field with
    | _, none => true
    | none, some _ => false
    | some field, some other => other.name ≤ field.name

end Directive

/-- The directive that counts for a target. -/
def Filter.directive? (filter : Filter) (target : List Char) : Option Directive :=
  (filter.directives.filter (·.speaksOf target)).foldl (fun known next =>
    if known.all next.isAtLeast then some next else known) none

/-- What is shown of the lines of a target. -/
def Filter.threshold (filter : Filter) (target : String) : Threshold :=
  ((filter.directive? target.toList).map Directive.threshold).getD none

end Logging
end UpnpAv
