/-!
# Patterns of field values

A filter may ask for the value of a field by a regular expression.  A pattern
is refused when its groups or classes are not closed, or when an operator has
nothing to repeat.
-/

namespace UpnpAv
namespace Logging
namespace Pattern

/-- Where a place in a pattern lies. -/
inductive Place where
  /-- Outside of classes; whether there is something to repeat. -/
  | plain (repeatable : Bool)
  /-- In a class, before its first character. -/
  | classStart
  /-- In a class, with a number of classes around it. -/
  | inClass (around : Nat)
  /-- Behind a backslash, after which reading goes on as in a place outside or in a class. -/
  | escaped (around : Option Nat)
deriving Repr, DecidableEq

/-- The number of open groups, and the place. -/
structure State where
  groups : Nat
  place : Place
deriving Repr, DecidableEq

/-- The state after one more character outside of classes. -/
def stepPlain (groups : Nat) (repeatable : Bool) (c : Char) : Option State :=
  if c = '\\' then some ⟨groups, .escaped none⟩
  else if c = '(' then some ⟨groups + 1, .plain false⟩
  else if c = ')' then if groups = 0 then none else some ⟨groups - 1, .plain true⟩
  else if c = '|' then some ⟨groups, .plain false⟩
  else if c = '[' then some ⟨groups, .classStart⟩
  else if c = '\x7b' then none
  else if c = '*' || c = '+' || c = '?' then
    if repeatable then some ⟨groups, .plain true⟩ else none
  else some ⟨groups, .plain true⟩

/-- The state after one more character in a class. -/
def stepClass (groups around : Nat) (c : Char) : State :=
  if c = '\\' then ⟨groups, .escaped (some around)⟩
  else if c = '[' then ⟨groups, .inClass (around + 1)⟩
  else if c = ']' then
    match around with
    | 0 => ⟨groups, .plain true⟩
    | outer + 1 => ⟨groups, .inClass outer⟩
  else ⟨groups, .inClass around⟩

/-- The state after one more character. -/
def step (state : State) (c : Char) : Option State :=
  match state.place with
  | .plain repeatable => stepPlain state.groups repeatable c
  | .classStart =>
      if c = '^' then some state
      else if c = ']' then some ⟨state.groups, .inClass 0⟩
      else some (stepClass state.groups 0 c)
  | .inClass around => some (stepClass state.groups around c)
  | .escaped none => some ⟨state.groups, .plain true⟩
  | .escaped (some around) => some ⟨state.groups, .inClass around⟩

/-- Whether a pattern may end in a state. -/
def State.isFinal (state : State) : Bool :=
  match state.place with
  | .plain _ => state.groups == 0
  | _ => false

/-- Whether a text is a pattern. -/
def isWellFormed (text : List Char) : Bool :=
  (text.foldlM step ⟨0, .plain false⟩).any State.isFinal

end Pattern
end Logging
end UpnpAv
