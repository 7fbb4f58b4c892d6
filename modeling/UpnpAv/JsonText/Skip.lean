import UpnpAv.JsonText.Token

/-!
# Skipping a value

A value that nobody asked for is only checked for its form.  Lists and objects
around the present place are kept on a stack, so one pass over the tokens is
enough.
-/

namespace UpnpAv
namespace JsonText
namespace Skip

/-- What surrounds a place. -/
inductive Frame where
  | list
  | object
deriving Repr, DecidableEq

/-- What may stand at a place. -/
inductive Place where
  | value
  /-- A member, or the end of what was just opened. -/
  | opened (frame : Frame)
  /-- A comma, or the end of what is open. -/
  | after (frame : Frame)
  | key
  | colon
  /-- Nothing more: the value is complete. -/
  | finished
deriving Repr, DecidableEq

/-- A place and what is open there, the innermost first. -/
structure State where
  opened : List Frame
  place : Place
deriving Repr, DecidableEq

namespace State

/-- The state before a value. -/
def start : State :=
  ⟨[], .value⟩

/-- The state after a value. -/
def valueDone (opened : List Frame) : State :=
  match opened with
  | [] => ⟨[], .finished⟩
  | frame :: _ => ⟨opened, .after frame⟩

/-- The innermost list or object ends. -/
def close (state : State) : State :=
  valueDone (state.opened.drop 1)

/-- A list or object begins. -/
def enter (frame : Frame) (state : State) : State :=
  ⟨frame :: state.opened, .opened frame⟩

/-- A number is refused whatever is wrong with it. -/
def numberDone (state : State) : Except Malformed Numeral -> Except Error State
  | .ok _ => .ok (valueDone state.opened)
  | .error _ => .error .badNumber

/-- A token where a value is wanted. -/
def acceptValue (state : State) : Token -> Except Error State
  | .word word => word.map fun _ => valueDone state.opened
  | .number _ numeral => state.numberDone numeral
  | .string _ skipped => skipped.map fun _ => valueDone state.opened
  | .beginList => .ok (state.enter .list)
  | .beginObject => .ok (state.enter .object)
  | _ => .error .expectedValue

/-- A token where a key is wanted. -/
def acceptKey (state : State) : Token -> Except Error State
  | .string _ skipped => skipped.map fun _ => ⟨state.opened, .colon⟩
  | _ => .error .keyNotString

/-- The state after one more token. -/
def accept (state : State) (token : Token) : Except Error State :=
  match state.place, token with
  | .finished, _ => .ok state
  | .value, token => state.acceptValue token
  | .opened .list, .endList => .ok state.close
  | .opened .list, token => state.acceptValue token
  | .opened .object, .endObject => .ok state.close
  | .opened .object, token => state.acceptKey token
  | .after .list, .endList => .ok state.close
  | .after .list, .comma => .ok ⟨state.opened, .value⟩
  | .after .list, _ => .error .expectedListEnd
  | .after .object, .endObject => .ok state.close
  | .after .object, .comma => .ok ⟨state.opened, .key⟩
  | .after .object, _ => .error .expectedObjectEnd
  | .key, token => state.acceptKey token
  | .colon, .colon => .ok ⟨state.opened, .value⟩
  | .colon, _ => .error .expectedColon

/-- The reason when the text breaks off. -/
def brokenOff (state : State) : Error :=
  match state.place with
  | .opened .list => .endInList
  | .after .list => .endInList
  | .opened .object => .endInObject
  | .after .object => .endInObject
  | .key => .endInObject
  | .colon => .endInObject
  | .value => .endInValue
  | .finished => .endInValue

end State

/-- Skip the rest of a value.  Answers the tokens behind it. -/
def rest (state : State) : List Token -> Except Error (List Token)
  | [] => if state.place = .finished then .ok [] else .error state.brokenOff
  | token :: tokens =>
      if state.place = .finished then .ok (token :: tokens)
      else
        match state.accept token with
        | .error e => .error e
        | .ok next => rest next tokens

theorem rest_length {state : State} {tokens left : List Token}
    (done : rest state tokens = .ok left) : left.length ≤ tokens.length := by
  induction tokens generalizing state with
  | nil =>
      unfold rest at done
      split at done
      · cases done
        exact Nat.le_refl _
      · cases done
  | cons token tokens ih =>
      unfold rest at done
      split at done
      · cases done
        exact Nat.le_refl _
      · split at done
        · cases done
        · exact Nat.le_succ_of_le (ih done)

end Skip
end JsonText
end UpnpAv
