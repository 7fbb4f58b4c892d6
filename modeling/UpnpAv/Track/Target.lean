/-!
# Current and queued media locators
-/

namespace UpnpAv

/-- What is played and what is queued behind it; an empty text stands for nothing. -/
structure Target where
  uri : String
  nextUri : String
deriving Repr, DecidableEq

namespace Target

/-- Nothing to play and nothing queued. -/
def none : Target :=
  ⟨"", ""⟩

/-- Move the queued locator up.  Answers it, or nothing when none is queued. -/
def advance (target : Target) : Option String × Target :=
  if target.nextUri = "" then (Option.none, target)
  else (some target.nextUri, ⟨target.nextUri, ""⟩)

theorem advance_of_empty {target : Target} (empty : target.nextUri = "") :
    target.advance = (Option.none, target) := by
  simp [advance, empty]

theorem advance_of_queued {target : Target} (queued : target.nextUri ≠ "") :
    target.advance = (some target.nextUri, ⟨target.nextUri, ""⟩) := by
  simp [advance, queued]

end Target
end UpnpAv
