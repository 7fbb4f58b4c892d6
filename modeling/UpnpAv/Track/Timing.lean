/-!
# Duration and position of a track

Both are nanoseconds, and either may be unknown.
-/

namespace UpnpAv

/-- Duration and position of the current track. -/
structure Timing where
  duration : Option Int
  position : Option Int
  /-- Some value is an earlier answer, because the pipeline gave none. -/
  stale : Bool
deriving Repr, DecidableEq

namespace Timing

/-- Nothing is known yet. -/
def unknown : Timing :=
  ⟨none, none, false⟩

/-- A time that counts as known. -/
def known? (time : Int) : Option Int :=
  if 0 ≤ time then some time else none

/-- The timing that two answers of a pipeline give; a negative time is unknown. -/
def ofAnswers (duration position : Int) : Timing :=
  ⟨known? duration, known? position, false⟩

/-- The same values, marked as earlier answers. -/
def asStale (timing : Timing) : Timing :=
  { timing with stale := true }

end Timing
end UpnpAv
