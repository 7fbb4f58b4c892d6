import UpnpAv.Pipeline.Event
import UpnpAv.Player.Basic

/-!
# What a player does about the events of its pipeline

An event changes the player first; what is to be announced about it is the
answer, so that listeners are called when the player is already in its new
state.  Failures of the pipeline on this way are logged and not reported.
-/

namespace UpnpAv

/-- What a player announces. -/
inductive Notice where
  | transition (transition : Transition)
  | metadata (tags : Metadata)
deriving Repr, DecidableEq

namespace Player

variable {P ε : Type}

/-- Move the queued locator up and answer it. -/
def advance : Act (Player P) ε (Option String) := do
  let player ← Act.read
  Act.modify fun player => { player with target := player.target.advance.2 }
  pure player.target.advance.1

/-- Merge a batch of tags; a change is announced. -/
def mergeTags (batch : List (String × String)) : Act (Player P) ε (Option Notice) := do
  let player ← Act.read
  let (tags, replaced) := player.metadata.merge batch
  Act.logAll (Metadata.mergeLines batch)
  Act.modify fun player => { player with metadata := tags }
  pure (if replaced then some (.metadata tags) else none)

variable [Pipeline P]

/-- The stream is close to its end: hand the queued one over. -/
def aboutToFinish : Act (Player P) ε Unit := do
  match ← advance with
  | none => Act.log (.debug "About to finish with no next uri queued")
  | some uri =>
      Act.log (.info s!"About to finish, queueing '{uri}'")
      forgetTiming
      match ← Act.attempt (onPipeline (Pipeline.perform (.load uri))) with
      | .ok () => pure ()
      | .error failure =>
          Act.log (.error s!"Failed to queue next uri '{uri}': {failure.text}")

/-- The stream ended: start the queued one, or stop. -/
def endOfStream : Act (Player P) ε Transition := do
  forgetTiming
  match ← advance with
  | none =>
      Act.log (.info "End of stream")
      enter .stopped
      pure .playbackStopped
  | some uri =>
      Act.log (.info s!"End of stream, starting next stream '{uri}'")
      match ← Act.attempt (onPipeline (loadAndPlay uri)) with
      | .ok () =>
          enter .playing
          pure .startedNextStream
      | .error failure =>
          Act.log (.error s!"Failed to start next stream '{uri}': {failure.text}")
          enter .stopped
          pure .playbackStopped

/-- The buffer runs low: pause until it is full. -/
def pauseForBuffering (percent : Nat) : Act (Player P) ε Unit := do
  Act.log (.debug s!"Buffering at {percent}%, pausing")
  match ← Act.attempt (onPipeline (Pipeline.perform .pause)) with
  | .ok () => enter (.paused .buffering)
  | .error failure => Act.log (.error s!"Failed to pause for buffering: {failure.text}")

/-- The buffer is full again: resume. -/
def resumeAfterBuffering : Act (Player P) ε Unit := do
  Act.log (.debug "Buffering complete, resuming")
  match ← Act.attempt (onPipeline (Pipeline.perform .play)) with
  | .ok () => enter .playing
  | .error failure => Act.log (.error s!"Failed to resume after buffering: {failure.text}")

/-- The buffer is filled up to a percentage. -/
def bufferAt (percent : Nat) : Act (Player P) ε Unit := do
  let player ← Act.read
  match player.buffering, player.state with
  | true, .playing => if percent < 100 then pauseForBuffering percent
  | true, .paused .buffering => if 100 ≤ percent then resumeAfterBuffering
  | _, _ => pure ()

/-- Take notice of an event.  The answer is what to announce. -/
def handle : Pipeline.Event -> Act (Player P) ε (Option Notice)
  | .aboutToFinish => do
      aboutToFinish
      pure none
  | .endOfStream => do
      let transition ← endOfStream
      pure (some (.transition transition))
  | .error message details => do
      let shown := details.getD "none"
      Act.log (.error s!"Backend error: {message} (debug: {shown})")
      pure none
  | .phaseChanged old new => do
      Act.log (.debug s!"Backend state changed {old.name} -> {new.name}")
      pure none
  | .buffering percent => do
      bufferAt percent
      pure none
  | .tags batch => mergeTags batch

end Player
end UpnpAv
