import UpnpAv.Act
import UpnpAv.Text.StringSet

/-!
# Media pipelines

A pipeline decodes and renders media.  It is a state that takes commands and
answers queries; each of them may fail.  A traced pipeline also records what it
was asked.
-/

namespace UpnpAv

/-- What a pipeline says about a failure. -/
structure Failure where
  text : String
deriving Repr, DecidableEq

namespace Pipeline

/-- What a pipeline can be told to do. -/
inductive Command where
  | prepare
  | load (uri : String)
  | play
  | pause
  /-- Stop playback and go back to the ready phase. -/
  | stop
  /-- Go to a position in nanoseconds. -/
  | seek (position : Int)
  | setVolume (volume : Float32)
  | setMute (mute : Bool)

/-- The times a pipeline can be asked for, in nanoseconds. -/
inductive Query where
  | duration
  | position
deriving Repr, DecidableEq

end Pipeline

/-- The states of a pipeline and what happens to them. -/
class Pipeline (P : Type) where
  /-- Carry out a command. -/
  perform : Pipeline.Command -> Act P Failure Unit
  /-- Answer a query. -/
  ask : Pipeline.Query -> Act P Failure Int
  /-- The media types that can be rendered. -/
  mediaTypes : Act P Empty StringSet
  volume : P -> Except Failure Float32
  mute : P -> Except Failure Bool

namespace Pipeline

/-! # Traces -/

/-- One thing that a pipeline was asked, with the essence of its answer. -/
inductive Exchange where
  | command (told : Command) (accepted : Bool)
  | query (asked : Query) (answer : Option Int)
  | mediaTypes

/-- Whether an exchange was a question for the media types. -/
def Exchange.asksForTypes : Exchange -> Bool
  | mediaTypes => true
  | _ => false

/-- A pipeline with the record of its exchanges, the earliest first. -/
structure Traced (P : Type) where
  pipeline : P
  trace : List Exchange

namespace Traced

variable {P ε α : Type}

/-- A pipeline that was not asked anything yet. -/
def ofPipeline (pipeline : P) : Traced P :=
  ⟨pipeline, []⟩

/-- Carry out an act on the pipeline and record an exchange that fits its result. -/
def recording (exchange : Except ε α -> Exchange) (m : Act P ε α) : Act (Traced P) ε α :=
  fun traced =>
    let done := m traced.pipeline
    ⟨done.result, ⟨done.state, traced.trace ++ [exchange done.result]⟩, done.lines⟩

instance [Pipeline P] : Pipeline (Traced P) where
  perform told := recording (fun result => .command told result.isOk) (perform told)
  ask asked := recording (fun result => .query asked result.toOption) (ask asked)
  mediaTypes := recording (fun _ => .mediaTypes) mediaTypes
  volume traced := volume traced.pipeline
  mute traced := mute traced.pipeline

end Traced
end Pipeline
end UpnpAv
