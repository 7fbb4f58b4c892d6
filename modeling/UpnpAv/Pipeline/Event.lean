/-!
# Events of a media pipeline

A pipeline reports what happens to it through a channel.  The channel has any
number of senders and one reader, who may go away.
-/

namespace UpnpAv
namespace Pipeline

/-- The phases of a pipeline. -/
inductive Phase where
  | null
  | ready
  | paused
  | playing
deriving Repr, DecidableEq

/-- The name of a phase. -/
def Phase.name : Phase -> String
  | null => "NULL"
  | ready => "READY"
  | paused => "PAUSED"
  | playing => "PLAYING"

/-- What a pipeline reports. -/
inductive Event where
  /-- The stream was played to its end. -/
  | endOfStream
  /-- The stream is close to its end; the next one can be queued. -/
  | aboutToFinish
  | error (message : String) (details : Option String)
  | phaseChanged (old new : Phase)
  /-- Tags found in the stream, as pairs of name and value. -/
  | tags (batch : List (String × String))
  /-- How full the buffer is; a full buffer has one hundred percent. -/
  | buffering (percent : Nat)
deriving Repr, DecidableEq

/-- A channel of events. -/
structure Channel where
  senders : Nat
  isRead : Bool
  queued : List Event
deriving Repr, DecidableEq

namespace Channel

/-- A channel with one sender and a reader. -/
def new : Channel :=
  ⟨1, true, []⟩

/-- Send an event.  Answers whether anybody can read it. -/
def send (channel : Channel) (event : Event) : Bool × Channel :=
  if channel.isRead then
    (true, { channel with queued := channel.queued ++ [event] })
  else (false, channel)

/-- Add one more sender. -/
def clone (channel : Channel) : Channel :=
  { channel with senders := channel.senders + 1 }

/-- Take all events that wait. -/
def receive (channel : Channel) : List Event × Channel :=
  (channel.queued, { channel with queued := [] })

/-- The reader goes away, and with it the events that wait. -/
def close (channel : Channel) : Channel :=
  { channel with isRead := false, queued := [] }

end Channel
end Pipeline
end UpnpAv
