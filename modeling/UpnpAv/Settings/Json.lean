import UpnpAv.Clock
import UpnpAv.JsonText.Record
import UpnpAv.JsonText.Written
import UpnpAv.Renderer.Error
import UpnpAv.Settings.Renderer

/-!
# Settings as JSON

Settings that a text leaves out keep their defaults.
-/

namespace UpnpAv

open JsonText (Form Reader Record Written)

/-! # Lengths of time -/

/-- The parts of a length of time that were read. -/
structure Duration where
  seconds : Option Nat
  nanoseconds : Option Nat
deriving Repr, DecidableEq

namespace Duration

/-- A length of time in nanoseconds; the whole seconds must fit 64 bits. -/
def total (form : Form) (known : Duration) : Except JsonText.Error Nat := do
  let seconds ← JsonText.required form "secs" "struct Duration" known.seconds
  let nanoseconds ← JsonText.required form "nanos" "struct Duration" known.nanoseconds
  let total := seconds * Clock.second + nanoseconds
  if total / Clock.second < Nat.pow 2 64 then pure total else throw .durationOverflow

/-- How a length of time is read. -/
def record : Record Duration Nat where
  name := "Duration"
  blank := ⟨none, none⟩
  fields :=
    [ .of "secs" Duration.seconds (fun value known => { known with seconds := some value })
        Reader.nat64,
      .of "nanos" Duration.nanoseconds
        (fun value known => { known with nanoseconds := some value }) Reader.nat32 ]
  isStrict := true
  finish := total

/-- A length of time, written. -/
def written (total : Nat) : Written :=
  .object
    [("secs", .int (total / Clock.second : Nat)), ("nanos", .int (total % Clock.second : Nat))]

end Duration

/-! # Settings of an output -/

namespace OutputSettings

/-- The settings of an output that were read. -/
structure Known where
  buffer : Option Nat
  decibels : Option Float
  audioSink : Option (Option String)
  audioDevice : Option (Option String)
  audioPipe : Option (Option String)
  videoSink : Option (Option String)

/-- The known settings, with defaults in place of the others. -/
def ofKnown (known : Known) : OutputSettings where
  buffer := known.buffer.getD default.buffer
  decibels := known.decibels.getD default.decibels
  audioSink := known.audioSink.getD default.audioSink
  audioDevice := known.audioDevice.getD default.audioDevice
  audioPipe := known.audioPipe.getD default.audioPipe
  videoSink := known.videoSink.getD default.videoSink

/-- How the settings of an output are read. -/
def record : Record Known OutputSettings where
  name := "OutputConfig"
  blank := ⟨none, none, none, none, none, none⟩
  fields :=
    [ .of "buffer_duration" Known.buffer (fun value known => { known with buffer := some value })
        (Reader.record Duration.record),
      .of "initial_volume_db" Known.decibels
        (fun value known => { known with decibels := some value }) Reader.float,
      .of "audio_sink" Known.audioSink (fun value known => { known with audioSink := some value })
        (Reader.optional Reader.text),
      .of "audio_device" Known.audioDevice
        (fun value known => { known with audioDevice := some value }) (Reader.optional Reader.text),
      .of "audio_pipe" Known.audioPipe (fun value known => { known with audioPipe := some value })
        (Reader.optional Reader.text),
      .of "video_sink" Known.videoSink (fun value known => { known with videoSink := some value })
        (Reader.optional Reader.text) ]
  isStrict := false
  finish _ known := pure (ofKnown known)

/-- The settings of an output, written. -/
def written (settings : OutputSettings) : Written :=
  .object
    [ ("buffer_duration", Duration.written settings.buffer),
      ("initial_volume_db", .float settings.decibels),
      ("audio_sink", .optional .text settings.audioSink),
      ("audio_device", .optional .text settings.audioDevice),
      ("audio_pipe", .optional .text settings.audioPipe),
      ("video_sink", .optional .text settings.videoSink) ]

/-- The settings that a JSON text spells out; they may have flaws. -/
def ofJson (text : String) : Except JsonText.Error OutputSettings :=
  (Reader.record record).run text

/-- The settings as a JSON text. -/
def toJson (settings : OutputSettings) : String :=
  String.ofList settings.written

end OutputSettings

/-! # Settings of a renderer -/

namespace RendererSettings

/-- The settings of a renderer that were read. -/
structure Known where
  output : Option (Option String)
  mediaTypes : Option (Option String)
  outputSettings : Option OutputSettings

/-- The known settings, with defaults in place of the others. -/
def ofKnown (known : Known) : RendererSettings where
  output := known.output.getD default.output
  mediaTypes := known.mediaTypes.getD default.mediaTypes
  outputSettings := known.outputSettings.getD default.outputSettings

/-- How the settings of a renderer are read. -/
def record : Record Known RendererSettings where
  name := "RendererConfig"
  blank := ⟨none, none, none⟩
  fields :=
    [ .of "output" Known.output (fun value known => { known with output := some value })
        (Reader.optional Reader.text),
      .of "mime_filter" Known.mediaTypes
        (fun value known => { known with mediaTypes := some value }) (Reader.optional Reader.text),
      .of "output_config" Known.outputSettings
        (fun value known => { known with outputSettings := some value })
        (Reader.record OutputSettings.record) ]
  isStrict := false
  finish _ known := pure (ofKnown known)

/-- The settings of a renderer, written. -/
def written (settings : RendererSettings) : Written :=
  .object
    [ ("output", .optional .text settings.output),
      ("mime_filter", .optional .text settings.mediaTypes),
      ("output_config", settings.outputSettings.written) ]

/-- The settings that a JSON text spells out, if they have no flaw. -/
def ofJson (text : String) : Except Renderer.Error RendererSettings := do
  let settings ← ((Reader.record record).run text).mapError .json
  settings.validate.mapError .ofFlaw
  pure settings

/-- The settings as a JSON text. -/
def toJson (settings : RendererSettings) : String :=
  String.ofList settings.written

end RendererSettings
end UpnpAv
