import UpnpAv.Pipeline.Scripted
import UpnpAv.Pipeline.Silent

/-!
# The pipelines there are
-/

namespace UpnpAv
namespace Pipeline

/-- A pipeline of any kind. -/
inductive Output where
  | scripted (script : Scripted)
  | silent (silent : Silent)

namespace Output

variable {ε α : Type}

/-- Carry out the act for the kind of pipeline at hand. -/
def byKind (scripted : Act Scripted ε α) (silent : Act Silent ε α) : Act Output ε α
  | .scripted script =>
      let done := scripted script
      ⟨done.result, .scripted done.state, done.lines⟩
  | .silent quiet =>
      let done := silent quiet
      ⟨done.result, .silent done.state, done.lines⟩

instance : Pipeline Output where
  perform command := byKind (perform command) (perform command)
  ask query := byKind (ask query) (ask query)
  mediaTypes := byKind mediaTypes mediaTypes
  volume
    | .scripted script => volume script
    | .silent quiet => volume quiet
  mute
    | .scripted script => mute script
    | .silent quiet => mute quiet

/-- Whether events of the pipeline reach anybody. -/
def reports : Output -> Bool
  | .scripted script => script.reports
  | .silent quiet => quiet.channel.isSome

/-- Change the script of a scripted pipeline. -/
def edit (change : Scripted.Edit) : Output -> Output
  | .scripted script => .scripted (script.edit change)
  | .silent quiet => .silent quiet

/-- Take the events that wait to be read. -/
def receive : Output -> List Event
  | .scripted _ => []
  | .silent quiet => quiet.receive.1

end Output
end Pipeline
end UpnpAv
