import UpnpAv.Pipeline.Catalog
import UpnpAv.Player.Basic

/-!
# Starting a player from a catalog
-/

namespace UpnpAv

/-- What an attempt to start something on a pipeline leads to. -/
structure Started (P ε α : Type) where
  result : Except ε α
  /-- The pipeline that was created, in the state in which the attempt left it. -/
  pipeline : Option P
  lines : List Line

namespace Player

variable {P : Type} [Pipeline P]

/-- A player on a chosen pipeline. -/
def ofSelection (selection : Selection P) (settings : OutputSettings) : Player P :=
  .around selection.pipeline selection.mediaTypes settings

/--
Choose a pipeline and start a player on it.  Answers the name of the output and
the player.
-/
def start (catalog : Catalog P) (name : Option String) (settings : OutputSettings) :
    Started P Error (String × Player P) :=
  let choice := catalog.select name settings
  match choice.result with
  | .error e => ⟨.error e, choice.created.head?.map Prod.snd, choice.lines⟩
  | .ok selection =>
      let done := launch selection.name settings (ofSelection selection settings)
      ⟨done.result.map fun () => (selection.name, done.state), some done.state.pipeline,
        choice.lines ++ done.lines⟩

end Player
end UpnpAv
