import UpnpAv.Pipeline.Output
import UpnpAv.Player.Error
import UpnpAv.Text.Quoted

/-!
# Catalogs of pipelines

A catalog names the pipelines that can be created.  Choosing one creates it,
prepares it and asks it once for its media types; no other entry is touched.
Whatever is created is recorded, as exchanges are with a traced pipeline.
-/

namespace UpnpAv

/-- A pipeline that can be created, with its name. -/
structure CatalogEntry (P : Type) where
  name : String
  description : String
  /-- The pipeline as it is when just created. -/
  fresh : P

/-- The pipelines that can be created; the first is the default. -/
structure Catalog (P : Type) where
  entries : List (CatalogEntry P)

/-- A chosen pipeline, prepared for use. -/
structure Selection (P : Type) where
  name : String
  description : String
  pipeline : P
  mediaTypes : StringSet

/-- What a choice leads to; the state of its act are the pipelines that were created. -/
abbrev Choice (P : Type) : Type :=
  Outcome (List (Nat × P)) Player.Error (Selection P)

variable {P : Type}

/-- Every pipeline that was created, as the choice left it, with the place of its entry. -/
def Choice.created (choice : Choice P) : List (Nat × P) :=
  choice.state

/--
Create the pipeline of the entry at a place and carry out an act on it.  It is
recorded behind those created before, in the state in which the act leaves it.
-/
def CatalogEntry.making {ε α : Type} (entry : CatalogEntry P) (place : Nat)
    (use : Act P ε α) : Act (List (Nat × P)) ε (P × α) := fun created =>
  let done := use entry.fresh
  ⟨done.result.map fun a => (done.state, a), created ++ [(place, done.state)], done.lines⟩

namespace Catalog

/-- The catalog that comes with the library. -/
def builtIn : Catalog Pipeline.Output :=
  ⟨[⟨"null", "Null output, discards media", .silent .fresh⟩]⟩

/-- The catalog whose pipelines record what they are asked. -/
def traced (catalog : Catalog P) : Catalog (Pipeline.Traced P) :=
  ⟨catalog.entries.map fun entry =>
    ⟨entry.name, entry.description, .ofPipeline entry.fresh⟩⟩

/-- One line per entry; the default is marked. -/
def lines (catalog : Catalog P) : List String :=
  catalog.entries.zipIdx.map fun (entry, place) =>
    s!"{entry.name} - {entry.description}" ++ if place = 0 then " (default)" else ""

/-- The entry that a name stands for, with its place; without a name, the first entry. -/
def find (catalog : Catalog P) : Option String -> Except Player.Error (Nat × CatalogEntry P)
  | none =>
      match catalog.entries with
      | [] => .error .noOutput
      | first :: _ => .ok (0, first)
  | some name =>
      match catalog.entries.zipIdx.find? fun (entry, _) => entry.name == name with
      | none => .error (.unknownOutput name)
      | some (entry, place) => .ok (place, entry)

variable [Pipeline P]

/-- Prepare a pipeline and ask it for its media types. -/
def ready : Act P Failure StringSet := do
  Pipeline.perform .prepare
  Pipeline.mediaTypes.safely

/-- Create the pipeline of the entry at a place and make it ready. -/
def create (place : Nat) (entry : CatalogEntry P) :
    Act (List (Nat × P)) Player.Error (Selection P) := do
  let (pipeline, types) ← entry.making place (ready.mapError .pipeline)
  Act.log (.info s!"Using output '{entry.name}' ({types.size} MIME types)")
  pure ⟨entry.name, entry.description, pipeline, types⟩

/-- Choose a pipeline by name, or the default. -/
def choose (catalog : Catalog P) (name : Option String) (settings : OutputSettings) :
    Act (List (Nat × P)) Player.Error (Selection P) := do
  Act.ofExcept (settings.validate.mapError .settings)
  let (place, entry) ← Act.ofExcept (catalog.find name)
  create place entry

/-- Choose a pipeline when none was created yet. -/
def select (catalog : Catalog P) (name : Option String) (settings : OutputSettings) :
    Choice P :=
  catalog.choose name settings []

/-- Texts with commas between them. -/
def listed (texts : List String) : String :=
  String.intercalate ", " texts

/-- The text that describes a catalog. -/
def describe (catalog : Catalog P) : String :=
  "BackendRegistry \x7b entries: [" ++
    listed (catalog.entries.map fun entry =>
      "BackendEntry \x7b name: " ++ Text.quoted entry.name ++ ", description: " ++
        Text.quoted entry.description ++ " \x7d") ++
    "] \x7d"

end Catalog

/-- The text that describes a selection. -/
def Selection.describe {P : Type} (selection : Selection P) : String :=
  "SelectedBackend \x7b name: " ++ Text.quoted selection.name ++
    ", capabilities: Capabilities \x7b mime_types: \x7b" ++
    Catalog.listed (selection.mediaTypes.toList.map Text.quoted) ++
    "\x7d \x7d \x7d"

end UpnpAv
