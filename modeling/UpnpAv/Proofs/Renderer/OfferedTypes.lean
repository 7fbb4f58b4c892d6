import UpnpAv.Proofs.MediaType.Advertised
import UpnpAv.Proofs.Renderer.Settled
import UpnpAv.Proofs.Text.StringSet

/-!
# The types that a renderer offers

A renderer that was just built publishes the widened types of its pipeline that the
filter of its settings allows.  From what it publishes they can be read back.
-/

namespace UpnpAv
namespace Renderer

open MediaType (CommaFree offeredTypes)

variable {P X : Type}

/-- The types of the pipeline with their further names. -/
def supported (renderer : Renderer P X) : StringSet :=
  MediaType.augment renderer.player.mediaTypes

/-- The filter that settings spell out; without one every type is kept. -/
def filterOf (settings : RendererSettings) : MediaType.Filter :=
  .parse (settings.mediaTypes.getD "")

section

variable [Pipeline P]

/-- A renderer that was built from settings, around a player or on an output of a catalog. -/
inductive Built (settings : RendererSettings) : Renderer P X -> Prop where
  | assembled {player : Player P} {ambient : X} {renderer : Renderer P X}
      (hassemble : assemble settings player ambient = .ok renderer) : Built settings renderer
  | started {catalog : Catalog P} {ambient : X} {renderer : Renderer P X}
      (hstart : (start catalog settings ambient).result = .ok renderer) : Built settings renderer

/-!
# What is published
-/

theorem get?_connectionValues (types : StringSet) :
    ((StateTable.ofVariables ConnectionVariable.declared).writtenAll
        (connectionValues types)).get? ConnectionVariable.sinkProtocolInfo.id =
      some (MediaType.protocolInfo types) := by
  rw [connectionValues]
  by_cases hnone : types.isEmpty = true
  · have hempty : MediaType.protocolInfo types = "" := by
      rw [MediaType.protocolInfo_eq_empty]
      intro type htype
      exact List.ne_nil_of_mem htype (List.isEmpty_iff.mp hnone)
    rw [if_pos hnone, hempty]
    rfl
  · rw [if_neg hnone, StateTable.writtenAll_cons, StateTable.writtenAll_nil,
      StateTable.get?_written_same]
    decide

theorem assembled_publishes {settings : RendererSettings} {player : Player P} {ambient : X}
    {renderer : Renderer P X} (hassemble : assemble settings player ambient = .ok renderer) :
    renderer.connectionManager.get? ConnectionVariable.sinkProtocolInfo.id =
      some (MediaType.protocolInfo
        (MediaType.advertised renderer.player.mediaTypes (filterOf settings))) := by
  rcases assemble_eq_ok hassemble with ⟨_, _, rendering, connection, _, hconnection, rfl⟩
  have htable := seeded_eq_writtenAll hconnection
  subst htable
  exact get?_connectionValues _

theorem around_ok {settings : RendererSettings} {ambient : X} {name : String}
    {started : Started P Player.Error (String × Player P)} {renderer : Renderer P X}
    (haround : (around settings started ambient).result = .ok (name, renderer)) :
    exists player, assemble settings player ambient = .ok renderer := by
  unfold around at haround
  split at haround
  · cases haround
  · next player _ =>
      split at haround
      · cases haround
      · next hassemble =>
          cases haround
          exact ⟨player, hassemble⟩

theorem start_ok {catalog : Catalog P} {settings : RendererSettings} {ambient : X}
    {renderer : Renderer P X} (hstart : (start catalog settings ambient).result = .ok renderer) :
    exists player assembled name,
      assemble settings player ambient = .ok assembled ∧
        renderer = { assembled with outputName := some name } := by
  unfold start at hstart
  split at hstart
  · cases hstart
  · simp only at hstart
    split at hstart
    · cases hstart
    · next name assembled haround =>
        cases hstart
        rcases around_ok haround with ⟨player, hassemble⟩
        exact ⟨player, assembled, name, hassemble, rfl⟩

theorem built_publishes {settings : RendererSettings} {renderer : Renderer P X}
    (hbuilt : Built settings renderer) :
    renderer.connectionManager.get? ConnectionVariable.sinkProtocolInfo.id =
      some (MediaType.protocolInfo
        (MediaType.advertised renderer.player.mediaTypes (filterOf settings))) := by
  cases hbuilt with
  | assembled hassemble =>
      exact assembled_publishes hassemble
  | started hstart =>
      rcases start_ok hstart with ⟨player, assembled, name, hassemble, rfl⟩
      have hassembled := assembled_publishes hassemble
      exact hassembled

/--
A renderer publishes nothing just if its filter allows none of the supported types.
Otherwise the published list is read back as the supported types that the filter
allows, each once and in the order of their bytes.  Widening by the further names
is a closure, and the order of the table of names does not matter.
-/
theorem built_offers_supported_types {settings : RendererSettings} {renderer : Renderer P X}
    (hbuilt : Built settings renderer) :
    (exists info,
      renderer.connectionManager.get? ConnectionVariable.sinkProtocolInfo.id = some info ∧
      (info = "" <->
        forall type, type ∈ supported renderer -> (filterOf settings).allows type = false) ∧
      (CommaFree renderer.player.mediaTypes -> info ≠ "" ->
        exists offered : List String,
          offeredTypes info = offered.map some ∧
          (forall type, type ∈ offered <->
            type ∈ supported renderer ∧ (filterOf settings).allows type = true) ∧
          offered.Pairwise fun earlier later => Text.bytes earlier < Text.bytes later)) ∧
    MediaType.IsClosure MediaType.augment ∧
    (forall table : List (String × List String), table.Perm MediaType.aliases ->
      forall types, table.foldl MediaType.widen types = MediaType.augment types) := by
  refine ⟨⟨_, built_publishes hbuilt, ?_, ?_⟩, MediaType.augment_isClosure,
    fun _ hperm => MediaType.augment_eq_of_perm hperm⟩
  · rw [MediaType.protocolInfo_eq_empty]
    simp only [MediaType.mem_advertised, not_and, Bool.not_eq_true]
    rfl
  · intro hcommas hsome
    have hoffered := MediaType.advertised_commaFree hcommas (filterOf settings)
    refine ⟨_, MediaType.offeredTypes_protocolInfo hoffered hsome, ?_, ?_⟩
    · intro type
      exact MediaType.mem_advertised
    · exact (StringSet.sorted _).imp Text.bytes_lt

/-- A renderer that leaves out one of the names that its pipeline is asked for. -/
theorem built_offers_supported_types_filtered :
    let settings : RendererSettings := ⟨none, some "audio,-audio/x-mpeg", .default⟩
    exists renderer : Renderer Pipeline.Scripted (List Delivery),
      Built settings renderer ∧ CommaFree renderer.player.mediaTypes ∧
      exists info,
        renderer.connectionManager.get? ConnectionVariable.sinkProtocolInfo.id = some info ∧
        info ≠ "" ∧
        exists offered : List String,
          offeredTypes info = offered.map some ∧ "audio/x-scpls" ∈ offered ∧
            "audio/x-mpeg" ∉ offered ∧ "video/mp4" ∉ offered := by
  intro settings
  let types := StringSet.ofList ["audio/mpeg", "video/mp4"]
  rcases exists_assemble (.around Pipeline.Scripted.willing types .default) rfl rfl settings
    ([] : List Delivery) with ⟨renderer, hassemble⟩
  have hplayer : renderer.player.mediaTypes = types := by
    rcases assemble_ok hassemble with ⟨_, _, _, rfl⟩
    rfl
  have hcommas : CommaFree renderer.player.mediaTypes := by
    rw [hplayer]
    unfold CommaFree
    intro type htype
    simp only [types, StringSet.mem_ofList, List.mem_cons, List.not_mem_nil, or_false] at htype
    rcases htype with rfl | rfl <;> decide
  have hsupported : supported renderer = MediaType.augment types :=
    congrArg MediaType.augment hplayer
  rcases built_offers_supported_types (.assembled hassemble) with
    ⟨⟨info, hinfo, hempty, hoffers⟩, _⟩
  rw [hsupported] at hempty hoffers
  have hsome : info ≠ "" := by
    intro hnone
    have hrefused := hempty.mp hnone "audio/mpeg" (by decide)
    revert hrefused
    decide
  rcases hoffers hcommas hsome with ⟨offered, hread, hmem, _⟩
  refine ⟨renderer, .assembled hassemble, hcommas, info, hinfo, hsome, offered, hread, ?_, ?_, ?_⟩
  · exact (hmem _).mpr (by decide)
  · intro hoffered
    have hallowed := ((hmem _).mp hoffered).2
    revert hallowed
    decide
  · intro hoffered
    have hallowed := ((hmem _).mp hoffered).2
    revert hallowed
    decide

end

end Renderer
end UpnpAv
