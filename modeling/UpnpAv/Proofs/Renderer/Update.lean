import UpnpAv.Proofs.Service.Update
import UpnpAv.Renderer.Basic

/-!
# Updates and the delivery of their documents

Whoever receives a document may stay apart from the renderer, and change only
its own state.  Then an update comes to what it makes of the service, whatever
is done with its documents.
-/

namespace UpnpAv
namespace Renderer

variable {P X ε α : Type}

/-!
# Staying apart
-/

/-- An act that changes nothing but the state of whoever listens. -/
def IsApart (m : Act (Renderer P X) ε α) : Prop :=
  forall renderer, exists ambient, (m renderer).state = { renderer with ambient := ambient }

theorem each_apart (members : List α) {f : α -> Act (Renderer P X) ε Unit}
    (hmembers : forall a, a ∈ members -> IsApart (f a)) : IsApart (Act.each f members) := by
  intro renderer
  refine Act.each_keeps
    (P := fun reached => exists ambient, reached = { renderer with ambient := ambient })
    ?_ renderer ⟨renderer.ambient, rfl⟩
  rintro a ha reached ⟨ambient, rfl⟩
  exact hmembers a ha _

/-- A receiver that stays apart and adds each document to a record that it keeps. -/
structure Records (deliver : Receiver P X) (record : X -> List Delivery) : Prop where
  apart : forall delivery, IsApart (deliver delivery)
  adds : forall delivery renderer,
    record (deliver delivery renderer).state.ambient = record renderer.ambient ++ [delivery]

theorem record_each {deliver : Receiver P X} {record : X -> List Delivery}
    (hrecords : Records deliver record) (deliveries : List Delivery) :
    forall renderer,
      record (Act.each deliver deliveries renderer).state.ambient =
        record renderer.ambient ++ deliveries := by
  induction deliveries with
  | nil =>
      intro renderer
      exact (List.append_nil _).symm
  | cons delivery rest ih =>
      intro renderer
      rcases Act.exists_ok (deliver delivery) renderer with ⟨done, hdone⟩
      rw [Act.each_cons, Act.bind_state, hdone]
      show record (Act.each deliver rest (deliver delivery renderer).state).state.ambient = _
      rw [ih, hrecords.adds, List.append_assoc]
      rfl

/-!
# Updates
-/

theorem exists_updated (body : Act Service Error α) (service : Service) :
    exists result deliveries,
      ((Service.update body : Act Service Error _) service).result = .ok (result, deliveries) := by
  cases heventing : service.eventing with
  | none =>
      rw [Service.update, Act.bind_result]
      simp only [Act.read_apply, heventing]
      exact ⟨_, _, rfl⟩
  | some eventing =>
      exact ⟨_, _, Service.update_result body heventing⟩

theorem service_withService (name : ServiceName) (service : Service) (renderer : Renderer P X) :
    (renderer.withService name service).service name = service := by
  cases name <;> rfl

theorem player_withService (name : ServiceName) (service : Service) (renderer : Renderer P X) :
    (renderer.withService name service).player = renderer.player := by
  cases name <;> rfl

section

variable {deliver : Receiver P X} (name : ServiceName) {renderer : Renderer P X}
  {body : Act Service Error Unit}

/-- An update hands the documents of the service to the receiver when it is over. -/
theorem update_state {α : Type} {body : Act Service Error α} {result : Except Error α}
    {deliveries : List Delivery}
    (hresult : ((Service.update body : Act Service Error _) (renderer.service name)).result =
      .ok (result, deliveries)) :
    (update deliver name body renderer).state =
      (Act.each deliver deliveries
        (renderer.withService name
          ((Service.update body : Act Service Error _) (renderer.service name)).state)).state := by
  have hservice : (onService name (Service.update body) renderer).result =
      .ok (result, deliveries) := hresult
  rcases Act.safely_ok (ε := Error) (Act.each deliver deliveries)
    (onService (ε := Error) name (Service.update body) renderer).state with ⟨done, hdone⟩
  rw [update, Act.bind_state, hservice]
  simp only [Act.bind_state]
  rw [hdone]
  rfl

/-- Handing out the documents cannot fail, so an update ends as it does for the service. -/
theorem update_result {α : Type} {body : Act Service Error α} {result : Except Error α}
    {deliveries : List Delivery}
    (hresult : ((Service.update body : Act Service Error _) (renderer.service name)).result =
      .ok (result, deliveries)) :
    (update deliver name body renderer).result = result := by
  have hservice : (onService name (Service.update body) renderer).result =
      .ok (result, deliveries) := hresult
  rcases Act.safely_ok (ε := Error) (Act.each deliver deliveries)
    (onService (ε := Error) name (Service.update body) renderer).state with ⟨done, hdone⟩
  rw [update, Act.bind_result, hservice]
  simp only [Act.bind_result]
  rw [hdone]
  rfl

/-- An update changes nothing but its service and the state of whoever listens. -/
theorem exists_update_state {α : Type} (hapart : forall delivery, IsApart (deliver delivery))
    (body : Act Service Error α) (renderer : Renderer P X) :
    exists service ambient,
      (update deliver name body renderer).state =
        { renderer.withService name service with ambient := ambient } := by
  rcases exists_updated body (renderer.service name) with ⟨result, deliveries, hupdated⟩
  rcases each_apart deliveries (fun delivery _ => hapart delivery)
    (renderer.withService name
      ((Service.update body : Act Service Error _) (renderer.service name)).state) with
    ⟨ambient, hstate⟩
  exact ⟨_, ambient, (update_state name hupdated).trans hstate⟩

theorem update_service (hapart : forall delivery, IsApart (deliver delivery))
    {other : ServiceName} (hname : other ≠ name) (body : Act Service Error Unit)
    (renderer : Renderer P X) :
    (update deliver name body renderer).state.service other = renderer.service other := by
  rcases exists_update_state name hapart body renderer with ⟨service, ambient, hstate⟩
  rw [hstate]
  cases other <;> cases name <;> first | rfl | exact absurd rfl hname

/-- What becomes of a service and of a record depends on nothing else of a renderer. -/
theorem update_recorded {record : X -> List Delivery} (hrecords : Records deliver record)
    {result : Except Error Unit} {deliveries : List Delivery}
    (hresult : ((Service.update body : Act Service Error _) (renderer.service name)).result =
      .ok (result, deliveries)) :
    exists ambient,
      record ambient = record renderer.ambient ++ deliveries ∧
      (update deliver name body renderer).state =
        { renderer.withService name
            ((Service.update body : Act Service Error _) (renderer.service name)).state with
          ambient := ambient } := by
  have hambient : (renderer.withService name
      ((Service.update body : Act Service Error _) (renderer.service name)).state).ambient =
        renderer.ambient := by
    cases name <;> rfl
  rcases each_apart deliveries (fun delivery _ => hrecords.apart delivery)
    (renderer.withService name
      ((Service.update body : Act Service Error _) (renderer.service name)).state) with
    ⟨ambient, hstate⟩
  have hrecord := record_each hrecords deliveries (renderer.withService name
    ((Service.update body : Act Service Error _) (renderer.service name)).state)
  rw [hstate, hambient] at hrecord
  refine ⟨ambient, hrecord, ?_⟩
  rw [update_state name hresult, hstate]

end

end Renderer
end UpnpAv
