import Armada.Auth.Requests
import Armada.Properties.OptimalRoute
import Armada.Properties.ReorderPhases
import Armada.Properties.TwoOptDescent
import Armada.Routes.Recommendation

/-!
# A recommended route can be selected

Whichever optimiser runs, its order is a rearrangement of the waypoints that begins with
the first one. That is what the validator of a selection asks for. So a selection stores the
recommended sequence, if the distance and the duration that come with it fit their columns.
-/

namespace Armada

open Relational Concurrency
open Auth (UuidSpelling)

/-! ## The order of the optimiser -/

/-- The order begins with the waypoint that the list begins with. -/
theorem head?_waypointsIn {waypoints : List Waypoint} {order : List Nat}
    (first : ∀ head ∈ order.head?, head = 0) (visits : order.Perm (List.range waypoints.length)) :
    (waypointsIn waypoints order).head? = waypoints.head? := by
  cases waypoints with
  | nil =>
      have empty : order = [] := by simpa using visits
      rw [empty]
      rfl
  | cons origin waypoints =>
      cases order with
      | nil => simpa using visits.length_eq
      | cons head order =>
          obtain rfl : head = 0 := first head rfl
          rfl

namespace RouteOptimizerService

variable {waypoints : List Waypoint}

open ExhaustivePermutation in
/-- The exhaustive search answers an admissible order. -/
theorem solveExhaustivePermutation_visits (distancesMeters durationsSeconds : EntryMatrix)
    (several : 1 < waypoints.length) :
    ∃ order, Admissible waypoints.length true order ∧
      (solveExhaustivePermutation waypoints distancesMeters durationsSeconds true).sequenceMap =
        sequenceMap (waypointsIn waypoints order) := by
  obtain ⟨order, found, admissible, _⟩ := search_minimal waypoints distancesMeters
    durationsSeconds true (by omega)
  refine ⟨order, admissible, ?_⟩
  rw [solveExhaustivePermutation, if_neg (by omega), found]
  rfl

open NearestNeighbor2Opt in
/-- So does the heuristic. -/
theorem solveNearestNeighbor2Opt_visits (distancesMeters durationsSeconds : EntryMatrix)
    (maxIterations improvementThreshold : Rat) (several : 1 < waypoints.length) :
    ∃ order, ExhaustivePermutation.Admissible waypoints.length true order ∧
      (solveNearestNeighbor2Opt waypoints distancesMeters durationsSeconds true maxIterations
        improvementThreshold).sequenceMap = sequenceMap (waypointsIn waypoints order) := by
  have occupied : 0 < waypoints.length := by omega
  obtain ⟨_, tour, swaps, final, _⟩ := exists_swaps waypoints distancesMeters durationsSeconds true
    maxIterations improvementThreshold occupied
  have booked := swaps.booked occupied
  refine ⟨tour, ⟨booked.visits, fun _ head isHead => ?_⟩, ?_⟩
  · -- no swap moves the origin that the construction starts from
    have start : [0] <+: constructed waypoints distancesMeters durationsSeconds :=
      prefix_construct _ _
    have kept : tour.take 1 = [0] :=
      booked.anchored.trans (List.prefix_iff_eq_take.mp start).symm
    cases tour with
    | nil => cases isHead
    | cons first rest =>
        obtain rfl : first = head := Option.some.inj isHead
        exact List.head_eq_of_cons_eq kept
  · rw [solveNearestNeighbor2Opt, if_neg (by omega)]
    dsimp only
    rw [show (if true = true then 1 else 0) = firstIdx true from rfl, final]
    rfl

/-- The optimised sequence numbers a rearrangement of the waypoints. -/
theorem optimizeRoute_visits (service : RoutingService) (waypoints : List Waypoint)
    (preferredProvider : Option PreferredProvider) :
    ∃ ordered : List Waypoint, ordered.Perm waypoints ∧ ordered.head? = waypoints.head? ∧
      (optimizeRoute service waypoints preferredProvider true).sequenceMap =
        sequenceMap ordered := by
  rw [optimizeRoute]
  split
  · exact ⟨waypoints, .refl _, rfl, rfl⟩
  · rename_i several
    have solved : ∃ order, ExhaustivePermutation.Admissible waypoints.length true order ∧
        (solve waypoints (service.getDistanceMatrix waypoints preferredProvider)
          true).sequenceMap = sequenceMap (waypointsIn waypoints order) := by
      rw [solve]
      split
      · exact solveExhaustivePermutation_visits _ _ (by omega)
      · exact solveNearestNeighbor2Opt_visits _ _ _ _ (by omega)
    obtain ⟨order, ⟨visits, first⟩, sequence⟩ := solved
    exact ⟨waypointsIn waypoints order, waypointsIn_perm visits,
      head?_waypointsIn (first rfl) visits, sequence⟩

end RouteOptimizerService

namespace RoutesDomainService

variable [UuidSpelling]

/-- Equal texts are of equal ids. -/
theorem text_injective {left right : Uuid} (same : UuidSpelling.text left = UuidSpelling.text right) :
    left = right := by
  have parsed := congrArg UuidText.parse same
  rw [UuidSpelling.parse_text, UuidSpelling.parse_text] at parsed
  exact Option.some.inj parsed

/-- A recommended sequence: every stop once, numbered from 1, the first stop first. -/
structure Recommends (stops : List DeliveryStop) (sequence : List RecommendedStop) : Prop where
  visits : (sequence.map RecommendedStop.deliveryStopId).Perm
    ((stops.map DeliveryStop.id).map UuidSpelling.text)
  nodup : (sequence.map RecommendedStop.deliveryStopId).Nodup
  numbers : sequence.map RecommendedStop.sequence = List.range' 1 stops.length
  first : sequence.head?.map RecommendedStop.deliveryStopId =
    stops.head?.map fun stop => UuidSpelling.text stop.id

/-- The recommended stops are the ordered waypoints. -/
theorem map_deliveryStopId_recommendedSequence (stops : List DeliveryStop)
    (ordered : List Waypoint) :
    (recommendedSequence stops (sequenceMap ordered)).map RecommendedStop.deliveryStopId =
      ordered.map Waypoint.id := by
  simp only [recommendedSequence, sequenceMap, List.map_map]
  refine List.ext_getElem (by simp) fun index _ _ => ?_
  simp

/-- Their sequence counts from 1. -/
theorem map_sequence_recommendedSequence (stops : List DeliveryStop) (ordered : List Waypoint) :
    (recommendedSequence stops (sequenceMap ordered)).map RecommendedStop.sequence =
      List.range' 1 ordered.length := by
  simp only [recommendedSequence, sequenceMap, List.map_map]
  refine List.ext_getElem (by simp) fun index _ _ => ?_
  simp [Nat.add_comm]

/-- Whatever the provider answers, the recommended sequence visits the stops. -/
theorem recommends_recommendedRoute (service : RoutingService) (delivery : Delivery)
    (stops : List DeliveryStop) (provider : Option PreferredProvider)
    (nodup : (stops.map DeliveryStop.id).Nodup) :
    Recommends stops (recommendedRoute delivery stops (RouteOptimizerService.optimizeRoute service
      (stops.map waypoint) provider true)).recommendedSequence := by
  obtain ⟨ordered, visits, first, sequence⟩ :=
    RouteOptimizerService.optimizeRoute_visits service (stops.map waypoint) provider
  have ids : (stops.map waypoint).map Waypoint.id =
      (stops.map DeliveryStop.id).map UuidSpelling.text := by
    rw [List.map_map, List.map_map]
    rfl
  have permuted := visits.map Waypoint.id
  rw [recommendedRoute, sequence]
  constructor
  · rwa [map_deliveryStopId_recommendedSequence, ← ids]
  · rw [map_deliveryStopId_recommendedSequence, permuted.nodup_iff, ids]
    exact nodup.map fun _ _ => text_injective
  · rw [map_sequence_recommendedSequence, visits.length_eq, List.length_map]
  · rw [← List.head?_map, map_deliveryStopId_recommendedSequence, List.head?_map, first,
      List.head?_map, Option.map_map]
    rfl

/-! ## Running alone -/

variable {supplied : Input → Prop} {before after : Db} {deliveryId : IdText} {actor : RouteActor}
  {service : RoutingService} {provider : Option PreferredProvider}

/-- A recommendation that returns has the delivery's stops in some order. -/
theorem recommendRoute_returns {route : RecommendedRoute}
    (returned : (recommendRoute service deliveryId provider actor).Returns supplied before route
      after) :
    Recommends (snapshot before deliveryId) route.recommendedSequence ∧ after = before := by
  obtain ⟨⟨delivery, stops⟩, _, accessed, rest⟩ := Proc.returns_bind.mp returned
  obtain ⟨_, rfl, _, rfl⟩ := verifyDeliveryAccess_returns accessed
  obtain ⟨_, _, operational, rest⟩ := Proc.returns_bind.mp rest
  obtain ⟨_, rfl⟩ := Proc.returns_rejectIf.mp operational
  obtain ⟨_, _, limited, rest⟩ := Proc.returns_bind.mp rest
  obtain rfl := enforceRouteRateLimit_returns limited
  obtain ⟨_, _, occupied, rest⟩ := Proc.returns_bind.mp rest
  obtain ⟨_, rfl⟩ := Proc.returns_rejectIf.mp occupied
  obtain ⟨rfl, rfl⟩ := Proc.returns_pure.mp rest
  refine ⟨recommends_recommendedRoute service delivery _ provider ?_, rfl⟩
  exact ((snapshot_perm after deliveryId).map _).nodup_iff.mpr (nodup_stopsOf after deliveryId)

/-- For a running delivery and an authorized actor it does not throw. -/
theorem recommendRoute_not_throws {delivery : Delivery} {error : Exception}
    (present : before.delivery? deliveryId = some delivery) (authorized : Authorized actor delivery)
    (running : delivery.status ∉ terminalDeliveryStatuses)
    (occupied : before.stopsOf deliveryId ≠ []) (healthy : Healthy supplied)
    (within : WithinRate supplied) :
    ¬(recommendRoute service deliveryId provider actor).Throws supplied before error after := by
  intro thrown
  rcases Proc.throws_bind.mp thrown with failed | ⟨⟨found, stops⟩, _, accessed, rest⟩
  · exact verifyDeliveryAccess_throws present authorized failed healthy
  obtain ⟨there, rfl, _, rfl⟩ := verifyDeliveryAccess_returns accessed
  obtain rfl : delivery = found := Option.some.inj (present.symm.trans there)
  rcases Proc.throws_bind.mp rest with failed | ⟨_, _, operational, rest⟩
  · exact running (Proc.throws_rejectIf.mp failed).1
  obtain ⟨_, rfl⟩ := Proc.returns_rejectIf.mp operational
  rcases Proc.throws_bind.mp rest with failed | ⟨_, _, limited, rest⟩
  · exact enforceRouteRateLimit_throws failed within
  obtain rfl := enforceRouteRateLimit_returns limited
  rcases Proc.throws_bind.mp rest with failed | ⟨_, _, checked, impossible⟩
  · exact snapshot_ne_nil occupied (Proc.throws_rejectIf.mp failed).1
  · exact Proc.throws_pure impossible

/-- The ids that the environment generates are not in use. -/
def Fresh (supplied : Input → Prop) (db : Db) : Prop :=
  ∀ input, supplied input →
    db.routes.find? input.uuid = none ∧ ∀ row ∈ db.routeStops, row.routeId ≠ input.uuid

/-- A selection has added a route, and the recommended sequence as its stops. -/
def Stores (sequence : List RecommendedStop) (deliveryId : Uuid) (before : Db)
    (body : ResponseBody) (after : Db) : Prop :=
  ∃ routeId version rows, body.route? = some (routeId, deliveryId, version) ∧
    after.routeStops = before.routeStops ++ rows ∧ (∀ row ∈ rows, row.routeId = routeId) ∧
    rows.map (fun row => (UuidSpelling.text row.deliveryStopId, row.sequence)) =
      sequence.map fun stop => (stop.deliveryStopId, (stop.sequence : Int))

/-- A traversal of the recommended stops is stored. -/
theorem Stores.of_traverses {stops : List DeliveryStop} {sequence : List RecommendedStop}
    {stopIds : List Uuid} {body : ResponseBody} (recommends : Recommends stops sequence)
    (passed : stopIds.map UuidSpelling.text = sequence.map RecommendedStop.deliveryStopId)
    (traverses : Traverses deliveryId (numbered stopIds) before body after) :
    Stores sequence deliveryId before body after := by
  obtain ⟨routeId, version, reported, added⟩ := traverses
  refine ⟨routeId, version, _, reported, added, ?_, ?_⟩
  · intro row member
    obtain ⟨stop, _, rfl⟩ := List.mem_map.mp member
    rfl
  · have long : stopIds.length = stops.length := by
      have visited := recommends.visits.length_eq
      rwa [← passed, List.length_map, List.length_map, List.length_map] at visited
    calc (routeStopsOf routeId (numbered stopIds)).map
          (fun row => (UuidSpelling.text row.deliveryStopId, row.sequence))
        = ((numbered stopIds).map (UuidSpelling.text ∘ Prod.fst)).zip
            ((numbered stopIds).map Prod.snd) := by
          rw [List.zip_map', routeStopsOf, List.map_map]
          rfl
      _ = (stopIds.map UuidSpelling.text).zip
            ((List.range' 1 stopIds.length).map fun index : Nat => (index : Int)) := by
          rw [map_snd_numbered, ← List.map_map, map_fst_numbered]
      _ = sequence.map fun stop => (stop.deliveryStopId, (stop.sequence : Int)) := by
          rw [passed, long, ← recommends.numbers, List.map_map, List.zip_map']
          rfl

/-- A recommended list of ids is complete. -/
theorem Recommends.valid {sequence : List RecommendedStop} {stopIds : List Uuid}
    (recommends : Recommends (snapshot before deliveryId) sequence)
    (occupied : before.stopsOf deliveryId ≠ [])
    (passed : stopIds.map UuidSpelling.text = sequence.map RecommendedStop.deliveryStopId) :
    Valid ((snapshot before deliveryId).map DeliveryStop.id) stopIds none := by
  have nodup := ((snapshot_perm before deliveryId).map DeliveryStop.id).nodup_iff.mpr
    (nodup_stopsOf before deliveryId)
  refine ⟨(hasExactIds_iff nodup ?_).mpr ?_, by simp⟩
  · simpa using snapshot_ne_nil occupied
  · have visits := recommends.visits
    rw [← passed] at visits
    exact (List.map_perm_map_iff fun _ _ => text_injective).mp visits

end RoutesDomainService

open RoutesDomainService

/-- For every delivery that has stops and is not in a terminal state, every actor who may
work on it and every answer of the providers: within the rate limit a recommendation is
returned and changes nothing; it lists every stop once, numbered from 1, the first stop
first. With its ids, and a key that is fresh or missing, the same actor's selection on any
later state with the same delivery and the same stops succeeds and stores the recommended ids
with the recommended sequence numbers, exactly if its distance and its duration fit their
columns, unless the environment makes a call fail. -/
theorem recommended_route_selectable [UuidSpelling] (service : RoutingService) (before : Db)
    (deliveryId : IdText) (delivery : Delivery) (provider : Option PreferredProvider)
    (actor : RouteActor) (present : before.delivery? deliveryId = some delivery)
    (running : delivery.status ∉ terminalDeliveryStatuses)
    (occupied : before.stopsOf deliveryId ≠ [])
    (authorized : RoutesDomainService.Authorized actor delivery) :
    (∀ supplied result after, Healthy supplied → WithinRate supplied →
      (recommendRoute service deliveryId provider actor).Runs supplied before result after →
        (∃ route, result = .ok route) ∧ after = before) ∧
    ∀ supplied route after,
      (recommendRoute service deliveryId provider actor).Returns supplied before route after →
        Recommends (snapshot before deliveryId) route.recommendedSequence ∧
        ∀ (later : Db) (dto : SelectRouteDto),
          later.delivery? deliveryId = before.delivery? deliveryId →
          later.stopsOf deliveryId = before.stopsOf deliveryId →
          dto.recommendedSequence.map UuidSpelling.text =
            route.recommendedSequence.map RecommendedStop.deliveryStopId →
          later.stored (recordKey selectEndpoint actor dto.idempotencyKey) = none →
          ∀ supplied result after, Healthy supplied → WithinRate supplied → Fresh supplied later →
            (selectRoute deliveryId dto actor).Runs supplied later result after →
              ((∃ body, result = .ok (.fresh body) ∧
                Stores route.recommendedSequence deliveryId later body after) ↔
                Prisma.Route.Storable dto.totalDistanceMeters dto.estimatedDurationSeconds) := by
  refine ⟨fun supplied result after healthy within runs => ?_,
    fun supplied route after returned => ?_⟩
  · cases result with
    | error error =>
        exact absurd runs
          (recommendRoute_not_throws present authorized running occupied healthy within)
    | ok route => exact ⟨⟨route, rfl⟩, (recommendRoute_returns runs).2⟩
  · obtain ⟨recommends, _⟩ := recommendRoute_returns returned
    refine ⟨recommends, fun later dto sameDelivery sameStops passed unstored supplied result after
      healthy within fresh runs => ⟨?_, fun storable => ?_⟩⟩
    · rintro ⟨body, rfl, _⟩
      exact selectRoute_storable runs
    have same : snapshot later deliveryId = snapshot before deliveryId := by
      rw [snapshot, sameStops, ← snapshot]
    rw [← same] at recommends
    have valid := recommends.valid (sameStops ▸ occupied) passed
    have recordable : Recordable supplied deliveryId dto.totalDistanceMeters
        dto.estimatedDurationSeconds (numbered dto.recommendedSequence) later :=
      { delivery := ⟨delivery, sameDelivery.trans present⟩
        storable
        ids := by
          rw [map_fst_numbered]
          have nodup := recommends.nodup
          rw [← passed] at nodup
          exact nodup.of_map _
        sequences := nodup_snd_numbered _
        routes := fun input given => (fresh input given).1
        routeStops := fun input given => (fresh input given).2 }
    obtain ⟨body, rfl, traverses⟩ := selectRoute_runs (sameDelivery.trans present) authorized
      running healthy within valid unstored recordable runs
    exact ⟨body, rfl, .of_traverses recommends passed traverses⟩

namespace Recommended

local instance : UuidSpelling := Auth.unarySpelling

def delivery : Delivery := { id := 1, deliveryCode := "D-1", createdBy := 9 }

def db : Db where
  deliveries := Table.empty.insert delivery
  deliveryStops :=
    ((Table.empty.insert { id := 2, deliveryId := 1, sequence := 1 }).insert
      { id := 3, deliveryId := 1, sequence := 2 }).insert { id := 4, deliveryId := 1, sequence := 3 }

/-- The second stop is far from the first one and near to the third. -/
def entries : EntryMatrix := fun i j =>
  .number <| match min i j, max i j with
    | 0, 1 => 9
    | 0, 2 => 2
    | 1, 2 => 1
    | _, _ => 0

/-- OSRM is down, and the geometry lookup fails. -/
def service : RoutingService where
  osrmDistanceMatrix _ := none
  osrmRouteGeometry _ := none
  haversineDistanceMatrix _ := ⟨entries, entries, .haversineFallback⟩
  haversineRouteGeometry _ := none

def actor : RouteActor := { userId := 9, role := .owner }

def dto : SelectRouteDto :=
  { source := .recommended2opt, recommendedSequence := [2, 4, 3], totalDistanceMeters := 3,
    estimatedDurationSeconds := 3 }

def Given (input : Input) : Prop := input = { uuid := 5 }

/-- The example's processes run so. -/
theorem runs {α : Type} (process : Proc store α) :
    process.Runs Given db (process.run (fun _ _ => { uuid := 5 }) db).1
      (process.run (fun _ _ => { uuid := 5 }) db).2 := by
  refine process.runs_run _ (fun _ _ => ?_) db
  exact (rfl : ({ uuid := 5 } : Input) = _)

/-- The third stop is recommended second, and the recommendation is selected. -/
theorem recommended_route_selectable_here : ∃ route body after,
    (recommendRoute service 1 none actor).Returns Given db route db ∧
      route.recommendedSequence.map RecommendedStop.deliveryStopId = ["111", "11111", "1111"] ∧
      (selectRoute 1 dto actor).Returns Given db (.fresh body) after ∧
      Stores route.recommendedSequence 1 db body after := by
  obtain ⟨recommends, selects⟩ := recommended_route_selectable service db 1 delivery none actor
    rfl (by decide) (by decide) ⟨by decide, by decide⟩
  have healthy : Healthy Given := fun input given => by rw [given]
  have within : WithinRate Given := fun input given => by rw [given]; decide
  have ran := runs (recommendRoute service 1 none actor)
  obtain ⟨⟨route, returned⟩, unchanged⟩ := recommends _ _ _ healthy within ran
  have ids : route.recommendedSequence.map RecommendedStop.deliveryStopId =
      ["111", "11111", "1111"] := by
    have computed : ((recommendRoute service 1 none actor).run (fun _ _ => { uuid := 5 }) db).1.map
        (fun route => route.recommendedSequence.map RecommendedStop.deliveryStopId) =
          .ok ["111", "11111", "1111"] := by decide +kernel
    rw [returned] at computed
    exact Except.ok.inj computed
  rw [returned, unchanged] at ran
  have selected := runs (selectRoute 1 dto actor)
  have storable : Prisma.Route.Storable dto.totalDistanceMeters dto.estimatedDurationSeconds :=
    ⟨⟨3, by decide +kernel⟩, 3, by decide⟩
  obtain ⟨body, done, stores⟩ := ((selects _ _ _ ran).2 db dto rfl rfl ids.symm rfl _ _ _ healthy
    within (fun input given => by rw [given]; exact ⟨rfl, by decide⟩) selected).mpr storable
  rw [done] at selected
  exact ⟨route, body, _, ran, ids, selected, stores⟩

/-! ### A distance that is not stored -/

/-- A provider for which all stops are ten million kilometres apart. -/
def farService : RoutingService where
  osrmDistanceMatrix _ := none
  osrmRouteGeometry _ := none
  haversineDistanceMatrix _ :=
    ⟨fun _ _ => .number (10 ^ 10), fun _ _ => .number 1, .haversineFallback⟩
  haversineRouteGeometry _ := none

/-- The selection of what is then recommended, with the distance of the recommendation. -/
def farDto : SelectRouteDto :=
  { source := .recommended2opt, recommendedSequence := [2, 3, 4],
    totalDistanceMeters := 2 * 10 ^ 10, estimatedDurationSeconds := 2 }

/-- Not every recommendation can be selected with its distance and its duration. -/
theorem recommended_route_refused :
    ¬∀ (service : RoutingService) (before : Db) (deliveryId : IdText) (delivery : Delivery)
      (provider : Option PreferredProvider) (actor : RouteActor),
      before.delivery? deliveryId = some delivery → delivery.status ∉ terminalDeliveryStatuses →
        before.stopsOf deliveryId ≠ [] → RoutesDomainService.Authorized actor delivery →
        ∀ supplied route after,
          (recommendRoute service deliveryId provider actor).Returns supplied before route after →
          ∀ dto : SelectRouteDto,
            dto.recommendedSequence.map UuidSpelling.text =
              route.recommendedSequence.map RecommendedStop.deliveryStopId →
            dto.totalDistanceMeters = route.totalDistanceMeters →
            dto.estimatedDurationSeconds = route.estimatedDurationSeconds →
            before.stored (recordKey selectEndpoint actor dto.idempotencyKey) = none →
            ∀ supplied result after, Healthy supplied → WithinRate supplied →
              Fresh supplied before →
              (selectRoute deliveryId dto actor).Runs supplied before result after →
                ∃ body, result = .ok (.fresh body) := by
  intro claimed
  have healthy : Healthy Given := fun input given => by rw [given]
  have within : WithinRate Given := fun input given => by rw [given]; decide
  have ran := runs (recommendRoute farService 1 none actor)
  have computed : ((recommendRoute farService 1 none actor).run (fun _ _ => { uuid := 5 }) db).1.map
      (fun route => (route.recommendedSequence.map RecommendedStop.deliveryStopId,
        route.totalDistanceMeters, route.estimatedDurationSeconds)) =
        .ok (["111", "1111", "11111"], 2 * 10 ^ 10, 2) := by decide +kernel
  cases returned : ((recommendRoute farService 1 none actor).run
      (fun _ _ => { uuid := 5 }) db).1 with
  | error error =>
      rw [returned] at computed
      cases computed
  | ok route =>
      rw [returned] at computed ran
      obtain ⟨ids, distance, duration⟩ : route.recommendedSequence.map
          RecommendedStop.deliveryStopId = ["111", "1111", "11111"] ∧
            route.totalDistanceMeters = 2 * 10 ^ 10 ∧ route.estimatedDurationSeconds = 2 := by
        simpa [Except.map] using computed
      obtain ⟨body, accepted⟩ := claimed farService db 1 delivery none actor rfl (by decide)
        (by decide) ⟨by decide, by decide⟩ _ _ _ ran farDto ids.symm distance.symm duration.symm rfl
        _ _ _ healthy within (fun input given => by rw [given]; exact ⟨rfl, by decide⟩)
        (runs (selectRoute 1 farDto actor))
      have refused : ((selectRoute 1 farDto actor).run (fun _ _ => { uuid := 5 }) db).1 =
          .error (.prisma .unknownRequest) := by decide +kernel
      cases refused.symm.trans accepted

end Recommended

end Armada
