import Armada.Properties.RouteHistory

/-!
# What the queries about routes show

A query reads the delivery and its stops in one call and the routes in another, while requests
select and reorder. What it answers is still one version of the delivery, complete, and no older
than those that were there when the run began.
-/

namespace Armada

open Relational Concurrency
open RoutesDomainService (places)

variable {start db : Db}

/-! ## The calls -/

/-- A join that keeps the item gives the items back. -/
theorem fst_of_mapM {α β : Type} {ε : Type} {join : α → Except ε (α × β)}
    (keeps : ∀ item pair, join item = .ok pair → pair.1 = item) {items : List α}
    {pairs : List (α × β)} (all : items.mapM join = .ok pairs) : pairs.map Prod.fst = items := by
  induction items generalizing pairs with
  | nil =>
      cases all
      rfl
  | cons item items inductionHypothesis =>
      simp only [List.mapM_cons, except_bind_ok] at all
      obtain ⟨pair, first, rest, others, made⟩ := all
      cases made
      rw [List.map_cons, keeps item pair first, inductionHypothesis others]

namespace Prisma.Route

/-- The joined pair is of the leg. -/
theorem withStop_fst {leg : Armada.RouteStop} {pair : Armada.RouteStop × Armada.DeliveryStop}
    (found : withStop db leg = .ok pair) : pair.1 = leg := by
  rw [withStop] at found
  split at found
  · cases found
    rfl
  · cases found

/-- Versions that count up are ordered down by reversing them. -/
theorem descending_eq (charted : db.Charted) (deliveryId : Uuid) :
    descending db deliveryId = (db.routesOf deliveryId).reverse := by
  have counted := charted.versions deliveryId
  have ascending : (db.routesOf deliveryId).Pairwise fun left right =>
      left.version < right.version := by
    refine List.pairwise_map.mp ?_
    rw [counted]
    exact List.pairwise_lt_range'
  have total : Std.Total fun left right : Armada.Route => right.version ≤ left.version :=
    ⟨fun left right => Nat.le_total right.version left.version⟩
  have transitive : IsTrans Armada.Route fun left right => right.version ≤ left.version :=
    ⟨fun _ _ _ first second => Nat.le_trans second first⟩
  have sorted := List.pairwise_insertionSort
    (fun left right : Armada.Route => right.version ≤ left.version) (db.routesOf deliveryId)
  have reversed : (db.routesOf deliveryId).reverse.Pairwise fun left right =>
      right.version ≤ left.version :=
    List.pairwise_reverse.mpr (ascending.imp Nat.le_of_lt)
  have permuted := (List.perm_insertionSort (fun left right : Armada.Route =>
    right.version ≤ left.version) (db.routesOf deliveryId)).trans (List.reverse_perm _).symm
  refine permuted.eq_of_pairwise (fun left right inLeft inRight below above => ?_) sorted reversed
  -- routes of one version are one route
  have distinct : ((db.routesOf deliveryId).map Armada.Route.version).Nodup := by
    rw [counted]
    exact List.nodup_range'
  exact List.inj_on_of_nodup_map distinct ((List.mem_insertionSort _).mp inLeft)
    (List.mem_reverse.mp inRight) (Nat.le_antisymm above below)

variable {input : Input} {deliveryId : Uuid} {writes : List Write}

/-- When the query of the versions succeeds, and what it finds. -/
theorem findVersions_succeeds {found : List Armada.Route} :
    (findVersions deliveryId).Succeeds input db found writes ↔
      input.fault = none ∧ descending db deliveryId = found ∧ writes = [] := by
  simp [findVersions, select_succeeds]

/-- What `findLatest` returns: the last route, with its own stops at the places 1, 2 and so on. -/
inductive Latest (deliveryId : Uuid) (db : Db) :
    Option (Armada.Route × List (Armada.RouteStop × Armada.DeliveryStop)) → Prop where
  | none (empty : db.routesOf deliveryId = []) : Latest deliveryId db none
  | some {route : Armada.Route} {routeStops : List (Armada.RouteStop × Armada.DeliveryStop)}
      (last : (db.routesOf deliveryId).getLast? = some route)
      (legs : (routeStops.map Prod.fst).Perm (db.legsOf route.id))
      (numbered : routeStops.map (fun leg => leg.1.sequence) = places routeStops.length) :
      Latest deliveryId db (some (route, routeStops))

/-- The query of the latest version answers the last route of the delivery with its own stops. -/
theorem findLatest_returns (charted : db.Charted)
    {latest : Option (Armada.Route × List (Armada.RouteStop × Armada.DeliveryStop))}
    (succeeded : (findLatest deliveryId).Succeeds input db latest writes) :
    Latest deliveryId db latest := by
  obtain ⟨_, read, _⟩ := select_succeeds.mp succeeded
  rw [descending_eq charted, List.head?_reverse] at read
  cases last : (db.routesOf deliveryId).getLast? with
  | none =>
      simp only [last] at read
      cases read
      exact .none (List.getLast?_eq_none_iff.mp last)
  | some route =>
      simp only [last, except_bind_ok] at read
      obtain ⟨routeStops, all, returned⟩ := read
      cases returned
      obtain ⟨member, owner⟩ := List.mem_filter.mp (List.mem_of_getLast? last)
      obtain rfl := of_decide_eq_true owner
      have legs := fst_of_mapM (fun leg pair => withStop_fst) all
      have permuted := List.perm_insertionSort
        (fun left right : Armada.RouteStop => left.sequence ≤ right.sequence) (db.legsOf route.id)
      rw [← legs] at permuted
      have placed := (permuted.map Armada.RouteStop.sequence).trans (charted.numbered route member)
      have visits := (permuted.map Armada.RouteStop.deliveryStopId).trans (charted.visits route member)
      rw [List.map_map] at visits placed
      refine .some last permuted ?_
      have long : routeStops.length = (db.stopIds route.deliveryId).length := by
        have same := visits.length_eq
        rwa [List.length_map] at same
      have sorted : (routeStops.map fun leg => leg.1.sequence).Pairwise (· ≤ ·) := by
        have total : Std.Total fun left right : Armada.RouteStop =>
          left.sequence ≤ right.sequence :=
          ⟨fun left right => Int.le_total left.sequence right.sequence⟩
        have transitive : IsTrans Armada.RouteStop fun left right =>
          left.sequence ≤ right.sequence :=
          ⟨fun _ _ _ => Int.le_trans⟩
        have ordered := List.pairwise_insertionSort (fun left right : Armada.RouteStop =>
          left.sequence ≤ right.sequence) (db.legsOf route.id)
        rw [← legs, List.pairwise_map] at ordered
        exact List.pairwise_map.mpr ordered
      rw [long]
      exact placed.eq_of_pairwise (fun _ _ _ _ => Int.le_antisymm) sorted
        (RoutesDomainService.places_sorted _)

end Prisma.Route

/-! ## The answers -/

/-- The answer while there is no version: the stops of the delivery alone. -/
structure CurrentRoute.Implicit (start db : Db) (shown : CurrentRoute) : Prop where
  present : db.delivery? shown.deliveryId ≠ none
  unversioned : start.routesOf shown.deliveryId = []
  nameless : shown.routeId = none ∧ shown.version = 0
  origin : ∃ routeMode, shown.source = .delivery routeMode
  untravelled : shown.totalDistanceMeters = 0 ∧ shown.estimatedDurationSeconds = 0
  visits : (shown.stops.map CurrentStop.deliveryStopId).Perm (db.stopIds shown.deliveryId)
  ordered : (shown.stops.map CurrentStop.sequence).Pairwise (· ≤ ·)

/-- The answer is a version of the delivery: its route, with the stops of that route and no
other, each at its own place, the places from 1 on. -/
structure CurrentRoute.Versioned (start db : Db) (shown : CurrentRoute) (route : Route) : Prop where
  present : db.delivery? shown.deliveryId ≠ none
  recent : (start.routesOf shown.deliveryId).length ≤ shown.version
  recorded : shown.version ≤ (db.routesOf shown.deliveryId).length
  isRoute : ((db.routesOf shown.deliveryId).take shown.version).getLast? = some route
  names : shown.routeId = some route.id ∧ shown.version = route.version
  origin : shown.source = .route route.source
  travelled : shown.totalDistanceMeters = route.totalDistanceM ∧
    shown.estimatedDurationSeconds = route.estimatedDurationS
  legs : (shown.stops.map fun stop => (stop.deliveryStopId, stop.sequence)).Perm
    ((db.legsOf route.id).map fun leg => (leg.deliveryStopId, leg.sequence))
  visits : (shown.stops.map CurrentStop.deliveryStopId).Perm (db.stopIds shown.deliveryId)
  numbered : shown.stops.map CurrentStop.sequence = places shown.stops.length

/-- The answer is one whole version of the delivery. -/
def CurrentRoute.Shows (start db : Db) (shown : CurrentRoute) : Prop :=
  shown.Implicit start db ∨ ∃ route, shown.Versioned start db route

/-- The answer is the history as far as it went, the latest version first, down to the first. -/
def RouteVersions.Shows (start db : Db) (shown : RouteVersions) : Prop :=
  ∃ count, (start.routesOf shown.deliveryId).length ≤ count ∧
    count ≤ (db.routesOf shown.deliveryId).length ∧ shown.versions =
      (((db.routesOf shown.deliveryId).take count).map RoutesDomainService.routeVersion).reverse ∧
    shown.versions.map RouteVersion.version = (List.range' 1 count).reverse

/-- The answer is one to the query. -/
def RouteQuery.Answered (start db : Db) : RouteQuery → RouteAnswer → Prop
  | .current deliveryId _, .current shown => shown.deliveryId = deliveryId ∧ shown.Shows start db
  | .versions deliveryId _, .versions shown => shown.deliveryId = deliveryId ∧ shown.Shows start db
  | _, _ => False

/-- What was a beginning of the history is one later. -/
theorem take_of_grown {α : Type} {before after : List α} (grows : before <+: after) {count : Nat}
    (within : count ≤ before.length) : after.take count = before.take count := by
  obtain ⟨rest, rfl⟩ := grows
  exact List.take_append_of_le_length within

/-- What an answer shows stays shown as routes are added. -/
theorem CurrentRoute.Shows.later {shown : CurrentRoute} {later : Db}
    (shows : shown.Shows start db) (charts : db.Charts later) : shown.Shows start later := by
  rcases shows with implicit | ⟨route, version⟩
  · obtain ⟨still, same⟩ := charts.stops _ implicit.present
    exact .inl { implicit with present := still, visits := same ▸ implicit.visits }
  · obtain ⟨still, same⟩ := charts.stops _ version.present
    have grows := charts.routes shown.deliveryId
    have member : route ∈ db.routes.rows :=
      List.mem_of_mem_filter (List.mem_of_mem_take (List.mem_of_getLast? version.isRoute))
    exact .inr ⟨route, { version with
      present := still
      recorded := version.recorded.trans grows.length_le
      isRoute := by
        rw [take_of_grown grows version.recorded]
        exact version.isRoute
      legs := charts.legs route member ▸ version.legs
      visits := same ▸ version.visits }⟩

/-- What a list of versions shows stays shown as routes are added. -/
theorem RouteVersions.Shows.later {shown : RouteVersions} {later : Db}
    (shows : shown.Shows start db) (charts : db.Charts later) : shown.Shows start later := by
  obtain ⟨count, recent, recorded, same, counted⟩ := shows
  have grows := charts.routes shown.deliveryId
  exact ⟨count, recent, recorded.trans grows.length_le,
    by rw [take_of_grown grows recorded]; exact same, counted⟩

/-- An answer stays the answer of its query. -/
theorem RouteQuery.Answered.later {query : RouteQuery} {answer : RouteAnswer} {later : Db}
    (answered : query.Answered start db answer) (charts : db.Charts later) :
    query.Answered start later answer := by
  cases query <;> cases answer <;>
    first
      | exact ⟨answered.1, answered.2.later charts⟩
      | exact answered

namespace RoutesDomainService

open Prisma.Route (Latest findLatest_returns findVersions_succeeds descending_eq)

/-- The discipline of a query: it writes nothing, and others keep the history. -/
abbrev Answers {α : Type} (start : Db) (process : Proc store α) (post : α → Db → Prop) (db : Db) :
    Prop :=
  process.Meets (.readCommitted (ChartsKept start) Charting fun _ _ => True)
    (OnResult post fun _ _ => True) db

/-- The delivery and stops that were read stay what they were. -/
theorem Surveyed.kept {deliveryId : Uuid} {found : Delivery × List DeliveryStop} {next : Db}
    (surveyed : Surveyed deliveryId found db) (kept : ChartsKept start [] db next) :
    Surveyed deliveryId found next :=
  ⟨surveyed.own, surveyed.itinerary.kept kept, surveyed.sorted⟩

/-- The answer without a route shows the delivery's stops in their order. -/
theorem withoutRoute_shows {deliveryId : Uuid} {delivery : Delivery} {stops : List DeliveryStop}
    (surveyed : Surveyed deliveryId (delivery, stops) db) (since : start.Charts db)
    (empty : db.routesOf deliveryId = []) : (withoutRoute delivery stops).Shows start db := by
  obtain ⟨rfl, ⟨present, visits⟩, sorted⟩ := surveyed
  refine .inl ⟨present, ?_, ⟨rfl, rfl⟩, ⟨_, rfl⟩, ⟨rfl, rfl⟩, ?_, ?_⟩
  · exact List.prefix_nil.mp (empty ▸ since.routes delivery.id)
  · rw [withoutRoute, List.map_map]
    exact visits
  · rw [withoutRoute, List.map_map]
    exact sorted

/-- The answer with a route shows that route and its own stops. -/
theorem ofLatestRoute_shows {route : Route} {routeStops : List (RouteStop × DeliveryStop)}
    (present : db.delivery? route.deliveryId ≠ none) (charted : db.Charted)
    (since : start.Charts db)
    (last : (db.routesOf route.deliveryId).getLast? = some route)
    (legs : (routeStops.map Prod.fst).Perm (db.legsOf route.id))
    (numbered : routeStops.map (fun leg => leg.1.sequence) = places routeStops.length) :
    (ofLatestRoute route routeStops).Shows start db := by
  have version : route.version = (db.routesOf route.deliveryId).length := by
    have same := congrArg List.getLast? (charted.versions route.deliveryId)
    rw [List.getLast?_map, last, List.getLast?_range'] at same
    split at same
    · cases same
    · simp only [Option.map_some, Option.some.injEq] at same
      omega
  have member : route ∈ db.routes.rows := List.mem_of_mem_filter (List.mem_of_getLast? last)
  refine .inr ⟨route, ?_⟩
  constructor
  case present => exact present
  case recent => exact (since.routes route.deliveryId).length_le.trans version.ge
  case recorded => exact version.le
  case isRoute =>
    change ((db.routesOf route.deliveryId).take route.version).getLast? = some route
    rw [version, List.take_length, last]
  case names => exact ⟨rfl, rfl⟩
  case origin => rfl
  case travelled => exact ⟨rfl, rfl⟩
  case legs =>
    have paired := legs.map fun leg => (leg.deliveryStopId, leg.sequence)
    rw [List.map_map] at paired
    rw [ofLatestRoute, List.map_map]
    exact paired
  case visits =>
    have visited := (legs.map RouteStop.deliveryStopId).trans (charted.visits route member)
    rw [List.map_map] at visited
    rw [ofLatestRoute, List.map_map]
    exact visited
  case numbered =>
    rw [ofLatestRoute, List.map_map, List.length_map]
    exact numbered

/-- The query of the current route answers what some state of its run shows. -/
theorem getCurrentRoute_answers (deliveryId : IdText) (actor : RouteActor) :
    Answers start (getCurrentRoute deliveryId actor)
      (fun shown db => shown.deliveryId = deliveryId ∧ shown.Shows start db) db := by
  refine (verifyDeliveryAccess_surveys deliveryId actor db).bind (fun _ _ _ => trivial)
    fun ⟨delivery, stops⟩ current surveyed => ?_
  refine Proc.Meets.bind (Q := OnResult (fun latest (state : Db) => Latest deliveryId state latest ∧
    Surveyed deliveryId (delivery, stops) state ∧ state.Charted ∧ start.Charts state)
    fun _ _ => True) (Tracks.reading (fun _ _ _ _ read => (select_succeeds.mp read).2.2)
      fun next kept => ⟨fun input latest succeeded => ?_, fun _ => trivial⟩)
    (fun _ _ _ => trivial) fun latest state read => ?_
  · exact ⟨findLatest_returns kept.charted succeeded, surveyed.kept kept,
      kept.charted, kept.since⟩
  · obtain ⟨shape, known, charted, since⟩ := read
    cases shape with
    | none empty => exact ⟨known.own, withoutRoute_shows known since empty⟩
    | @some route routeStops last legs numbered =>
        obtain ⟨_, owner⟩ := List.mem_filter.mp (List.mem_of_getLast? last)
        have own : route.deliveryId = deliveryId.uuid := of_decide_eq_true owner
        have present := known.itinerary.1
        rw [← own] at last present
        exact ⟨own, ofLatestRoute_shows present charted since last legs numbered⟩

/-- The query of the versions answers what some state of its run shows. -/
theorem getRouteVersions_answers (deliveryId : IdText) (actor : RouteActor) :
    Answers start (getRouteVersions deliveryId actor)
      (fun shown db => shown.deliveryId = deliveryId ∧ shown.Shows start db) db := by
  refine (verifyDeliveryAccess_surveys deliveryId actor db).bind (fun _ _ _ => trivial)
    fun _ current _ => ?_
  refine Proc.Meets.bind (Q := OnResult (fun routes (state : Db) =>
    routes = (state.routesOf deliveryId).reverse ∧ state.Charted ∧ start.Charts state)
      fun _ _ => True)
    (Tracks.reading (fun _ _ _ _ read => (findVersions_succeeds.mp read).2.2)
      fun next kept => ⟨fun input routes succeeded => ?_, fun _ => trivial⟩)
    (fun _ _ _ => trivial) fun routes state read => ?_
  · have read := (findVersions_succeeds.mp succeeded).2.1
    exact ⟨read.symm.trans (descending_eq kept.charted deliveryId), kept.charted, kept.since⟩
  · obtain ⟨rfl, charted, since⟩ := read
    refine ⟨rfl, (state.routesOf deliveryId).length, (since.routes deliveryId).length_le,
      le_rfl, ?_, ?_⟩
    · rw [List.take_length, List.map_reverse]
    · rw [← charted.versions deliveryId, List.map_reverse, List.map_reverse, List.map_map]
      rfl

end RoutesDomainService

/-- Every query answers so. -/
theorem RouteQuery.proc_answers (query : RouteQuery) :
    RoutesDomainService.Answers start query.proc
      (fun answer db => query.Answered start db answer) db := by
  cases query with
  | current deliveryId actor =>
      exact (Proc.meets_map _ _ _).mpr (RoutesDomainService.getCurrentRoute_answers deliveryId actor)
  | versions deliveryId actor =>
      exact (Proc.meets_map _ _ _).mpr (RoutesDomainService.getRouteVersions_answers deliveryId actor)

/-- A query writes nothing. -/
theorem RouteQuery.locking (query : RouteQuery) :
    query.proc.Every (Statement.Locking Write.lock) := by
  have selects : ∀ {β : Type} (body : Db → Except PrismaError β),
      (select body).Locking Write.lock := fun body =>
    (tidy_select : Tidy (fun _ _ => True) (select body)).locking
  have access : ∀ deliveryId actor, (RoutesDomainService.verifyDeliveryAccess deliveryId actor).Every
      (Statement.Locking Write.lock) := fun _ _ =>
    .bind (.statement (selects _)) fun _ => .bind (.require _ _) fun _ =>
      .bind (.rejectIf _ _) fun _ => .bind (.rejectIf _ _) fun _ => .pure _
  cases query with
  | current deliveryId actor =>
      refine .map _ ((access deliveryId actor).bind fun found => .bind (.statement (selects _))
        fun latest => ?_)
      cases latest <;> exact .pure _
  | versions deliveryId actor =>
      exact .map _ ((access deliveryId actor).bind fun _ => .bind (.statement (selects _)) fun _ =>
        .pure _)

/-! ## Runs -/

section Runs

variable [UuidText]

/-- Requests and queries that start together. -/
def withQueries (db : Db) (requests : List Request) (queries : List RouteQuery) :
    Pool store (Response ⊕ RouteAnswer) where
  state := db
  procs := requests.map (fun request => Sum.inl <$> request.proc) ++
    queries.map fun query => Sum.inr <$> query.proc

variable {requests : List Request} {queries : List RouteQuery} {supplied : Input → Prop}
  {trace : List (Commit store)} {system : System store (Response ⊕ RouteAnswer)}

/-- What the thread of a query owes. -/
def answersOf (start : Db) (requests : List Request) (queries : List RouteQuery) (thread : Nat) :
    Except Exception (Response ⊕ RouteAnswer) → Db → Prop
  | .ok (.inr answer), db => ∀ query, queries[thread - requests.length]? = some query →
      query.Answered start db answer
  | _, _ => True

/-- The writers and the queries together uphold the contract of the routes. -/
theorem withQueries_upheld (charted : db.Charted) :
    (routeContract db (answersOf db requests queries)).Upheld
      (System.ofPool (withQueries db requests queries)) := by
  refine System.Contract.upheld_ofPool ⟨charted, .refl db⟩ fun thread process found => ?_
  rw [withQueries, List.getElem?_append] at found
  split at found
  · rw [List.getElem?_map, Option.map_eq_some_iff] at found
    obtain ⟨request, _, rfl⟩ := found
    refine Proc.Meets.covered ((Proc.meets_map _ _ _).mpr ((request.tracks db).weaken
      fun result state _ => ?_)) (request.locking.map _)
    cases result <;> trivial
  · rw [List.length_map, List.getElem?_map, Option.map_eq_some_iff] at found
    obtain ⟨query, asked, rfl⟩ := found
    refine Proc.Meets.covered ((Proc.meets_map _ _ _).mpr ((query.proc_answers).weaken
      fun result state answered => ?_)) (query.locking.map _)
    cases result with
    | error error => trivial
    | ok answer =>
        intro other same
        rw [asked] at same
        cases same
        exact answered

/-- Whatever runs beside it, a query that ends well answers with a whole version of the delivery,
one that was there or one that has come since. -/
theorem route_queries_answered (charted : db.Charted)
    (steps : (System.ofPool (withQueries db requests queries)).Steps supplied trace system)
    {index : Nat} {query : RouteQuery} {answer : RouteAnswer} (asked : queries[index]? = some query)
    (ended : system.Ended (requests.length + index) (.ok (.inr answer))) :
    query.Answered db system.state answer := by
  have initially : db.Charted ∧ db.Charts db := ⟨charted, .refl db⟩
  obtain ⟨_, upheld, _⟩ := steps.sound initially (System.exclusive_ofPool _)
    (withQueries_upheld charted) fun _ _ => trivial
  obtain ⟨since, relied, posted⟩ := upheld.post_of_ended ended
  refine (posted query ?_).later relied.charts
  rw [Nat.add_sub_cancel_left]
  exact asked

end Runs

/-! ## Two queries while a delivery is reordered -/

namespace TwoVersions

local instance : DecidableRel store.clash := inferInstanceAs (DecidableEq Lock)

def queried : System store (Response ⊕ RouteAnswer) :=
  .ofPool (@withQueries noUuids initial calls [.current 1 actor, .versions 1 actor])

/-- Both queries have read the delivery before the selection commits; the first goes on before the
reorder commits, the second after it. -/
def reading : List (Nat × Input) :=
  ((List.replicate 3 [0, 1]).flatten ++ [2, 3] ++ List.replicate 9 0 ++ [2] ++
    List.replicate 15 1 ++ [3]).zipIdx.map fun (step : Nat × Nat) => (step.1, { uuid := step.2 })

def final : System store (Response ⊕ RouteAnswer) := (queried.play reading).2

/-- The answer of a thread that has ended well. -/
def answer? (thread : Nat) : Option RouteAnswer :=
  match final.threads[thread]? with
  | some (.outside (.done (.inr answer))) => some answer
  | _ => none

/-- The versions that an answer shows. -/
def versionsOf : RouteAnswer → List Nat
  | .current shown => [shown.version]
  | .versions shown => shown.versions.map RouteVersion.version

/-- A thread that has an answer has ended with it. -/
theorem ended_of_answer {thread : Nat} {answer : RouteAnswer}
    (found : answer? thread = some answer) :
    final.Ended thread (.ok (.inr answer)) := by
  rw [answer?] at found
  split at found
  · rename_i other atThread
    cases found
    exact ⟨_, atThread, rfl⟩
  · cases found

/-- The first query shows version 1, the second both versions. -/
theorem route_queries_answered_both :
    ∃ first ∈ answer? 2, ∃ second ∈ answer? 3, versionsOf first = [1] ∧ versionsOf second = [2, 1] ∧
      (RouteQuery.current 1 actor).Answered initial final.state first ∧
        (RouteQuery.versions 1 actor).Answered initial final.state second := by
  have shown : ∃ first ∈ answer? 2, ∃ second ∈ answer? 3,
      versionsOf first = [1] ∧ versionsOf second = [2, 1] := by
    decide +kernel
  obtain ⟨first, atFirst, second, atSecond, one, both⟩ := shown
  have steps := System.play_steps reading queried
  exact ⟨first, atFirst, second, atSecond, one, both,
    @route_queries_answered _ noUuids _ _ _ _ _ charted steps 0 _ _ rfl (ended_of_answer atFirst),
    @route_queries_answered _ noUuids _ _ _ _ _ charted steps 1 _ _ rfl (ended_of_answer atSecond)⟩

end TwoVersions

end Armada
