import Armada.Properties.ReorderPhases
import Armada.WriteLocks

/-!
# The history of routes

However requests interleave under READ COMMITTED, the versions of a delivery count from 1, each
passes every stop of the delivery once, and none is changed later. A commit either leaves this
history alone, or makes a delivery that has none, or adds the next version to that of one delivery.
The validator reads the stops before the transaction begins: its answer lasts, as a delivery keeps
the stops it was made with.
-/

namespace Armada

open Relational Concurrency
open RoutesDomainService (places)

/-! ## Charts -/

namespace Db

/-- The ids of the stops of a delivery. -/
def stopIds (db : Db) (deliveryId : Uuid) : List Uuid :=
  (db.stopsOf deliveryId).map DeliveryStop.id

/-- The versions of every delivery count from 1, and every route passes each stop of its
delivery once, at the places 1, 2 and so on. -/
structure Charted (db : Db) : Prop where
  versions : ∀ id, (db.routesOf id).map Route.version = List.range' 1 (db.routesOf id).length
  visits : ∀ route ∈ db.routes.rows,
    ((db.legsOf route.id).map RouteStop.deliveryStopId).Perm (db.stopIds route.deliveryId)
  numbered : ∀ route ∈ db.routes.rows,
    ((db.legsOf route.id).map RouteStop.sequence).Perm (places (db.stopIds route.deliveryId).length)
  owned : ∀ route ∈ db.routes.rows, db.delivery? route.deliveryId ≠ none
  traced : ∀ leg ∈ db.routeStops, db.routes.find? leg.routeId ≠ none

/-- The stops of a delivery stay those that it was made with. -/
def SameStops (before after : Db) : Prop :=
  ∀ id, before.delivery? id ≠ none →
    after.delivery? id ≠ none ∧ after.stopIds id = before.stopIds id

/-- Routes are added, and none is changed or removed. -/
structure Charts (before after : Db) : Prop where
  stops : before.SameStops after
  routes : ∀ id, before.routesOf id <+: after.routesOf id
  legs : ∀ route ∈ before.routes.rows, after.legsOf route.id = before.legsOf route.id

/-- No route is added either. -/
structure Still (before after : Db) : Prop where
  stops : before.SameStops after
  routes : after.routes = before.routes
  routeStops : after.routeStops = before.routeStops

variable {first second third db : Db}

/-- A state has the stops it has. -/
theorem SameStops.refl (db : Db) : db.SameStops db := fun _ present => ⟨present, rfl⟩

/-- This is transitive. -/
theorem SameStops.trans (left : first.SameStops second) (right : second.SameStops third) :
    first.SameStops third := by
  intro id present
  obtain ⟨between, same⟩ := left id present
  obtain ⟨after, sameAfter⟩ := right id between
  exact ⟨after, sameAfter.trans same⟩

/-- A route stays in the table as its delivery's routes grow. -/
theorem mem_routes_of_grown {id : Uuid} {route : Route}
    (grows : first.routesOf id <+: second.routesOf id) (member : route ∈ first.routes.rows)
    (owner : route.deliveryId = id) : route ∈ second.routes.rows := by
  have mine : route ∈ first.routesOf id := List.mem_filter.mpr ⟨member, decide_eq_true owner⟩
  exact (List.mem_filter.mp (grows.subset mine)).1

/-- A state charts itself. -/
theorem Charts.refl (db : Db) : db.Charts db :=
  ⟨.refl db, fun _ => List.prefix_rfl, fun _ _ => rfl⟩

/-- Charting is transitive. -/
theorem Charts.trans (left : first.Charts second) (right : second.Charts third) :
    first.Charts third where
  stops := left.stops.trans right.stops
  routes id := (left.routes id).trans (right.routes id)
  legs route member := (right.legs route
    (mem_routes_of_grown (left.routes route.deliveryId) member rfl)).trans (left.legs route member)

namespace Still

/-- Nothing changed is still. -/
theorem refl (db : Db) : db.Still db := ⟨.refl db, rfl, rfl⟩

/-- Stillness is transitive. -/
theorem trans (left : first.Still second) (right : second.Still third) : first.Still third :=
  ⟨left.stops.trans right.stops, right.routes.trans left.routes,
    right.routeStops.trans left.routeStops⟩

/-- A still change leaves the routes of a delivery. -/
theorem routesOf (still : first.Still second) (id : Uuid) :
    second.routesOf id = first.routesOf id := by
  rw [Db.routesOf, still.routes, Db.routesOf]

/-- It leaves the legs of a route. -/
theorem legsOf (still : first.Still second) (id : Uuid) : second.legsOf id = first.legsOf id := by
  rw [Db.legsOf, still.routeStops, Db.legsOf]

/-- What is still charts. -/
theorem charts (still : first.Still second) : first.Charts second :=
  ⟨still.stops, fun id => still.routesOf id ▸ List.prefix_rfl, fun route _ => still.legsOf route.id⟩

/-- What is still stays charted. -/
theorem charted (still : first.Still second) (charted : first.Charted) : second.Charted where
  versions id := by
    rw [still.routesOf]
    exact charted.versions id
  visits route member := by
    rw [still.routes] at member
    rw [still.legsOf, (still.stops _ (charted.owned route member)).2]
    exact charted.visits route member
  numbered route member := by
    rw [still.routes] at member
    rw [still.legsOf, (still.stops _ (charted.owned route member)).2]
    exact charted.numbered route member
  owned route member := by
    rw [still.routes] at member
    exact (still.stops _ (charted.owned route member)).1
  traced leg member := by
    rw [still.routeStops] at member
    rw [still.routes]
    exact charted.traced leg member

/-- The moves, states and results of stops change nothing of where a delivery goes. -/
theorem stopIds_updateStop (db : Db) (key : Uuid) (data : StopData) (id : Uuid) :
    ((Write.updateStop key data).apply db).stopIds id = db.stopIds id := by
  rw [stopIds, stopsOf_updateStop, List.map_map, stopIds]
  refine List.map_congr_left fun stop _ => ?_
  rw [Function.comp_apply]
  split <;> rfl

/-- A write that makes no delivery, stop or route. -/
theorem of_common (write : Write) (common : write.common = true) (db : Db) :
    db.Still (write.apply db) := by
  have present : ∀ id, db.delivery? id ≠ none → (write.apply db).delivery? id ≠ none := by
    intro id found
    obtain ⟨row, found⟩ := Option.ne_none_iff_exists'.mp found
    obtain ⟨later, foundLater⟩ := delivery?_commit_of_some found [write]
    exact Option.ne_none_iff_exists'.mpr ⟨later, foundLater⟩
  have stops : ∀ id, (write.apply db).stopIds id = db.stopIds id := by
    intro id
    cases write with
    | updateStop key data => exact stopIds_updateStop db key data id
    | createStop row => cases common
    | _ => rfl
  refine ⟨fun id found => ⟨present id found, stops id⟩, ?_, ?_⟩
  · cases write <;> first | rfl | cases common
  · cases write <;> first | rfl | cases common

/-- Common writes keep a change still. -/
theorem commit {writes : List Write} (still : first.Still db)
    (common : ∀ write ∈ writes, write.common = true) : first.Still (db.commit writes) := by
  induction writes generalizing db with
  | nil => exact still
  | cons write writes inductionHypothesis =>
      rw [commit_cons]
      exact inductionHypothesis (still.trans (of_common write (common write List.mem_cons_self) db))
        fun later member => common later (List.mem_cons_of_mem _ member)

/-- The stops of a delivery that was not there. -/
theorem createStops {stops : List DeliveryStop} (still : first.Still db)
    (fresh : ∀ stop ∈ stops, first.delivery? stop.deliveryId = none) :
    first.Still (db.commit (stops.map .createStop)) := by
  induction stops generalizing db with
  | nil => exact still
  | cons stop stops inductionHypothesis =>
      rw [List.map_cons, commit_cons]
      refine inductionHypothesis ⟨fun id present => ?_, still.routes, still.routeStops⟩
        fun other member => fresh other (List.mem_cons_of_mem _ member)
      have other : stop.deliveryId ≠ id := by
        rintro rfl
        exact present (fresh stop List.mem_cons_self)
      obtain ⟨found, same⟩ := still.stops id present
      refine ⟨found, ?_⟩
      rw [stopIds, stopsOf_createStop other]
      exact same

/-- A new delivery, with its items and stops. -/
theorem create {row : Delivery} {items : List DeliveryItem} {stops : List DeliveryStop}
    {rest : List Write} (fresh : db.delivery? row.id = none)
    (own : ∀ stop ∈ stops, stop.deliveryId = row.id)
    (common : ∀ write ∈ rest, write.common = true) :
    db.Still (db.commit ([.createDelivery row, .createItems items] ++ stops.map .createStop ++ rest)) := by
  rw [commit_append, commit_append]
  refine .commit (.createStops ⟨fun id present => ⟨?_, rfl⟩, rfl, rfl⟩ fun stop member => ?_) common
  · obtain ⟨old, found⟩ := Option.ne_none_iff_exists'.mp present
    obtain ⟨later, foundLater⟩ :=
      delivery?_commit_of_some found [.createDelivery row, .createItems items]
    exact Option.ne_none_iff_exists'.mpr ⟨later, foundLater⟩
  · rw [own stop member]
    exact fresh

end Still

/-! ## The next version -/

/-- The next version is one more than there are routes. -/
theorem Charted.nextVersion_eq (charted : db.Charted) (id : Uuid) :
    db.nextVersion id = (db.routesOf id).length + 1 := by
  rw [nextVersion, charted.versions]
  generalize (db.routesOf id).length = count
  cases count with
  | zero => rfl
  | succ count =>
      have highest : (List.range' 1 (count + 1)).max? = some (count + 1) := by
        rw [List.max?_eq_some_iff]
        constructor
        · rw [List.mem_range'_1]
          omega
        · intro version member
          rw [List.mem_range'_1] at member
          omega
      rw [highest, Option.getD_some]

variable {route : Route} {stops : List (Uuid × Int)}

/-- A new route is put at the end. -/
theorem routes_createRoute (fresh : db.routes.find? route.id = none) :
    (db.routes.insert route).rows = db.routes.rows ++ [route] := by
  rw [Table.insert, dif_pos]
  rw [List.mem_map]
  rintro ⟨old, member, same⟩
  exact Table.find?_eq_none.mp fresh old member same

/-- A route that is recorded with its stops. -/
def withRoute (db : Db) (route : Route) (stops : List (Uuid × Int)) : Db :=
  db.commit [.createRoute route, .createRouteStops (routeStopsOf route.id stops)]

/-- The routes of a delivery after a new one. -/
theorem routesOf_withRoute (fresh : db.routes.find? route.id = none) (id : Uuid) :
    (db.withRoute route stops).routesOf id =
      db.routesOf id ++ if route.deliveryId = id then [route] else [] := by
  change (db.routes.insert route).rows.filter _ = _
  rw [routes_createRoute fresh, List.filter_append, routesOf]
  by_cases own : route.deliveryId = id <;> simp [own]

/-- The legs of the other routes stay. -/
theorem legsOf_withRoute_of_ne {id : Uuid} (other : id ≠ route.id) :
    (db.withRoute route stops).legsOf id = db.legsOf id := by
  change (db.routeStops ++ routeStopsOf route.id stops).filter _ = _
  rw [List.filter_append, legsOf, List.append_right_eq_self, List.filter_eq_nil_iff]
  intro leg member
  obtain ⟨stop, _, rfl⟩ := List.mem_map.mp member
  simpa using other.symm

/-- The legs of the new route are its stops. -/
theorem legsOf_withRoute (charted : db.Charted) (fresh : db.routes.find? route.id = none) :
    (db.withRoute route stops).legsOf route.id = routeStopsOf route.id stops := by
  change (db.routeStops ++ routeStopsOf route.id stops).filter _ = _
  have none : db.routeStops.filter (fun leg => decide (leg.routeId = route.id)) = [] := by
    rw [List.filter_eq_nil_iff]
    intro leg member same
    exact charted.traced leg member (of_decide_eq_true same ▸ fresh)
  rw [List.filter_append, none, List.nil_append, List.filter_eq_self]
  intro leg member
  obtain ⟨stop, _, rfl⟩ := List.mem_map.mp member
  exact decide_eq_true rfl

/-- The next version of a delivery, past each of its stops. -/
structure Extending (db : Db) (route : Route) (stops : List (Uuid × Int)) : Prop where
  fresh : db.routes.find? route.id = none
  next : route.version = db.nextVersion route.deliveryId
  present : db.delivery? route.deliveryId ≠ none
  visits : (stops.map Prod.fst).Perm (db.stopIds route.deliveryId)
  numbered : (stops.map Prod.snd).Perm (places (db.stopIds route.deliveryId).length)

namespace Extending

/-- An extension charts. -/
theorem charts (extending : db.Extending route stops) : db.Charts (db.withRoute route stops) where
  stops _ present := ⟨present, rfl⟩
  routes id := by
    rw [routesOf_withRoute extending.fresh]
    exact List.prefix_append _ _
  legs old member := by
    refine legsOf_withRoute_of_ne fun same => ?_
    exact Table.find?_eq_none.mp extending.fresh old member same

/-- It keeps the store charted. -/
theorem charted (extending : db.Extending route stops) (charted : db.Charted) :
    (db.withRoute route stops).Charted := by
  have rows : (db.withRoute route stops).routes.rows = db.routes.rows ++ [route] :=
    routes_createRoute extending.fresh
  -- an old route has its own stops still, the new one those it was recorded with
  have old : ∀ other ∈ db.routes.rows, (db.withRoute route stops).legsOf other.id = db.legsOf other.id :=
    extending.charts.legs
  have own : (db.withRoute route stops).legsOf route.id = routeStopsOf route.id stops :=
    legsOf_withRoute charted extending.fresh
  constructor
  · intro id
    rw [routesOf_withRoute extending.fresh]
    by_cases mine : route.deliveryId = id
    · subst mine
      rw [if_pos rfl, List.map_append, charted.versions, List.map_singleton, extending.next,
        charted.nextVersion_eq, List.length_append, List.length_singleton, List.range'_concat]
      congr 2
      omega
    · rw [if_neg mine, List.append_nil]
      exact charted.versions id
  · intro other member
    rw [rows, List.mem_append, List.mem_singleton] at member
    rcases member with member | rfl
    · rw [old other member]
      exact charted.visits other member
    · rw [own, routeStopsOf, List.map_map]
      exact extending.visits
  · intro other member
    rw [rows, List.mem_append, List.mem_singleton] at member
    rcases member with member | rfl
    · rw [old other member]
      exact charted.numbered other member
    · rw [own, routeStopsOf, List.map_map]
      exact extending.numbered
  · intro other member
    rw [rows, List.mem_append, List.mem_singleton] at member
    rcases member with member | rfl
    · exact charted.owned other member
    · exact extending.present
  · intro leg member
    rcases List.mem_append.mp member with member | member
    · obtain ⟨found, traced⟩ := Option.ne_none_iff_exists'.mp (charted.traced leg member)
      exact Option.ne_none_iff_exists'.mpr ⟨found, Table.find?_insert_of_some traced⟩
    · obtain ⟨stop, _, rfl⟩ := List.mem_map.mp member
      rw [Option.ne_none_iff_exists']
      refine ⟨route, Table.find?_eq_some.mpr ⟨?_, rfl⟩⟩
      rw [rows]
      exact List.mem_append_right _ (List.mem_singleton_self _)

end Extending

end Db

/-! ## What the others do -/

/-- What the others leave while locks are held, in a run that began at `start`. -/
structure ChartsKept (start : Db) (held : List Lock) (before after : Db) : Prop where
  framed : Framed held before after
  charts : before.Charts after
  charted : after.Charted
  since : start.Charts after

/-- Charting under locks is transitive. -/
theorem ChartsKept.trans {start first second third : Db} {held : List Lock}
    (left : ChartsKept start held first second) (right : ChartsKept start held second third) :
    ChartsKept start held first third :=
  ⟨left.framed.trans right.framed, left.charts.trans right.charts, right.charted, right.since⟩

/-- It is kept by any further steps. -/
theorem ChartsKept.stable (start : Db) : Stable (ChartsKept start) :=
  Framed.stable ChartsKept.framed

/-! ## What a request commits -/

/-- The writes make no route, or the next version of a delivery whose row is locked. -/
inductive Charting (held : List Lock) (writes : List Write) (db : Db) : Prop where
  | still (still : db.Still (db.commit writes))
  | extended {before : Db} {route : Route} {stops : List (Uuid × Int)} (still : db.Still before)
      (extending : before.Extending route stops) (locked : .delivery route.deliveryId ∈ held)
      (rest : (before.withRoute route stops).Still (db.commit writes))

namespace Charting

variable {held others : List Lock} {writes : List Write} {db : Db}

/-- Common writes chart. -/
theorem common (common : ∀ write ∈ writes, write.common = true) : Charting held writes db :=
  .still (.commit (.refl db) common)

/-- So does writing nothing. -/
theorem nothing : Charting held [] db := common (List.forall_mem_nil _)

/-- Charting writes chart their state. -/
theorem charts (charting : Charting held writes db) : db.Charts (db.commit writes) := by
  cases charting with
  | still still => exact still.charts
  | extended still extending locked rest =>
      exact (still.charts.trans extending.charts).trans rest.charts

/-- They keep it charted. -/
theorem charted (charting : Charting held writes db) (charted : db.Charted) :
    (db.commit writes).Charted := by
  cases charting with
  | still still => exact still.charted charted
  | extended still extending locked rest =>
      exact rest.charted (extending.charted (still.charted charted))

/-- Who has locked the row of a delivery sees no version come. -/
theorem routesOf (charting : Charting held writes db)
    (compatible : Compatible (S := store) held others)
    {id : Uuid} (locked : .delivery id ∈ others) :
    (db.commit writes).routesOf id = db.routesOf id := by
  cases charting with
  | still still => exact still.routesOf id
  | @extended before route stops still extending own rest =>
      have other : route.deliveryId ≠ id := by
        rintro rfl
        exact (compatible _ own _ locked).1 rfl
      rw [rest.routesOf, Db.routesOf_withRoute extending.fresh, if_neg other, List.append_nil,
        still.routesOf]

end Charting

/-- The writes are of a history, and locked. -/
def Tracked (held : List Lock) (writes : List Write) (db : Db) : Prop :=
  Charting held writes db ∧ Concurrency.Covered (S := store) Write.lock held writes

namespace Tracked

variable {start db : Db} {held others : List Lock} {writes : List Write}

/-- Tracked writes keep the charts of the others. -/
theorem kept (tracked : Tracked held writes db) (charted : db.Charted)
    (since : start.Charts db) (compatible : Compatible (S := store) held others) :
    ChartsKept start others db (db.commit writes) := by
  obtain ⟨charting, covered⟩ := tracked
  have framed := Framed.of_covered covered compatible fun id locked =>
    charting.routesOf compatible locked
  exact ⟨framed, charting.charts, charting.charted charted, since.trans charting.charts⟩

end Tracked

/-! ## Requests -/

/-- A process that commits only what keeps the history, whatever it reads. -/
abbrev Tracks {α : Type} (start : Db) (process : Proc store α) : Prop :=
  process.Commits (.readCommitted (ChartsKept start) Charting fun _ _ => True)

variable {start db : Db}

/-- There is no delivery with the id, and nobody else makes one. -/
def Unassigned (id : Uuid) (held : List Lock) (db : Db) : Prop :=
  db.delivery? id = none ∧ .delivery id ∈ held

/-- That no route is assigned lasts. -/
theorem Unassigned.lasting (start : Db) (id : Uuid) :
    Txn.Lasting (S := store) (ChartsKept start) (Unassigned id) where
  stable := fun ⟨absent, locked⟩ kept =>
    ⟨kept.framed.delivery id locked absent, locked⟩
  grows := fun more ⟨absent, locked⟩ => ⟨absent, List.mem_append_right more locked⟩

namespace DeliveriesService

/-- The creation of the stops holds them. -/
theorem createStops_holds {rely : List Lock → Db → Db → Prop} {held : List Lock}
    {written : List Write} (deliveryId : Uuid) (dtos : List CreateDeliveryStopDto) :
    (createStops deliveryId dtos).Holds rely (fun _ _ made _ => ∃ stops : List DeliveryStop,
      made = written ++ stops.map .createStop ∧ ∀ stop ∈ stops, stop.deliveryId = deliveryId)
      held written db := by
  induction dtos generalizing held written db with
  | nil => exact ⟨[], by simp, by simp⟩
  | cons dto dtos inductionHypothesis =>
      rw [createStops, Txn.holds_bind, Txn.holds_lift]
      intro next _ input answer writes succeeded
      obtain ⟨_, _, _, rfl⟩ := Prisma.DeliveryStop.create_succeeds.mp succeeded
      refine inductionHypothesis.mono fun _ _ made _ => ?_
      rintro ⟨stops, rfl, own⟩
      refine ⟨_ :: stops, by simp; rfl, fun stop member => ?_⟩
      rcases List.mem_cons.mp member with rfl | later
      · rfl
      · exact own stop later

/-- The creation of a delivery tracks. -/
theorem createDelivery_tracks (dto : CreateDeliveryDto) (creatorUserId : Uuid) :
    Tracks start (createDelivery dto creatorUserId) := by
  have read : ∀ code, Tracks start (liftM (Prisma.Delivery.findByCode code)) := fun code =>
    .locking fun state input value writes succeeded => by
      obtain ⟨_, _, rfl⟩ := Prisma.Delivery.findByCode_succeeds.mp succeeded
      exact .nothing
  refine (read _).bind fun _ => (Proc.Commits.rejectIf _ _).bind fun _ => .holding fun db => ?_
  simp only [Txn.holds_bind, Txn.holds_lift, Txn.holds_pure]
  intro made _ input row _ succeeded
  obtain ⟨_, fresh, _, rowEq, rfl⟩ := Prisma.Delivery.create_succeeds.mp succeeded
  have lasting := Unassigned.lasting start row.id
  have first : Unassigned row.id ((Prisma.Delivery.create dto.deliveryCode dto.plannedStartAt
      creatorUserId).locks input made ++ []) made := by
    rw [rowEq]
    exact ⟨fresh, List.mem_cons_self⟩
  intro next within _ _ _ succeededItems
  obtain ⟨_, rfl⟩ := Prisma.DeliveryItem.createMany_succeeds.mp succeededItems
  have second := lasting.grows [] (lasting.stable first within)
  refine ((createStops_holds row.id dto.stops).carry lasting second).mono fun _ held made db => ?_
  rintro ⟨⟨stops, rfl, own⟩, third⟩ logged withinLog _ _ _ succeededLog last withinLast
  obtain ⟨_, rfl⟩ := Prisma.AuditLog.create_succeeds.mp succeededLog
  have still := lasting.stable (lasting.grows [] (lasting.stable third withinLog)) withinLast
  exact .still (.create still.1 own (List.forall_mem_singleton.mpr rfl))

end DeliveriesService

/-- A process of common writes tracks. -/
theorem Tracks.of_every {α : Type} {process : Proc store α}
    (every : process.Every (Tidy fun _ write => write.common = true)) : Tracks start process :=
  (every.mono fun _ tidy => tidy.writes).commits fun _ _ _ common => .common common

/-- What is read and nothing written. -/
theorem Tracks.reading {β : Type} {statement : Statement store β}
    {post : Except Exception β → Db → Prop}
    (silent : ∀ input db value writes, statement.Succeeds input db value writes → writes = [])
    (read : ∀ next, ChartsKept start [] db next →
      (∀ input value, statement.Succeeds input next value [] → post (.ok value) next) ∧
        ∀ error, post (.error error) next) :
    (liftM statement : Proc store β).Meets
      (.readCommitted (ChartsKept start) Charting fun _ _ => True) post db :=
  .reading silent (fun _ _ => .nothing) read

/-- A transaction that commits only what keeps the history. -/
def Charters {β : Type} (start : Db) (body : Txn store β) (db : Db) : Prop :=
  body.Holds (ChartsKept start) (fun _ held made current => ∀ last,
    ChartsKept start held current last → Charting held made last) [] [] db

/-- A transaction under a key tracks when its body charters. -/
theorem Idempotency.transactOnce_tracks {key : Option IdempotencyKey} {clash : Exception → Bool}
    {body : Txn store ResponseBody}
    (charters : ∀ next, ChartsKept start [] db next → Charters start body next) :
    (transactOnce key clash body).Meets (.readCommitted (ChartsKept start) Charting fun _ _ => True)
      (fun _ _ => True) db := by
  have recovers : ∀ error, (recover key clash error).Every (Tidy fun _ write =>
    write.common = true) := by
    intro error
    cases key with
    | none => exact .throw _
    | some key =>
        refine .ite (.bind (.statement tidy_select) fun record => ?_) (.throw _)
        cases record with
        | none => exact .throw _
        | some record => exact .pure _
  refine Proc.Meets.tryCatch (Q := fun _ _ => True) (.bind (Q := fun _ _ => True) ?_
    (fun _ _ _ => trivial) fun _ _ _ => trivial) (fun _ _ _ => trivial)
    fun error current _ => Tracks.of_every (recovers error) current
  rw [Proc.meets_transact]
  exact fun next kept => ⟨(charters next kept).mono fun _ _ _ _ committed last later =>
    ⟨committed last later, fun _ => trivial⟩, .always (fun _ _ => trivial) body [] [] next⟩

namespace RoutesDomainService

variable {deliveryId : Uuid} {ids : List Uuid} {held : List Lock}

/-- The delivery is there, and these are its stops in some order. -/
def Itinerary (deliveryId : Uuid) (ids : List Uuid) (db : Db) : Prop :=
  db.delivery? deliveryId ≠ none ∧ ids.Perm (db.stopIds deliveryId)

/-- The itinerary of a delivery stays. -/
theorem Itinerary.kept {next : Db} (itinerary : Itinerary deliveryId ids db)
    (kept : ChartsKept start held db next) : Itinerary deliveryId ids next := by
  obtain ⟨present, permuted⟩ := itinerary
  obtain ⟨still, same⟩ := kept.charts.stops deliveryId present
  exact ⟨still, same ▸ permuted⟩

/-- So it lasts. -/
theorem Itinerary.lasting (start : Db) (deliveryId : Uuid) (ids : List Uuid) :
    Txn.Lasting (S := store) (ChartsKept start) fun _ db => Itinerary deliveryId ids db where
  stable itinerary kept := itinerary.kept kept
  grows _ itinerary := itinerary

/-- A new version past all stops of the delivery keeps the history. -/
theorem charting_of_commit {key : Option IdempotencyKey} {stops moves : List (Uuid × Int)}
    {value : ResponseBody} {made : List Write} {last : Db}
    (commit : RouteCommit deliveryId key stops moves db value made)
    (locked : RouteHeld deliveryId key value held) (kept : ChartsKept start held db last)
    (itinerary : Itinerary deliveryId (stops.map Prod.fst) last)
    (numbered : (stops.map Prod.snd).Perm (places stops.length)) : Charting held made last := by
  cases commit with
  | @intro claimed route value mode status claim ofDelivery next fresh reported =>
      subst ofDelivery
      obtain ⟨present, visits⟩ := itinerary
      have common : ∀ write ∈ claimed ++ moves.map .resequence, write.common = true := by
        intro write member
        rcases List.mem_append.mp member with member | member
        · cases claim with
          | keyless => cases member
          | placed absent own => exact List.mem_singleton.mp member ▸ rfl
        · obtain ⟨move, _, rfl⟩ := List.mem_map.mp member
          rfl
      have still := (Db.Still.refl last).commit common
      have free := kept.framed.route route.id (locked.2.2 _ (by rw [reported]; rfl))
      have same := kept.framed.routes _ locked.1
      obtain ⟨presentNow, stopIds⟩ := still.stops _ present
      have settles : ∀ write ∈ Write.updateDelivery route.deliveryId { routeMode := some mode } ::
          settled key status value, write.common = true := by
        intro write member
        rcases List.mem_cons.mp member with rfl | member
        · rfl
        · obtain ⟨own, _, rfl⟩ := List.mem_map.mp member
          rfl
      have extending : (last.commit (claimed ++ moves.map .resequence)).Extending route stops := by
        constructor
        · rw [still.routes]
          exact free.trans fresh
        · rw [next, Db.nextVersion, Db.nextVersion, still.routesOf, same]
        · exact presentNow
        · rw [stopIds]
          exact visits
        · rw [stopIds, ← visits.length_eq, List.length_map]
          exact numbered
      have rest := (Db.Still.refl ((last.commit (claimed ++ moves.map .resequence)).withRoute
        route stops)).commit settles
      refine .extended still extending locked.1 ?_
      rw [List.append_assoc, Db.commit_append last (claimed ++ moves.map Write.resequence)]
      exact rest

/-- The selection's transaction charters a route. -/
theorem claimSelection_charters {dto : SelectRouteDto} (actor : RouteActor)
    (itinerary : Itinerary deliveryId dto.recommendedSequence db) :
    Charters start (claimSelection deliveryId dto actor) db := by
  have holds := claimSelection_holds (ChartsKept.stable start) deliveryId dto actor db
  have lasting := Itinerary.lasting start deliveryId dto.recommendedSequence
  refine (holds.carry lasting itinerary).mono fun value held made current => ?_
  rintro ⟨⟨commit, locked⟩, known⟩ last kept
  refine charting_of_commit commit locked kept ?_ ?_
  · rw [map_fst_numbered]
    exact known.kept kept
  · have long : (numbered dto.recommendedSequence).length = dto.recommendedSequence.length := by
      simp [numbered]
    rw [long, map_snd_numbered, places, List.range'_eq_map_range, List.map_map]
    exact .of_eq (List.map_congr_left fun place _ => by simp; omega)

/-- So does the reorder's. -/
theorem claimReorder_charters {deliveryId : IdText} {dto : ManualReorderDto} (actor : RouteActor)
    (itinerary : Itinerary deliveryId (dto.stopSequence.map StopSequenceItemDto.deliveryStopId) db)
    (numbered : (dto.stopSequence.map StopSequenceItemDto.sequence).Perm
      (places dto.stopSequence.length)) :
    Charters start (claimReorder deliveryId dto actor) db := by
  have holds := claimReorder_holds (ChartsKept.stable start) deliveryId dto actor db
  have lasting := Itinerary.lasting start deliveryId
    (dto.stopSequence.map StopSequenceItemDto.deliveryStopId)
  refine (holds.carry lasting itinerary).mono fun value held made current => ?_
  rintro ⟨⟨commit, locked⟩, known⟩ last kept
  refine charting_of_commit commit locked kept ?_ ?_
  · rw [List.map_map]
    exact known.kept kept
  · rw [List.map_map, List.length_map]
    exact numbered

/-- What the check of a request has read of the delivery and its stops. -/
structure Surveyed (deliveryId : Uuid) (found : Delivery × List DeliveryStop) (db : Db) : Prop where
  own : found.1.id = deliveryId
  itinerary : Itinerary deliveryId (found.2.map DeliveryStop.id) db
  sorted : (found.2.map DeliveryStop.sequence).Pairwise (· ≤ ·)

/-- The access check surveys the delivery and its stops. -/
theorem verifyDeliveryAccess_surveys (deliveryId : IdText) (actor : RouteActor) (db : Db) :
    (verifyDeliveryAccess deliveryId actor).Meets
      (.readCommitted (ChartsKept start) Charting fun _ _ => True)
      (OnResult (Surveyed deliveryId) fun _ _ => True) db := by
  refine .bind (Q := OnResult (fun found (state : Db) => ∀ pair, found = some pair →
    Surveyed deliveryId pair state) fun _ _ => True)
    (Tracks.reading ?_ fun next _ => ⟨?_, fun _ => trivial⟩)
    (fun _ _ _ => trivial) fun found current read => .require (fun _ => trivial) fun pair same =>
      .rejectIf (fun _ => trivial) fun _ => .rejectIf (fun _ => trivial) fun _ => read pair same
  · exact fun input db value writes succeeded =>
      (Prisma.Delivery.findWithStops_succeeds.mp succeeded).2.2
  · rintro input value succeeded ⟨row, stops⟩ rfl
    obtain ⟨_, found, _⟩ := Prisma.Delivery.findWithStops_succeeds.mp succeeded
    obtain ⟨row, present, same⟩ := Option.map_eq_some_iff.mp found
    cases same
    have sorted : ((next.stopsOf deliveryId).insertionSort
        fun left right => left.sequence ≤ right.sequence).Pairwise
        fun left right => left.sequence ≤ right.sequence := by
      have : Std.Total fun left right : DeliveryStop => left.sequence ≤ right.sequence :=
        ⟨fun left right => Int.le_total left.sequence right.sequence⟩
      have : IsTrans DeliveryStop fun left right => left.sequence ≤ right.sequence :=
        ⟨fun _ _ _ => Int.le_trans⟩
      exact List.pairwise_insertionSort _ _
    refine ⟨Db.id_of_delivery? present, ⟨by simp [present], ?_⟩, ?_⟩
    · exact (List.perm_insertionSort _ _).map _
    · exact List.pairwise_map.mpr sorted

/-- What the validator accepts is an order of the stops. -/
theorem Itinerary.of_valid {stopIds submitted : List Uuid} {sequences : Option (List Int)}
    (itinerary : Itinerary deliveryId stopIds db) (valid : Valid stopIds submitted sequences) :
    Itinerary deliveryId submitted db := by
  obtain ⟨present, permuted⟩ := itinerary
  have distinct : stopIds.Nodup := permuted.nodup_iff.mpr (nodup_stopsOf db deliveryId)
  have occupied : stopIds ≠ [] := by
    rintro rfl
    cases valid.1
  exact ⟨present, ((hasExactIds_iff distinct occupied).mp valid.1).trans permuted⟩

/-- A mutation of the route tracks when its work charters. -/
theorem mutateRoute_tracks {deliveryId : IdText} {actor : RouteActor}
    {key : Option IdempotencyKey} {submittedStopIds : List Uuid} {submittedSequences : Option (List Int)}
    {work : Txn store ResponseBody}
    (charters : ∀ db, (∀ given ∈ submittedSequences, contiguous given = true) →
      Itinerary deliveryId submittedStopIds db → Charters start work db) :
    Tracks start (mutateRoute deliveryId actor key submittedStopIds submittedSequences work) := by
  intro db
  refine (verifyDeliveryAccess_surveys deliveryId actor db).bind (fun _ _ _ => trivial)
    fun found current surveyed => .rejectIf (fun _ => trivial) fun _ => ?_
  let Known : Except Exception PUnit → Db → Prop := fun _ state =>
    Itinerary deliveryId (found.2.map DeliveryStop.id) state
  have limited : (enforceRouteRateLimit deliveryId).Meets
      (.readCommitted (ChartsKept start) Charting fun _ _ => True) Known current := by
    refine .bind (Q := fun _ (state : Db) => Itinerary deliveryId (found.2.map DeliveryStop.id) state)
      (Tracks.reading (fun input db value writes succeeded =>
        (RedisService.incrRateLimit_succeeds.mp succeeded).2) fun next kept =>
          ⟨fun _ _ _ => surveyed.itinerary.kept kept,
            fun _ => surveyed.itinerary.kept kept⟩) (fun _ _ known => known)
      fun value state known => ?_
    rw [Proc.meets_rejectIf]
    exact ⟨fun _ => known, fun _ => known⟩
  refine limited.bind (fun _ _ _ => trivial) fun _ afterLimit known => ?_
  have stored : (Idempotency.stored key).Meets
      (.readCommitted (ChartsKept start) Charting fun _ _ => True) (fun _ state =>
        Itinerary deliveryId (found.2.map DeliveryStop.id) state) afterLimit := by
    cases key with
    | none => exact known
    | some key =>
        exact .bind (Q := fun _ (state : Db) =>
          Itinerary deliveryId (found.2.map DeliveryStop.id) state)
          (Tracks.reading (fun input db value writes succeeded =>
            (Prisma.IdempotencyRecord.findUnique_succeeds.mp succeeded).2.2) fun next kept =>
              ⟨fun _ _ _ => known.kept kept, fun _ => known.kept kept⟩)
          (fun _ _ known => known) fun value state known => known
  refine stored.bind (fun _ _ _ => trivial) fun existing afterRead known => ?_
  cases existing with
  | some body => trivial
  | none =>
      refine Proc.Meets.bind (Q := fun _ state => state = afterRead) ?_ (fun _ _ _ => trivial)
        fun _ afterKnown same => ?_
      · rw [requireKnownStops]
        split <;> exact rfl
      subst same
      have validated : (validateCompleteStopSet (found.2.map DeliveryStop.id) submittedStopIds
          submittedSequences).Meets (.readCommitted (ChartsKept start) Charting fun _ _ => True)
          (OnResult (fun _ (state : Db) => state = afterKnown ∧
            Valid (found.2.map DeliveryStop.id) submittedStopIds submittedSequences)
            fun _ _ => True) afterKnown := by
        refine .rejectIf (fun _ => trivial) fun complete => ?_
        rw [Proc.meets_rejectIf]
        exact ⟨fun _ => trivial, fun ordered =>
          ⟨rfl, by simpa using complete, by simpa using ordered⟩⟩
      refine validated.bind (fun _ _ _ => trivial) fun _ current checked => ?_
      obtain ⟨rfl, valid⟩ := checked
      refine (Idempotency.transactOnce_tracks fun next kept => charters next valid.2
        ((known.of_valid valid).kept kept)).bind (fun _ _ _ => trivial)
        fun reply current _ => ?_
      cases reply with
      | replayed body => trivial
      | fresh routeResult =>
          have emits : (broadcastRouteUpdated deliveryId routeResult actor).Every
              (Tidy fun _ write => write.common = true) := by
            cases routeResult <;>
              first | exact .pure _ | exact .statement (tidy_emit (fun _ _ => rfl) _ _ _)
          exact ((Tracks.of_every emits) current).bind (fun _ _ _ => trivial) fun _ _ _ => trivial

/-- The selection of a route tracks. -/
theorem selectRoute_tracks (deliveryId : IdText) (dto : SelectRouteDto) (actor : RouteActor) :
    Tracks start (selectRoute deliveryId dto actor) :=
  mutateRoute_tracks fun _ _ itinerary => claimSelection_charters actor itinerary

/-- So does a reorder. -/
theorem reorderStops_tracks (deliveryId : IdText) (dto : ManualReorderDto) (actor : RouteActor) :
    Tracks start (reorderStops deliveryId dto actor) := by
  refine mutateRoute_tracks fun db ordered itinerary => claimReorder_charters actor itinerary ?_
  have sequences := contiguous_iff.mp (ordered _ rfl)
  rw [List.length_map] at sequences
  exact sequences

end RoutesDomainService

/-! ## Runs -/

/-- The contracts of processes that keep the history. -/
def routeContract {α : Type} (start : Db) (post : Nat → Except Exception α → Db → Prop) :
    System.Contract store α where
  inv db := db.Charted ∧ start.Charts db
  rely := ChartsKept start
  guar _ := Tracked
  post := post
  orderly _ _ := True
  relyRefl held db inv := ⟨.refl held db, .refl db, inv.1, inv.2⟩
  relyTrans := .trans
  compatible _ _ _ _ inv tracked _ :=
    ⟨⟨tracked.1.charted inv.1, inv.2.trans tracked.1.charts⟩,
      fun _ compatible => tracked.kept inv.1 inv.2 compatible⟩

section Runs

variable [UuidText]

/-- So does every request. -/
theorem Request.tracks (request : Request) : Tracks start request.proc := by
  have ordinary : Ordinary (Tidy fun _ write => write.common = true) :=
    ordinary_tidy (fun _ _ => Write.common_of_ordinary) fun _ _ _ _ _ _ => rfl
  have recording : Recording (Tidy fun _ write => write.common = true) :=
    recording_tidy fun _ _ => Write.common_of_recording
  cases request with
  | createDelivery dto user => exact (DeliveriesService.createDelivery_tracks dto user).map _
  | selectRoute id dto actor => exact (RoutesDomainService.selectRoute_tracks id dto actor).map _
  | reorderStops id dto actor => exact (RoutesDomainService.reorderStops_tracks id dto actor).map _
  | submitPod | syncOutbox | sendMessage =>
      exact Tracks.of_every (Request.every ordinary recording)
  | resolveConflict =>
      exact Tracks.of_every (Request.every ordinary
        (overriding_tidy (fun _ _ => Write.common_of_ordinary) fun _ _ _ _ _ _ => rfl))
  | _ => exact Tracks.of_every (Request.every ordinary trivial)

/-- Every request is within the contract of the routes. -/
theorem Request.within_routeContract (request : Request) (thread : Nat) :
    request.proc.Meets ((routeContract start fun _ (_ : Except Exception Response) _ =>
      True).discipline thread) (fun _ _ => True) db :=
  (request.tracks db).covered request.locking

variable {requests : List Request} {supplied : Input → Prop} {trace : List (Commit store)}
  {system : System store Response}

/-- In every run of any requests the versions of a delivery count from 1, every version passes
each stop of the delivery once, and the versions there were are as they were. -/
theorem routes_stay_charted (charted : db.Charted)
    (steps : (System.ofPool (Request.pool db requests)).Steps supplied trace system) :
    system.state.Charted ∧ db.Charts system.state := by
  have upheld : (routeContract db fun _ _ _ => True).Upheld
      (System.ofPool (Request.pool db requests)) := by
    refine System.Contract.upheld_ofPool ⟨charted, .refl db⟩ fun thread process found => ?_
    obtain ⟨request, _, rfl⟩ := List.mem_map.mp (List.mem_of_getElem? found)
    exact request.within_routeContract thread
  have initially : db.Charted ∧ db.Charts db := ⟨charted, .refl db⟩
  exact (steps.sound initially (System.exclusive_ofPool _) upheld fun _ _ => trivial).1

end Runs

/-! ## A selection and a reorder of one delivery -/

namespace TwoVersions

local instance : DecidableRel store.clash := inferInstanceAs (DecidableEq Lock)

def actor : RouteActor := { userId := 9, role := .owner }

def stop (id : Uuid) (sequence : Int) : DeliveryStop where
  id := id
  deliveryId := 1
  sequence := sequence

def initial : Db where
  deliveries := Table.empty.insert { id := 1, deliveryCode := "D-1", createdBy := 9 }
  deliveryStops := (Table.empty.insert (stop 7 1)).insert (stop 8 2)

def calls : List Request :=
  [.selectRoute 1
      { source := .recommended2opt, recommendedSequence := [8, 7], totalDistanceMeters := 900,
        estimatedDurationSeconds := 60 } actor,
    .reorderStops 1 { stopSequence := [⟨7, 2⟩, ⟨8, 1⟩] } actor]

/-- Both requests check the stops before either transaction begins. -/
def schedule : List (Nat × Input) :=
  ((List.replicate 6 [0, 1]).flatten ++ List.replicate 6 0 ++ List.replicate 12 1).zipIdx.map
    fun (step : Nat × Nat) => (step.1, { uuid := step.2 })

def pool : Pool store Response := @Request.pool noUuids initial calls

/-- The example's store is charted. -/
theorem charted : initial.Charted where
  versions _ := rfl
  visits _ member := nomatch member
  numbered _ member := nomatch member
  owned _ member := nomatch member
  traced _ member := nomatch member

/-- After both requests the delivery has the versions 1 and 2. -/
theorem routes_stay_charted_both :
    (((System.ofPool pool).play schedule).2.state.routesOf 1).map Route.version = [1, 2] ∧
      ((System.ofPool pool).play schedule).2.state.Charted ∧
        initial.Charts ((System.ofPool pool).play schedule).2.state :=
  ⟨by decide +kernel, @routes_stay_charted _ noUuids _ _ _ _ charted
    (System.play_steps schedule (System.ofPool pool))⟩

end TwoVersions

end Armada
