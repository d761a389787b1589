import Armada.Answers

/-!
# Replayed answers

Submissions, selections, reorders and messages answer from three places: their own transaction, a
record found before it, and a record found after a clash. However requests interleave under READ
COMMITTED, each answer reports a row that is there, and two requests under one key answer the same.
-/

namespace Armada

open Relational Concurrency

variable {db : Db} {held : List Lock}

/-! ## What the others do -/

/-- What the others leave while locks are held. -/
structure AnswersKept (held : List Lock) (before after : Db) : Prop where
  framed : Framed held before after
  retains : before.Retains after
  records : before.KeepsRecords after
  settled : after.Settled

namespace AnswersKept

/-- Answers kept twice are kept. -/
theorem trans {first second third : Db} (left : AnswersKept held first second)
    (right : AnswersKept held second third) : AnswersKept held first third where
  framed := left.framed.trans right.framed
  retains := left.retains.trans right.retains
  records key record found := right.records key record (left.records key record found)
  settled := right.settled

/-- They are kept by any further steps. -/
theorem stable : Stable AnswersKept := Framed.stable AnswersKept.framed

/-- A recorded answer stays recorded. -/
theorem recorded {next : Db} (kept : AnswersKept held db next) {key : Option IdempotencyKey}
    {body : ResponseBody} (recorded : db.Recorded key body) : next.Recorded key body :=
  kept.retains.recorded kept.records recorded

end AnswersKept

/-- Answering commits, under locks. -/
def Answers (held : List Lock) (writes : List Write) (db : Db) : Prop :=
  Answering held writes db ∧ Concurrency.Covered (S := store) Write.lock held writes

namespace Answers

variable {others : List Lock} {writes : List Write}

/-- Writes that answer leave every record settled. -/
theorem settled (answers : Answers held writes db) (settled : db.Settled) :
    (db.commit writes).Settled := by
  intro key record found
  cases before : db.record? key with
  | none => exact answers.1.settles key record before found
  | some old =>
      obtain rfl : old = record :=
        Option.some.inj ((answers.1.records key old before).symm.trans found)
      exact (Db.Retains.commit writes db).reports (settled key old before)

/-- They keep the answers of the others. -/
theorem kept (answers : Answers held writes db) (settled : db.Settled)
    (compatible : Compatible (S := store) held others) :
      AnswersKept others db (db.commit writes) := by
  have framed : Framed others db (db.commit writes) := by
    refine .of_covered answers.2 compatible fun id locked => ?_
    refine Db.commit_idle (·.routesOf id) (fun write member db => ?_) db
    cases write with
    | createRoute row =>
        -- who holds the row of the delivery has no other route made for it
        have other : row.deliveryId ≠ id := by
          rintro rfl
          exact (compatible _ (answers.1.routes row member) _ locked).1 rfl
        dsimp only [Db.routesOf, Write.apply, Table.insert]
        split
        · simp [List.filter_append, other]
        · rfl
    | _ => rfl
  exact ⟨framed, .commit writes db, answers.1.records, answers.settled settled⟩

end Answers

/-! ## The transactions -/

section Transactions

variable {key : Option IdempotencyKey} {claimed made : List Write} {status : Nat}
  {body : ResponseBody}

/-- A claim stays claimed under its lock. -/
theorem Claimed.kept {next : Db} (claim : Claimed db key claimed)
    (locked : ∀ own ∈ key, .record own ∈ held) (kept : AnswersKept held db next) :
    Claimed next key claimed :=
  ((KeyHeld.lasting AnswersKept.stable key claimed).stable ⟨claim, locked⟩ kept).1

/-- A submission is told of with its proof, where there was none. -/
theorem Db.SubmittedOnce.submitted {after : Db} {stopId : Uuid} {event : DeliveryEvent}
    (once : db.SubmittedOnce) (absent : db.pod? stopId = none)
    (events : after.deliveryEvents = db.deliveryEvents ++ [event])
    (tells : event.stopId = some stopId) (proven : after.pod? stopId ≠ none)
    (retains : db.Retains after) : after.SubmittedOnce := by
  intro other
  obtain ⟨single, present⟩ := once other
  rw [Db.submissions, events, List.filter_append, ← Db.submissions]
  by_cases own : other = stopId
  · subst own
    have none : db.submissions other = [] := by
      by_contra told
      exact present told absent
    rw [none, List.nil_append]
    exact ⟨(List.length_filter_le _ _).trans (by simp), fun _ => proven⟩
  · have apart : ¬stopId = other := Ne.symm own
    simp only [tells, Option.some.injEq, apart, and_false, decide_false, Bool.false_eq_true,
      not_false_eq_true, List.filter_cons_of_neg, List.filter_nil, List.append_nil]
    refine ⟨single, fun told => ?_⟩
    obtain ⟨row, found⟩ := Option.ne_none_iff_exists'.mp (present told)
    obtain ⟨later, foundLater, _⟩ := retains.pods other row found
    exact Option.ne_none_iff_exists'.mpr ⟨later, foundLater⟩

/-- The transaction of a submission answers with the proof that it has made. -/
theorem answering_of_pod [UuidText] {stopId deliveryId : Uuid} {dto : SubmitPodDto}
    {actor : DeliveryActor} {last : Db} (commit : PodCommit stopId deliveryId dto actor db body made)
    (keyLocked : ∀ own ∈ PodService.recordKey actor dto.idempotencyKey, .record own ∈ held)
    (podLocked : .pod stopId ∈ held) (kept : AnswersKept held db last) :
    Answering held made last ∧
      (last.commit made).Recorded (PodService.recordKey actor dto.idempotencyKey) body := by
  cases commit with
  | @intro claimed row now event claim absent ofStop author evidence filed eventOf =>
      generalize PodService.recordKey actor dto.idempotencyKey = key at claim keyLocked ⊢
      have claim := claim.kept keyLocked kept
      have absent := (kept.framed.pod stopId podLocked).trans absent
      subst ofStop
      have proven : (last.commit (claimed ++ [.updateStop row.deliveryStopId
          { status := some .delivered, completedAt := some now }, .createPod row,
          .createEvent event] ++ settled key 201
            (.pod row.id row.deliveryStopId row.completedAt))).pod? row.deliveryStopId = some row := by
        rw [Db.pod?_commit]
        cases claim <;> simp [settled, Write.onPod, absent]
      refine Answering.of_claim claim (by simp [Write.unrecorded]) (by simp)
        ⟨row, proven, rfl, rfl⟩ fun once => ?_
      refine once.submitted absent ?_ eventOf.1 (by rw [proven]; exact Option.some_ne_none row)
        (.commit _ last)
      cases claim <;> rfl

/-- A body that tells of a stored route reports it, however it spells the delivery. -/
theorem Db.reports_of_route {last : Db} {row : Route}
    (told : body.route? = some (row.id, row.deliveryId, row.version))
    (found : last.routes.find? row.id = some row) : last.Reports body := by
  cases body with
  | route routeId deliveryId version source stops =>
      cases told
      exact ⟨row, found, rfl, rfl⟩
  | reorder routeId deliveryId version source updatedAt =>
      obtain ⟨rfl, same, rfl⟩ : routeId = row.id ∧ deliveryId.uuid = row.deliveryId ∧
          version = row.version := by
        simpa [ResponseBody.route?] using told
      exact ⟨row, found, same.symm, rfl⟩
  | pending | pod | message => cases told

/-- The transaction of a selection or a reorder answers with the route that it has made. -/
theorem answering_of_route {deliveryId : Uuid} {stops moves : List (Uuid × Int)} {last : Db}
    (commit : RouteCommit deliveryId key stops moves db body made)
    (locked : RoutesDomainService.RouteHeld deliveryId key body held)
    (kept : AnswersKept held db last) :
    Answering held made last ∧ (last.commit made).Recorded key body := by
  cases commit with
  | @intro claimed route value mode status claim ofDelivery next fresh reported =>
      have claim := claim.kept locked.2.1 kept
      have fresh := (kept.framed.route route.id (locked.2.2 _ (by rw [reported]; rfl))).trans fresh
      subst ofDelivery
      let recorded : List Write := [.createRoute route,
        .createRouteStops (routeStopsOf route.id stops),
        .updateDelivery route.deliveryId { routeMode := some mode }]
      have routes : (last.commit (claimed ++ (moves.map .resequence ++ recorded) ++
          settled key status body)).routes = last.routes.insert route := by
        have moved := Db.routes_resequence (last.commit claimed) moves
        rw [Db.commit_append, Db.commit_append, Db.commit_append]
        cases claim with
        | keyless => exact congrArg (·.insert route) moved
        | placed absent own => exact congrArg (·.insert route) moved
      have events : (last.commit (claimed ++ (moves.map .resequence ++ recorded) ++
          settled key status body)).deliveryEvents = last.deliveryEvents := by
        have moved : ((last.commit claimed).commit (moves.map .resequence)).deliveryEvents =
            (last.commit claimed).deliveryEvents := by
          refine Db.commit_idle Db.deliveryEvents (fun write member db => ?_) _
          obtain ⟨move, _, rfl⟩ := List.mem_map.mp member
          rfl
        rw [Db.commit_append, Db.commit_append, Db.commit_append]
        cases claim with
        | keyless => exact moved
        | placed absent own => exact moved
      have parts : ∀ write ∈ moves.map .resequence ++ recorded,
          write.unrecorded = true ∧ ∀ row, write = .createRoute row → row = route := by
        intro write member
        rcases List.mem_append.mp member with moved | later
        · obtain ⟨move, _, rfl⟩ := List.mem_map.mp moved
          exact ⟨rfl, nofun⟩
        · simp only [recorded, List.mem_cons, List.not_mem_nil, or_false] at later
          rcases later with rfl | rfl | rfl
          · exact ⟨rfl, fun row same => (Write.createRoute.inj same).symm⟩
          · exact ⟨rfl, nofun⟩
          · exact ⟨rfl, nofun⟩
      rw [List.append_assoc claimed]
      refine Answering.of_claim claim (fun write member => (parts write member).1)
        (fun row member => (parts _ member).2 row rfl ▸ locked.1) ?_ fun once => ?_
      · have found : (last.routes.insert route).find? route.id = some route := by
          rw [Table.find?_insert, fresh, Option.none_or]
          exact if_pos rfl
        rw [← routes] at found
        exact Db.reports_of_route reported found
      · refine once.of_submissions (fun stop => ?_) (.commit _ last)
        rw [Db.submissions, events, Db.submissions]

end Transactions

/-! ## The protocol of a key -/

/-- An ordinary write has no key. -/
theorem Write.unkeyed_of_ordinary {write : Write} (ordinary : write.ordinary = true) :
    write.unkeyed = true := by
  cases write <;> first | rfl | exact ordinary

/-- Nor has one that creates. -/
theorem Write.unkeyed_of_creating {write : Write} (creating : write.creating = true) :
    write.unkeyed = true := by
  cases write <;> first | rfl | cases creating

/-- Answering commits, in the store that the others leave. -/
abbrev answering : Discipline store Db := .readCommitted AnswersKept Answering fun _ _ => True

/-- A process without keyed writes only answers. -/
theorem answering_of_every {α : Type} {process : Proc store α}
    (every : process.Every (Tidy fun _ write => write.unkeyed = true)) :
      process.Commits answering :=
  (every.mono fun _ tidy => tidy.writes).commits fun _ _ _ unkeyed => .of_unkeyed unkeyed

/-- A read answers what holds of what it reads. -/
theorem answering_reading {β : Type} {statement : Statement store β}
    {post : Except Exception β → Db → Prop}
    (silent : ∀ input db value writes, statement.Succeeds input db value writes → writes = [])
    (read : ∀ next, AnswersKept [] db next →
      (∀ input value, statement.Succeeds input next value [] → post (.ok value) next) ∧
        ∀ error, post (.error error) next) :
    (liftM statement : Proc store β).Meets answering post db :=
  .reading silent (fun _ _ => .nothing) read

/-- What has been recorded is so after whatever the process does next. -/
theorem recorded_after {α : Type} {process : Proc store α} {key : Option IdempotencyKey}
    {body : ResponseBody} (commits : process.Commits answering) (recorded : db.Recorded key body) :
    process.Meets answering (fun _ db => db.Recorded key body) db :=
  ((commits db).keep (fun known kept => kept.recorded known)
    (fun known committed => (Db.Retains.commit _ _).recorded committed.records known)
    recorded).weaken fun _ _ both => both.2

namespace Idempotency

variable {key : Option IdempotencyKey}

/-- A record that is found has been committed. -/
theorem find_answers (key : IdempotencyKey) (db : Db) :
    (liftM (Prisma.IdempotencyRecord.findUnique key) : Proc store _).Meets answering
      (OnResult (fun found db => ∀ record, found = some record →
        db.Recorded (some key) record.responseBody) fun _ _ => True) db := by
  refine answering_reading (fun _ _ _ _ read => (select_succeeds.mp read).2.2) fun next kept =>
    ⟨fun input found read record isFound => ?_, fun _ => trivial⟩
  have stored := (Prisma.IdempotencyRecord.findUnique_succeeds.mp read).2.1.trans isFound
  refine ⟨kept.settled key record stored, fun own isKey => ⟨record, ?_, rfl⟩⟩
  rw [← Option.some.inj isKey]
  exact stored

/-- The look for a stored answer gives a recorded body. -/
theorem stored_answers (key : Option IdempotencyKey) (db : Db) :
    (stored key).Meets answering (OnResult (fun existing db => ∀ body, existing = some body →
      db.Recorded key body) fun _ _ => True) db := by
  cases key with
  | none => exact fun body impossible => nomatch impossible
  | some key =>
      refine (find_answers key db).bind (fun _ _ _ =>
        trivial) fun found state recorded body isBody => ?_
      obtain ⟨record, isFound, rfl⟩ := Option.map_eq_some_iff.mp isBody
      exact recorded record isFound

/-- The recovery from a clash gives a recorded body. -/
theorem recover_answers (key : Option IdempotencyKey) (clash : Exception → Bool) (error : Exception)
    (db : Db) : (recover key clash error).Meets answering
      (OnResult (fun reply db => db.Recorded key reply.body) fun _ _ => True) db := by
  cases key with
  | none => exact trivial
  | some key =>
      refine .ite (fun _ => ?_) fun _ => trivial
      refine (find_answers key db).bind (fun _ _ _ => trivial) fun found state recorded => ?_
      cases found with
      | none => trivial
      | some record => exact recorded record rfl

/-- A transaction that answers with what it has made, or with what another has recorded. -/
theorem transactOnce_answers {clash : Exception → Bool} {body : Txn store ResponseBody}
    (works : ∀ db, body.Holds AnswersKept (fun value held made current => ∀ last,
      AnswersKept held current last → Answering held made last ∧
        (last.commit made).Recorded key value) [] [] db) (db : Db) :
    (transactOnce key clash body).Meets answering
      (OnResult (fun reply db => db.Recorded key reply.body) fun _ _ => True) db := by
  refine Proc.Meets.tryCatch (Q := OnResult (fun reply (state : Db) => state.Recorded key reply.body)
    fun _ _ => True) ?_ (fun _ _ recorded => recorded)
    fun error current _ => recover_answers key clash error current
  rw [Proc.meets_map, Proc.meets_transact]
  exact fun next _ => ⟨(works next).mono fun _ _ _ _ committed last later =>
    ⟨(committed last later).1, fun _ => (committed last later).2⟩,
    .always (fun _ _ => trivial) body [] [] next⟩

end Idempotency

/-! ## Requests -/

/-- Ordinary operations write without keys. -/
theorem unkeyed_ordinary [UuidText] : Ordinary (Tidy fun _ write => write.unkeyed = true) :=
  ordinary_tidy (fun _ _ => Write.unkeyed_of_ordinary) fun _ _ _ _ _ _ => rfl

/-- The key under which a request is done once. -/
def Request.onceKey : Request → Option IdempotencyKey
  | .submitPod _ dto actor => PodService.recordKey actor dto.idempotencyKey
  | .selectRoute _ dto actor =>
      RoutesDomainService.recordKey RoutesDomainService.selectEndpoint actor dto.idempotencyKey
  | .reorderStops _ dto actor =>
      RoutesDomainService.recordKey RoutesDomainService.reorderEndpoint actor dto.idempotencyKey
  | _ => none

/-- The body of an answer, fresh or replayed. -/
def Response.body? : Response → Option ResponseBody
  | .pod (.reply given) => some given.body
  | .reply given => some given.body
  | _ => none

/-- The answer reports a row, and is recorded under the key of the request, if it has one. -/
structure Request.Answered (request : Request) (response : Response) (db : Db) : Prop where
  recorded : ∀ body ∈ response.body?, db.Recorded request.onceKey body
  already : ∀ podId stopId completedAt,
    response = .pod (.alreadySubmitted (some podId) stopId completedAt) →
      ∃ row, db.pod? stopId = some row ∧ row.id = podId

/-- An answered request stays answered. -/
theorem Request.Answered.kept {request : Request} {response : Response} {next : Db}
    (answered : request.Answered response db) (kept : AnswersKept held db next) :
    request.Answered response next where
  recorded body isBody := kept.recorded (answered.recorded body isBody)
  already podId stopId completedAt same := by
    obtain ⟨row, found, rfl⟩ := answered.already podId stopId completedAt same
    obtain ⟨later, foundLater, id, _⟩ := kept.retains.pods stopId row found
    exact ⟨later, foundLater, id⟩

/-- A recorded reply answers its request. -/
theorem Request.Answered.of_reply {request : Request} {reply : Reply}
    (recorded : db.Recorded request.onceKey reply.body) : request.Answered (.reply reply) db :=
  ⟨fun _ isBody => Option.some.inj isBody ▸ recorded, nofun⟩

namespace PodService

variable [UuidText]

/-- The transaction of a proof records its body. -/
theorem claimPod_answers (stopId deliveryId : Uuid) (dto : SubmitPodDto) (actor : DeliveryActor)
    (db : Db) : (claimPod stopId deliveryId dto actor).Holds AnswersKept
      (fun value held made current => ∀ last, AnswersKept held current last →
        Answering held made last ∧
          (last.commit made).Recorded (recordKey actor dto.idempotencyKey) value) [] [] db := by
  have lasting : Txn.Lasting (S := store) AnswersKept fun _ _ => True :=
    ⟨fun _ _ => trivial, fun _ _ => trivial⟩
  refine (claimPod_holds AnswersKept.stable lasting (fun _ _ _ _ => trivial) db).mono
    fun value held made current committed last kept => ?_
  obtain ⟨commit, keyLocked, podLocked, _⟩ := committed
  exact answering_of_pod commit keyLocked podLocked kept

/-- The submission of a proof answers. -/
theorem submitPod_answers (stopId : Uuid) (dto : SubmitPodDto) (actor : DeliveryActor) (db : Db) :
    (submitPod stopId dto actor).Meets answering
      (OnResult (fun reply db => (Request.submitPod stopId dto actor).Answered (.pod reply) db)
        fun _ _ => True) db := by
  have ordinary := unkeyed_ordinary
  have replies : ∀ {reply : Reply} {db : Db}, db.Recorded (recordKey actor dto.idempotencyKey) reply.body →
      (Request.submitPod stopId dto actor).Answered (.pod (.reply reply)) db := fun recorded =>
    ⟨fun _ isBody => Option.some.inj isBody ▸ recorded, nofun⟩
  refine (answering_of_every (DeliveryStopsService.getStopAndVerifyDriver_every ordinary _ _) db).bind
    (fun _ _ _ => trivial) fun found current _ => ?_
  refine (Idempotency.stored_answers _ current).bind (fun _ _ _ => trivial)
    fun existing state recorded => ?_
  cases existing with
  | some body => exact replies (recorded body rfl)
  | none =>
      refine .ite (fun _ => ?_) fun _ => ?_
      · refine .bind (Q := OnResult (fun pod (state : Db) => state.pod? stopId = pod) fun _ _ => True)
          (answering_reading (fun _ _ _ _ read => (select_succeeds.mp read).2.2) fun next _ =>
            ⟨fun input pod read => (Prisma.ProofOfDelivery.findUnique_succeeds.mp read).2.1,
              fun _ => trivial⟩) (fun _ _ _ => trivial) fun pod state read => ⟨?_, ?_⟩
        · intro body isBody
          cases isBody
        intro podId stop completedAt same
        simp only [Response.pod.injEq, PodReply.alreadySubmitted.injEq] at same
        obtain ⟨isId, rfl, _⟩ := same
        obtain ⟨row, isRow, rfl⟩ := Option.map_eq_some_iff.mp isId
        exact ⟨row, read.trans isRow, rfl⟩
      · refine .rejectIf (fun _ => trivial) fun _ => .rejectIf (fun _ => trivial) fun _ => ?_
        refine (Idempotency.transactOnce_answers (claimPod_answers stopId found.1.deliveryId dto actor)
          state).bind (fun _ _ _ => trivial) fun reply current recorded => ?_
        cases reply with
        | replayed body => exact replies recorded
        | fresh body =>
            refine (recorded_after (answering_of_every (.statement (ordinary.emit _ _ _)))
              recorded).bind (fun _ _ _ => trivial) fun _ _ recorded => ?_
            refine (recorded_after (answering_of_every
              (DeliveriesService.completeDeliveryIfEligible_every ordinary _ _)) recorded).bind
              (fun _ _ _ => trivial) fun _ _ recorded => ?_
            exact replies recorded

end PodService

namespace DeliveryConflictsService

variable [UuidText]

/-- The operation of an event answers. -/
theorem dispatch_answers (item : OutboxEventItem) (stopId : Option Uuid)
    (actorDriverId actorUserId : Uuid) :
    (dispatch item stopId actorDriverId actorUserId).Commits answering := by
  have ordinary := unkeyed_ordinary
  cases stopId with
  | none => exact .pure _
  | some stopId =>
      refine .ite (.bind (answering_of_every
        (DeliveryStopsService.departToStop_every ordinary _ _ _)) fun _ => .pure _) ?_
      refine .ite (.bind (answering_of_every
        (DeliveryStopsService.arriveAtStop_every ordinary _ _ _)) fun _ => .pure _) ?_
      refine .ite (.bind (answering_of_every
        (DeliveryStopsService.startUnloading_every ordinary _ _ _)) fun _ => .pure _) ?_
      refine .ite (.bind (fun db => ?_) fun _ => .pure _) (.pure _)
      exact (PodService.submitPod_answers stopId _ _ db).weaken fun _ _ _ => trivial

/-- So does its turn. -/
theorem syncItem_answers (item : OutboxEventItem) (actorDriverId actorUserId : Uuid) :
    (syncItem item actorDriverId actorUserId).Commits answering := by
  have ordinary := unkeyed_ordinary
  have target : ∀ value, (readTarget value).Every (Tidy fun _ write => write.unkeyed = true) := by
    intro value
    refine .ite ?_ (.pure _)
    cases value.toUuid with
    | error error => exact .throw _
    | ok stopId => exact .bind (.statement (ordinary.select _)) fun _ => .pure _
  refine (answering_of_every (target _)).bind fun target => ?_
  cases target.bind Prod.snd with
  | none => exact (dispatch_answers _ _ _ _).bind fun _ => .pure _
  | some found =>
      have opened : ∀ id, (openConflict id item).Every (Tidy fun _ write => write.unkeyed = true) :=
        fun _ => .bind (.statement (ordinary.createConflict _ _ _ _ _)) fun _ => .pure _
      exact .ite ((answering_of_every (opened _)).map _)
        ((dispatch_answers _ _ _ _).bind fun _ => .pure _)

/-- So do the turns of a batch. -/
theorem syncItems_answers (actorDriverId actorUserId : Uuid) (items : List OutboxEventItem)
    (result : SyncResult) : (syncItems actorDriverId actorUserId items result).Commits answering := by
  induction items generalizing result with
  | nil => exact .pure _
  | cons item items inductionHypothesis =>
      refine .bind (.tryCatch ((syncItem_answers _ _ _).bind fun ticket => ?_) fun _ => .pure _)
        fun turn => inductionHypothesis turn
      cases ticket with
      | none => exact .pure _
      | some ticket => exact .pure _

end DeliveryConflictsService

namespace RoutesDomainService

variable [UuidText]

/-- Both operations on routes, by what their transaction answers. -/
theorem mutateRoute_answers {deliveryId : IdText} {actor : RouteActor} {key : Option IdempotencyKey}
    {submittedStopIds : List Uuid} {submittedSequences : Option (List Int)}
    {work : Txn store ResponseBody} {stops moves : List (Uuid × Int)}
    (works : ∀ db, work.Holds AnswersKept (fun value held made db =>
      RouteCommit deliveryId key stops moves db value made ∧ RouteHeld deliveryId key value held)
      [] [] db) (db : Db) :
    (mutateRoute deliveryId actor key submittedStopIds submittedSequences work).Meets answering
      (OnResult (fun reply db => db.Recorded key reply.body) fun _ _ => True) db := by
  have ordinary := unkeyed_ordinary
  have access : (verifyDeliveryAccess deliveryId actor).Every
      (Tidy fun _ write => write.unkeyed = true) :=
    .bind (.statement (ordinary.select _)) fun _ => .bind (.require _ _) fun _ =>
      .bind (.rejectIf _ _) fun _ => .bind (.rejectIf _ _) fun _ => .pure _
  have limits : (enforceRouteRateLimit deliveryId).Every (Tidy fun _ write =>
    write.unkeyed = true) :=
    .bind (.statement (ordinary.incrRateLimit _ _)) fun _ => .rejectIf _ _
  refine (answering_of_every access db).bind (fun _ _ _ => trivial) fun found current _ =>
    .rejectIf (fun _ => trivial) fun _ => ?_
  refine (answering_of_every limits current).bind (fun _ _ _ => trivial) fun _ afterLimit _ => ?_
  refine (Idempotency.stored_answers key afterLimit).bind (fun _ _ _ => trivial)
    fun existing state recorded => ?_
  cases existing with
  | some body => exact recorded body rfl
  | none =>
      have known : (requireKnownStops deliveryId (found.2.map DeliveryStop.id)
          submittedStopIds).Every (Tidy fun _ write => write.unkeyed = true) := by
        rw [requireKnownStops]
        split
        · exact .throw _
        · exact .pure _
      have validates : (validateCompleteStopSet (found.2.map DeliveryStop.id) submittedStopIds
          submittedSequences).Every (Tidy fun _ write => write.unkeyed = true) :=
        .bind (.rejectIf _ _) fun _ => .rejectIf _ _
      refine (answering_of_every known state).bind (fun _ _ _ => trivial) fun _ afterKnown _ => ?_
      refine (answering_of_every validates afterKnown).bind (fun _ _ _ =>
        trivial) fun _ valid _ => ?_
      refine (Idempotency.transactOnce_answers (fun db => (works db).mono
        fun value held made current committed last kept =>
          answering_of_route committed.1 committed.2 kept) valid).bind (fun _ _ _ => trivial)
        fun reply current recorded => ?_
      cases reply with
      | replayed body => exact recorded
      | fresh routeResult =>
          have emits : (broadcastRouteUpdated deliveryId routeResult actor).Every
              (Tidy fun _ write => write.unkeyed = true) := by
            cases routeResult <;> first | exact .pure _ | exact .statement (ordinary.emit _ _ _)
          exact (recorded_after (answering_of_every emits) recorded).bind (fun _ _ _ => trivial)
            fun _ _ recorded => recorded

/-- The selection of a route answers with a recorded body. -/
theorem selectRoute_answers (deliveryId : IdText) (dto : SelectRouteDto) (actor : RouteActor)
    (db : Db) :
    (selectRoute deliveryId dto actor).Meets answering
      (OnResult (fun reply db => db.Recorded (recordKey selectEndpoint actor dto.idempotencyKey)
        reply.body) fun _ _ => True) db :=
  mutateRoute_answers (fun db => claimSelection_holds AnswersKept.stable deliveryId dto actor db) db

/-- So does the reorder. -/
theorem reorderStops_answers (deliveryId : IdText) (dto : ManualReorderDto) (actor : RouteActor)
    (db : Db) : (reorderStops deliveryId dto actor).Meets answering
      (OnResult (fun reply db => db.Recorded (recordKey reorderEndpoint actor dto.idempotencyKey)
        reply.body) fun _ _ => True) db :=
  mutateRoute_answers (fun db => claimReorder_holds AnswersKept.stable deliveryId dto actor db) db

end RoutesDomainService

namespace MessagesService

variable [UuidText]

omit [UuidText] in
/-- The record of a message that is there. -/
theorem answering_of_record {row : IdempotencyRecord}
    (reports : db.Reports row.responseBody) : Answering held [.createRecord row] db := by
  have now : ∀ key, (db.commit [.createRecord row]).record? key =
      (db.record? key).or (if row.keyUserEndpoint = key then some row else none) := fun key =>
    (Write.createRecord row).record?_apply db key
  refine ⟨fun other member => ?_, fun key record found => ?_, fun key record free found => ?_,
    fun once => once⟩
  · exact nomatch List.mem_singleton.mp member
  · rw [now, found, Option.some_or]
  · rw [now, free, Option.none_or] at found
    split at found
    · cases found
      exact (Db.Retains.commit [.createRecord row] db).reports reports
    · cases found

omit [UuidText] in
/-- The record of a message is that message. -/
theorem saveRecord_answers (key : Option IdempotencyKey) {message : Message}
    (sent : db.Recorded none (.message message)) :
    (saveRecord key message).Meets answering
      (fun _ db => db.Recorded none (.message message)) db := by
  cases key with
  | none => exact sent
  | some key =>
      refine Proc.Meets.tryCatch (Q := fun _ (state : Db) => state.Recorded none (.message message))
        ?_ (fun _ _ known => known) fun _ _ known => known
      rw [Proc.meets_lift]
      refine fun next kept => ⟨fun input value writes succeeded => ?_, fun _ => kept.recorded sent⟩
      obtain ⟨_, _, rfl⟩ := Prisma.IdempotencyRecord.create_succeeds.mp succeeded
      have known := (kept.recorded sent).1
      exact ⟨answering_of_record known, fun _ => ⟨(Db.Retains.commit _ next).reports known, nofun⟩⟩

/-- A send answers with a recorded message. -/
theorem sendMessage_answers (conversationId : Uuid) (dto : SendMessageDto) (actor : UserActor)
    (channel : MessageChannel) (db : Db) :
    (sendMessage conversationId dto actor channel).Meets answering
      (OnResult (fun reply db => db.Recorded none reply.body) fun _ _ => True) db := by
  have ordinary := unkeyed_ordinary
  have access : (ConversationsService.verifyConversationAccess conversationId actor).Every
      (Tidy fun _ write => write.unkeyed = true) :=
    .bind (.statement (ordinary.select _)) fun _ => .bind (.require _ _) fun _ =>
      .bind (.rejectIf _ _) fun _ => .pure _
  have device : ∀ id, (liftM (Prisma.Device.findUnique id) : Proc store _).Every
      (Tidy fun _ write => write.unkeyed = true) := fun _ => .statement (ordinary.select _)
  have limits : (enforceSendRateLimit actor.userId).Every (Tidy fun _ write =>
    write.unkeyed = true) :=
    .bind (.statement (ordinary.incrRateLimit _ _)) fun _ => .rejectIf _ _
  refine (answering_of_every access db).bind (fun _ _ _ => trivial) fun _ first _ =>
    .require (fun _ => trivial) fun deviceId _ => ?_
  refine (answering_of_every (device _) first).bind (fun _ _ _ => trivial) fun _ second _ =>
    .rejectIf (fun _ => trivial) fun _ => ?_
  refine (answering_of_every (device _) second).bind (fun _ _ _ => trivial) fun _ third _ =>
    .rejectIf (fun _ => trivial) fun _ => ?_
  refine (answering_of_every limits third).bind (fun _ _ _ => trivial) fun _ fourth _ => ?_
  refine (Idempotency.stored_answers _ fourth).bind (fun _ _ _ => trivial)
    fun existing state recorded => ?_
  cases existing with
  | some body => exact ⟨(recorded body rfl).1, nofun⟩
  | none =>
      refine Proc.Meets.bind (Q := OnResult (fun message (state : Db) =>
        state.Recorded none (.message message)) fun _ _ => True) ?_ (fun _ _ _ => trivial)
        fun message state sent => (saveRecord_answers _ sent).bind (fun _ _ _ => trivial)
          fun _ _ sent => sent
      rw [Proc.meets_lift]
      refine fun next kept => ⟨fun input message writes succeeded => ?_, fun _ => trivial⟩
      obtain ⟨_, _, fresh, rfl⟩ := Prisma.Message.create_succeeds succeeded
      refine ⟨.of_unkeyed (by simp [Write.unkeyed]), fun _ => ⟨?_, nofun⟩⟩
      change (next.messages.insert message).find? message.id = some message
      rw [Table.find?_insert, fresh, Option.none_or]
      exact if_pos rfl

end MessagesService

/-! ## Runs -/

section Runs

variable [UuidText]

/-- The contracts of requests that answer. -/
def answerContract (requests : List Request) : System.Contract store Response where
  inv db := db.Settled ∧ db.SubmittedOnce
  rely := AnswersKept
  guar _ := Answers
  post thread result db := ∀ request response, requests[thread]? = some request →
    result = .ok response → request.Answered response db
  orderly _ _ := True
  relyRefl held db inv := ⟨.refl held db, .refl db, fun _ _ found => found, inv.1⟩
  relyTrans := .trans
  compatible _ _ _ _ inv answers _ :=
    ⟨⟨answers.settled inv.1, answers.1.once inv.2⟩,
      fun _ compatible => answers.kept inv.1 compatible⟩

omit [UuidText] in
/-- A request whose answer has no body is answered. -/
theorem Request.Answered.silent {request : Request} {response : Response}
    (silent : response.body? = none)
    (other : ∀ podId stopId completedAt,
      response ≠ .pod (.alreadySubmitted podId stopId completedAt)) :
    request.Answered response db where
  recorded body isBody := by
    rw [silent] at isBody
    cases isBody
  already podId stopId completedAt same := absurd same (other _ _ _)

/-- A request that answers with no body. -/
theorem answered_of_silent {α : Type} {request : Request} {process : Proc store α}
    {answer : α → Response} (every : request.proc.Every (Tidy fun _ write => write.unkeyed = true))
    (answers : request.proc = answer <$> process)
    (silent : ∀ value, (answer value).body? = none ∧
      ∀ podId stopId completedAt, answer value ≠ .pod (.alreadySubmitted podId stopId completedAt)) :
    request.proc.Meets answering
      (OnResult (fun response db => request.Answered response db) fun _ _ => True) db := by
  rw [answers] at every ⊢
  rw [Proc.meets_map]
  refine (answering_of_every every.of_map db).weaken fun result state _ => ?_
  cases result with
  | error error => trivial
  | ok value => exact .silent (silent value).1 (silent value).2

/-- Every request answers. -/
theorem Request.proc_answers (request : Request) (db : Db) :
    request.proc.Meets answering
      (OnResult (fun response db => request.Answered response db) fun _ _ => True) db := by
  have ordinary := unkeyed_ordinary
  have creating : Creating (Tidy fun _ write => write.unkeyed = true) :=
    creating_tidy (fun _ _ => Write.unkeyed_of_creating) fun _ _ _ _ => rfl
  cases request with
  | submitPod stopId dto actor =>
      exact (Proc.meets_map _ _ _).mpr (PodService.submitPod_answers stopId dto actor db)
  | syncOutbox dto driver user =>
      refine (Proc.meets_map _ _ _).mpr
        ((DeliveryConflictsService.syncItems_answers driver user dto.events {} db).weaken
          fun result state _ => ?_)
      cases result with
      | error error => trivial
      | ok value => exact Request.Answered.silent rfl nofun
  | selectRoute id dto actor =>
      exact (Proc.meets_map _ _ _).mpr ((RoutesDomainService.selectRoute_answers id dto actor db).weaken
        fun result state recorded => by cases result <;> first | trivial | exact .of_reply recorded)
  | reorderStops id dto actor =>
      exact (Proc.meets_map _ _ _).mpr ((RoutesDomainService.reorderStops_answers id dto actor db).weaken
        fun result state recorded => by cases result <;> first | trivial | exact .of_reply recorded)
  | sendMessage id dto actor channel =>
      exact (Proc.meets_map _ _ _).mpr ((MessagesService.sendMessage_answers id dto actor channel db).weaken
        fun result state recorded => by cases result <;> first | trivial | exact .of_reply recorded)
  | createDelivery dto user =>
      have needs : (Request.createDelivery dto user).Needs (Tidy fun _ write =>
        write.unkeyed = true) :=
        creating
      exact answered_of_silent (Request.every ordinary needs) rfl fun _ => ⟨rfl, nofun⟩
  | resolveConflict id dto user role =>
      have needs : (Request.resolveConflict id dto user role).Needs
          (Tidy fun _ write => write.unkeyed = true) :=
        overriding_tidy (fun _ _ => Write.unkeyed_of_ordinary) fun _ _ _ _ _ _ => rfl
      exact answered_of_silent (Request.every ordinary needs) rfl fun _ => ⟨rfl, nofun⟩
  | _ => exact answered_of_silent (Request.every ordinary trivial) rfl fun _ => ⟨rfl, nofun⟩

/-- So every request is within the contract of the answers. -/
theorem Request.within_answerContract {requests : List Request} {request : Request} {thread : Nat}
    (asked : requests[thread]? = some request) :
    request.proc.Meets ((answerContract requests).discipline thread)
      ((answerContract requests).post thread) db := by
  refine ((request.proc_answers db).covered request.locking).weaken fun result state answered => ?_
  intro other response same isOk
  cases asked.symm.trans same
  subst isOk
  exact answered

variable {requests : List Request} {supplied : Input → Prop} {trace : List (Commit store)}
  {system : System store Response}

/-- Over a run the records stay settled and every answer recorded. -/
theorem answers_sound (settled : db.Settled) (once : db.SubmittedOnce)
    (steps : (System.ofPool (Request.pool db requests)).Steps supplied trace system) :
    (system.state.Settled ∧ system.state.SubmittedOnce) ∧
      (answerContract requests).Upheld system := by
  have upheld : (answerContract requests).Upheld (System.ofPool (Request.pool db requests)) := by
    refine System.Contract.upheld_ofPool ⟨settled, once⟩ fun thread process found => ?_
    obtain ⟨request, asked, rfl⟩ := Option.map_eq_some_iff.mp (List.getElem?_map.symm.trans found)
    exact Request.within_answerContract asked
  have initially : db.Settled ∧ db.SubmittedOnce := ⟨settled, once⟩
  obtain ⟨last, upheld, _⟩ := steps.sound initially (System.exclusive_ofPool _) upheld
    fun _ _ => trivial
  exact ⟨last, upheld⟩

omit [UuidText] in
/-- What a thread ended with is an answer of its request. -/
theorem answered_of_ended (upheld : (answerContract requests).Upheld system) {thread : Nat}
    {request : Request} {response : Response} (asked : requests[thread]? = some request)
    (ended : system.Ended thread (.ok response)) : request.Answered response system.state := by
  obtain ⟨since, relied, posted⟩ := upheld.post_of_ended ended
  exact (posted request response asked rfl).kept relied

/-- In every run of any requests every record comes to a body that reports a row, a proof is
submitted once for a stop, and every answer with a body reports a row that is there, and is
recorded under the key of its request. -/
theorem answers_reported (settled : db.Settled) (once : db.SubmittedOnce)
    (steps : (System.ofPool (Request.pool db requests)).Steps supplied trace system) :
    system.state.Settled ∧ system.state.SubmittedOnce ∧
      ∀ (thread : Nat) request response, requests[thread]? = some request →
        system.Ended thread (.ok response) → request.Answered response system.state := by
  obtain ⟨last, upheld⟩ := answers_sound settled once steps
  exact ⟨last.1, last.2, fun _ _ _ asked ended => answered_of_ended upheld asked ended⟩

/-- Two requests under one key that both end well answer the same body, whichever of them did
the work and wherever each found the record. -/
theorem same_key_same_answer (settled : db.Settled) (once : db.SubmittedOnce)
    (steps : (System.ofPool (Request.pool db requests)).Steps supplied trace system)
    {first second : Nat} {one other : Request} {left right : Response} {key : IdempotencyKey}
    (askedFirst : requests[first]? = some one) (askedSecond : requests[second]? = some other)
    (keyFirst : one.onceKey = some key) (keySecond : other.onceKey = some key)
    (endedFirst : system.Ended first (.ok left)) (endedSecond : system.Ended second (.ok right))
    {mine theirs : ResponseBody} (saysFirst : left.body? = some mine)
    (saysSecond : right.body? = some theirs) : mine = theirs := by
  obtain ⟨_, upheld⟩ := answers_sound settled once steps
  have recordedFirst := (answered_of_ended upheld askedFirst endedFirst).recorded mine saysFirst
  have recordedSecond := (answered_of_ended upheld askedSecond endedSecond).recorded theirs saysSecond
  obtain ⟨record, found, rfl⟩ := recordedFirst.2 key keyFirst
  obtain ⟨same, foundSame, rfl⟩ := recordedSecond.2 key keySecond
  rw [found] at foundSame
  cases foundSame
  rfl

end Runs

/-! ## Two submissions under one key -/

namespace OneKey

local instance : DecidableRel store.clash := inferInstanceAs (DecidableEq Lock)

def actor : DeliveryActor := { userId := 30, role := .driver, driverId := some 3 }

def start : Db where
  deliveries := Table.empty.insert
    { id := 1, deliveryCode := "D-1", driverId := some 3, status := .enRoute, createdBy := 9 }
  deliveryStops := Table.empty.insert
    { id := 7, deliveryId := 1, sequence := 1, status := .arrived }

def request : Request :=
  .submitPod 7 { receiverName := .string "Ani", idempotencyKey := some 5 } actor

def calls : List Request := [request, request]

def pool : Pool store Response := @Request.pool noUuids start calls

/-- Neither finds a record; the second comes to its own insert when the first has committed. -/
def schedule : List (Nat × Input) :=
  ((List.replicate 3 [0, 1]).flatten ++ List.replicate 30 0 ++ List.replicate 10 1).zipIdx.map
    fun (step : Nat × Nat) => (step.1, { uuid := step.2 })

def final : System store Response := ((System.ofPool pool).play schedule).2

/-- What a thread that has ended well replies. -/
def reply? (thread : Nat) : Option Reply :=
  match final.threads[thread]? with
  | some (.outside (.done (.pod (.reply reply)))) => some reply
  | _ => none

/-- A thread that has a reply has ended with it. -/
theorem ended_of_reply {thread : Nat} {reply : Reply} (found : reply? thread = some reply) :
    final.Ended thread (.ok (.pod (.reply reply))) := by
  rw [reply?] at found
  split at found
  · rename_i other atThread
    cases found
    exact ⟨_, atThread, rfl⟩
  · cases found

/-- The empty store is settled. -/
theorem settled : start.Settled := fun _ _ found => nomatch found

/-- In it nothing was submitted twice. -/
theorem submittedOnce : start.SubmittedOnce := fun _ => ⟨Nat.zero_le 1, fun told => absurd rfl told⟩

/-- The schedule is a run. -/
theorem steps : (System.ofPool pool).Steps (fun _ => True) ((System.ofPool pool).play schedule).1
    final :=
  System.play_steps schedule (System.ofPool pool)

/-- One has ended with what it has made, the other with what it has found. -/
theorem both : ∃ first ∈ reply? 0, ∃ second ∈ reply? 1,
    first = .fresh first.body ∧ second = .replayed second.body := by
  decide +kernel

/-- Both submissions are answered. -/
theorem answers_reported_both :
    ∃ first ∈ reply? 0, ∃ second ∈ reply? 1, final.state.SubmittedOnce ∧
      request.Answered (.pod (.reply first)) final.state ∧
        request.Answered (.pod (.reply second)) final.state := by
  obtain ⟨first, atFirst, second, atSecond, _⟩ := both
  have reported := @answers_reported _ noUuids calls _ _ _ settled submittedOnce steps
  exact ⟨first, atFirst, second, atSecond, reported.2.1,
    reported.2.2 0 request _ rfl (ended_of_reply atFirst),
    reported.2.2 1 request _ rfl (ended_of_reply atSecond)⟩

/-- The second is answered with the body of the first. -/
theorem same_key_same_answer_both :
    ∃ body, reply? 0 = some (.fresh body) ∧ reply? 1 = some (.replayed body) := by
  obtain ⟨first, atFirst, second, atSecond, isFresh, isReplayed⟩ := both
  have same : first.body = second.body := @same_key_same_answer _ noUuids calls _ _ _ settled
    submittedOnce steps 0 1 request request _ _ ⟨5, 30, PodService.endpoint⟩ rfl rfl rfl rfl
    (ended_of_reply atFirst) (ended_of_reply atSecond) _ _ rfl rfl
  exact ⟨first.body, by rw [← isFresh]; exact atFirst, by rw [same, ← isReplayed]; exact atSecond⟩

end OneKey

end Armada
