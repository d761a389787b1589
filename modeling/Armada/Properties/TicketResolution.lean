import Armada.Effects.Services

/-!
# Resolving a ticket

`resolveConflict` reads that a ticket is open and then resolves it in a transaction that
does not look at the status again, with whatever status the request asks for. So a ticket
is decided once exactly in those runs in which every resolution is committed on a ticket
that is still open, and none asks for it to be open.
-/

namespace Armada

open Relational Concurrency

namespace Db

/-- The status of a ticket. -/
def ticketStatus? (db : Db) (conflictId : Uuid) : Option ConflictStatus :=
  (db.conflict? conflictId).map DeliveryConflict.status

/-- The audit rows of the resolutions of a ticket. -/
def resolutions (db : Db) (conflictId : Uuid) : List AuditLog :=
  db.auditLogs.filter fun log => log.action = "CONFLICT_RESOLVED" ∧
    log.entityType = "DELIVERY_CONFLICT" ∧ log.entityId.uuid = conflictId

end Db

/-- What a request to resolve a ticket says, who makes it, and how its path spells the ticket. -/
structure ResolveRequest where
  dto : ResolveConflictDto
  actorUserId : Uuid
  actorRole : Role
  spelling : Spelling

/-- The id of the ticket in the path. -/
abbrev ResolveRequest.path (request : ResolveRequest) (conflictId : Uuid) : IdText :=
  ⟨conflictId, request.spelling⟩

/-- The request for the ticket. -/
def ResolveRequest.on (request : ResolveRequest) (conflictId : Uuid) : Request :=
  .resolveConflict (request.path conflictId) request.dto request.actorUserId request.actorRole

open DeliveryConflictsService (resolve resolveConflict)

section Resolutions

variable [UuidText] {conflict : DeliveryConflict} {conflictId : IdText} {dto : ResolveConflictDto}
  {actorUserId : Uuid} {db : Db} {writes : List Write}

/-- An override leaves the other tickets. -/
theorem Override.conflict?_commit {changes : List Write} (changed : Override conflict dto db changes)
    (base : Db) (id : Uuid) : (base.commit changes).conflict? id = base.conflict? id := by
  cases changed with
  | plain => rfl
  | overridden status named target stopFound evidenced outcome order completes =>
      cases evidenced <;> cases completes <;> rfl

/-- It leaves the audit rows. -/
theorem Override.auditLogs_commit {changes : List Write} (changed : Override conflict dto db changes)
    (base : Db) : (base.commit changes).auditLogs = base.auditLogs := by
  cases changed with
  | plain => rfl
  | overridden status named target stopFound evidenced outcome order completes =>
      cases evidenced <;> cases completes <;> rfl

namespace Resolution

/-- A resolution writes its ticket. -/
theorem resolves (resolution : Resolution conflict conflictId dto actorUserId db writes) :
    ∃ data, Write.updateConflict conflictId data ∈ writes := by
  cases resolution
  exact ⟨_, List.mem_cons_self⟩

/-- So it writes something. -/
theorem writes_ne_nil (resolution : Resolution conflict conflictId dto actorUserId db writes) :
    writes ≠ [] := by
  obtain ⟨data, member⟩ := resolution.resolves
  exact List.ne_nil_of_mem member

/-- The ticket takes the status of the request, whichever it had. -/
theorem ticketStatus?_commit
    (resolution : Resolution conflict conflictId dto actorUserId db writes) :
    (db.commit writes).ticketStatus? conflictId = some dto.status := by
  cases resolution with
  | @intro ticket data changes found status changed =>
      have after : ((Write.updateConflict conflictId data).apply db).conflict? conflictId =
          some (data.set ticket) := by
        rw [Write.conflict?_apply, Write.onConflict, if_pos rfl, found, Option.map_some]
      have logged : (db.commit (.updateConflict conflictId data :: changes ++
          [.createAuditLog (resolutionLog conflictId dto actorUserId)])).conflict? conflictId =
            some (data.set ticket) := by
        rw [Db.commit_append, Db.commit_cons]
        exact (changed.conflict?_commit _ conflictId).trans after
      rw [Db.ticketStatus?, logged, Option.map_some, ← status]
      rfl

/-- There is one audit row more. -/
theorem resolutions_commit
    (resolution : Resolution conflict conflictId dto actorUserId db writes) :
    ((db.commit writes).resolutions conflictId).length = (db.resolutions conflictId).length + 1 := by
  cases resolution with
  | @intro ticket data changes found status changed =>
      have logged : (db.commit (.updateConflict conflictId data :: changes ++
          [.createAuditLog (resolutionLog conflictId dto actorUserId)])).auditLogs =
            db.auditLogs ++ [resolutionLog conflictId dto actorUserId] := by
        rw [Db.commit_append, Db.commit_cons]
        exact congrArg (· ++ _) (changed.auditLogs_commit _)
      rw [Db.resolutions, logged, List.filter_append, List.length_append]
      simp [Db.resolutions, resolutionLog]

end Resolution

end Resolutions

section Phases

variable [UuidText] {conflictId : Uuid} {request : ResolveRequest}

/-- How far a request to resolve a ticket has come. One that has seen the ticket open,
or has resolved it, shows that the ticket was open at the start. -/
inductive ResolvePhase (conflictId : Uuid) (request : ResolveRequest) (opened : Prop) :
    Proc store Response → Prop where
  | waiting : ResolvePhase conflictId request opened (request.on conflictId).proc
  | checked (conflict : DeliveryConflict) (wasOpen : opened) :
      ResolvePhase conflictId request opened
        (Response.conflict <$>
          Proc.transact (resolve conflict (request.path conflictId) request.dto request.actorUserId))
  | rejected (error : Exception) : ResolvePhase conflictId request opened (.fail error)
  | resolved (row : DeliveryConflict) (wasOpen : opened) :
      ResolvePhase conflictId request opened (.done (.conflict row))

/-- One step of a request: a reading, or the resolution that ends it. -/
theorem ResolvePhase.advance {opened : Prop} {process next : Proc store Response} {db : Db}
    {inputs : Nat → store.Input} {writes : List Write}
    (phase : ResolvePhase conflictId request opened process)
    (isOpen : db.ticketStatus? conflictId = some .opened → opened)
    (advanced : process.advance inputs db = some (writes, next)) :
    (writes = [] ∧ ResolvePhase conflictId request opened next ∧
        ∀ answer, next.finished ≠ some (.ok answer)) ∨
      (∃ conflict, Resolution conflict (request.path conflictId) request.dto request.actorUserId db writes) ∧
        opened ∧ ∃ row, next = .done (.conflict row) := by
  cases phase with
  | waiting =>
      left
      simp only [ResolveRequest.on, Request.proc, resolveConflict, Proc.rejectIf] at advanced
      split at advanced
      · cases advanced
      change some (Statement.writes (Prisma.DeliveryConflict.findUnique conflictId) (inputs 0) db, _) =
        _ at advanced
      cases advanced
      change (Prisma.DeliveryConflict.findUnique conflictId).writes (inputs 0) db = [] ∧
        ResolvePhase _ _ _ (Proc.bind (Proc.bind (Proc.ofExcept
          ((Prisma.DeliveryConflict.findUnique conflictId).result (inputs 0) db)) _) _) ∧
        ∀ answer, Proc.finished (Proc.bind (Proc.bind (Proc.ofExcept
          ((Prisma.DeliveryConflict.findUnique conflictId).result (inputs 0) db)) _) _) ≠ _
      rcases (Prisma.DeliveryConflict.findUnique conflictId).ends (inputs 0) db with
        ⟨error, failure, none⟩ | ⟨found, success, executed⟩
      · rw [failure]
        exact ⟨none, .rejected error, by rintro _ ⟨⟩⟩
      · obtain ⟨_, foundNow, none⟩ := Prisma.DeliveryConflict.findUnique_succeeds.mp executed
        rw [success]
        refine ⟨none, ?_⟩
        cases found with
        | none => exact ⟨.rejected _, by rintro _ ⟨⟩⟩
        | some conflict =>
            change ResolvePhase _ _ _ (Proc.bind (Proc.bind (ite (conflict.status ≠ .opened)
              _ _) _) _) ∧ ∀ answer, Proc.finished (Proc.bind (Proc.bind (ite
                (conflict.status ≠ .opened) _ _) _) _) ≠ _
            by_cases seen : conflict.status = .opened
            · rw [if_neg (not_not_intro seen)]
              refine ⟨.checked conflict (isOpen ?_), by rintro _ ⟨⟩⟩
              rw [Db.ticketStatus?, foundNow, Option.map_some, seen]
            · rw [if_pos seen]
              exact ⟨.rejected _, by rintro _ ⟨⟩⟩
  | checked conflict wasOpen =>
      have committed := DeliveryConflictsService.resolve_commits conflict (request.path conflictId)
        request.dto request.actorUserId db
      change some (Txn.writes _ inputs db, _) = _ at advanced
      cases advanced
      change _ ∧ ResolvePhase _ _ _ (Proc.bind (Proc.ofExcept (Txn.result _ inputs db)) _) ∧
        (∀ answer, Proc.finished (Proc.bind (Proc.ofExcept (Txn.result _ inputs db)) _) ≠ _) ∨
        _ ∧ _ ∧ ∃ row, Proc.bind (Proc.ofExcept (Txn.result _ inputs db)) _ = _
      rcases committed.ends inputs with ⟨error, failure, none⟩ | ⟨row, success, made⟩
      · rw [failure]
        exact .inl ⟨none, .rejected error, by rintro _ ⟨⟩⟩
      · rw [success]
        exact .inr ⟨⟨conflict, made⟩, wasOpen, row, rfl⟩
  | rejected error => cases advanced
  | resolved row wasOpen => cases advanced

/-- What a run of requests to resolve a ticket has come to. -/
structure ResolveRun (conflictId : Uuid) (db : Db) (requests : List ResolveRequest)
    (trace : List (Commit store)) (pool : Pool store Response) : Prop where
  phases : ∀ (thread : Nat) process, pool.procs[thread]? = some process → ∃ request,
    requests[thread]? = some request ∧
      ResolvePhase conflictId request (db.ticketStatus? conflictId = some .opened) process
  made : ∀ commit ∈ active trace, ∃ request conflict, requests[commit.thread]? = some request ∧
    Resolution conflict (request.path conflictId) request.dto request.actorUserId commit.before commit.writes
  succeeded : ∀ thread, pool.Succeeded thread ↔ thread ∈ (active trace).map Commit.thread
  once : ((active trace).map Commit.thread).Nodup
  wasOpen : active trace ≠ [] → db.ticketStatus? conflictId = some .opened

/-- A request is not finished before it begins. -/
theorem ResolveRequest.unfinished (request : ResolveRequest) (conflictId : Uuid)
    (answer : Response) : (request.on conflictId).proc.finished ≠ some (.ok answer) := by
  simp only [ResolveRequest.on, Request.proc, resolveConflict, Proc.rejectIf]
  split
  · rintro ⟨⟩
  · rintro ⟨⟩

/-- No steps are a run of the resolutions. -/
theorem ResolveRun.refl (conflictId : Uuid) (db : Db) (requests : List ResolveRequest) :
    ResolveRun conflictId db requests []
      (Request.pool db (requests.map fun request => request.on conflictId)) where
  phases thread process found := by
    simp only [Request.pool, List.getElem?_map, Option.map_eq_some_iff] at found
    obtain ⟨_, ⟨request, atThread, rfl⟩, rfl⟩ := found
    exact ⟨request, atThread, .waiting⟩
  made _ member := absurd member List.not_mem_nil
  succeeded thread := by
    constructor
    · rintro ⟨process, answer, found, finished⟩
      simp only [Request.pool, List.getElem?_map, Option.map_eq_some_iff] at found
      obtain ⟨_, ⟨request, _, rfl⟩, rfl⟩ := found
      exact absurd finished (request.unfinished conflictId answer)
    · rintro ⟨⟩
  once := List.nodup_nil
  wasOpen impossible := absurd rfl impossible

/-- Until a request resolves it, the ticket is as it was. -/
theorem ResolveRun.opened {db : Db} {requests : List ResolveRequest} {trace : List (Commit store)}
    {pool : Pool store Response} (run : ResolveRun conflictId db requests trace pool)
    (linked : Linked db trace pool.state)
    (isOpen : pool.state.ticketStatus? conflictId = some .opened) :
    db.ticketStatus? conflictId = some .opened := by
  by_cases idle : active trace = []
  · have same := linked.active
    rw [idle] at same
    obtain rfl : pool.state = db := same
    exact isOpen
  · exact run.wasOpen idle

/-- The steps of the requests are such a run. -/
theorem resolveRun_of_steps {db : Db} {requests : List ResolveRequest}
    {trace : List (Commit store)} {pool : Pool store Response}
    (steps : (Request.pool db (requests.map fun request =>
      request.on conflictId)).Steps trace pool) :
    ResolveRun conflictId db requests trace pool := by
  induction steps with
  | refl => exact .refl conflictId db requests
  | @step trace pool thread inputs process next writes prior enabled advanced run =>
      obtain ⟨request, atThread, phase⟩ := run.phases thread process enabled
      -- a process that moves has not returned, so it has not resolved the ticket before
      have running := Pool.not_succeeded_of_advance enabled advanced
      have phases : ResolvePhase conflictId request (db.ticketStatus? conflictId = some .opened) next →
          ∀ (other : Nat) current, (pool.procs.set thread next)[other]? = some current →
            ∃ request, requests[other]? = some request ∧ ResolvePhase conflictId request
              (db.ticketStatus? conflictId = some .opened) current := by
        intro phaseNext other current found
        rcases Pool.eq_or_of_set enabled found with ⟨rfl, rfl⟩ | ⟨_, old⟩
        · exact ⟨request, atThread, phaseNext⟩
        · exact run.phases other current old
      rcases phase.advance (run.opened prior.linked) advanced with
        ⟨rfl, phaseNext, unfinished⟩ | ⟨⟨conflict, made⟩, wasOpen, row, rfl⟩
      · have same : active (trace ++ [⟨thread, pool.state, []⟩]) = active trace := by
          simp [active, List.filter_append]
        refine ⟨phases phaseNext, ?_, fun other => ?_, ?_, ?_⟩ <;> rw [same]
        · exact run.made
        · rw [Pool.succeeded_set enabled, ← run.succeeded]
          constructor
          · rintro (⟨_, answer, finished⟩ | ⟨_, succeeded⟩)
            · exact absurd finished (unfinished answer)
            · exact succeeded
          · exact fun succeeded => .inr ⟨fun here => running (here ▸ succeeded), succeeded⟩
        · exact run.once
        · exact run.wasOpen
      · have more : active (trace ++ [⟨thread, pool.state, writes⟩]) =
            active trace ++ [⟨thread, pool.state, writes⟩] := by
          simp [active, List.filter_append, made.writes_ne_nil]
        refine ⟨phases (.resolved row wasOpen), ?_, fun other => ?_, ?_, fun _ => wasOpen⟩ <;>
          rw [more]
        · intro commit member
          rcases List.mem_append.mp member with earlier | last
          · exact run.made commit earlier
          · rw [List.mem_singleton.mp last]
            exact ⟨request, conflict, atThread, made⟩
        · rw [Pool.succeeded_set enabled, List.map_append, List.mem_append, ← run.succeeded]
          by_cases here : other = thread
          · simp [here, Proc.finished]
          · simp [here]
        · rw [List.map_append, List.nodup_append]
          refine ⟨run.once, List.nodup_singleton _, fun earlier member last isLast same => ?_⟩
          rw [← run.succeeded] at member
          rw [same, List.mem_singleton.mp isLast] at member
          exact running member

/-- A ticket is decided once: one request at most succeeds, from then on the ticket has
one status, which is not open, and one audit row, and a ticket that was discarded has
changed nothing else. -/
structure DecidedOnce (conflictId : Uuid) (start : Pool store Response)
    (trace : List (Commit store)) (final : Pool store Response) : Prop where
  once : ∀ left right, final.Succeeded left → final.Succeeded right → left = right
  lasting : ∀ first middle rest thread, start.Steps first middle → middle.Steps rest final →
    trace = first ++ rest → middle.Succeeded thread →
      (middle.state.ticketStatus? conflictId = some .resolvedOverridden ∨
        middle.state.ticketStatus? conflictId = some .resolvedDiscarded) ∧
      final.state.ticketStatus? conflictId = middle.state.ticketStatus? conflictId ∧
      (middle.state.resolutions conflictId).length = 1
  discarded : final.state.ticketStatus? conflictId = some .resolvedDiscarded →
    ∀ commit ∈ trace, commit.after.deliveryStops = commit.before.deliveryStops ∧
      commit.after.proofsOfDelivery = commit.before.proofsOfDelivery ∧
      commit.after.deliveries = commit.before.deliveries

/-- Every resolution is committed on a ticket that is still open, and none asks for the
ticket to be open. -/
def InTurn (conflictId : Uuid) (requests : List ResolveRequest) (trace : List (Commit store)) :
    Prop :=
  ∀ commit ∈ trace, ∀ request data, requests[commit.thread]? = some request →
    Write.updateConflict conflictId data ∈ commit.writes →
      commit.before.ticketStatus? conflictId = some .opened ∧ request.dto.status ≠ .opened

/-- Two resolutions in turn would be one of an open and one of a resolved ticket. -/
theorem ResolveRun.single {db : Db} {requests : List ResolveRequest} {trace : List (Commit store)}
    {pool : Pool store Response} (run : ResolveRun conflictId db requests trace pool)
    (linked : Linked db trace pool.state) (inTurn : InTurn conflictId requests trace) :
    active trace = [] ∨ ∃ commit, active trace = [commit] := by
  cases actives : active trace with
  | nil => exact .inl rfl
  | cons commit rest =>
      refine .inr ⟨commit, ?_⟩
      cases rest with
      | nil => rfl
      | cons second rest =>
          have along := linked.active
          rw [actives] at along
          obtain ⟨_, follows, _⟩ := along
          have firstActive : commit ∈ active trace := actives ▸ List.mem_cons_self
          have secondActive : second ∈ active trace :=
            actives ▸ List.mem_cons_of_mem _ List.mem_cons_self
          obtain ⟨request, conflict, atThread, made⟩ := run.made commit firstActive
          obtain ⟨later, other, atSecond, madeSecond⟩ := run.made second secondActive
          obtain ⟨data, resolves⟩ := made.resolves
          obtain ⟨dataSecond, resolvesSecond⟩ := madeSecond.resolves
          have closed := (inTurn commit (mem_active.mp firstActive).1 request data atThread
            resolves).2
          have opened := (inTurn second (mem_active.mp secondActive).1 later dataSecond atSecond
            resolvesSecond).1
          rw [follows, Commit.after, Db.applyAll_store, made.ticketStatus?_commit,
            Option.some.injEq] at opened
          exact absurd opened closed

/-- A plain resolution changes nothing else. -/
theorem Override.unchanged {conflict : DeliveryConflict} {dto : ResolveConflictDto} {db : Db}
    {changes : List Write} (changed : Override conflict dto db changes)
    (plain : dto.status ≠ .resolvedOverridden) : changes = [] := by
  cases changed with
  | plain => rfl
  | overridden status => exact absurd status plain

/-- If one request at most succeeds, one commit has resolved the ticket. -/
theorem ResolveRun.only_of_once {db : Db} {requests : List ResolveRequest}
    {trace : List (Commit store)} {pool : Pool store Response} {commit : Commit store}
    (run : ResolveRun conflictId db requests trace pool)
    (once : ∀ left right, pool.Succeeded left → pool.Succeeded right → left = right)
    (isActive : commit ∈ active trace) : active trace = [commit] := by
  have same : ∀ other ∈ active trace, other.thread = commit.thread := by
    intro other otherActive
    exact once _ _ ((run.succeeded _).mpr (List.mem_map_of_mem otherActive))
      ((run.succeeded _).mpr (List.mem_map_of_mem isActive))
  -- all threads that have resolved the ticket are one, and no thread resolves it twice
  have threads : (active trace).map Commit.thread = _ :=
    List.eq_replicate_of_mem (a := commit.thread) fun thread atThread => by
      obtain ⟨other, otherActive, rfl⟩ := List.mem_map.mp atThread
      exact same other otherActive
  have distinct := run.once
  rw [threads, List.nodup_replicate, List.length_map] at distinct
  obtain ⟨only, actives⟩ := List.length_eq_one_iff.mp
    (Nat.le_antisymm distinct (List.length_pos_of_mem isActive))
  rw [actives, List.mem_singleton] at isActive
  rw [actives, isActive]

/-- The one resolution of a run starts from the first state and leaves the last one. -/
theorem ResolveRun.only {db : Db} {requests : List ResolveRequest} {trace : List (Commit store)}
    {pool : Pool store Response} {commit : Commit store}
    (run : ResolveRun conflictId db requests trace pool) (linked : Linked db trace pool.state)
    (single : active trace = [commit]) :
    commit.before = db ∧ ∃ request conflict, requests[commit.thread]? = some request ∧
      Resolution conflict (request.path conflictId) request.dto request.actorUserId commit.before commit.writes ∧
      pool.state.ticketStatus? conflictId = some request.dto.status ∧
      (pool.state.resolutions conflictId).length = (db.resolutions conflictId).length + 1 := by
  have isActive : commit ∈ active trace := single ▸ List.mem_singleton_self commit
  obtain ⟨request, conflict, atThread, made⟩ := run.made commit isActive
  have along := linked.active
  rw [single] at along
  obtain ⟨isStart, ended⟩ := along
  refine ⟨isStart, request, conflict, atThread, made, ?_, ?_⟩
  · rw [ended, Commit.after, Db.applyAll_store, made.ticketStatus?_commit]
  · rw [ended, Commit.after, Db.applyAll_store, made.resolutions_commit, isStart]

/-- Resolutions in turn leave the ticket as the first one has left it. -/
theorem ResolveRun.lasting {db : Db} {requests : List ResolveRequest}
    {first rest : List (Commit store)} {middle final : Pool store Response} {thread : Nat}
    (run : ResolveRun conflictId db requests first middle)
    (whole : ResolveRun conflictId db requests (first ++ rest) final)
    (before : Linked db first middle.state) (after : Linked middle.state rest final.state)
    (inTurn : InTurn conflictId requests (first ++ rest))
    (unresolved : db.ticketStatus? conflictId = some .opened → db.resolutions conflictId = [])
    (succeeded : middle.Succeeded thread) :
    (middle.state.ticketStatus? conflictId = some .resolvedOverridden ∨
      middle.state.ticketStatus? conflictId = some .resolvedDiscarded) ∧
    final.state.ticketStatus? conflictId = middle.state.ticketStatus? conflictId ∧
    (middle.state.resolutions conflictId).length = 1 := by
  obtain ⟨commit, isActive, rfl⟩ := List.mem_map.mp ((run.succeeded thread).mp succeeded)
  obtain ⟨only, none⟩ : active first = [commit] ∧ active rest = [] := by
    rcases whole.single (before.append after) inTurn with none | ⟨other, actives⟩
    · rw [active_append, List.append_eq_nil_iff] at none
      rw [none.1] at isActive
      cases isActive
    · rw [active_append, List.append_eq_singleton_iff] at actives
      rcases actives with ⟨none, _⟩ | ⟨only, none⟩
      · rw [none] at isActive
        cases isActive
      · rw [only, List.mem_singleton] at isActive
        exact ⟨isActive ▸ only, none⟩
  obtain ⟨_, request, conflict, atThread, made, status, logged⟩ := run.only before only
  obtain ⟨data, resolves⟩ := made.resolves
  have closed := (inTurn commit (List.mem_append_left _ (mem_active.mp isActive).1) request data
    atThread resolves).2
  have onward := after.active
  rw [none] at onward
  refine ⟨?_, congrArg (Db.ticketStatus? · conflictId) onward, ?_⟩
  · rw [status]
    cases asked : request.dto.status with
    | opened => exact absurd asked closed
    | resolvedOverridden => exact .inl rfl
    | resolvedDiscarded => exact .inr rfl
  · rw [logged, unresolved (run.wasOpen (List.ne_nil_of_mem isActive)), List.length_nil]

/-- A ticket that is discarded in turn has changed nothing else. -/
theorem ResolveRun.harmless {db : Db} {requests : List ResolveRequest}
    {trace : List (Commit store)} {pool : Pool store Response} {commit : Commit store}
    (run : ResolveRun conflictId db requests trace pool) (linked : Linked db trace pool.state)
    (inTurn : InTurn conflictId requests trace)
    (discarded : pool.state.ticketStatus? conflictId = some .resolvedDiscarded)
    (member : commit ∈ trace) :
    commit.after.deliveryStops = commit.before.deliveryStops ∧
      commit.after.proofsOfDelivery = commit.before.proofsOfDelivery ∧
      commit.after.deliveries = commit.before.deliveries := by
  by_cases idle : commit.writes = []
  · rw [Commit.after, idle]
    exact ⟨rfl, rfl, rfl⟩
  have isActive : commit ∈ active trace := mem_active.mpr ⟨member, idle⟩
  obtain ⟨other, only⟩ := (run.single linked inTurn).resolve_left (List.ne_nil_of_mem isActive)
  obtain rfl : commit = other := List.mem_singleton.mp (only ▸ isActive)
  obtain ⟨_, request, conflict, _, made, status, _⟩ := run.only linked only
  rw [status, Option.some.injEq] at discarded
  rw [Commit.after]
  generalize commit.writes = writes at made
  obtain ⟨_, _, changed⟩ := made
  rw [changed.unchanged (by rw [discarded]; decide)]
  exact ⟨rfl, rfl, rfl⟩

/-- In every run of requests to resolve one ticket, it is decided once if and only if
every resolution comes in its turn. -/
theorem decided_once_iff_in_turn {db : Db} {requests : List ResolveRequest}
    {trace : List (Commit store)} {final : Pool store Response}
    (steps : (Request.pool db (requests.map fun request =>
      request.on conflictId)).Steps trace final)
    (unresolved : db.ticketStatus? conflictId = some .opened → db.resolutions conflictId = []) :
    DecidedOnce conflictId (Request.pool db (requests.map fun request => request.on conflictId))
      trace final ↔ InTurn conflictId requests trace := by
  have run := resolveRun_of_steps steps
  constructor
  · intro decided commit member request data atThread resolves
    have isActive : commit ∈ active trace :=
      mem_active.mpr ⟨member, List.ne_nil_of_mem resolves⟩
    obtain ⟨isStart, maker, conflict, atMaker, made, status, _⟩ :=
      run.only steps.linked (run.only_of_once decided.once isActive)
    obtain rfl : maker = request := Option.some.inj (atMaker.symm.trans atThread)
    have succeeded : final.Succeeded commit.thread :=
      (run.succeeded _).mpr (List.mem_map_of_mem isActive)
    obtain ⟨decision, _⟩ := decided.lasting trace final [] commit.thread steps .refl
      (List.append_nil trace).symm succeeded
    rw [status] at decision
    refine ⟨?_, fun opened => by simp [opened] at decision⟩
    rw [isStart]
    exact run.wasOpen (List.ne_nil_of_mem isActive)
  · intro inTurn
    refine ⟨fun left right leftDone rightDone => ?_, ?_, fun discarded commit member => ?_⟩
    · rw [run.succeeded] at leftDone rightDone
      rcases run.single steps.linked inTurn with none | ⟨commit, only⟩
      · rw [none] at leftDone
        cases leftDone
      · rw [only] at leftDone rightDone
        exact (List.mem_singleton.mp leftDone).trans (List.mem_singleton.mp rightDone).symm
    · rintro first middle rest thread before after rfl succeeded
      exact (resolveRun_of_steps before).lasting run before.linked after.linked inTurn unresolved
        succeeded
    · exact run.harmless steps.linked inTurn discarded member

end Phases

/-! ## An override and a discard -/

namespace OverrideAndDiscard

/-- The one UUID of the runs below. -/
@[reducible] def stopUuids : UuidText := ⟨fun text => if text = "s" then some 7 else none⟩

/-- A late proof of delivery. -/
def submission : OutboxEventItem where
  clientEventId := "e"
  eventType := "stop.pod"
  payload := { stopId := .string "s", receiverName := .string "Ani" }

def db : Db where
  deliveries := Table.empty.insert
    { id := 1, deliveryCode := "D-1", driverId := some 3, status := .cancelled, createdBy := 9 }
  deliveryStops := Table.empty.insert
    { id := 7, deliveryId := 1, sequence := 1, status := .arrived }
  deliveryConflicts := Table.empty.insert
    { id := 5, deliveryId := 1, clientEventId := "e", conflictType := "STALE_OFFLINE_COMPLETION",
      serverState := "CANCELLED", clientPayload := submission }

def requests : List ResolveRequest :=
  [⟨{ status := .resolvedOverridden }, 9, .admin, .canonical⟩,
    ⟨{ status := .resolvedDiscarded }, 8, .admin, .canonical⟩]

def pool : Pool store Response :=
  @Request.pool stopUuids db (requests.map fun request => request.on 5)

/-- Both read the ticket open, then both resolve it. -/
def schedule : List (Nat × (Nat → store.Input)) :=
  [0, 1, 0, 1].map fun thread => (thread, fun _ => {})

/-- The schedule is a run. -/
theorem steps : pool.Steps (pool.play schedule).1 (pool.play schedule).2 :=
  Pool.play_steps schedule pool

/-- The equivalence at two overlapping decisions. -/
theorem decided_once_iff_in_turn_of_two :
    DecidedOnce 5 pool (pool.play schedule).1 (pool.play schedule).2 ↔
      InTurn 5 requests (pool.play schedule).1 :=
  @decided_once_iff_in_turn stopUuids 5 db requests _ _ steps fun _ => rfl

/-- Both resolutions succeed. -/
theorem both_succeed :
    (pool.play schedule).2.Succeeded 0 ∧ (pool.play schedule).2.Succeeded 1 :=
  ⟨⟨_, _, rfl, rfl⟩, ⟨_, _, rfl, rfl⟩⟩

/-- Not every ticket is decided once. -/
theorem decided_once_violated :
    ¬∀ [UuidText] (conflictId : Uuid) (db : Db) (requests : List ResolveRequest)
      (trace : List (Commit store)) (final : Pool store Response),
      (Request.pool db (requests.map fun request => request.on conflictId)).Steps trace final →
        (db.ticketStatus? conflictId = some .opened → db.resolutions conflictId = []) →
          DecidedOnce conflictId
            (Request.pool db (requests.map fun request => request.on conflictId)) trace final := by
  intro always
  have decided := @always stopUuids 5 db requests _ _ steps fun _ => rfl
  exact absurd (decided.once 0 1 both_succeed.1 both_succeed.2) (by decide)

end OverrideAndDiscard

end Armada
