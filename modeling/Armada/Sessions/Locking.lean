import Armada.Concurrency.ReadCommitted
import Armada.Sessions.Effects

/-!
# Sessions under row locks

What others cannot do to sessions while a transaction holds locks, and what the
transactions of the session service commit when their statements interleave.
-/

namespace Armada.Auth

open Relational Concurrency Proc

open Prisma.Session (selected revocations)

/-! ## Locks -/

/-- What others may do while locks are held: a locked session stays as it is, and a user
whose row is locked for an update gets no session. -/
structure Undisturbed (held : List Lock) (before after : Accounts) : Prop where
  within : before.Extends after
  session : ∀ id, Lock.session id ∈ held → after.session? id = before.session? id
  user : ∀ userId, Lock.user userId .update ∈ held → unrevoked after userId ⊆ unrevoked before userId

/-- Nothing is disturbed at once. -/
theorem Undisturbed.refl (held : List Lock) (db : Accounts) : Undisturbed held db db :=
  ⟨.refl db, fun _ _ => rfl, fun _ _ _ member => member⟩

/-- Two undisturbed stretches are one. -/
theorem Undisturbed.trans {held : List Lock} {first second third : Accounts}
    (left : Undisturbed held first second) (right : Undisturbed held second third) :
    Undisturbed held first third where
  within := left.within.trans right.within
  session id locked := (right.session id locked).trans (left.session id locked)
  user userId locked := List.Subset.trans (right.user userId locked) (left.user userId locked)

/-- A session is revoked under the lock of its row, and made under locks of its own row and
that of its user. -/
def Write.Guarded (held : List Lock) : Write → Prop
  | .revokeSession id _ => Lock.session id ∈ held
  | .createSession row => Lock.session row.id ∈ held ∧ ∃ mode, Lock.user row.userId mode ∈ held
  | _ => True

/-- More locks guard as well. -/
theorem Write.Guarded.grows {held : List Lock} (more : List Lock) {write : Write}
    (guarded : write.Guarded held) : write.Guarded (more ++ held) := by
  cases write with
  | revokeSession id lastRefreshedAt => exact List.mem_append_right more guarded
  | createSession row =>
      obtain ⟨own, mode, user⟩ := guarded
      exact ⟨List.mem_append_right more own, mode, List.mem_append_right more user⟩
  | _ => trivial

/-- Neither a new session nor the end of one. -/
def Write.SparesSessions : Write → Prop
  | .createSession _ => False
  | .revokeSession _ _ => False
  | _ => True

/-- A write that spares the sessions opens none. -/
theorem Write.SparesSessions.opensNone {write : Write} (spares : write.SparesSessions) :
    write.OpensNone := by
  cases write with
  | createSession row => exact spares
  | _ => trivial

/-- It needs no lock of theirs. -/
theorem Write.SparesSessions.guarded {write : Write} (spares : write.SparesSessions)
    (held : List Lock) : write.Guarded held := by
  cases write with
  | createSession row => exact spares.elim
  | revokeSession id lastRefreshedAt => exact spares.elim
  | _ => trivial

/-- Who holds the lock of a session shares it with nobody compatible. -/
theorem not_compatible_session {held others : List Lock} {id : Uuid}
    (compatible : Compatible (S := accounts) held others) (mine : Lock.session id ∈ held) :
    Lock.session id ∉ others := by
  intro yours
  simpa [Lock.clashes] using (compatible _ mine _ yours).1

/-- So it is with the lock of a user, in a mode that conflicts. -/
theorem not_compatible_user {held others : List Lock} {id : Uuid} {mode : LockMode}
    (compatible : Compatible (S := accounts) held others) (mine : Lock.user id mode ∈ held) :
    Lock.user id .update ∉ others := by
  intro yours
  simpa [Lock.clashes, LockMode.conflicts] using (compatible _ mine _ yours).2

/-- A list of writes that makes no session of a user. -/
theorem unrevoked_of_others {db : Accounts} {writes : List Write} {userId : Uuid}
    (others : ∀ row, Write.createSession row ∈ writes → row.userId ≠ userId) :
    unrevoked (db.commit writes) userId ⊆ unrevoked db userId := by
  induction writes generalizing db with
  | nil => exact fun _ member => member
  | cons write writes inductionHypothesis =>
      have rest : unrevoked ((write.apply db).commit writes) userId ⊆ unrevoked (write.apply db) userId :=
        inductionHypothesis fun row member => others row (List.mem_cons_of_mem _ member)
      refine fun id member => ?_
      obtain ⟨row, found, sameUser, isUnrevoked⟩ := mem_unrevoked.mp (rest member)
      rw [write.session?_apply] at found
      cases write with
      | createSession added =>
          rcases Option.or_eq_some_iff.mp found with earlier | ⟨_, new⟩
          · exact mem_unrevoked.mpr ⟨row, earlier, sameUser, isUnrevoked⟩
          · split at new
            · cases new
              exact absurd sameUser (others _ List.mem_cons_self)
            · cases new
      | revokeSession key lastRefreshedAt =>
          by_cases here : id = key
          · simp only [Write.onSession, here, if_true] at found
            obtain ⟨old, _, rfl⟩ := Option.map_eq_some_iff.mp found
            cases isUnrevoked
          · simp only [Write.onSession, here, if_false] at found
            exact mem_unrevoked.mpr ⟨row, found, sameUser, isUnrevoked⟩
      | _ => exact mem_unrevoked.mpr ⟨row, found, sameUser, isUnrevoked⟩

/-- What is committed under locks does not disturb those whose locks are compatible. -/
theorem undisturbed_of_guarded {held others : List Lock} {writes : List Write} {db : Accounts}
    (guarded : ∀ write ∈ writes, write.Guarded held)
    (compatible : Compatible (S := accounts) held others) :
    Undisturbed others db (db.commit writes) where
  within := Accounts.extends_commit writes db
  session id locked := by
    refine Accounts.commit_keeps (·.session? id) (fun write member before => ?_) db
    have allowed := guarded write member
    rw [write.session?_apply]
    cases write with
    | revokeSession key lastRefreshedAt =>
        have different : id ≠ key := fun same =>
          not_compatible_session compatible allowed (same ▸ locked)
        simp [Write.onSession, different]
    | createSession row =>
        have different : row.id ≠ id := fun same =>
          not_compatible_session compatible allowed.1 (same ▸ locked)
        simp [Write.onSession, different]
    | _ => rfl
  user userId locked := by
    refine unrevoked_of_others fun row member same => ?_
    obtain ⟨_, mode, user⟩ := guarded _ member
    exact not_compatible_user compatible user (same ▸ locked)

/-! ## The update of several sessions -/

/-- The conditions of the services never ask for sessions that are revoked. -/
def Prisma.SessionWhere.Usual (condition : Prisma.SessionWhere) : Prop :=
  condition.isRevoked ≠ some true

/-- A row that a condition selects but for its revocation. -/
def Candidate (condition : Prisma.SessionWhere) (db : Accounts) (id : Uuid) : Prop :=
  ∃ row, db.session? id = some row ∧ { condition with isRevoked := none }.selects row = true

/-- A candidate stays one in every later store. -/
theorem Candidate.later {condition : Prisma.SessionWhere} {before after : Accounts} {id : Uuid}
    (candidate : Candidate condition before id) (within : before.Extends after) :
    Candidate condition after id := by
  obtain ⟨row, found, selects⟩ := candidate
  obtain ⟨new, foundNew, later⟩ := within.sessions id row found
  refine ⟨new, foundNew, ?_⟩
  simpa [Prisma.SessionWhere.selects, later.id, later.userId, later.deviceId, later.tokenFamily]
    using selects

/-- A selected session is a candidate. -/
theorem candidate_of_selected {condition : Prisma.SessionWhere} {db : Accounts} {id : Uuid}
    (member : id ∈ selected condition db) : Candidate condition db id := by
  obtain ⟨row, found, selects⟩ := Prisma.Session.mem_selected.mp member
  refine ⟨row, found, ?_⟩
  simp only [Prisma.SessionWhere.selects, Bool.and_eq_true] at selects ⊢
  exact ⟨selects.1, rfl⟩

/-- A candidate that is not selected is revoked. -/
theorem Candidate.revoked {condition : Prisma.SessionWhere} {db : Accounts} {id : Uuid}
    (candidate : Candidate condition db id) (usual : condition.Usual)
    (unselected : ∀ row, db.session? id = some row → condition.selects row = false) :
    db.Revoked id := by
  obtain ⟨row, found, selects⟩ := candidate
  refine ⟨row, found, ?_⟩
  cases isRevoked : row.isRevoked with
  | true => rfl
  | false =>
      have wanted : condition.isRevoked.all (· = row.isRevoked) = true := by
        cases asked : condition.isRevoked with
        | none => rfl
        | some value =>
            cases value with
            | false => simp [isRevoked]
            | true => exact absurd asked usual
      simp only [Prisma.SessionWhere.selects, Bool.and_eq_true] at selects
      have selected : condition.selects row = true := by
        rw [Prisma.SessionWhere.selects, wanted, Bool.and_true]
        simpa only [Bool.and_eq_true] using selects.1
      cases selected.symm.trans (unselected row found)

/-- A session is revoked in the store, or going to be. -/
def Doomed (written : List Write) (db : Accounts) (id : Uuid) : Prop :=
  (∃ lastRefreshedAt, Write.revokeSession id lastRefreshedAt ∈ written) ∨ db.Revoked id

/-- What is doomed stays doomed in every later store. -/
theorem Doomed.later {written : List Write} {before after : Accounts} {id : Uuid}
    (doomed : Doomed written before id) (within : before.Extends after) : Doomed written after id :=
  doomed.imp_right within.revoked

/-- It stays doomed as more is written. -/
theorem Doomed.grows {written : List Write} {db : Accounts} {id : Uuid}
    (doomed : Doomed written db id) (more : List Write) : Doomed (written ++ more) db id :=
  doomed.imp_left fun ⟨lastRefreshedAt, member⟩ => ⟨lastRefreshedAt, List.mem_append_left _ member⟩

/-- What is revoked after some writes was revoked before or is revoked by them. -/
theorem doomed_of_commit {written : List Write} {db : Accounts} {id : Uuid}
    (present : db.session? id ≠ none) (revoked : (db.commit written).Revoked id) :
    Doomed written db id := by
  by_cases own : ∃ lastRefreshedAt, Write.revokeSession id lastRefreshedAt ∈ written
  · exact .inl own
  · obtain ⟨old, found⟩ := Option.ne_none_iff_exists'.mp present
    have kept : ∀ (writes : List Write) (db : Accounts), db.session? id = some old →
        (∀ lastRefreshedAt, Write.revokeSession id lastRefreshedAt ∉ writes) →
          (db.commit writes).session? id = some old := by
      intro writes
      induction writes with
      | nil => exact fun _ found _ => found
      | cons write writes inductionHypothesis =>
          intro db found absent
          refine inductionHypothesis _ ?_ fun at_ member => absent at_ (List.mem_cons_of_mem _ member)
          rw [write.session?_apply, found]
          cases write with
          | revokeSession key lastRefreshedAt =>
              have different : id ≠ key := fun same =>
                absent lastRefreshedAt (same ▸ List.mem_cons_self)
              simp [Write.onSession, different]
          | _ => rfl
    refine .inr ⟨old, found, ?_⟩
    obtain ⟨row, foundRow, isRevoked⟩ := revoked
    cases (kept written db found fun at_ member => own ⟨at_, member⟩).symm.trans foundRow
    exact isRevoked

section Statements

variable {rely : List Lock → Accounts → Accounts → Prop} {held : List Lock} {written : List Write}
  {state : Accounts}

/-- What is known of the updates of some rows: which of them have been made, under which
locks, and that every row is revoked or going to be. -/
structure Updated (condition : Prisma.SessionWhere) (lastRefreshedAt : Option Instant) (ids : List Uuid)
    (held : List Lock) (written : List Write) (changed : List Uuid) (locks : List Lock)
    (made : List Write) (current : Accounts) : Prop where
  kept : ∀ lock ∈ held, lock ∈ locks
  among : changed ⊆ ids
  wrote : made = written ++ revocations lastRefreshedAt changed
  locked : ∀ id ∈ changed, Lock.session id ∈ locks
  live : condition.isRevoked = some false → ∀ id ∈ changed, current.Active id
  doomed : ∀ id ∈ ids, Doomed made current id
  every : condition.isRevoked = none → ids ⊆ changed

/-- A row that is not revoked, under its lock. -/
theorem lasting_active
    (undisturbed : ∀ {held before after}, rely held before after → Undisturbed held before after)
    (id : Uuid) : Txn.Lasting (S := accounts) rely fun locks current =>
      Lock.session id ∈ locks ∧ current.Active id where
  stable fact within := by
    obtain ⟨locked, row, found, isUnrevoked⟩ := fact
    exact ⟨locked, row, ((undisturbed within).session id locked).trans found, isUnrevoked⟩
  grows more fact := ⟨List.mem_append_right more fact.1, fact.2⟩

/-- A session that is selected after such writes was active before them. -/
theorem active_of_selected {condition : Prisma.SessionWhere} {id : Uuid} {row : Session}
    (none : ∀ write ∈ written, write.OpensNone) (found : (state.commit written).session? id = some row)
    (selects : condition.selects row = true) (asked : condition.isRevoked = some false) :
    state.Active id := by
  obtain ⟨old, foundOld, later⟩ := before_of_opensNone none found
  have isUnrevoked : row.isRevoked = false := by
    simp only [Prisma.SessionWhere.selects, asked, Option.all_some, Bool.and_eq_true,
      decide_eq_true_eq] at selects
    exact selects.2.symm
  exact ⟨old, foundOld, later.unrevoked isUnrevoked⟩

/-- A row is updated, under its lock, before the others. -/
theorem Updated.updated {condition : Prisma.SessionWhere} {lastRefreshedAt : Option Instant}
    {id : Uuid} {ids changed : List Uuid} {locks : List Lock} {made : List Write}
    {current : Accounts}
    (others : Updated condition lastRefreshedAt ids (Lock.session id :: held)
      (written ++ [Write.revokeSession id lastRefreshedAt]) changed locks made current)
    (live : condition.isRevoked = some false → current.Active id) :
    Updated condition lastRefreshedAt (id :: ids) held written (id :: changed) locks made current where
  kept lock member := others.kept lock (List.mem_cons_of_mem _ member)
  among := List.cons_subset_cons id others.among
  wrote := by
    rw [others.wrote, List.append_assoc]
    rfl
  locked other member := by
    rcases List.mem_cons.mp member with rfl | member
    · exact others.kept _ List.mem_cons_self
    · exact others.locked other member
  live asked other member := by
    rcases List.mem_cons.mp member with rfl | member
    · exact live asked
    · exact others.live asked other member
  doomed other member := by
    rcases List.mem_cons.mp member with rfl | member
    · exact .inl ⟨lastRefreshedAt, by simp [others.wrote]⟩
    · exact others.doomed other member
  every asked := List.cons_subset_cons id (others.every asked)

/-- A row that is not selected any more is passed over. -/
theorem Updated.passed {condition : Prisma.SessionWhere} {lastRefreshedAt : Option Instant}
    {id : Uuid} {ids changed : List Uuid} {locks : List Lock} {made : List Write}
    {current : Accounts}
    (others : Updated condition lastRefreshedAt ids held written changed locks made current)
    (doomed : Doomed made current id) (narrow : condition.isRevoked ≠ none) :
    Updated condition lastRefreshedAt (id :: ids) held written changed locks made current where
  kept := others.kept
  among := List.subset_cons_of_subset id others.among
  wrote := others.wrote
  locked := others.locked
  live := others.live
  doomed other member := by
    rcases List.mem_cons.mp member with rfl | member
    · exact doomed
    · exact others.doomed other member
  every asked := absurd asked narrow

/-- The rows are updated one after the other, each under its lock, unless it is revoked by
then. -/
theorem updateEach_holds
    (undisturbed : ∀ {held before after}, rely held before after → Undisturbed held before after)
    {condition : Prisma.SessionWhere} (usual : condition.Usual) {lastRefreshedAt : Option Instant}
    {ids : List Uuid} {count : Nat} (none : ∀ write ∈ written, write.OpensNone)
    (candidates : ∀ id ∈ ids, Candidate condition state id) :
    (Prisma.Session.updateEach condition lastRefreshedAt ids count).Holds rely
      (fun answer locks made current => ∃ changed, answer = count + changed.length ∧
        Updated condition lastRefreshedAt ids held written changed locks made current)
      held written state := by
  induction ids generalizing count held written state with
  | nil =>
      have nothing : ∀ {P : Uuid → Prop}, ∀ id ∈ ([] : List Uuid), P id :=
        fun _ member => absurd member List.not_mem_nil
      exact ⟨[], rfl, fun _ member => member, List.Subset.refl [], by simp [revocations], nothing,
        fun _ => nothing, nothing, fun _ => List.Subset.refl []⟩
  | cons id ids inductionHypothesis =>
      simp only [Prisma.Session.updateEach, Txn.holds_bind, Txn.holds_lift]
      intro next within input changed writes executed
      have later := (undisturbed within).within
      have others : ∀ other ∈ ids, Candidate condition next other := fun other member =>
        (candidates other (List.mem_cons_of_mem _ member)).later later
      have candidate := (candidates id List.mem_cons_self).later later
      rw [Accounts.applyAll_accounts] at executed ⊢
      obtain ⟨_, ⟨⟨row, found, selects⟩, rfl, rfl⟩ | ⟨unselected, rfl, rfl⟩⟩ :=
        Prisma.Session.updateIfStill_succeeds.mp executed
      · -- the row is updated
        have locked : (Prisma.Session.updateIfStill condition lastRefreshedAt id).locks input
            (next.commit written) = [.session id] := by
          simp [Prisma.Session.updateIfStill, query, found, selects]
        have noneToo : ∀ write ∈ written ++ [Write.revokeSession id lastRefreshedAt],
            write.OpensNone := by
          intro write member
          rcases List.mem_append.mp member with earlier | last
          · exact none write earlier
          · exact List.mem_singleton.mp last ▸ trivial
        rw [locked]
        have lasting : Txn.Lasting (S := accounts) rely fun locks current =>
            condition.isRevoked = some false → Lock.session id ∈ locks ∧ current.Active id :=
          ⟨fun fact within asked => (lasting_active undisturbed id).stable (fact asked) within,
            fun more fact asked => (lasting_active undisturbed id).grows more (fact asked)⟩
        refine ((inductionHypothesis noneToo others).carry lasting fun asked =>
          ⟨List.mem_cons_self, active_of_selected none found selects asked⟩).mono ?_
        rintro answer locks made current ⟨⟨changed, rfl, updated⟩, own⟩
        refine ⟨id :: changed, ?_, updated.updated fun asked => (own asked).2⟩
        rw [List.length_cons]
        omega
      · -- the row is not selected any more
        have unlocked : (Prisma.Session.updateIfStill condition lastRefreshedAt id).locks input
            (next.commit written) = [] := by
          have refused : ((next.commit written).session? id).any condition.selects = false := by
            cases found : (next.commit written).session? id with
            | none => rfl
            | some row => exact unselected row found
          simp [Prisma.Session.updateIfStill, query, refused]
        rw [unlocked, List.nil_append, List.append_nil, Nat.add_zero]
        have still : Candidate condition (next.commit written) id :=
          candidate.later (Accounts.extends_commit _ _)
        have isDoomed : Doomed written next id := by
          refine doomed_of_commit ?_ (still.revoked usual unselected)
          obtain ⟨row, found, _⟩ := candidate
          rw [found]
          exact Option.some_ne_none row
        have lasting : Txn.Lasting (S := accounts) rely fun _ current => Doomed written current id :=
          ⟨fun fact within => fact.later (undisturbed within).within, fun _ fact => fact⟩
        refine ((inductionHypothesis none others).carry lasting isDoomed).mono ?_
        rintro answer locks made current ⟨⟨changed, rfl, updated⟩, own⟩
        refine ⟨changed, rfl, updated.passed ?_ fun asked => ?_⟩
        · rw [updated.wrote]
          exact own.grows _
        · obtain ⟨row, found, selects⟩ := still
          have whole : { condition with isRevoked := .none } = condition := by rw [← asked]
          rw [whole] at selects
          cases selects.symm.trans (unselected row found)

/-- Fewer locks ask for less. -/
theorem Undisturbed.fewer {locks : List Lock} {before after : Accounts}
    (undisturbed : Undisturbed locks before after) (fewer : ∀ lock ∈ held, lock ∈ locks) :
    Undisturbed held before after where
  within := undisturbed.within
  session id locked := undisturbed.session id (fewer _ locked)
  user userId locked := undisturbed.user userId (fewer _ locked)

/-- The update of several sessions: it finds the rows in the state in which it starts. -/
theorem updateMany_holds
    (undisturbed : ∀ {held before after}, rely held before after → Undisturbed held before after)
    {condition : Prisma.SessionWhere} (usual : condition.Usual) {lastRefreshedAt : Option Instant}
    (none : ∀ write ∈ written, write.OpensNone) :
    (Prisma.Session.updateMany (.ok condition) lastRefreshedAt).Holds rely
      (fun answer locks made current => ∃ before changed, rely held state before ∧
        Undisturbed held before current ∧ answer = changed.length ∧
        Updated condition lastRefreshedAt (selected condition (before.commit written)) held written
          changed locks made current) held written state := by
  simp only [Prisma.Session.updateMany, Txn.holds_bind, Txn.holds_lift]
  intro before started input ids writes executed
  rw [Accounts.applyAll_accounts] at executed
  obtain ⟨_, rfl, rfl⟩ := Prisma.Session.candidates_succeeds.mp executed
  have candidates : ∀ id ∈ selected condition (before.commit written), Candidate condition before id := by
    intro id member
    obtain ⟨row, found, selects⟩ := candidate_of_selected member
    obtain ⟨old, foundOld, later⟩ := before_of_opensNone none found
    refine ⟨old, foundOld, ?_⟩
    simpa [Prisma.SessionWhere.selects, later.id, later.userId, later.deviceId, later.tokenFamily]
      using selects
  have lasting : Txn.Lasting (S := accounts) rely fun locks current =>
      (∀ lock ∈ held, lock ∈ locks) ∧ Undisturbed held before current :=
    ⟨fun fact within => ⟨fact.1, fact.2.trans ((undisturbed within).fewer fact.1)⟩,
      fun more fact => ⟨fun lock member => List.mem_append_right more (fact.1 lock member), fact.2⟩⟩
  rw [List.append_nil]
  refine ((updateEach_holds undisturbed usual none candidates).carry lasting
    ⟨fun _ member => member, .refl held before⟩).mono ?_
  rintro answer locks made current ⟨⟨changed, same, updated⟩, _, since⟩
  exact ⟨before, changed, started, since, same.trans (Nat.zero_add _), updated⟩

/-- A transaction that ends with a new session, with what is sure of it while it holds its
locks. -/
structure Makes (locks : List Lock) (made : List Write) (last : Accounts) (earlier : List Write)
    (row : Session) : Prop where
  writes : made = earlier ++ [.createSession row]
  opensNone : ∀ write ∈ earlier, write.OpensNone
  guarded : ∀ write ∈ made, write.Guarded locks
  fresh : last.session? row.id = none
  isUnrevoked : row.isRevoked = false

variable [TokenHash]

namespace SessionService

/-- The insertion at the end of a transaction. -/
theorem makes_of_create
    (undisturbed : ∀ {held before after}, rely held before after → Undisturbed held before after)
    {userId : Uuid} {deviceId : Except PrismaError Uuid} {rawRefreshToken : String} {tokenFamily : Uuid}
    {expiresAt : Instant} (none : ∀ write ∈ written, write.OpensNone)
    (guarded : ∀ write ∈ written, write.Guarded held) {input : Input} {row : Session}
    {writes : List Write} (inserted : (Prisma.Session.create userId deviceId
      (TokenHash.hashToken rawRefreshToken) tokenFamily expiresAt).Succeeds input (state.commit written)
        row writes) {last : Accounts}
    (later : rely ((Prisma.Session.create userId deviceId (TokenHash.hashToken rawRefreshToken)
      tokenFamily expiresAt).locks input (state.commit written) ++ held) state last) :
    Makes ((Prisma.Session.create userId deviceId (TokenHash.hashToken rawRefreshToken)
      tokenFamily expiresAt).locks input (state.commit written) ++ held) (written ++ writes) last
        written row ∧ row.userId = userId ∧ row.tokenFamily = tokenFamily ∧
          row.refreshTokenHash = TokenHash.hashToken rawRefreshToken := by
  obtain ⟨device, parsed, rfl, fresh, _, _, rfl⟩ := Prisma.Session.create_succeeds inserted
  have own : Lock.session input.uuid ∈ (Prisma.Session.create userId deviceId
      (TokenHash.hashToken rawRefreshToken) tokenFamily expiresAt).locks input (state.commit written) :=
    List.mem_cons_self
  have user : Lock.user userId .keyShare ∈ (Prisma.Session.create userId deviceId
      (TokenHash.hashToken rawRefreshToken) tokenFamily expiresAt).locks input (state.commit written) :=
    List.mem_cons_of_mem _ List.mem_cons_self
  refine ⟨⟨rfl, none, fun write member => ?_, ?_, rfl⟩, rfl, rfl, rfl⟩
  · rcases List.mem_append.mp member with earlier | new
    · exact (guarded write earlier).grows _
    · rw [List.mem_singleton.mp new]
      exact ⟨List.mem_append_left _ own, _, List.mem_append_left _ user⟩
  · have kept := (undisturbed later).session input.uuid (List.mem_append_left _ own)
    exact kept.trans ((Accounts.extends_commit written state).fresh fresh)

omit [TokenHash] in
/-- Revocations of locked sessions are guarded. -/
theorem guarded_revocations {lastRefreshedAt : Option Instant} {ids : List Uuid}
    (locked : ∀ id ∈ ids, Lock.session id ∈ held) :
    ∀ write ∈ revocations lastRefreshedAt ids, write.Guarded held := by
  intro write member
  obtain ⟨id, inside, rfl⟩ := Prisma.Session.mem_revocations.mp member
  exact locked id inside

omit [TokenHash] in
/-- They open none. -/
theorem opensNone_revocations {lastRefreshedAt : Option Instant} {ids : List Uuid} :
    ∀ write ∈ revocations lastRefreshedAt ids, write.OpensNone := by
  intro write member
  obtain ⟨_, _, rfl⟩ := Prisma.Session.mem_revocations.mp member
  trivial

/-- A takeover revokes every session that its user has when it commits: nobody else can
have made one since it locked the user. -/
theorem takeOver_holds [UuidSpelling]
    (undisturbed : ∀ {held before after}, rely held before after → Undisturbed held before after)
    {userId : Uuid} {deviceId rawRefreshToken : String} {tokenFamily : Uuid} {expiresAt : Instant} :
    (takeOver userId deviceId rawRefreshToken tokenFamily expiresAt).Holds rely
      (fun _ locks made current => ∀ last, rely locks current last → ∃ earlier row,
        Makes locks made last earlier row ∧ row.userId = userId ∧
          ∀ id ∈ unrevoked last userId, ∃ at_, Write.revokeSession id at_ ∈ earlier) [] [] state := by
  simp only [takeOver, Txn.holds_bind, Txn.holds_lift, Txn.holds_pure]
  intro first _ input _ writes locking
  obtain ⟨_, rfl⟩ := Prisma.User.selectForUpdate_succeeds.mp locking
  intro second _ input existing writes read
  obtain ⟨_, rfl, _⟩ := Prisma.Session.findMany_succeeds.mp read
  have marking : (existing.forM fun session =>
      (liftM (RedisService.setRevocation (.session (spelled session.id)) 900) :
        Txn accounts Unit)).Confined fun write : Write =>
          ∃ key expiresAt, write = .setRevocation key expiresAt :=
    .forM fun session => .statement (confined_setRevocation fun expiresAt => ⟨_, expiresAt, rfl⟩)
  refine marking.holds.mono ?_
  rintro _ locks marks _ ⟨⟨more, same, all⟩, kept⟩
  obtain rfl : marks = more := same
  have none : ∀ write ∈ marks, write.OpensNone := by
    intro write member
    obtain ⟨key, until_, rfl⟩ := all write member
    trivial
  have unmarked : ∀ db : Accounts, selected (activeSessionsOf userId) (db.commit marks) =
      unrevoked db userId := fun db =>
    Accounts.commit_keeps (selected (activeSessionsOf userId)) (fun write member before => by
      obtain ⟨key, until_, rfl⟩ := all write member
      rfl) db
  have locked : Lock.user userId .update ∈ locks := kept _ (by simp [Prisma.User.selectForUpdate, query])
  refine (updateMany_holds undisturbed (by simp [Prisma.SessionWhere.Usual, activeSessionsOf])
    none).mono ?_
  rintro _ held _ current ⟨before, changed, _, since, _, updated⟩
  obtain rfl := updated.wrote
  intro next within input row writes inserted last later
  have guarded : ∀ write ∈ marks ++ revocations .none changed, write.Guarded held := by
    intro write member
    rcases List.mem_append.mp member with mark | update
    · obtain ⟨key, until_, rfl⟩ := all write mark
      trivial
    · exact guarded_revocations updated.locked write update
  have noneToo : ∀ write ∈ marks ++ revocations .none changed, write.OpensNone := by
    intro write member
    rcases List.mem_append.mp member with mark | update
    · exact none write mark
    · exact opensNone_revocations write update
  obtain ⟨makes, sameUser, _⟩ := makes_of_create undisturbed noneToo guarded inserted later
  refine ⟨_, row, makes, sameUser, fun id member => ?_⟩
  -- the sessions at the commit are among those that the update has found
  have toNext : Undisturbed locks current next := (undisturbed within).fewer updated.kept
  have toLast : Undisturbed locks next last := (undisturbed later).fewer fun lock inside =>
    List.mem_append_right _ (updated.kept lock inside)
  have found : id ∈ selected (activeSessionsOf userId) (before.commit marks) := by
    rw [unmarked]
    exact (since.trans (toNext.trans toLast)).user userId locked member
  rcases (updated.doomed id found).later (toNext.trans toLast).within with own | revoked
  · exact own
  · obtain ⟨row, foundRow, _, isUnrevoked⟩ := mem_unrevoked.mp member
    exact absurd ⟨row, foundRow, isUnrevoked⟩ revoked.not_active

/-- An exchange revokes the session of its token, which nobody else has revoked when it
commits. -/
theorem exchange_holds
    (undisturbed : ∀ {held before after}, rely held before after → Undisturbed held before after)
    {hashed : String} :
    (exchange hashed).Holds rely (fun result locks made current => ∀ last, rely locks current last →
      ∃ (old row : Session) (refreshedAt : Instant) (secret : String),
        Makes locks made last [.revokeSession old.id (some refreshedAt)] row ∧
        last.holder? hashed = some old ∧ old.isRevoked = false ∧ row.userId = old.userId ∧
        row.tokenFamily = old.tokenFamily ∧ row.refreshTokenHash = TokenHash.hashToken secret ∧
        result = .of row secret) [] [] state := by
  simp only [exchange, Txn.holds_bind, Txn.holds_lift]
  intro first _ input found writes read
  have holder := Prisma.Session.findByHash_found read
  obtain ⟨rfl, _⟩ := Prisma.Session.findByHash_succeeds read
  cases found with
  | none => exact Txn.holds_fail _
  | some old =>
      simp only [Txn.holds_bind, Txn.holds_lift, Txn.holds_rejectIf, Txn.holds_pure]
      intro second toSecond input now writes asked
      obtain ⟨rfl, rfl⟩ := ask_succeeds.mp asked
      intro valid third toThird input generated writes asked
      obtain ⟨rfl, rfl⟩ := ask_succeeds.mp asked
      intro fourth toFourth input claimedAt writes asked
      obtain ⟨rfl, rfl⟩ := ask_succeeds.mp asked
      refine (updateMany_holds undisturbed (by simp [Prisma.SessionWhere.Usual])
        (List.forall_mem_nil _)).mono ?_
      rintro claimed held _ current ⟨before, changed, toBefore, since, same, updated⟩ one next within
        input row writes inserted last later
      obtain rfl := updated.wrote
      -- the row that has been claimed is the one that was found
      have isOld : ∀ id ∈ changed, id = old.id := by
        intro id member
        obtain ⟨row, foundRow, selects⟩ := Prisma.Session.mem_selected.mp (updated.among member)
        rw [← Accounts.id_of_session? foundRow]
        have sameId : old.id = row.id := by
          simpa using (Bool.and_eq_true_iff.mp (Bool.and_eq_true_iff.mp (Bool.and_eq_true_iff.mp
            (Bool.and_eq_true_iff.mp selects).1).1).1).1
        exact sameId.symm
      obtain ⟨claimedId, rfl⟩ := List.length_eq_one_iff.mp (same.symm.trans (not_ne_iff.mp one))
      obtain rfl := isOld claimedId List.mem_cons_self
      have opensNone : ∀ write ∈ revocations (some claimedAt.now) [old.id], write.OpensNone :=
        opensNone_revocations
      obtain ⟨makes, sameUser, sameFamily, sameToken⟩ := makes_of_create undisturbed opensNone
        (guarded_revocations updated.locked) inserted later
      -- it stays the first with its hash, and stays unrevoked under its lock
      have descends : Accounts.Extends first last := (undisturbed toSecond).within.trans
        ((undisturbed toThird).within.trans ((undisturbed toFourth).within.trans
          ((undisturbed toBefore).within.trans (since.within.trans
            ((undisturbed within).within.trans (undisturbed later).within)))))
      obtain ⟨atEnd, holds, isLater⟩ := descends.holders hashed old holder
      obtain ⟨kept, foundKept, isUnrevoked⟩ := updated.live rfl old.id List.mem_cons_self
      have locked := updated.locked old.id List.mem_cons_self
      have atLast : last.session? old.id = some kept := by
        rw [(undisturbed later).session _ (List.mem_append_right _ locked),
          (undisturbed within).session _ locked]
        exact foundKept
      have foundAtEnd := (Accounts.session_of_holder? holds).1
      rw [isLater.id] at foundAtEnd
      cases foundAtEnd.symm.trans atLast
      refine ⟨atEnd, row, claimedAt.now, generated.secret, ?_, holds, isUnrevoked,
        sameUser.trans isLater.userId.symm, sameFamily.trans isLater.tokenFamily.symm, sameToken, rfl⟩
      rw [isLater.id]
      exact makes

end SessionService

end Statements

/-! ## The errors of an exchange -/

section Errors

variable {kind : Exception → Prop}

/-- The faults of the database are among the errors of Prisma. -/
theorem faults_of_prisma (prisma : ∀ reason, kind (.prisma reason)) (input : Input) (error : Exception)
    (fault : accounts.fault input = some error) : kind error := by
  obtain ⟨reason, _, rfl⟩ := Option.map_eq_some_iff.mp fault
  exact prisma reason

/-- A query throws such errors only. -/
theorem throws_of_query {β : Type} (prisma : ∀ reason, kind (.prisma reason))
    (locks : Input → Accounts → List Lock)
    (body : Input → Accounts → Except PrismaError (β × List Write)) :
    (liftM (query locks body) : Txn accounts β).Throws kind := by
  refine .statement (faults_of_prisma prisma) fun input db error failed => ?_
  obtain ⟨reason, rfl⟩ := query_fails failed
  exact prisma reason

/-- So does a look. -/
theorem throws_of_select {β : Type} (prisma : ∀ reason, kind (.prisma reason))
    (body : Accounts → Except PrismaError β) : (liftM (select body) : Txn accounts β).Throws kind :=
  throws_of_query prisma _ _

/-- An effect throws none. -/
theorem throws_of_effect {β : Type} (prisma : ∀ reason, kind (.prisma reason))
    (body : Input → Accounts → β × List Write) :
    (liftM (effect body) : Txn accounts β).Throws kind :=
  .statement (faults_of_prisma prisma) fun _ _ _ failed => nomatch failed

/-- So does the revocation of many sessions. -/
theorem updateMany_throws (prisma : ∀ reason, kind (.prisma reason))
    (condition : Except PrismaError Prisma.SessionWhere) (lastRefreshedAt : Option Instant) :
    (Prisma.Session.updateMany condition lastRefreshedAt).Throws kind := by
  have each : ∀ (filter : Prisma.SessionWhere) ids count,
      (Prisma.Session.updateEach filter lastRefreshedAt ids count).Throws kind := by
    intro filter ids
    induction ids with
    | nil => exact fun _ => faults_of_prisma prisma
    | cons id ids inductionHypothesis =>
        exact fun count => .bind (throws_of_query prisma _ _) fun changed => inductionHypothesis _
  cases condition with
  | error error => exact prisma error
  | ok filter => exact .bind (throws_of_select prisma _) fun ids => each filter ids 0

end Errors

end Armada.Auth
