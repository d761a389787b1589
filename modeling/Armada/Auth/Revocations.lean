import Armada.Auth.Requests
import Armada.Sessions.Transactions

/-!
# What a revoking operation has done when it returns

Each of the operations that end sessions runs one `UPDATE` (or the update of one row) that
covers the sessions of a user, of a device, or the one that is logged out; after that step
every session row that it covers is revoked.
-/

namespace Armada.Auth

open Relational Concurrency Proc

variable {durable : Write → Bool} {thread : Nat} {deeds : List (Deed accounts)}

/-- After the step all sessions of a kind are revoked that were there before it. -/
def Ends (deed : Deed accounts) (covered : Session → Prop) : Prop :=
  ∀ row, Accounts.session? deed.before row.id = some row → covered row →
    Accounts.Revoked deed.after row.id

/-- One of the steps was such a step. -/
def Ended (history : List (Deed accounts)) (covered : Session → Prop) : Prop :=
  ∃ deed ∈ history, Ends deed covered

/-- Sessions that have ended have ended as the history grows. -/
theorem Ended.grows {first : List (Deed accounts)} {covered : Session → Prop}
    (ended : Ended first covered) (second : List (Deed accounts)) :
    Ended (first ++ second) covered := by
  obtain ⟨deed, member, ends⟩ := ended
  exact ⟨deed, List.mem_append_left _ member, ends⟩

/-- Fewer of them have ended too. -/
theorem Ended.mono {history : List (Deed accounts)} {covered kind : Session → Prop}
    (ended : Ended history kind) (included : ∀ row, covered row → kind row) :
    Ended history covered := by
  obtain ⟨deed, member, ends⟩ := ended
  exact ⟨deed, member, fun row found isCovered => ends row found (included row isCovered)⟩

/-- Whatever the rest of an operation does. -/
theorem Ended.settles {α : Type} {process : Proc accounts α} {covered : α → Session → Prop}
    {kind : Session → Prop} (ended : Ended deeds kind)
    (included : ∀ answer row, covered answer row → kind row) :
    process.Meets (.past durable thread fun _ _ => True)
      (OnResult (fun answer history => (∃ row, covered answer row) → Ended history (covered answer))
        fun _ _ => True) deeds := by
  have lasting : process.Meets (.past durable thread fun _ _ => True)
      (fun _ history => Ended history kind) deeds :=
    Meets.settled (fun _ second held => held.grows second) ended
  refine lasting.weaken fun result history held => ?_
  cases result with
  | error error => trivial
  | ok answer => exact fun _ => held.mono (included answer)

/-- What has ended before a sequence goes on has ended after it. -/
theorem Ended.keep {α β : Type} {first : Proc accounts β} {next : β → Proc accounts α}
    {post : Except Exception α → List (Deed accounts) → Prop} {kind : Session → Prop}
    (ended : Ended deeds kind) (failed : ∀ error history, post (.error error) history)
    (continued : ∀ value history, Ended history kind →
      (next value).Meets (.past durable thread fun _ _ => True) post history) :
    (first >>= next).Meets (.past durable thread fun _ _ => True) post deeds := by
  have kept : first.Meets (.past durable thread fun _ _ => True)
      (fun _ history => Ended history kind) deeds :=
    Meets.settled (fun _ second held => held.grows second) ended
  exact kept.bind (fun error history _ => failed error history) continued

/-- A deed that revokes whoever is covered and active has ended them. -/
theorem ends_of_mem {deed : Deed accounts} {covered : Session → Prop}
    (updates : ∀ row, Accounts.session? deed.before row.id = some row → covered row →
      row.isRevoked = false → ∃ lastRefreshedAt,
        Write.revokeSession row.id lastRefreshedAt ∈ deed.writes) : Ends deed covered := by
  intro row found isCovered
  rw [Accounts.after_whole]
  cases isRevoked : row.isRevoked with
  | true => exact (Accounts.extends_commit _ _).revoked ⟨row, found, isRevoked⟩
  | false =>
      obtain ⟨lastRefreshedAt, member⟩ := updates row found isCovered isRevoked
      exact Accounts.revoked_of_mem found member

/-- The condition of a user's sessions selects every active one. -/
theorem selects_activeSessionsOf {userId : Uuid} {row : Session} (sameUser : row.userId = userId)
    (unrevoked : row.isRevoked = false) : (activeSessionsOf userId).selects row = true := by
  simp [activeSessionsOf, Prisma.SessionWhere.selects, sameUser, unrevoked]

/-- The condition of a device's sessions does too. -/
theorem selects_activeSessionsOn {deviceId : Uuid} {row : Session}
    (sameDevice : row.deviceId = deviceId) (unrevoked : row.isRevoked = false) :
    (activeSessionsOn deviceId).selects row = true := by
  simp [activeSessionsOn, Prisma.SessionWhere.selects, sameDevice, unrevoked]

/-- The step of an `UPDATE` that selects the unrevoked rows of a kind. -/
theorem ends_of_update {before : Accounts} {filter : Prisma.SessionWhere} {covered : Session → Prop}
    (selects : ∀ row, covered row → row.isRevoked = false → filter.selects row = true) :
    Ends ⟨thread, before, Prisma.Session.revocations none (Prisma.Session.selected filter before)⟩
      covered :=
  ends_of_mem fun row found isCovered unrevoked => ⟨none, Prisma.Session.mem_revocations.mpr
    ⟨row.id, Prisma.Session.mem_selected.mpr ⟨row, found, selects row isCovered unrevoked⟩, rfl⟩⟩

/-- An operation that has returned has ended the sessions of a kind, if there are any that
it is about. -/
def EndsOnReturn {α : Type} (process : Proc accounts α) (covered : α → Session → Prop) : Prop :=
  ∀ (durable : Write → Bool) (thread : Nat) (deeds : List (Deed accounts)),
    process.Meets (.past durable thread fun _ _ => True)
      (OnResult (fun answer history => (∃ row, covered answer row) → Ended history (covered answer))
        fun _ _ => True) deeds

/-- An operation that is about no session. -/
theorem Meets.unless {α : Type} {process : Proc accounts α} {covered : α → Session → Prop}
    (none : ∀ answer row, ¬covered answer row) :
    process.Meets (.past durable thread fun _ _ => True)
      (OnResult (fun answer history => (∃ row, covered answer row) → Ended history (covered answer))
        fun _ _ => True) deeds := by
  refine Meets.always fun result history => ?_
  cases result with
  | error error => trivial
  | ok answer => exact fun ⟨row, isCovered⟩ => absurd isCovered (none answer row)

/-- What is made of the answer does not matter. -/
theorem EndsOnReturn.map {α : Type} {process : Proc accounts α} {covered : α → Session → Prop}
    (ends : EndsOnReturn process covered) {function : α → Response}
    {coveredBy : Response → Session → Prop}
    (same : ∀ answer row, coveredBy (function answer) row ↔ covered answer row) :
    EndsOnReturn (function <$> process) coveredBy := by
  intro durable thread deeds
  rw [meets_map]
  refine (ends durable thread deeds).weaken fun result history met => ?_
  cases result with
  | error error => trivial
  | ok answer =>
      have sameKind : coveredBy (function answer) = covered answer :=
        funext fun row => propext (same answer row)
      rw [onResult_ok, onResult_ok, sameKind]
      exact met

variable [UuidSpelling]

namespace SessionService

/-- Revoking the sessions of a user ends them. -/
theorem revokeSessionsOf_ends (userId : JsValue) :
    (revokeSessionsOf userId).Meets (.past durable thread fun _ _ => True)
      (OnResult (fun _ history => Ended history fun row => userId.toUuid = .ok row.userId)
        fun _ _ => True) deeds := by
  refine Meets.firstly (fun _ _ _ _ => trivial) fun before => ?_
  refine Prisma.Session.updateMany_yields_of.mono ?_
  rintro count _ ⟨filter, parsed, rfl⟩
  obtain ⟨key, named, rfl⟩ := except_map_ok.mp parsed
  refine ⟨_, List.mem_append_right _ (List.mem_singleton_self _), ends_of_update fun row same => ?_⟩
  rw [named] at same
  exact selects_activeSessionsOf (Except.ok.inj same).symm

/-- So it is with the mark and the message. -/
theorem revokeAllUserSessions_ends (userId : JsValue) :
    EndsOnReturn (revokeAllUserSessions userId)
      fun _ row => userId.truthy = true ∧ userId.toUuid = .ok row.userId := by
  intro durable thread deeds
  rw [revokeAllUserSessions]
  split
  · rename_i falsy
    rintro ⟨row, truthy, _⟩
    exact absurd truthy falsy
  · rename_i truthy
    refine (revokeSessionsOf_ends userId).bind (fun _ _ _ => trivial) fun _ history ended => ?_
    exact ended.settles fun _ row covered => covered.2

/-- Revoking one session ends it. -/
theorem revokeSession_ends (sessionId userId : JsValue) :
    EndsOnReturn (revokeSession sessionId userId) fun _ row => sessionId.truthy = true ∧
      sessionId.toUuid = .ok row.id ∧ (userId.truthy = true → spelled row.userId = userId) := by
  intro durable thread deeds
  rw [revokeSession]
  split
  · rename_i falsy
    rintro ⟨row, truthy, _⟩
    exact absurd truthy falsy
  refine Meets.first (fun _ _ _ _ => trivial) fun before _ found writes read => ?_
  obtain ⟨_, rfl, key, named, read⟩ := Prisma.Session.findUnique_succeeds.mp read
  -- a row that is not there, or of somebody else, is not covered
  have skipped : (∀ row, Accounts.session? before row.id = some row → row.id = key →
      ¬(userId.truthy = true → spelled row.userId = userId)) →
      Ended (deeds ++ [⟨thread, before, []⟩]) fun row => sessionId.truthy = true ∧
        sessionId.toUuid = .ok row.id ∧ (userId.truthy = true → spelled row.userId = userId) := by
    intro other
    refine ⟨_, List.mem_append_right _ (List.mem_singleton_self _), fun row present covered => ?_⟩
    rw [named] at covered
    exact absurd covered.2.2 (other row present (Except.ok.inj covered.2.1).symm)
  cases found with
  | none =>
      exact fun _ => skipped fun row present same => by
        rw [same, read] at present
        cases present
  | some session =>
      dsimp only
      split
      · rename_i foreign
        refine fun _ => skipped fun row present same own => foreign.2 ?_
        rw [same, read] at present
        exact Option.some.inj present ▸ own foreign.1
      · refine Meets.first (fun _ _ _ _ => trivial) fun later _ _ writes updated => ?_
        obtain ⟨id, row, namedToo, _, rfl⟩ := Prisma.Session.update_succeeds updated
        have ended : Ended (deeds ++ [⟨thread, before, []⟩] ++
            [⟨thread, later, [Write.revokeSession id none]⟩])
            fun row => sessionId.toUuid = .ok row.id := by
          refine ⟨_, List.mem_append_right _ (List.mem_singleton_self _), ends_of_mem ?_⟩
          intro other _ same _
          rw [namedToo] at same
          exact ⟨none, List.mem_singleton.mpr (by rw [Except.ok.inj same])⟩
        exact ended.settles fun _ row covered => covered.2.1

variable [TokenHash]

/-- A driver's new session ends the ones before. -/
theorem createSession_ends_of_driver (userId : Uuid) (deviceId : String) :
    (createSession userId deviceId "DRIVER").Meets (.past durable thread fun _ _ => True)
      (OnResult (fun _ history => Ended history fun row => row.userId = userId)
        fun _ _ => True) deeds := by
  refine Meets.first (fun _ _ _ _ => trivial) fun _ _ generated _ _ => ?_
  dsimp only
  rw [if_pos rfl]
  refine Meets.transacted (fun _ _ _ _ => ⟨trivial, trivial⟩) fun before => takeOver_yields.mono ?_
  rintro result made ⟨marks, device, row, _, _, rfl, _⟩
  refine ⟨trivial, _, List.mem_append_right _ (List.mem_singleton_self _), ?_⟩
  refine ends_of_mem fun old found covered unrevoked => ⟨none, ?_⟩
  refine List.mem_append_left _ (List.mem_append_right _ ?_)
  exact Prisma.Session.mem_revocations.mpr ⟨old.id, Prisma.Session.mem_selected.mpr
    ⟨old, found, selects_activeSessionsOf covered unrevoked⟩, rfl⟩

/-- Creating a session does so for drivers. -/
theorem createSession_ends (userId : Uuid) (deviceId roleCode : String) :
    EndsOnReturn (createSession userId deviceId roleCode)
      fun _ row => roleCode = "DRIVER" ∧ row.userId = userId := by
  intro durable thread deeds
  by_cases driver : roleCode = "DRIVER"
  · subst driver
    refine (createSession_ends_of_driver userId deviceId).weaken fun result history ended => ?_
    cases result with
    | error error => trivial
    | ok answer => exact fun _ => ended.mono fun row covered => covered.2
  · exact Meets.unless fun answer row covered => driver covered.1

end SessionService

variable [Argon2]

/-- So does a login. -/
theorem AuthService.login_ends [TokenHash] (config : JwtConfig) (dto : LoginDto)
    (clientIp userAgent : String) :
    EndsOnReturn (login config dto clientIp userAgent)
      fun result row => result.user.role = "DRIVER" ∧ row.userId = result.user.id := by
  intro durable thread deeds
  refine Meets.skip (fun _ _ => trivial) fun _ _ => ?_
  refine Meets.skip (fun _ _ => trivial) fun found _ => ?_
  refine Meets.skip (fun _ _ => trivial) fun _ _ => ?_
  refine Meets.skip (fun _ _ => trivial) fun _ _ => ?_
  refine Meets.skip (fun _ _ => trivial) fun deviceId _ => ?_
  by_cases driver : found.role.code = "DRIVER"
  · rw [driver]
    refine (SessionService.createSession_ends_of_driver _ _).bind (fun _ _ _ => trivial)
      fun session _ ended => ?_
    refine ended.keep (fun _ _ => trivial) fun accessToken _ ended => ?_
    refine ended.keep (fun _ _ => trivial) fun loggedInAt _ ended => ?_
    refine ended.keep (fun _ _ => trivial) fun _ _ ended => ?_
    refine ended.keep (fun _ _ => trivial) fun _ _ ended => ?_
    exact fun _ => ended.mono fun row covered => covered.2
  · refine Meets.skip (fun _ _ => trivial) fun session _ => ?_
    refine Meets.skip (fun _ _ => trivial) fun accessToken _ => ?_
    refine Meets.skip (fun _ _ => trivial) fun loggedInAt _ => ?_
    refine Meets.skip (fun _ _ => trivial) fun _ _ => ?_
    refine Meets.skip (fun _ _ => trivial) fun _ _ => ?_
    exact fun ⟨row, isDriver, _⟩ => absurd isDriver driver

namespace UsersService

omit [Argon2] in
/-- Setting the role of a user ends its sessions. -/
theorem updateUserRole_ends (targetUserId newRoleCode : String) (actorUserId : Uuid) :
    EndsOnReturn (updateUserRole targetUserId newRoleCode actorUserId)
      fun _ row => (JsValue.string targetUserId).toUuid = .ok row.userId := by
  intro durable thread deeds
  refine Meets.skip (fun _ _ => trivial) fun _ _ => ?_
  refine Meets.skip (fun _ _ => trivial) fun _ _ => ?_
  refine Meets.skip (fun _ _ => trivial) fun _ _ => ?_
  refine Meets.skip (fun _ _ => trivial) fun _ _ => ?_
  refine (SessionService.revokeSessionsOf_ends _).bind (fun _ _ _ => trivial) fun _ _ ended => ?_
  exact ended.settles fun _ row covered => covered

omit [Argon2] in
/-- Suspending or disabling a user ends its sessions. -/
theorem revokeForStatus_ends (targetUserId : String) {status : AccountStatus}
    (revoking : status = .suspended ∨ status = .disabled) :
    (revokeForStatus targetUserId status).Meets (.past durable thread fun _ _ => True)
      (OnResult (fun _ history => Ended history fun row =>
        (JsValue.string targetUserId).toUuid = .ok row.userId) fun _ _ => True) deeds := by
  rw [revokeForStatus, if_pos revoking]
  refine (SessionService.revokeSessionsOf_ends _).bind (fun _ _ _ => trivial) fun _ _ ended => ?_
  refine ended.keep (fun _ _ => trivial) fun _ _ ended => ?_
  rw [meets_lift]
  exact fun _ _ => ⟨trivial, ended.grows _⟩

omit [Argon2] in
/-- So does the operation that does either. -/
theorem updateUserStatus_ends (targetUserId : String) (status : AccountStatus) (actorUserId : Uuid) :
    EndsOnReturn (updateUserStatus targetUserId status actorUserId) fun _ row =>
      (status = .suspended ∨ status = .disabled) ∧
        (JsValue.string targetUserId).toUuid = .ok row.userId := by
  intro durable thread deeds
  refine Meets.skip (fun _ _ => trivial) fun _ _ => ?_
  refine Meets.skip (fun _ _ => trivial) fun _ _ => ?_
  by_cases revoking : status = .suspended ∨ status = .disabled
  · refine (revokeForStatus_ends targetUserId revoking).bind (fun _ _ _ => trivial) fun _ _ ended => ?_
    exact ended.settles fun _ row covered => covered.2
  · exact Meets.unless fun answer row covered => revoking covered.1

/-- So does setting its password. -/
theorem adminResetPassword_ends (targetUserId newPass : String) (actorUserId : Uuid) :
    EndsOnReturn (adminResetPassword targetUserId newPass actorUserId)
      fun _ row => (JsValue.string targetUserId).toUuid = .ok row.userId := by
  intro durable thread deeds
  refine Meets.skip (fun _ _ => trivial) fun _ _ => ?_
  refine Meets.skip (fun _ _ => trivial) fun _ _ => ?_
  refine Meets.skip (fun _ _ => trivial) fun _ _ => ?_
  refine (SessionService.revokeSessionsOf_ends _).bind (fun _ _ _ => trivial) fun _ _ ended => ?_
  exact ended.settles fun _ row covered => covered

end UsersService

omit [Argon2] in
/-- Revoking a device ends the sessions on it. -/
theorem DeviceService.revokeDevice_ends (deviceId : String) (actorUserId : Uuid) (actorRole : String) :
    EndsOnReturn (revokeDevice deviceId actorUserId actorRole)
      fun _ row => (JsValue.string deviceId).toUuid = .ok row.deviceId := by
  intro durable thread deeds
  refine Meets.skip (fun _ _ => trivial) fun _ _ => ?_
  refine Meets.skip (fun _ _ => trivial) fun device _ => ?_
  refine Meets.skip (fun _ _ => trivial) fun _ _ => ?_
  refine Meets.skip (fun _ _ => trivial) fun _ _ => ?_
  refine Meets.skip (fun _ _ => trivial) fun _ _ => ?_
  refine Meets.skip (fun _ _ => trivial) fun _ history => ?_
  refine Meets.firstly (fun _ _ _ _ => trivial) fun before => ?_
  refine Prisma.Session.updateMany_yields_of.mono ?_
  rintro count _ ⟨filter, parsed, rfl⟩
  obtain ⟨key, named, rfl⟩ := except_map_ok.mp parsed
  have ended : Ended (history ++ [⟨thread, before, Prisma.Session.revocations none
      (Prisma.Session.selected (activeSessionsOn key) before)⟩])
      fun row => (JsValue.string deviceId).toUuid = .ok row.deviceId := by
    refine ⟨_, List.mem_append_right _ (List.mem_singleton_self _), ends_of_update fun row same => ?_⟩
    rw [named] at same
    exact selects_activeSessionsOn (Except.ok.inj same).symm
  exact ended.settles fun _ row covered => covered

/-! ## The operations that end sessions -/

/-- The sessions that an operation is to end, when it has returned. -/
def Request.Covers : Request → Response → Session → Prop
  | .login _ _ _, .login result, row => result.user.role = "DRIVER" ∧ row.userId = result.user.id
  | .createSession userId _ roleCode, _, row => roleCode = "DRIVER" ∧ row.userId = userId
  | .logout sessionId userId, _, row => sessionId.truthy = true ∧
      sessionId.toUuid = .ok row.id ∧ (userId.truthy = true → spelled row.userId = userId)
  | .logoutAll userId, _, row => userId.truthy = true ∧ userId.toUuid = .ok row.userId
  | .revokeDevice deviceId _ _, _, row => (JsValue.string deviceId).toUuid = .ok row.deviceId
  | .adminResetPassword targetUserId _ _, _, row =>
      (JsValue.string targetUserId).toUuid = .ok row.userId
  | .updateUserStatus targetUserId status _, _, row => (status = .suspended ∨ status = .disabled) ∧
      (JsValue.string targetUserId).toUuid = .ok row.userId
  | .updateUserRole targetUserId _ _, _, row =>
      (JsValue.string targetUserId).toUuid = .ok row.userId
  | _, _, _ => False

variable [TokenHash] [JsonWebToken]

/-- Every request, when it has returned, has ended what it is to end. -/
theorem Request.ends (config : JwtConfig) (request : Request) :
    EndsOnReturn (request.proc config) request.Covers := by
  have nothing : ∀ process : Proc accounts Response, EndsOnReturn process fun _ _ => False :=
    fun process _ _ _ => Meets.unless fun _ _ impossible => impossible
  cases request with
  | login dto clientIp userAgent =>
      exact (AuthService.login_ends config dto clientIp userAgent).map fun _ _ => Iff.rfl
  | createSession userId deviceId roleCode =>
      exact (SessionService.createSession_ends userId deviceId roleCode).map fun _ _ => Iff.rfl
  | logout sessionId userId =>
      exact (SessionService.revokeSession_ends sessionId userId).map fun _ _ => Iff.rfl
  | logoutAll userId =>
      exact (SessionService.revokeAllUserSessions_ends userId).map fun _ _ => Iff.rfl
  | revokeDevice deviceId actorUserId actorRole =>
      exact (DeviceService.revokeDevice_ends deviceId actorUserId actorRole).map fun _ _ => Iff.rfl
  | adminResetPassword targetUserId newPass actorUserId =>
      exact (UsersService.adminResetPassword_ends targetUserId newPass actorUserId).map
        fun _ _ => Iff.rfl
  | updateUserStatus targetUserId status actorUserId =>
      exact (UsersService.updateUserStatus_ends targetUserId status actorUserId).map
        fun _ _ => Iff.rfl
  | updateUserRole targetUserId newRoleCode actorUserId =>
      exact (UsersService.updateUserRole_ends targetUserId newRoleCode actorUserId).map
        fun _ _ => Iff.rfl
  | _ => exact nothing _

end Armada.Auth
