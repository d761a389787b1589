import Armada.Auth.LimitedLogin
import Armada.Redis.Counting

/-!
# A login with its rate limits

The two rate limits of a call as counts, the user that it finds, and what it leaves when the
password is wrong. For the accounts a call is a run of `AuthService.login` in which the rate
counts are those of Redis.
-/

namespace Armada.Auth

open Collections Concurrency

/-! ## A call on accounts and Redis -/

/-- A sequence under the limiter goes on with what the first part leaves. -/
theorem limited_bind {α β : Type} (first : LimitedM α) (next : α → LimitedM β) (state : Limited) :
    (first >>= next : LimitedM β) state = match first state with
      | (.ok value, middle) => next value middle
      | (.error error, middle) => (.error error, middle) := by
  change (match first state with
    | (outcome, middle) => ExceptT.bindCont next outcome middle) = _
  rcases first state with ⟨outcome, middle⟩
  cases outcome <;> rfl

namespace LoginCall

/-- The attempt of a call, as its address counts it. -/
def addressEvent (call : LoginCall) : Event String :=
  Redis.counted call.environment.address (addressKey call.clientIp) 300

/-- The attempt of a call, as the account it names counts it. -/
def accountEvent (call : LoginCall) : Event String :=
  Redis.counted call.environment.account (accountKey call.dto.username) 300

/-- Redis is there for both rate limits. -/
def Served (call : LoginCall) : Prop :=
  Redis.Available call.environment.address ∧ Redis.Available call.environment.account

end LoginCall

/-- With Redis available the count is the counter's own. -/
theorem onRedis_incrRateLimit {inputs : RedisInputs} (available : Redis.Available inputs)
    (key : String) (state : Limited) :
    onRedis inputs (Redis.RedisService.incrRateLimit key 300) state =
      (.ok (state.counters.count (Redis.counted inputs key 300).now key),
        { state with counters := state.counters.hit (Redis.counted inputs key 300) }) := by
  change ((_ : Except _ _ × _).1.mapError _, _) = _
  rw [Redis.incrRateLimit_run available]
  rfl

namespace LoginCall

/-- An attempt counts, and is refused above the limit. -/
theorem attempt_eq {inputs : RedisInputs} (available : Redis.Available inputs) (key : String)
    (limit : Nat) (refusal : Exception) (state : Limited) :
    attempt inputs key limit refusal state =
      (if state.counters.count (Redis.counted inputs key 300).now key ≤ limit then .ok ()
        else .error refusal,
        { state with counters := state.counters.hit (Redis.counted inputs key 300) }) := by
  rw [attempt, limited_bind, onRedis_incrRateLimit available]
  dsimp only
  by_cases few : state.counters.count (Redis.counted inputs key 300).now key ≤ limit
  · rw [if_pos few, if_neg (not_lt_of_ge few)]
    rfl
  · rw [if_neg few, if_pos (lt_of_not_ge few)]
    rfl

/-- Both rate limits, as counts. The identifier is counted only if the address passes. -/
theorem throttle_eq (call : LoginCall) (served : call.Served) (state : Limited) :
    call.throttle state =
      let counters := state.counters.hit call.addressEvent
      if state.counters.count call.addressEvent.now (addressKey call.clientIp) ≤ 30 then
        (if counters.count call.accountEvent.now (accountKey call.dto.username) ≤ 5 then .ok ()
          else .error tooManyForAccount, { state with counters := counters.hit call.accountEvent })
      else (.error tooManyFromAddress, { state with counters := counters }) := by
  rw [throttle, limited_bind, attempt_eq served.1]
  by_cases few : state.counters.count call.addressEvent.now (addressKey call.clientIp) ≤ 30
  · have passed : state.counters.count (Redis.counted call.environment.address
        (addressKey call.clientIp) 300).now (addressKey call.clientIp) ≤ 30 := few
    simp only [if_pos passed, if_pos few]
    exact attempt_eq served.2 _ _ _ _
  · have refused : ¬state.counters.count (Redis.counted call.environment.address
        (addressKey call.clientIp) 300).now (addressKey call.clientIp) ≤ 30 := few
    simp only [if_neg refused, if_neg few]
    rfl

end LoginCall

/-! ## The part on the accounts -/

/-- What identifies an account is as it was. -/
structure SameAccounts (before after : Accounts) : Prop where
  users : after.users = before.users
  roles : after.roles = before.roles
  drivers : after.drivers = before.drivers

/-- Accounts that are the same as the same are the same. -/
theorem SameAccounts.trans {first second third : Accounts} (left : SameAccounts first second)
    (right : SameAccounts second third) : SameAccounts first third :=
  ⟨right.users.trans left.users, right.roles.trans left.roles, right.drivers.trans left.drivers⟩

/-- Only entries of the audit log are written. -/
def Audits (write : Write) : Prop := ∃ row, write = .createAuditLog row

/-- Audit rows leave the accounts as they are. -/
theorem SameAccounts.of_audits {writes : List Write} (audits : ∀ write ∈ writes, Audits write)
    (db : Accounts) : SameAccounts db (db.commit writes) where
  users := Accounts.commit_keeps Accounts.users (fun write member _ => by
    obtain ⟨row, rfl⟩ := audits write member
    rfl) db
  roles := db.roles_commit writes
  drivers := db.drivers_commit writes

namespace AuthService

variable [UuidSpelling] [Argon2] {dto : LoginDto} {clientIp userAgent : String}

omit [UuidSpelling] [Argon2] in
/-- Looking up a user writes audit rows only. -/
theorem lookUp_confined : (lookUp dto clientIp userAgent).Confined Audits := by
  refine .bind (.statement (confined_select _)) fun found => ?_
  cases found with
  | none => exact .bind (.statement (confined_createAuditLog ⟨_, rfl⟩)) fun _ => .throw _
  | some found => exact .bind (.rejectIf _ _) fun _ => .pure _

omit [UuidSpelling] [Argon2] in
/-- What a lookup finds is the active user that its first statement reads. -/
theorem lookUp_run {inputs : AccountsInputs} {db : Accounts} {found : Prisma.UserRecord} :
    (((lookUp dto clientIp userAgent).whole Write.durable).run inputs db).1 = .ok found ↔
      (Prisma.User.findFirst (names dto.username)).Succeeds (inputs 0 0 0) db (some found) [] ∧
        found.user.status = .active := by
  rw [lookUp, Proc.run_whole_lift_bind, Statement.Succeeds]
  cases read : (Prisma.User.findFirst (names dto.username)).exec (inputs 0 0 0) db with
  | error error => simp
  | ok outcome =>
      obtain ⟨answer, writes⟩ := outcome
      obtain ⟨_, rfl, _⟩ := Prisma.User.findFirst_succeeds.mp read
      dsimp only
      cases answer with
      | none =>
          dsimp only
          rw [Proc.run_whole_lift_bind]
          refine iff_of_false ?_ (by simp)
          split <;> exact fun same => by cases same
      | some user =>
          dsimp only
          rw [Proc.run_whole_rejectIf_bind]
          by_cases active : user.user.status = .active
          · rw [if_neg (not_not_intro active)]
            change (Except.ok user = _) ↔ _
            simp only [Except.ok.injEq, Prod.mk.injEq, Option.some.injEq, and_true]
            exact ⟨fun same => ⟨same, same ▸ active⟩, fun both => both.1⟩
          · rw [if_pos active]
            refine iff_of_false (fun same => by cases same) ?_
            rintro ⟨same, stays⟩
            cases same
            exact active stays

/-- No call gets past a wrong password. -/
theorem checkPassword_refuses (clientIp userAgent : String) {found : Prisma.UserRecord}
    (wrong : verifyPassword found.user.passwordHash dto.password = false) (inputs : AccountsInputs)
    (db : Accounts) : ∃ error,
      (((checkPassword dto clientIp userAgent found).whole Write.durable).run inputs db).1 =
        .error error := by
  rw [checkPassword, if_pos (by simp [wrong])]
  rw [Proc.run_whole_lift_bind]
  split
  · exact ⟨_, rfl⟩
  · exact ⟨_, rfl⟩

/-- So does the check of the password. -/
theorem checkPassword_confined (found : Prisma.UserRecord) :
    (checkPassword dto clientIp userAgent found).Confined Audits := by
  refine .ite ?_ (.pure _)
  refine .bind (.statement (confined_createAuditLog ⟨_, rfl⟩)) fun _ => ?_
  exact .bind (.throw _) fun _ => .pure _

end AuthService

/-- A part that only audits, in a run. -/
theorem onAccounts_audits {α : Type} {process : Proc accounts α}
    (confined : process.Confined Audits) (inputs : AccountsInputs) (state : Limited) :
    (onAccounts inputs process state).2.counters = state.counters ∧
      SameAccounts state.db (onAccounts inputs process state).2.db := by
  have ran : (process.whole Write.durable).Runs (fun _ => True) state.db _ _ :=
    Proc.runs_run _ inputs (fun _ _ => trivial) state.db
  obtain ⟨writes, audits, same⟩ := confined.runs ran
  refine ⟨rfl, ?_⟩
  have whole : (onAccounts inputs process state).2.db = state.db.commit writes := same
  rw [whole]
  exact .of_audits audits state.db

/-! ## One call -/

namespace LoginCall

/-- The row that a lookup selects is an active user, the account. -/
def finds (account : Uuid) (db : Accounts) (call : LoginCall) : Bool :=
  (call.environment.lookUp 0 0 0).fault.isNone &&
    (db.users.rows.find? (AuthService.names call.dto.username)).any fun user =>
      user.id = account && user.status = .active && (db.role? user).isSome

/-- Which account a call finds depends on the accounts alone. -/
theorem finds_congr {before after : Accounts} (same : SameAccounts before after) (account : Uuid)
    (call : LoginCall) : call.finds account after = call.finds account before := by
  rw [finds, finds, same.users]
  simp only [Accounts.role?, same.roles]

variable [UuidSpelling] [Argon2] {call : LoginCall} {state : Limited}

/-- It is not the right password for the row that is selected. -/
def Wrong (db : Accounts) (call : LoginCall) : Prop :=
  ∀ user, db.users.rows.find? (AuthService.names call.dto.username) = some user →
    verifyPassword user.passwordHash call.dto.password = false

omit [UuidSpelling] in
/-- So does whether its password is wrong. -/
theorem Wrong.congr {before after : Accounts} (same : SameAccounts before after)
    (wrong : call.Wrong before) : call.Wrong after := by
  intro user
  rw [same.users]
  exact wrong user

omit [UuidSpelling] [Argon2] in
/-- The limiter does not touch the accounts. -/
theorem throttle_db (call : LoginCall) (served : call.Served) (state : Limited) :
    (call.throttle state).2.db = state.db := by
  rw [throttle_eq call served]
  dsimp only
  split <;> rfl

omit [UuidSpelling] [Argon2] in
/-- The user that is found, as the record of the row that is selected. -/
theorem lookUp_finds (call : LoginCall) (account : Uuid) (db : Accounts) :
    (∃ found : Prisma.UserRecord, found.user.id = account ∧
      (((AuthService.lookUp call.dto call.clientIp call.userAgent).whole Write.durable).run
        call.environment.lookUp db).1 = .ok found) ↔ call.finds account db = true := by
  simp only [finds, Bool.and_eq_true, Option.isNone_iff_eq_none, Option.any_eq_true,
    decide_eq_true_eq]
  constructor
  · rintro ⟨found, same, looked⟩
    obtain ⟨succeeded, active⟩ := AuthService.lookUp_run.mp looked
    obtain ⟨fault, _, found?⟩ := Prisma.User.findFirst_succeeds.mp succeeded
    rcases found? with ⟨_, absent⟩ | ⟨record, selected, one, role, _⟩
    · cases absent
    · cases one
      exact ⟨fault, found.user, selected, ⟨same, active⟩, Option.isSome_of_eq_some role⟩
  · rintro ⟨fault, user, selected, ⟨same, active⟩, role⟩
    obtain ⟨role, held⟩ := Option.isSome_iff_exists.mp role
    refine ⟨⟨user, role, db.driver? user⟩, same, AuthService.lookUp_run.mpr ⟨?_, active⟩⟩
    exact Prisma.User.findFirst_succeeds.mpr ⟨fault, rfl, .inr ⟨_, selected, rfl, held, rfl⟩⟩

omit [UuidSpelling] [Argon2] in
/-- A call reaches a password if both rate limits pass and the account is found. -/
theorem reaches_iff (served : call.Served) (account : Uuid) (state : Limited) :
    call.reaches account state = true ↔
      (call.throttle state).1 = .ok () ∧ call.finds account state.db = true := by
  rw [reaches, findUser, limited_bind, ← lookUp_finds, ← call.throttle_db served state]
  cases throttled : call.throttle state with
  | mk outcome middle =>
      cases outcome with
      | error error => simp
      | ok passed =>
          dsimp only
          change (match (((AuthService.lookUp call.dto call.clientIp call.userAgent).whole
            Write.durable).run call.environment.lookUp middle.db).1 with
              | .ok found => decide (found.user.id = account)
              | .error _ => false) = true ↔ _
          cases (((AuthService.lookUp call.dto call.clientIp call.userAgent).whole
            Write.durable).run call.environment.lookUp middle.db).1 with
          | error error => simp
          | ok found =>
              simp only [decide_eq_true_eq, true_and, Except.ok.injEq]
              exact ⟨fun same => ⟨found, same, rfl⟩, by rintro ⟨_, same, rfl⟩; exact same⟩

omit [UuidSpelling] [Argon2] in
/-- The search for the user leaves what the rate limits leave, but for the audit log. -/
theorem findUser_leaves (served : call.Served) (state : Limited) :
    (call.findUser state).2.counters = (call.throttle state).2.counters ∧
      SameAccounts state.db (call.findUser state).2.db := by
  rw [findUser, limited_bind]
  have untouched := call.throttle_db served state
  cases throttled : call.throttle state with
  | mk outcome middle =>
      rw [throttled] at untouched
      cases outcome with
      | error error => exact ⟨rfl, untouched ▸ ⟨rfl, rfl, rfl⟩⟩
      | ok passed => exact untouched ▸ onAccounts_audits AuthService.lookUp_confined _ middle

omit [UuidSpelling] [Argon2] in
/-- The user that is found is the first the identifier names. -/
theorem findUser_selects (served : call.Served) {found : Prisma.UserRecord}
    (looked : (call.findUser state).1 = .ok found) :
    state.db.users.rows.find? (AuthService.names call.dto.username) = some found.user := by
  rw [findUser, limited_bind] at looked
  have untouched := call.throttle_db served state
  cases throttled : call.throttle state with
  | mk outcome middle =>
      rw [throttled] at untouched looked
      cases outcome with
      | error error => cases looked
      | ok passed =>
          obtain ⟨succeeded, _⟩ := AuthService.lookUp_run.mp looked
          obtain ⟨_, _, found?⟩ := Prisma.User.findFirst_succeeds.mp succeeded
          rcases found? with ⟨_, absent⟩ | ⟨record, selected, one, _⟩
          · cases absent
          · cases one
            exact untouched ▸ selected

variable [TokenHash]

/-- Nothing but the audit log is written after a wrong password. -/
theorem proceed_leaves (config : JwtConfig) (call : LoginCall) {found : Prisma.UserRecord}
    (wrong : verifyPassword found.user.passwordHash call.dto.password = false) (state : Limited) :
    (call.proceed config found state).2.counters = state.counters ∧
      SameAccounts state.db (call.proceed config found state).2.db := by
  let password := AuthService.checkPassword call.dto call.clientIp call.userAgent found
  obtain ⟨error, refused⟩ := AuthService.checkPassword_refuses call.clientIp call.userAgent wrong
    call.environment.password state.db
  have checked : onAccounts call.environment.password password state = (.error error, _) :=
    Prod.ext refused rfl
  have audits : password.Confined Audits := AuthService.checkPassword_confined found
  have left := onAccounts_audits audits call.environment.password state
  rw [proceed, limited_bind, checked]
  exact left

/-- A call with a wrong password leaves what its rate limits leave, but for the audit log. -/
theorem after_leaves (config : JwtConfig) (served : call.Served) (wrong : call.Wrong state.db) :
    (call.after config state).counters = (call.throttle state).2.counters ∧
      SameAccounts state.db (call.after config state).db := by
  rw [after, login, limited_bind]
  obtain ⟨counters, accounts⟩ := findUser_leaves served state
  cases looked : call.findUser state with
  | mk outcome middle =>
      rw [looked] at counters accounts
      cases outcome with
      | error error => exact ⟨counters, accounts⟩
      | ok found =>
          have selected := findUser_selects served (congrArg Prod.fst looked)
          obtain ⟨kept, others⟩ := call.proceed_leaves config (wrong found.user selected) middle
          exact ⟨kept.trans counters, accounts.trans others⟩

end LoginCall

/-! ## The call on the accounts alone -/

/-- What a part does to the accounts is a run of a process. -/
def Carries {α : Type} (process : Proc accounts α) (part : LimitedM α) : Prop :=
  ∀ state, (process.whole Write.durable).Runs (fun _ => True) state.db (part state).1
    (part state).2.db

/-- A process on the accounts carries itself. -/
theorem carries_onAccounts {α : Type} (inputs : AccountsInputs) (process : Proc accounts α) :
    Carries process (onAccounts inputs process) :=
  fun state => Proc.runs_run _ inputs (fun _ _ => trivial) state.db

/-- A sequence is carried part by part. -/
theorem Carries.bind {α β : Type} {first : Proc accounts α} {start : LimitedM α}
    {next : α → Proc accounts β} {rest : α → LimitedM β} (carries : Carries first start)
    (onward : ∀ value, Carries (next value) (rest value)) :
    Carries (first >>= next) (start >>= rest) := by
  intro state
  rw [Proc.whole_bind, limited_bind]
  have ran := carries state
  cases left : start state with
  | mk outcome middle =>
      rw [left] at ran
      cases outcome with
      | ok value => exact Proc.runs_bind.mpr (.inl ⟨value, _, ran, onward value middle⟩)
      | error error => exact Proc.runs_bind.mpr (.inr ⟨error, ran, rfl⟩)

/-- The end of a login's rate limit never fails. -/
theorem carries_resetRateLimit (inputs : RedisInputs) (key : String) :
    Carries (RedisService.resetRateLimit key)
      (onRedis inputs (Redis.RedisService.resetRateLimit key)) := by
  intro state
  have answer : (onRedis inputs (Redis.RedisService.resetRateLimit key) state).1 = .ok () :=
    congrArg (Except.mapError _) (Redis.resetRateLimit_run inputs key state.counters)
  rw [answer]
  exact ⟨fun _ => {}, trivial, rfl, rfl⟩

namespace LoginCall

variable [UuidSpelling] [Argon2] [TokenHash]

/-- All of a login after its rate limits. -/
theorem carries_login (config : JwtConfig) (call : LoginCall) :
    Carries (AuthService.authenticate call.dto call.clientIp call.userAgent >>= fun found => do
        RedisService.resetRateLimit s!"throttle:login:user:{call.dto.username}"
        AuthService.openSession config call.dto call.clientIp call.userAgent found)
      (onAccounts call.environment.lookUp
        (AuthService.lookUp call.dto call.clientIp call.userAgent) >>= call.proceed config) := by
  rw [AuthService.authenticate_eq, Proc.seq_assoc]
  refine (carries_onAccounts _ _).bind fun found => ?_
  refine (carries_onAccounts _ _).bind fun found => ?_
  exact (carries_resetRateLimit _ _).bind fun _ => carries_onAccounts _ _

omit [UuidSpelling] [Argon2] [TokenHash] in
/-- The rate limits on the accounts, where the counts are supplied. -/
theorem throttled_run {α : Type} (call : LoginCall) (rest : Proc accounts α)
    (inputs : AccountsInputs) (db : Accounts) :
    ((AuthService.throttle call.dto.username call.clientIp >>= fun _ => rest).whole
      Write.durable).run inputs db =
        if (inputs 0 0 0).rateCount ≤ 30 then
          if (inputs 1 0 0).rateCount ≤ 5 then
            (rest.whole Write.durable).run (fun step => inputs (step + 2)) db
          else (.error tooManyForAccount, db)
        else (.error tooManyFromAddress, db) := by
  have counted (key : String) (input : Input) : (RedisService.incrRateLimit key 300).exec input db =
      .ok (input.rateCount, []) := rfl
  simp only [AuthService.throttle, Proc.seq_assoc, Proc.run_whole_lift_bind, counted,
    Proc.run_whole_rejectIf_bind, gt_iff_lt, ← not_le, ite_not]
  rfl

/-- A login under the limiter is a login of the service, with the counts that the
counters give. -/
theorem login_run (config : JwtConfig) {call : LoginCall} (served : call.Served)
    (state : Limited) : ∃ inputs : AccountsInputs,
      (inputs 0 0 0).rateCount =
        state.counters.count call.addressEvent.now (addressKey call.clientIp) ∧
      (inputs 1 0 0).rateCount = (state.counters.hit call.addressEvent).count
        call.accountEvent.now (accountKey call.dto.username) ∧
      ((AuthService.login config call.dto call.clientIp call.userAgent).whole
        Write.durable).run inputs state.db =
          ((call.login config state).1, (call.login config state).2.db) := by
  have : Inhabited accounts.whole.Input := ⟨fun _ => {}⟩
  have parts : call.login config = call.throttle >>= fun _ =>
      onAccounts call.environment.lookUp
        (AuthService.lookUp call.dto call.clientIp call.userAgent) >>= call.proceed config :=
    bind_assoc _ _ _
  obtain ⟨later, ran⟩ := (carries_login config call (call.throttle state).2).exists_run
  let first := state.counters.count call.addressEvent.now (addressKey call.clientIp)
  let second := (state.counters.hit call.addressEvent).count call.accountEvent.now
    (accountKey call.dto.username)
  let inputs : AccountsInputs
    | 0 => fun _ _ => { rateCount := first }
    | 1 => fun _ _ => { rateCount := second }
    | step + 2 => later step
  refine ⟨inputs, rfl, rfl, ?_⟩
  rw [call.throttle_db served state] at ran
  rw [AuthService.login, throttled_run, parts, limited_bind]
  change (if first ≤ 30 then if second ≤ 5 then _ else _ else _) = _
  have throttled : call.throttle state = if first ≤ 30 then
      (if second ≤ 5 then .ok () else .error tooManyForAccount, _)
    else (.error tooManyFromAddress, _) := call.throttle_eq served state
  by_cases few : first ≤ 30
  · rw [if_pos few] at throttled
    by_cases fewer : second ≤ 5
    · rw [if_pos fewer] at throttled
      rw [if_pos few, if_pos fewer]
      rw [throttled] at ran ⊢
      exact ran
    · rw [if_neg fewer] at throttled
      rw [if_pos few, if_neg fewer, throttled]
  · rw [if_neg few] at throttled
    rw [if_neg few, throttled]

end LoginCall

end Armada.Auth
