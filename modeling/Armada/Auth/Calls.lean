import Armada.Auth.Projections

/-!
# What the calls of authentication do

For every call, what a successful execution returns and writes.
-/

namespace Armada.Auth

open Relational Concurrency

/-- A query succeeds if no fault comes and its body does. -/
theorem query_succeeds {β : Type} {locks : Input → Accounts → List Lock}
    {body : Input → Accounts → Except PrismaError (β × List Write)} {input : Input} {db : Accounts}
    {value : β} {writes : List Write} :
    (query locks body).Succeeds input db value writes ↔
      input.fault = none ∧ body input db = .ok (value, writes) := by
  simp only [query, Statement.Succeeds]
  cases input.fault with
  | some error => simp
  | none => cases body input db <;> simp

/-- The errors of a call of Prisma are Prisma's. -/
theorem query_fails {β : Type} {locks : Input → Accounts → List Lock}
    {body : Input → Accounts → Except PrismaError (β × List Write)} {input : Input} {db : Accounts}
    {error : Exception} (failed : (query locks body).exec input db = .error error) :
    ∃ reason, error = .prisma reason := by
  simp only [query] at failed
  split at failed
  · exact ⟨_, (Except.error.inj failed).symm⟩
  · split at failed
    · cases failed
    · exact ⟨_, (Except.error.inj failed).symm⟩

/-- A look succeeds with what it finds, and writes nothing. -/
theorem select_succeeds {β : Type} {body : Accounts → Except PrismaError β} {input : Input}
    {db : Accounts} {value : β} {writes : List Write} :
    (select body).Succeeds input db value writes ↔
      input.fault = none ∧ body db = .ok value ∧ writes = [] := by
  rw [select, query_succeeds, except_map_ok]
  simp only [Prod.mk.injEq]
  constructor
  · rintro ⟨fault, result, read, rfl, rfl⟩
    exact ⟨fault, read, rfl⟩
  · rintro ⟨fault, read, rfl⟩
    exact ⟨fault, value, read, rfl, rfl⟩

/-- A look fails with an error of the database. -/
theorem select_fails {β : Type} {body : Accounts → Except PrismaError β} {input : Input}
    {db : Accounts} {error : Exception} (failed : (select body).exec input db = .error error) :
    ∃ reason, error = .prisma reason :=
  query_fails failed

/-- An effect always succeeds. -/
theorem effect_succeeds {β : Type} {body : Input → Accounts → β × List Write} {input : Input}
    {db : Accounts} {value : β} {writes : List Write} :
    (effect body).Succeeds input db value writes ↔ body input db = (value, writes) := by
  simp [effect, Statement.Succeeds]

/-- Who asks for the input gets it. -/
theorem ask_succeeds {input answer : Input} {db : Accounts} {writes : List Write} :
    ask.Succeeds input db answer writes ↔ answer = input ∧ writes = [] := by
  rw [ask, effect_succeeds, Prod.mk.injEq, eq_comm (a := input), eq_comm (b := writes)]

namespace Prisma

/-- A check of a query passes exactly if its condition holds. -/
theorem check_ok {condition : Prop} [Decidable condition] {error : PrismaError} {answer : Unit} :
    check condition error = .ok answer ↔ condition := by
  by_cases holds : condition <;> simp [check, holds]

namespace User

/-- A record that the store holds: a user's row and its relations. -/
def Recorded (db : Accounts) (record : UserRecord) : Prop :=
  db.role? record.user = some record.role ∧ db.driver? record.user = record.driver

/-- A user is found with its role and driver, or not at all. -/
theorem withRelations_ok {db : Accounts} {row : Option Auth.User} {found : Option UserRecord} :
    User.withRelations db row = .ok found ↔ (row = none ∧ found = none) ∨
      ∃ record, row = some record.user ∧ found = some record ∧ Recorded db record := by
  cases row with
  | none => simp [withRelations, eq_comm]
  | some user =>
      simp only [withRelations, reduceCtorEq, false_and, false_or, Option.some.injEq]
      cases role : db.role? user with
      | none =>
          refine iff_of_false (by simp) ?_
          rintro ⟨record, rfl, _, sameRole, _⟩
          cases role.symm.trans sameRole
      | some found =>
          simp only [Except.ok.injEq]
          constructor
          · rintro rfl
            exact ⟨_, rfl, rfl, role, rfl⟩
          · rintro ⟨record, rfl, rfl, sameRole, sameDriver⟩
            obtain rfl := Option.some.inj (role.symm.trans sameRole)
            rw [sameDriver]

/-- The user of the id, if the text is one and there is one. -/
theorem findUnique_succeeds {id : Except PrismaError Uuid} {input : Input} {db : Accounts}
    {found : Option UserRecord} {writes : List Write} :
    (findUnique id).Succeeds input db found writes ↔ input.fault = none ∧ writes = [] ∧
      ∃ key, id = .ok key ∧ ((db.user? key = none ∧ found = none) ∨
        ∃ record, db.user? key = some record.user ∧ found = some record ∧ Recorded db record) := by
  simp only [findUnique, select_succeeds, except_bind_ok, withRelations_ok]
  exact and_congr_right fun _ => and_comm

/-- The first user that is selected. -/
theorem findFirst_succeeds {selects : Auth.User → Bool} {input : Input} {db : Accounts}
    {found : Option UserRecord} {writes : List Write} :
    (findFirst selects).Succeeds input db found writes ↔ input.fault = none ∧ writes = [] ∧
      ((db.users.rows.find? selects = none ∧ found = none) ∨
        ∃ record, db.users.rows.find? selects = some record.user ∧ found = some record ∧
          Recorded db record) := by
  simp only [findFirst, select_succeeds, withRelations_ok]
  exact and_congr_right fun _ => and_comm

/-- A row lock writes nothing. -/
theorem selectForUpdate_succeeds {id : Uuid} {input : Input} {db : Accounts} {answer : Unit}
    {writes : List Write} :
    (selectForUpdate id).Succeeds input db answer writes ↔ input.fault = none ∧ writes = [] := by
  simp [selectForUpdate, query_succeeds, eq_comm]

/-- A new user is the row given. -/
theorem create_succeeds {row : Input → Auth.User} {input : Input} {db : Accounts}
    {created : Auth.User} {writes : List Write}
    (succeeds : (create row).Succeeds input db created writes) :
    created = row input ∧ writes = [.createUser created] ∧ db.user? created.id = none := by
  simp only [create, query_succeeds, except_bind_ok, check_ok, Except.ok.injEq, Prod.mk.injEq,
    exists_and_left, exists_const] at succeeds
  obtain ⟨_, fresh, _, _, _, rfl, rfl⟩ := succeeds
  exact ⟨rfl, rfl, fresh⟩

/-- An update of a user needs the row alone. -/
theorem update_succeeds {id : Except PrismaError Uuid} {data : Input → UserData} {input : Input}
    {db : Accounts} {record : UserRecord} {writes : List Write}
    (succeeds : (update id data).Succeeds input db record writes) :
    ∃ key row, id = .ok key ∧ db.user? key = some row ∧ record.user = (data input).set row ∧
      Recorded db record ∧ writes = [.updateUser key (data input)] := by
  simp only [update, query_succeeds, except_bind_ok] at succeeds
  obtain ⟨_, key, rfl, read⟩ := succeeds
  split at read
  · cases read
  · rename_i row found
    split at read
    · cases read
    · rename_i role foundRole
      cases read
      exact ⟨key, row, rfl, found, rfl, ⟨foundRole, rfl⟩, rfl⟩

end User

namespace Role

/-- A role that is found is in the table. -/
theorem findUnique_succeeds {code : String} {input : Input} {db : Accounts}
    {found : Option RoleRecord} {writes : List Write}
    (succeeds : (findUnique code).Succeeds input db found writes) :
    writes = [] ∧ ∀ role ∈ found, role ∈ db.roles.rows ∧ role.code = code := by
  simp only [findUnique, select_succeeds, Except.ok.injEq] at succeeds
  obtain ⟨_, rfl, rfl⟩ := succeeds
  refine ⟨rfl, fun role read => ⟨List.mem_of_find?_eq_some read, ?_⟩⟩
  simpa using List.find?_some read

end Role

namespace Device

/-- The device of the id, if the text is one and there is one. -/
theorem findUnique_succeeds {id : Except PrismaError Uuid} {input : Input} {db : Accounts}
    {found : Option Auth.Device} {writes : List Write} :
    (findUnique id).Succeeds input db found writes ↔
      input.fault = none ∧ writes = [] ∧ ∃ key, id = .ok key ∧ db.device? key = found := by
  simp only [findUnique, select_succeeds, except_bind_ok, Except.ok.injEq]
  exact and_congr_right fun _ => and_comm

/-- A device that is found is the user's. -/
theorem findFirst_succeeds {userId : Uuid} {deviceIdentifier : String} {input : Input} {db : Accounts}
    {found : Option Auth.Device} {writes : List Write}
    (succeeds : (findFirst userId deviceIdentifier).Succeeds input db found writes) :
    writes = [] ∧ ∀ row ∈ found, row ∈ db.devices.rows ∧ row.userId = userId ∧
      row.deviceIdentifier = deviceIdentifier := by
  simp only [findFirst, select_succeeds, Except.ok.injEq] at succeeds
  obtain ⟨_, rfl, rfl⟩ := succeeds
  refine ⟨rfl, fun row read => ⟨List.mem_of_find?_eq_some read, ?_⟩⟩
  simpa using List.find?_some read

/-- A new device is the row given. -/
theorem create_succeeds {row : Input → Auth.Device} {input : Input} {db : Accounts}
    {created : Auth.Device} {writes : List Write}
    (succeeds : (create row).Succeeds input db created writes) :
    created = row input ∧ writes = [.createDevice created] ∧ db.device? created.id = none ∧
      db.user? created.userId ≠ none := by
  simp only [create, query_succeeds, except_bind_ok, check_ok, Except.ok.injEq, Prod.mk.injEq,
    exists_and_left, exists_const] at succeeds
  obtain ⟨_, _, fresh, known, rfl, rfl⟩ := succeeds
  exact ⟨rfl, rfl, fresh, known⟩

/-- An update of a device needs the row alone. -/
theorem update_succeeds {id : Except PrismaError Uuid} {data : Input → DeviceData} {input : Input}
    {db : Accounts} {updated : Auth.Device} {writes : List Write}
    (succeeds : (update id data).Succeeds input db updated writes) :
    ∃ key row, id = .ok key ∧ db.device? key = some row ∧ updated = (data input).set row ∧
      writes = [.updateDevice key (data input)] := by
  simp only [update, query_succeeds, except_bind_ok] at succeeds
  obtain ⟨_, key, rfl, read⟩ := succeeds
  split at read
  · cases read
  · rename_i row found
    cases read
    exact ⟨key, row, rfl, found, rfl, rfl⟩

end Device

namespace Session

/-- The session of the id, if the text is one and there is one. -/
theorem findUnique_succeeds {id : Except PrismaError Uuid} {input : Input} {db : Accounts}
    {found : Option Auth.Session} {writes : List Write} :
    (findUnique id).Succeeds input db found writes ↔
      input.fault = none ∧ writes = [] ∧ ∃ key, id = .ok key ∧ db.session? key = found := by
  simp only [findUnique, select_succeeds, except_bind_ok, Except.ok.injEq]
  exact and_congr_right fun _ => and_comm

/-- The session together with its device. -/
theorem findWithDevice_succeeds {id : Except PrismaError Uuid} {input : Input} {db : Accounts}
    {found : Option (Auth.Session × Auth.Device)} {writes : List Write} :
    (findWithDevice id).Succeeds input db found writes ↔ input.fault = none ∧ writes = [] ∧
      ∃ key, id = .ok key ∧ ((db.session? key = none ∧ found = none) ∨
        ∃ session device, db.session? key = some session ∧
          db.device? session.deviceId = some device ∧ found = some (session, device)) := by
  simp only [findWithDevice, select_succeeds, except_bind_ok]
  constructor
  · rintro ⟨fault, ⟨key, rfl, read⟩, rfl⟩
    refine ⟨fault, rfl, key, rfl, ?_⟩
    split at read
    · rename_i absent
      exact .inl ⟨absent, (Except.ok.inj read).symm⟩
    · rename_i session present
      split at read
      · cases read
      · rename_i device foundDevice
        exact .inr ⟨session, device, present, foundDevice, (Except.ok.inj read).symm⟩
  · rintro ⟨fault, rfl, key, rfl, ⟨absent, rfl⟩ | ⟨session, device, present, foundDevice, rfl⟩⟩
    · exact ⟨fault, ⟨key, rfl, by simp [absent]⟩, rfl⟩
    · exact ⟨fault, ⟨key, rfl, by simp [present, foundDevice]⟩, rfl⟩

/-- A session that is found is in the table and has the hash. -/
theorem findByHash_succeeds {refreshTokenHash : String} {input : Input} {db : Accounts}
    {found : Option Auth.Session} {writes : List Write}
    (succeeds : (findByHash refreshTokenHash).Succeeds input db found writes) :
    writes = [] ∧ ∀ row ∈ found, db.session? row.id = some row ∧
      row.refreshTokenHash = refreshTokenHash := by
  simp only [findByHash, select_succeeds, Except.ok.injEq] at succeeds
  obtain ⟨_, rfl, rfl⟩ := succeeds
  refine ⟨rfl, fun row read => ⟨?_, by simpa using List.find?_some read⟩⟩
  exact Accounts.mem_sessions.mp (List.mem_of_find?_eq_some read)

/-- It is the holder of the hash. -/
theorem findByHash_found {refreshTokenHash : String} {input : Input} {db : Accounts}
    {found : Option Auth.Session} {writes : List Write}
    (succeeds : (findByHash refreshTokenHash).Succeeds input db found writes) :
    db.holder? refreshTokenHash = found := by
  simp only [findByHash, select_succeeds, Except.ok.injEq] at succeeds
  exact succeeds.2.1

/-- The sessions that meet the condition. -/
theorem findMany_succeeds {condition : Except PrismaError SessionWhere} {input : Input}
    {db : Accounts} {found : List Auth.Session} {writes : List Write} :
    (findMany condition).Succeeds input db found writes ↔ input.fault = none ∧ writes = [] ∧
      ∃ filter, condition = .ok filter ∧ db.sessions.rows.filter filter.selects = found := by
  simp only [findMany, select_succeeds, except_bind_ok, Except.ok.injEq]
  exact and_congr_right fun _ => and_comm

/-- The same, the oldest first. -/
theorem findOldestFirst_succeeds {condition : SessionWhere} {input : Input} {db : Accounts}
    {found : List Auth.Session} {writes : List Write} :
    (findOldestFirst condition).Succeeds input db found writes ↔ input.fault = none ∧
      ((db.sessions.rows.filter condition.selects).insertionSort fun left right =>
        left.lastRefreshedAt ≤ right.lastRefreshedAt) = found ∧ writes = [] := by
  simp only [findOldestFirst, select_succeeds, Except.ok.injEq]

/-- The row that `create` makes. -/
def created (userId deviceId : Uuid) (refreshTokenHash : String) (tokenFamily : Uuid)
    (expiresAt : Instant) (input : Input) : Auth.Session where
  id := input.uuid
  userId := userId
  deviceId := deviceId
  refreshTokenHash := refreshTokenHash
  tokenFamily := tokenFamily
  expiresAt := expiresAt
  lastRefreshedAt := input.now

/-- A new session is unrevoked, under a fresh id. -/
theorem create_succeeds {userId : Uuid} {deviceId : Except PrismaError Uuid}
    {refreshTokenHash : String} {tokenFamily : Uuid} {expiresAt : Instant} {input : Input}
    {db : Accounts} {row : Auth.Session} {writes : List Write}
    (succeeds : (create userId deviceId refreshTokenHash tokenFamily expiresAt).Succeeds input db
      row writes) :
    ∃ device, deviceId = .ok device ∧
      row = created userId device refreshTokenHash tokenFamily expiresAt input ∧
      db.session? row.id = none ∧ db.user? userId ≠ none ∧ db.device? device ≠ none ∧
      writes = [.createSession row] := by
  simp only [create, query_succeeds, except_bind_ok, check_ok, Except.ok.injEq, Prod.mk.injEq,
    exists_and_left, exists_const] at succeeds
  obtain ⟨_, device, rfl, fresh, user, known, rfl, rfl⟩ := succeeds
  exact ⟨device, rfl, rfl, fresh, user, known, rfl⟩

/-- An update revokes the session of the id. -/
theorem update_succeeds {id : Except PrismaError Uuid} {input : Input} {db : Accounts}
    {answer : Unit} {writes : List Write}
    (succeeds : (update id).Succeeds input db answer writes) :
    ∃ key row, id = .ok key ∧ db.session? key = some row ∧ writes = [.revokeSession key none] := by
  simp only [update, query_succeeds, except_bind_ok, check_ok, Except.ok.injEq, Prod.mk.injEq,
    exists_and_left, exists_const] at succeeds
  obtain ⟨_, key, rfl, known, _, rfl⟩ := succeeds
  obtain ⟨row, found⟩ := Option.ne_none_iff_exists'.mp known
  exact ⟨key, row, rfl, found, rfl⟩

/-- The ids of the sessions that meet the condition. -/
theorem candidates_succeeds {condition : SessionWhere} {input : Input} {db : Accounts}
    {found : List Uuid} {writes : List Write} :
    (candidates condition).Succeeds input db found writes ↔ input.fault = none ∧
      (db.sessions.rows.filter condition.selects).map Auth.Session.id = found ∧ writes = [] := by
  simp only [candidates, select_succeeds, Except.ok.injEq]

/-- One session is revoked, if it still meets the condition. -/
theorem updateIfStill_succeeds {condition : SessionWhere} {lastRefreshedAt : Option Instant}
    {id : Uuid} {input : Input} {db : Accounts} {count : Nat} {writes : List Write} :
    (updateIfStill condition lastRefreshedAt id).Succeeds input db count writes ↔
      input.fault = none ∧
        (((∃ row, db.session? id = some row ∧ condition.selects row = true) ∧ count = 1 ∧
            writes = [.revokeSession id lastRefreshedAt]) ∨
          ((∀ row, db.session? id = some row → condition.selects row = false) ∧ count = 0 ∧
            writes = [])) := by
  simp only [updateIfStill, query_succeeds]
  refine and_congr_right fun _ => ⟨fun read => ?_, ?_⟩
  · cases found : db.session? id with
    | none =>
        rw [found] at read
        cases read
        exact .inr ⟨nofun, rfl, rfl⟩
    | some row =>
        rw [found, Option.any_some] at read
        split at read
        · rename_i selected
          cases read
          exact .inl ⟨⟨row, rfl, selected⟩, rfl, rfl⟩
        · rename_i other
          cases read
          refine .inr ⟨fun same sameFound => ?_, rfl, rfl⟩
          cases sameFound
          exact Bool.eq_false_iff.mpr other
  · rintro (⟨⟨row, found, selected⟩, rfl, rfl⟩ | ⟨other, rfl, rfl⟩)
    · simp [found, selected]
    · refine if_neg fun still => ?_
      obtain ⟨row, found, selected⟩ := (Option.any_eq_true _ _).mp still
      cases (other row found).symm.trans selected

end Session

end Prisma

namespace RedisService

/-- The answer of Redis, if it is connected. -/
theorem isRevoked_succeeds {key : RevocationKey} {input : Input} {db : Accounts}
    {answer : Option Bool} {writes : List Write}
    (succeeds : (isRevoked key).Succeeds input db answer writes) :
    writes = [] ∧ (db.redisConnected = true → answer = some (db.isRevoked key input.now)) ∧
      (db.redisConnected = false → answer = input.redisAnswer key) := by
  simp only [isRevoked, effect_succeeds, Prod.mk.injEq] at succeeds
  obtain ⟨rfl, rfl⟩ := succeeds
  exact ⟨rfl, fun connected => by simp [connected], fun cut => by simp [cut]⟩

/-- A mark is set with its time to live, or nothing where Redis is down. -/
theorem setRevocation_succeeds {key : RevocationKey} {ttlSeconds : Nat} {input : Input}
    {db : Accounts} {answer : Unit} {writes : List Write}
    (succeeds : (setRevocation key ttlSeconds).Succeeds input db answer writes) :
    writes = [.setRevocation key (input.now + ttlSeconds * 1000)] ∨
      db.redisConnected = false ∧ writes = [] := by
  simp only [setRevocation, effect_succeeds, Prod.mk.injEq] at succeeds
  obtain ⟨_, rfl⟩ := succeeds
  cases connected : db.redisConnected <;> cases input.redisFails <;> simp

/-- A message is published as it was made. -/
theorem publish_succeeds {event : Input → RevocationEventPayload} {input : Input} {db : Accounts}
    {answer : Unit} {writes : List Write} (succeeds : (publish event).Succeeds input db answer writes) :
    writes = [.publish (event input)] ∨ db.redisConnected = false ∧ writes = [] := by
  simp only [publish, effect_succeeds, Prod.mk.injEq] at succeeds
  obtain ⟨_, rfl⟩ := succeeds
  cases connected : db.redisConnected <;> cases input.redisFails <;> simp

end RedisService

end Armada.Auth
