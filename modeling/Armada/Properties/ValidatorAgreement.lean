import Armada.Auth.Entitlement

/-!
# The two validators of access tokens

An HTTP request is authenticated with the current signing key alone; a handshake chooses
the key by the header of the token, and wants the claim `exp`. Apart from that both ask the
same of a token, and both make the same of it.
-/

namespace Armada.Auth

open Relational Concurrency

section Validators

variable [UuidSpelling] [JsonWebToken]

/-- What both make of a token. -/
structure SameIdentity (user : AuthUser) (data : AuthenticatedSocketData) : Prop where
  userId : spelled user.id = data.userId
  role : user.role = data.role
  organizationId : user.organizationId = data.organizationId
  permissions : user.permissions = data.permissions
  deviceId : user.deviceId = data.deviceId
  sessionId : user.sessionId = data.sessionId
  driverId : user.driverId = data.driverId

/-- The validators agree on a token. -/
def Agree (config : JwtConfig) (input : Input) (db : Accounts) (token : String)
    (handshake : Handshake) : Prop :=
  ((∃ user, Accepts (JwtStrategy.authenticate config token) input db user) ↔
    ∃ data, Accepts (WsJwtAuthGuard.validateHandshake config handshake) input db data) ∧
  ∀ user data, Accepts (JwtStrategy.authenticate config token) input db user →
    Accepts (WsJwtAuthGuard.validateHandshake config handshake) input db data → SameIdentity user data

/-- The token verifies with a key. -/
def Verifies (config : JwtConfig) (token secret : String) (now : Instant) (payload : JwtPayload) :
    Prop :=
  JsonWebToken.verify token secret config.issuer config.audience now = .ok payload

/-- What both validators ask of the claims. -/
def Acceptable (input : Input) (db : Accounts) (payload : JwtPayload) : Prop :=
  input.fault = none ∧ payload.type = .string "ACCESS_TOKEN" ∧
    redisAnswer db input (.session payload.sessionId) ≠ some true ∧
    redisAnswer db input (.user payload.sub) ≠ some true ∧
    ∃ record, Entitled db input.now payload.sub payload.role payload.deviceId payload.sessionId record

/-- Claims that are acceptable verify with the current key exactly if they verify with the
key that the header selects, and have a finite expiry. -/
def KeysAgree (config : JwtConfig) (input : Input) (db : Accounts) (token : String) : Prop :=
  token ≠ "" → ∀ payload, Acceptable input db payload →
    (Verifies config token config.secretOrKey input.now payload ↔
      (∃ header, JsonWebToken.decode token = some header ∧
        Verifies config token (WsJwtAuthGuard.secretFor config header) input.now payload) ∧
      (WsJwtAuthGuard.finite payload.exp).isSome = true)

variable {config : JwtConfig} {input : Input} {db : Accounts} {token : String} {handshake : Handshake}

omit [UuidSpelling] in
/-- When the socket's check accepts the token. -/
theorem verifyToken_ok (carries : WsJwtAuthGuard.extractToken handshake = some token)
    {payload : JwtPayload} :
    WsJwtAuthGuard.verifyToken config handshake input.now = .ok payload ↔ token ≠ "" ∧
      ∃ header, JsonWebToken.decode token = some header ∧
        Verifies config token (WsJwtAuthGuard.secretFor config header) input.now payload := by
  simp only [WsJwtAuthGuard.verifyToken, carries]
  by_cases empty : token = ""
  · simp [empty]
  rw [if_neg empty]
  cases decoded : JsonWebToken.decode token with
  | none => simp
  | some header =>
      simp only [ne_eq, empty, not_false_iff, true_and, Option.some.injEq, exists_eq_left']
      constructor
      · intro verified
        split at verified
        · cases verified
        split at verified
        · cases verified
        · rename_i verifies
          exact Except.ok.inj verified ▸ verifies
      · intro verifies
        obtain ⟨same, decodedToo, alg⟩ := JsonWebToken.alg_of_verify verifies
        rw [decoded] at decodedToo
        cases decodedToo
        rw [if_neg (not_not_intro alg), show JsonWebToken.verify token _ _ _ _ = _ from verifies]

/-- What an HTTP request is accepted with. -/
theorem accepts_http {user : AuthUser} :
    Accepts (JwtStrategy.authenticate config token) input db user ↔ token ≠ "" ∧ ∃ payload,
      Verifies config token config.secretOrKey input.now payload ∧ Acceptable input db payload ∧
        ∃ record, Entitled db input.now payload.sub payload.role payload.deviceId payload.sessionId
          record ∧ user = JwtStrategy.userOf payload record := by
  rw [JwtStrategy.accepts_authenticate]
  simp only [JwtStrategy.accepts_validate, Acceptable]
  constructor
  · rintro ⟨named, payload, verified, fault, type, fresh, valid, record, entitled, rfl⟩
    exact ⟨named, payload, verified, ⟨fault, type, fresh, valid, record, entitled⟩, record, entitled, rfl⟩
  · rintro ⟨named, payload, verified, ⟨fault, type, fresh, valid, _⟩, record, entitled, rfl⟩
    exact ⟨named, payload, verified, fault, type, fresh, valid, record, entitled, rfl⟩

/-- What a handshake is accepted with. -/
theorem accepts_socket (carries : WsJwtAuthGuard.extractToken handshake = some token)
    {data : AuthenticatedSocketData} :
    Accepts (WsJwtAuthGuard.validateHandshake config handshake) input db data ↔ token ≠ "" ∧
      ∃ payload, (∃ header, JsonWebToken.decode token = some header ∧
        Verifies config token (WsJwtAuthGuard.secretFor config header) input.now payload) ∧
        Acceptable input db payload ∧ ∃ record, Entitled db input.now payload.sub payload.role
          payload.deviceId payload.sessionId record ∧ ∃ accessTokenExp,
            WsJwtAuthGuard.finite payload.exp = some accessTokenExp ∧
            data = WsJwtAuthGuard.dataOf payload record accessTokenExp input.now := by
  rw [WsJwtAuthGuard.accepts_validateHandshake]
  simp only [WsJwtAuthGuard.accepts_validatePayload, verifyToken_ok carries, Acceptable]
  constructor
  · rintro ⟨payload, ⟨named, verified⟩, fault, type, fresh, valid, record, entitled, rest⟩
    exact ⟨named, payload, verified, ⟨fault, type, fresh, valid, record, entitled⟩, record, entitled, rest⟩
  · rintro ⟨named, payload, verified, ⟨fault, type, fresh, valid, _⟩, record, entitled, rest⟩
    exact ⟨payload, ⟨named, verified⟩, fault, type, fresh, valid, record, entitled, rest⟩

omit [JsonWebToken] in
/-- A token is of one user. -/
theorem Entitled.unique {now later : Instant} {userId role deviceId sessionId : JsValue}
    {first second : Prisma.UserRecord} (left : Entitled db now userId role deviceId sessionId first)
    (right : Entitled db later userId role deviceId sessionId second) : first = second := by
  obtain ⟨_, _, admits, sameUser, _⟩ := left.admitted
  obtain ⟨_, _, admitsToo, sameUserToo, _⟩ := right.admitted
  have sameId : first.user.id = second.user.id := by
    rw [← sameUser, ← sameUserToo]
    exact spelled_injective (admits.sameUser.trans admitsToo.sameUser.symm)
  have sameRow : first.user = second.user :=
    Option.some.inj (left.foundUser.symm.trans (sameId ▸ right.foundUser))
  obtain ⟨role, driver⟩ := left.recorded
  obtain ⟨roleToo, driverToo⟩ := right.recorded
  cases first
  cases second
  dsimp only at sameRow role driver roleToo driverToo
  subst sameRow
  rw [Option.some.inj (role.symm.trans roleToo), ← driver, ← driverToo]

omit [JsonWebToken] in
/-- Both build one identity. -/
theorem sameIdentity (payload : JwtPayload) (record : Prisma.UserRecord) (accessTokenExp : Rat)
    (now : Instant) : SameIdentity (JwtStrategy.userOf payload record)
      (WsJwtAuthGuard.dataOf payload record accessTokenExp now) :=
  ⟨rfl, rfl, rfl, rfl, rfl, rfl, rfl⟩

/-- What a request and a handshake with one token are accepted with is the same, whenever
they come. -/
theorem sameIdentity_of_accepts {connect : Input}
    (carries : WsJwtAuthGuard.extractToken handshake = some token) {user : AuthUser}
    {data : AuthenticatedSocketData}
    (http : Accepts (JwtStrategy.authenticate config token) input db user)
    (socket : Accepts (WsJwtAuthGuard.validateHandshake config handshake) connect db data) :
    SameIdentity user data := by
  obtain ⟨_, payload, verified, _, record, entitled, rfl⟩ := accepts_http.mp http
  obtain ⟨_, payload', ⟨header, _, verifiedToo⟩, _, record', entitledToo, exp, _, rfl⟩ :=
    (accepts_socket carries).mp socket
  obtain rfl := JsonWebToken.payload_of_verify verified verifiedToo
  obtain rfl := entitled.unique entitledToo
  exact sameIdentity payload' record exp connect.now

/-- The validators agree on a token exactly if its keys agree. -/
theorem agree_iff_keysAgree (carries : WsJwtAuthGuard.extractToken handshake = some token) :
    Agree config input db token handshake ↔ KeysAgree config input db token := by
  rw [Agree, and_iff_left fun user data => sameIdentity_of_accepts carries]
  simp only [accepts_http, accepts_socket carries]
  constructor
  · intro same named payload acceptable
    obtain ⟨record, entitled⟩ := acceptable.2.2.2.2
    constructor
    · intro verified
      obtain ⟨data, _, payload', ⟨header, decoded, verifiedToo⟩, _, _, _, exp, isFinite, _⟩ :=
        same.mp ⟨_, named, payload, verified, acceptable, record, entitled, rfl⟩
      obtain rfl := JsonWebToken.payload_of_verify verified verifiedToo
      exact ⟨⟨header, decoded, verifiedToo⟩, by rw [isFinite]; rfl⟩
    · rintro ⟨⟨header, decoded, verified⟩, isFinite⟩
      obtain ⟨exp, isFinite⟩ := Option.isSome_iff_exists.mp isFinite
      obtain ⟨user, _, payload', verifiedToo, _⟩ := same.mpr ⟨_, named, payload,
        ⟨header, decoded, verified⟩, acceptable, record, entitled, exp, isFinite, rfl⟩
      exact JsonWebToken.payload_of_verify verified verifiedToo ▸ verifiedToo
  · intro keys
    constructor
    · rintro ⟨user, named, payload, verified, acceptable, record, entitled, rfl⟩
      obtain ⟨verifiedToo, isFinite⟩ := (keys named payload acceptable).mp verified
      obtain ⟨exp, isFinite⟩ := Option.isSome_iff_exists.mp isFinite
      exact ⟨_, named, payload, verifiedToo, acceptable, record, entitled, exp, isFinite, rfl⟩
    · rintro ⟨data, named, payload, verified, acceptable, record, entitled, exp, isFinite, rfl⟩
      have finite : (WsJwtAuthGuard.finite payload.exp).isSome = true := by rw [isFinite]; rfl
      exact ⟨_, named, payload, (keys named payload acceptable).mpr ⟨verified, finite⟩, acceptable,
        record, entitled, rfl⟩

end Validators

/-! ## A token that was signed with the previous key -/

namespace PreviousKey

local instance : UuidSpelling := unarySpelling

/-- The settings after the key has been rotated. -/
def config : JwtConfig where
  previousSecretOrKey := some "old"
  previousKeyId := some "2026-q2"

local instance : JsonWebToken := tableTokens
  [{ text := "t", header := { alg := .string "HS256", kid := .string "2026-q2" }, secret := "old",
     issuer := "dms-api", audience := "dms-clients", payload := LoggedIn.token.payload }]

def handshake : Handshake where
  authToken := .string "Bearer t"

/-- The handshake carries the token. -/
theorem carries : WsJwtAuthGuard.extractToken handshake = some "t" := by decide

/-- For a token of the previous key the condition fails. -/
theorem agree_iff_keysAgree_of_previous :
    Agree config {} LoggedIn.db "t" handshake ↔ KeysAgree config {} LoggedIn.db "t" :=
  agree_iff_keysAgree carries

/-- The handshake is accepted. -/
def data : AuthenticatedSocketData where
  userId := .string "11"
  username := "d"
  role := "DRIVER"
  organizationId := none
  permissions := []
  deviceId := .string "111"
  sessionId := .string "1111"
  accessTokenExp := 900
  driverId := none
  connectedAt := 0

/-- The socket accepts it. -/
theorem socket_accepts :
    Accepts (WsJwtAuthGuard.validateHandshake config handshake) {} LoggedIn.db data := by
  decide

/-- A token of the previous key opens a socket, and no request is accepted with it. -/
theorem validators_disagree :
    ¬∀ (config : JwtConfig) (input : Input) (db : Accounts) (token : String) (handshake : Handshake),
      WsJwtAuthGuard.extractToken handshake = some token →
        Agree config input db token handshake := by
  intro always
  obtain ⟨user, accepted⟩ :=
    (always config {} LoggedIn.db "t" handshake carries).1.mpr ⟨data, socket_accepts⟩
  rw [JwtStrategy.accepts_authenticate] at accepted
  obtain ⟨_, payload, verified, _⟩ := accepted
  cases verified

end PreviousKey

end Armada.Auth
