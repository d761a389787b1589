import Armada.Auth.Entitlement
import Armada.Auth.Revocations

/-!
# Revocation is fail-secure

Whatever Redis answers, the database decides: once an operation that revokes sessions has
returned, no token or socket of a session that its update covered is ever accepted again,
and a check accepts only what the database entitles at that moment.
-/

namespace Armada.Auth

open Relational Concurrency

section Runs

variable [UuidSpelling] [TokenHash] [Argon2] [JsonWebToken]

/-- Among the steps of an operation that has returned there is its update, and a session
that was there at that step and is covered is refused by every check that starts after the
return. -/
def RevokedForGood (config : JwtConfig) : Prop :=
  ∀ {db : Accounts} {requests : List Request} {trace rest : List (Deed accounts)}
    {middle final : Pool accounts.whole Response},
    (Request.pool config db requests).Steps trace middle → middle.Steps rest final →
    ∀ {operation : Nat} {request : Request} {process : Proc accounts.whole Response}
      {response : Response}, requests[operation]? = some request →
    middle.procs[operation]? = some process → process.finished = some (.ok response) →
    (∃ row, request.Covers response row) →
    ∃ update ∈ trace, update.thread = operation ∧
      ∀ row, Accounts.session? update.before row.id = some row → request.Covers response row →
        ∀ {check : Nat} {checking : Request} {checked : Proc accounts.whole Response}
          {answer : Response}, requests[check]? = some checking → checking.IsCheck →
        (∀ deed ∈ trace, deed.thread ≠ check) → final.procs[check]? = some checked →
        checked.finished = some (.ok answer) → answer.boundSession.toUuid ≠ .ok row.id

/-- The three checks, when their reads are one step. -/
def ChecksEntitle (config : JwtConfig) : Prop :=
  (∀ {input db payload user}, Accepts (JwtStrategy.validate payload) input db user →
    ∃ record, Entitled db input.now payload.sub payload.role payload.deviceId payload.sessionId
      record) ∧
  (∀ {input db handshake data}, Accepts (WsJwtAuthGuard.validateHandshake config handshake) input db
      data → ∃ payload record,
    WsJwtAuthGuard.verifyToken config handshake input.now = .ok payload ∧
      Entitled db input.now payload.sub payload.role payload.deviceId payload.sessionId record) ∧
  ∀ {input db data}, Accepts (WsJwtAuthGuard.validateSocket data) input db () →
    ∃ record, Entitled db input.now data.userId (.string data.role) data.deviceId data.sessionId
      record

/-- What the three revocations have revoked is refused for good. -/
theorem revokedForGood (config : JwtConfig) : RevokedForGood config := by
  intro db requests trace rest middle final before later operation request process response found
    atOperation returned covering
  have started : (requests.map (Request.proc config))[operation]? = some (request.proc config) := by
    rw [List.getElem?_map, found, Option.map_some]
  obtain ⟨update, member, ends⟩ :=
    before.past_of_thread started (request.ends config _ _ _) atOperation returned covering
  obtain ⟨inTrace, sameThread⟩ := Pool.mem_deeds.mp member
  refine ⟨update, inTrace, sameThread, fun row present covered check checking checked answer foundCheck
    isCheck unstarted atCheck accepted named => ?_⟩
  -- the row is revoked when the operation returns, and so at every later step
  have revoked : Accounts.Revoked middle.state row.id := by
    obtain ⟨first, second, rfl⟩ := List.append_of_mem inTrace
    obtain ⟨_, _, linked⟩ := before.linked.split
    exact (extends_of_linked linked.2).1.revoked (ends row present covered)
  obtain ⟨userId, deed, inRest, session, device, admits⟩ :=
    looked_later before later foundCheck isCheck unstarted atCheck accepted
  have stillRevoked : Accounts.Revoked deed.before row.id := by
    obtain ⟨first, second, rfl⟩ := List.append_of_mem inRest
    obtain ⟨reached, linked, same, _⟩ := later.linked.split
    exact same ▸ (extends_of_linked linked).1.revoked revoked
  rw [admits.named] at named
  exact stillRevoked.not_active
    ⟨session, Except.ok.inj named ▸ admits.foundSession, admits.unrevoked⟩

omit [TokenHash] [Argon2] in
/-- Every check accepts only what the accounts entitle. -/
theorem checksEntitle (config : JwtConfig) : ChecksEntitle config := by
  refine ⟨fun accepts => ?_, fun accepts => ?_, fun accepts => ?_⟩
  · obtain ⟨_, _, _, _, record, entitled, _⟩ := JwtStrategy.accepts_validate.mp accepts
    exact ⟨record, entitled⟩
  · obtain ⟨payload, verified, accepts⟩ := WsJwtAuthGuard.accepts_validateHandshake.mp accepts
    obtain ⟨_, _, _, _, record, entitled, _⟩ := WsJwtAuthGuard.accepts_validatePayload.mp accepts
    exact ⟨payload, record, verified, entitled⟩
  · exact WsJwtAuthGuard.accepts_validateSocket accepts

/-- Revocation is fail-secure. -/
theorem revocation_fail_secure (config : JwtConfig) : RevokedForGood config ∧ ChecksEntitle config :=
  ⟨revokedForGood config, checksEntitle config⟩

end Runs

/-! ## A session that is logged out -/

namespace LoggedOut

local instance : UuidSpelling := unarySpelling

local instance : TokenHash := plainHash

local instance : Argon2 := plainArgon2

local instance : JsonWebToken := tableTokens []

/-- Another session of the driver who is logged in. -/
def other : Session := { LoggedIn.session with id := 6, refreshTokenHash := "other" }

def db : Accounts := { LoggedIn.db with sessions := LoggedIn.db.sessions.insert other }

/-- The first session is logged out, and tokens of both are checked. -/
def requests : List Request :=
  [.logout (spelled 3) (spelled 1), .validate LoggedIn.token.payload,
   .validate { LoggedIn.token with sessionId := 6 : AccessToken }.payload]

def turns (thread count : Nat) : List (Nat × (Nat → accounts.whole.Input)) :=
  List.replicate count (thread, fun _ _ => {})

def ended : List (Deed accounts) × Pool accounts.whole Response :=
  Pool.play (turns 0 4) (Request.pool {} db requests)

def checked : List (Deed accounts) × Pool accounts.whole Response :=
  Pool.play (turns 1 5 ++ turns 2 5) ended.2

/-- How a process has ended: with an answer bound to a session, with an error, or not at all. -/
def outcome (found : Option (Proc accounts.whole Response)) : Option (Option JsValue) :=
  found.bind fun process => process.finished.map fun
    | .ok answer => some answer.boundSession
    | .error _ => none

/-- The logout ends, the revoked token is refused, and the other is accepted. -/
theorem outcomes : outcome ended.2.procs[0]? = some (some .undefined) ∧
    outcome checked.2.procs[1]? = some none ∧
      outcome checked.2.procs[2]? = some (some (spelled 6)) := by
  decide +kernel

/-- What is known of a process that has answered. -/
theorem answered {found : Option (Proc accounts.whole Response)} {session : JsValue}
    (same : outcome found = some (some session)) : ∃ process answer, found = some process ∧
      process.finished = some (.ok answer) ∧ answer.boundSession = session := by
  cases found with
  | none => cases same
  | some process =>
      cases finished : process.finished with
      | none => simp [outcome, finished] at same
      | some result =>
          cases result with
          | error error => simp [outcome, finished] at same
          | ok answer => exact ⟨process, answer, rfl, finished, by simpa [outcome, finished] using same⟩

/-- The logout has an UPDATE that covers its session, and the token that is accepted afterwards
is of another one. -/
theorem revocation_fail_secure_of_logout : ∃ update ∈ ended.1, update.thread = 0 ∧
    ∀ row, Accounts.session? update.before row.id = some row →
      Request.Covers (.logout (spelled 3) (spelled 1)) .nothing row →
        (spelled 6).toUuid ≠ .ok row.id := by
  obtain ⟨process, response, atLogout, returned, _⟩ := answered outcomes.1
  obtain ⟨check, answer, atCheck, accepted, bound⟩ := answered outcomes.2.2
  have steps := Pool.play_steps (turns 0 4) (Request.pool {} db requests)
  have later := Pool.play_steps (turns 1 5 ++ turns 2 5) ended.2
  have own : ∀ deed ∈ ended.1, deed.thread ≠ 2 := by decide +kernel
  obtain ⟨update, member, thread, refuses⟩ := (revocation_fail_secure {}).1 steps later
    (show requests[0]? = some (.logout (spelled 3) (spelled 1)) from rfl) atLogout returned
    ⟨LoggedIn.session, rfl, by decide +kernel, fun _ => rfl⟩
  refine ⟨update, member, thread, fun row present covered => ?_⟩
  rw [← bound]
  exact refuses row present covered
    (show requests[2]? = some (.validate { LoggedIn.token with sessionId := 6 : AccessToken }.payload)
      from rfl) trivial own atCheck accepted

end LoggedOut

end Armada.Auth
