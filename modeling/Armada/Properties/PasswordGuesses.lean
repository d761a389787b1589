import Armada.Auth.LimitedCalls
import Mathlib.Algebra.Order.BigOperators.Group.Finset
import Mathlib.Data.Finset.Option

/-!
# How many passwords an account can be asked

A login is counted twice: under the address it comes from and under the identifier that it
submits. An account is found by its username, its email and its phone, so each of these has a
counter of its own. In a sequence of calls within 300 seconds, none of which has the right
password, exactly those calls get to `verifyPassword` that are among the first thirty of
their address and among the first five of their identifier, and find an active user.
-/

namespace Armada.Auth

open Collections Concurrency Relational

/-! ## The keys -/

/-- Different identifiers have different keys. -/
theorem accountKey_injective : Function.Injective accountKey :=
  fun _ _ => (String.append_right_inj _).mp

/-- No address key is an account key. -/
theorem addressKey_ne (clientIp username : String) :
    addressKey clientIp ≠ accountKey username := by
  intro same
  have address : (addressKey clientIp).toList = "throttle:login:ip:".toList ++ clientIp.toList :=
    String.toList_append
  have account : (accountKey username).toList =
      "throttle:login:user:".toList ++ username.toList := String.toList_append
  have characters := (congrArg String.toList same).symm.trans address
  rw [account] at characters
  have start := congrArg (List.take 16) characters
  rw [List.take_append_of_le_length (by decide), List.take_append_of_le_length (by decide)] at start
  revert start
  decide

/-! ## A sequence of calls -/

namespace LoginCall

/-- The counters after some events of both kinds. -/
structure Progress (start : Counters String) (addresses identifiers : List (Event String))
    (counters : Counters String) : Prop where
  addresses : ∀ clientIp,
    counters (addressKey clientIp) = start.after addresses (addressKey clientIp)
  identifiers : ∀ username,
    counters (accountKey username) = start.after identifiers (accountKey username)

section Progress

variable {start counters : Counters String} {addresses identifiers : List (Event String)}

/-- The counter of the address progresses with a call. -/
theorem Progress.address (progress : Progress start addresses identifiers counters)
    (call : LoginCall) : Progress start (addresses ++ [call.addressEvent]) identifiers
      (counters.hit call.addressEvent) where
  addresses clientIp := by
    rw [Counters.after_concat]
    exact Counters.hit_congr (progress.addresses clientIp) _
  identifiers username := by
    rw [Counters.hit_of_ne call.addressEvent (addressKey_ne call.clientIp username).symm]
    exact progress.identifiers username

/-- The counter of the identifier progresses with it. -/
theorem Progress.account (progress : Progress start addresses identifiers counters)
    (call : LoginCall) : Progress start addresses (identifiers ++ [call.accountEvent])
      (counters.hit call.accountEvent) where
  addresses clientIp := by
    rw [Counters.hit_of_ne call.accountEvent (addressKey_ne clientIp call.dto.username)]
    exact progress.addresses clientIp
  identifiers username := by
    rw [Counters.after_concat]
    exact Counters.hit_congr (progress.identifiers username) _

/-- The place of a call among those of its address. -/
def addressPlace (start : Counters String) (addresses : List (Event String)) (call : LoginCall) :
    Nat :=
  Counters.rank (start call.addressEvent.key) (Counters.times call.addressEvent.key addresses)
    call.addressEvent.now

/-- The place of a call among those that submit the same identifier. -/
def accountPlace (start : Counters String) (identifiers : List (Event String)) (call : LoginCall) :
    Nat :=
  Counters.rank (start call.accountEvent.key) (Counters.times call.accountEvent.key identifiers)
    call.accountEvent.now

/-- What the rate limits do, as places. -/
theorem Progress.throttle {state : Limited} {call : LoginCall} {bound : Nat}
    (progress : Progress start addresses identifiers state.counters) (served : call.Served)
    (before : Counters.Within bound addresses) (early : call.addressEvent.now < bound)
    (earlier : Counters.Within bound identifiers) (soon : call.accountEvent.now < bound) :
    call.throttle state =
      if call.addressPlace start addresses ≤ 30 then
        (if call.accountPlace start identifiers ≤ 5 then .ok () else .error tooManyForAccount,
          { state with
            counters := (state.counters.hit call.addressEvent).hit call.accountEvent })
      else (.error tooManyFromAddress,
        { state with counters := state.counters.hit call.addressEvent }) := by
  have address : state.counters.count call.addressEvent.now (addressKey call.clientIp) =
      call.addressPlace start addresses :=
    (Counters.count_congr (progress.addresses call.clientIp) _).trans
      (Counters.count_after before early _)
  have account : (state.counters.hit call.addressEvent).count call.accountEvent.now
      (accountKey call.dto.username) = call.accountPlace start identifiers :=
    (Counters.count_congr ((progress.address call).identifiers call.dto.username) _).trans
      (Counters.count_after earlier soon _)
  rw [call.throttle_eq served, address]
  dsimp only
  rw [account]

end Progress

variable [UuidSpelling] [Argon2] [TokenHash]

/-- Both rate limits are counted within 300 seconds. -/
def Timely (opened : Instant) (call : LoginCall) : Prop :=
  ∀ step, (opened ≤ (call.environment.address step 0).now ∧
      (call.environment.address step 0).now < opened + 300000) ∧
    opened ≤ (call.environment.account step 0).now ∧
      (call.environment.account step 0).now < opened + 300000

/-- Calls within 300 seconds, with Redis available and none with the right password. -/
structure Guesses (opened : Instant) (db : Accounts) (calls : List LoginCall) : Prop where
  served : ∀ call ∈ calls, call.Served
  timely : ∀ call ∈ calls, call.Timely opened
  wrong : ∀ call ∈ calls, call.Wrong db

omit [UuidSpelling] [Argon2] [TokenHash] in
/-- A timely call's address window is open. -/
theorem Timely.address {opened : Instant} {call : LoginCall} (timely : call.Timely opened) :
    call.addressEvent.now < opened + 300000 ∧ opened + 300000 ≤ call.addressEvent.closes :=
  ⟨(timely 1).1.2, Nat.add_le_add_right (timely 2).1.1 300000⟩

omit [UuidSpelling] [Argon2] [TokenHash] in
/-- So is its identifier's window. -/
theorem Timely.account {opened : Instant} {call : LoginCall} (timely : call.Timely opened) :
    call.accountEvent.now < opened + 300000 ∧ opened + 300000 ≤ call.accountEvent.closes :=
  ⟨(timely 1).2.2, Nat.add_le_add_right (timely 2).2.1 300000⟩

/-- The calls whose address is let through, after earlier ones. -/
def fromAddresses (start : Counters String) (earlier : List (Event String))
    (calls : List LoginCall) : List LoginCall :=
  Counters.letThrough 30 start addressEvent earlier calls

/-- The calls whose identifier is let through, after earlier ones. -/
def forIdentifiers (start : Counters String) (earlier : List (Event String))
    (calls : List LoginCall) : List LoginCall :=
  Counters.letThrough 5 start accountEvent earlier calls

omit [UuidSpelling] [Argon2] [TokenHash] in
/-- Whether the first call gets past the address limit. -/
theorem fromAddresses_cons (start : Counters String) (earlier : List (Event String))
    (call : LoginCall) (calls : List LoginCall) :
    fromAddresses start earlier (call :: calls) =
      if call.addressPlace start earlier ≤ 30 then
        call :: fromAddresses start (earlier ++ [call.addressEvent]) calls
      else fromAddresses start (earlier ++ [call.addressEvent]) calls := rfl

omit [UuidSpelling] [Argon2] [TokenHash] in
/-- Whether the first call gets past the identifier limit. -/
theorem forIdentifiers_cons (start : Counters String) (earlier : List (Event String))
    (call : LoginCall) (calls : List LoginCall) :
    forIdentifiers start earlier (call :: calls) =
      if call.accountPlace start earlier ≤ 5 then
        call :: forIdentifiers start (earlier ++ [call.accountEvent]) calls
      else forIdentifiers start (earlier ++ [call.accountEvent]) calls := rfl

/-- In a window of guesses a password is reached by the calls that both rate limits let
through and that find the account. -/
theorem reaching_eq (config : JwtConfig) (account : Uuid) {opened : Instant} {db : Accounts}
    {start : Counters String} (calls : List LoginCall) {addresses identifiers : List (Event String)}
    {state : Limited} (guesses : Guesses opened db calls) (same : SameAccounts db state.db)
    (progress : Progress start addresses identifiers state.counters)
    (before : Counters.Within (opened + 300000) addresses)
    (earlier : Counters.Within (opened + 300000) identifiers) :
    reaching config account calls state =
      (forIdentifiers start identifiers (fromAddresses start addresses calls)).filter
        (finds account db) := by
  induction calls generalizing addresses identifiers state with
  | nil => rfl
  | cons call calls inductionHypothesis =>
      obtain ⟨served, allServed⟩ := List.forall_mem_cons.mp guesses.served
      obtain ⟨timely, allTimely⟩ := List.forall_mem_cons.mp guesses.timely
      obtain ⟨wrong, allWrong⟩ := List.forall_mem_cons.mp guesses.wrong
      obtain ⟨left, accounts⟩ := after_leaves config served (wrong.congr same)
      have others := same.trans accounts
      have rest : Guesses opened db calls := ⟨allServed, allTimely, allWrong⟩
      have onward : Counters.Within (opened + 300000) (addresses ++ [call.addressEvent]) :=
        List.forall_mem_append.mpr ⟨before, List.forall_mem_singleton.mpr timely.address⟩
      have further : Counters.Within (opened + 300000) (identifiers ++ [call.accountEvent]) :=
        List.forall_mem_append.mpr ⟨earlier, List.forall_mem_singleton.mpr timely.account⟩
      have reached := reaches_iff served account state
      rw [progress.throttle served before timely.address.1 earlier timely.account.1] at left reached
      rw [finds_congr same] at reached
      rw [reaching, fromAddresses_cons]
      by_cases few : call.addressPlace start addresses ≤ 30
      · rw [if_pos few] at left reached
        have next := inductionHypothesis rest others
          (left ▸ (progress.address call).account call) onward further
        rw [if_pos few, forIdentifiers_cons]
        by_cases fewer : call.accountPlace start identifiers ≤ 5
        · rw [if_pos fewer] at reached
          simp only [reached, true_and, if_pos fewer, List.filter_cons, next]
        · rw [if_neg fewer] at reached
          simp only [reached, reduceCtorEq, false_and, if_false, if_neg fewer, next]
      · rw [if_neg few] at left reached
        have next := inductionHypothesis rest others (left ▸ progress.address call) onward earlier
        simp only [reached, reduceCtorEq, false_and, if_false, if_neg few, next]

end LoginCall

/-! ## The bound -/

/-- What a login can submit for an account. -/
def User.identifiers (account : User) : Finset String :=
  {account.username, account.phone} ∪ account.email.toFinset

/-- The identifiers of an account are its names. -/
theorem User.mem_identifiers {account : User} {identifier : String} :
    identifier ∈ account.identifiers ↔ AuthService.names identifier account = true := by
  simp only [identifiers, AuthService.names, Finset.mem_union, Finset.mem_insert,
    Finset.mem_singleton, Option.mem_toFinset, Option.mem_def, Bool.or_eq_true, decide_eq_true_eq]
  rw [or_right_comm, eq_comm, eq_comm (b := account.phone)]

namespace LoginCall

variable {calls : List LoginCall} {state : Limited}

/-- The calls with an identifier that come within the limit of their addresses. -/
def tries (counters : Counters String) (calls : List LoginCall) (identifier : String) :
    List LoginCall :=
  (fromAddresses counters [] calls).filter fun call => call.dto.username = identifier

/-- Of these, the calls that come within the limit of the identifier: first what a counter
leaves that is there already, and then five. -/
def admitted (counters : Counters String) (calls : List LoginCall) (identifier : String) :
    List LoginCall :=
  Counters.firstOf 5 accountEvent (counters (accountKey identifier))
    (tries counters calls identifier)

/-- Of one identifier's calls, those get past the limits that are admitted. -/
theorem filter_forIdentifiers (counters : Counters String) (calls : List LoginCall)
    (identifier : String) :
    (forIdentifiers counters [] (fromAddresses counters [] calls)).filter
      (fun call => call.dto.username = identifier) = admitted counters calls identifier := by
  have same (call : LoginCall) : (call.dto.username = identifier) =
      (call.accountEvent.key = accountKey identifier) :=
    propext accountKey_injective.eq_iff.symm
  rw [admitted, tries]
  simp only [same]
  exact Counters.filter_letThrough_nil _ _

/-- A user that a call finds is submitted by one of its identifiers. -/
theorem mem_identifiers_of_finds {account : User} {db : Accounts} {call : LoginCall}
    (known : account ∈ db.users.rows) (found : call.finds account.id db = true) :
    call.dto.username ∈ account.identifiers := by
  simp only [finds, Bool.and_eq_true, Option.any_eq_true, decide_eq_true_eq] at found
  obtain ⟨_, user, selected, ⟨same, _⟩, _⟩ := found
  have one : user = account :=
    Table.eq_of_key (List.mem_of_find?_eq_some selected) known same
  exact User.mem_identifiers.mpr (one ▸ List.find?_some selected)

variable [UuidSpelling] [Argon2] [TokenHash]

/-- How many guesses reach the password of an account, identifier by identifier. -/
theorem length_reaching (config : JwtConfig) {account : User} {opened : Instant}
    (known : account ∈ state.db.users.rows) (guesses : Guesses opened state.db calls) :
    (reaching config account.id calls state).length = ∑ identifier ∈ account.identifiers,
      (admitted state.counters calls identifier).countP (finds account.id state.db) := by
  have start : Progress state.counters [] [] state.counters := ⟨fun _ => rfl, fun _ => rfl⟩
  rw [reaching_eq config account.id calls guesses ⟨rfl, rfl, rfl⟩ start
    (List.forall_mem_nil _) (List.forall_mem_nil _)]
  rw [length_eq_sum_filter (fun call => call.dto.username) fun call member =>
    mem_identifiers_of_finds known (List.of_mem_filter member)]
  refine Finset.sum_congr rfl fun identifier _ => ?_
  rw [← filter_forIdentifiers, List.countP_eq_length_filter, List.filter_comm]

/-- At most five guesses within 300 seconds reach the password of an account if and only if
no more come within the limits of its identifiers together. -/
theorem reaching_le_iff (config : JwtConfig) {account : User} {opened : Instant}
    (known : account ∈ state.db.users.rows) (guesses : Guesses opened state.db calls) :
    (reaching config account.id calls state).length ≤ 5 ↔
      ∑ identifier ∈ account.identifiers,
        (admitted state.counters calls identifier).countP (finds account.id state.db) ≤ 5 := by
  rw [length_reaching config known guesses]

end LoginCall

namespace UsernameAndPhone

local instance : UuidSpelling := unarySpelling

local instance : TokenHash := plainHash

local instance : Argon2 := plainArgon2

def driver : User where
  id := 1
  username := "d"
  phone := "0"
  passwordHash := "$argon2id$v=19$m=65536,t=3,p=4$s$p"
  roleId := 4
  status := .active

def state : Limited where
  db :=
    { users := Table.empty.insert driver
      roles := Table.empty.insert { id := 4, code := "DRIVER" } }
  counters _ := none

def guess (identifier : String) : LoginCall where
  dto := { username := identifier, password := "x" }
  clientIp := ""
  userAgent := ""
  environment :=
    { address _ _ := {}, account _ _ := {}, lookUp _ _ _ := {}, password _ _ _ := {},
      reset _ _ := {}, opening _ _ _ := {} }

/-- Five guesses with the username and one with the phone. -/
def calls : List LoginCall :=
  [guess "d", guess "d", guess "d", guess "d", guess "d", guess "0"]

/-- The example's driver is registered. -/
theorem listed : driver ∈ state.db.users.rows := by
  decide

/-- Its calls are guesses within the window. -/
theorem guesses : LoginCall.Guesses 0 state.db calls := by
  have each (call : LoginCall) (member : call ∈ calls) : ∃ identifier, call = guess identifier := by
    simp only [calls, List.mem_cons, List.not_mem_nil, or_false] at member
    rcases member with rfl | rfl | rfl | rfl | rfl | rfl <;> exact ⟨_, rfl⟩
  constructor
  · intro call member
    obtain ⟨identifier, rfl⟩ := each call member
    exact ⟨fun _ _ => ⟨rfl, rfl⟩, fun _ _ => ⟨rfl, rfl⟩⟩
  · intro call member
    obtain ⟨identifier, rfl⟩ := each call member
    have soon : (0 : Instant) < 0 + 300000 := by decide
    exact fun _ => ⟨⟨Nat.le_refl 0, soon⟩, Nat.le_refl 0, soon⟩
  · intro call member user selected
    obtain ⟨identifier, rfl⟩ := each call member
    have only : user = driver := List.mem_singleton.mp (List.mem_of_find?_eq_some selected)
    rw [only]
    change verifyPassword driver.passwordHash "x" = false
    decide

/-- The equivalence at six guesses for two identifiers. -/
theorem reaching_le_iff_here :
    (LoginCall.reaching {} driver.id calls state).length ≤ 5 ↔
      ∑ identifier ∈ driver.identifiers,
        (LoginCall.admitted state.counters calls identifier).countP
          (LoginCall.finds driver.id state.db) ≤ 5 :=
  LoginCall.reaching_le_iff {} listed guesses

/-- With two identifiers more guesses reach the password. -/
theorem reaching_le_violated :
    ¬∀ (config : JwtConfig) (account : User) (calls : List LoginCall) (state : Limited)
      (opened : Instant), account ∈ state.db.users.rows →
        LoginCall.Guesses opened state.db calls →
          (∀ call ∈ calls, call.dto.username ∈ account.identifiers) →
            (LoginCall.reaching config account.id calls state).length ≤ 5 := by
  intro always
  have bounded := always {} driver calls state 0 listed guesses (by decide)
  revert bounded
  decide +kernel

end UsernameAndPhone

end Armada.Auth
