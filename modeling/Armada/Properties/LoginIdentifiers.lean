import Armada.Auth.Registration
import Armada.Auth.Requests

/-!
# Login identifiers

A login looks for its identifier among the usernames, the e-mail addresses and the phones of all
users together, but a registration compares each column with itself only. A phone is no e-mail
address, so what is left is a username that is the e-mail address or the phone of somebody else.
-/

namespace Armada.Auth

open Collections Concurrency Relational

/-- An identifier names at most one user, so a login does not depend on the order of the rows. -/
structure Identified (db : Accounts) : Prop where
  single : ∀ identifier, ∀ first ∈ db.users.rows, ∀ second ∈ db.users.rows,
    AuthService.names identifier first = true → AuthService.names identifier second = true →
      first = second
  lookUp : ∀ identifier (others : List User), others.Perm db.users.rows →
    others.find? (AuthService.names identifier) = db.users.rows.find? (AuthService.names identifier)

/-- The username of the request is no e-mail address and no phone of a user, and no user has the
e-mail address or the phone of the request for a username. -/
def Apart (db : Accounts) (dto : RegisterUserDto) : Prop :=
  ∀ other ∈ db.users.rows, other.email ≠ some dto.username ∧ other.phone ≠ dto.username ∧
    dto.email ≠ some other.username ∧ dto.phone ≠ other.username

/-- Phones and e-mail addresses are told apart by an `@`. -/
def Formatted (db : Accounts) : Prop :=
  ∀ row ∈ db.users.rows, '@' ∉ row.phone.toList ∧ ∀ email ∈ row.email, '@' ∈ email.toList

/-- Identification is that no name finds two rows. -/
theorem identified_iff {db : Accounts} :
    Identified db ↔ Unambiguous AuthService.names db.users.rows :=
  ⟨fun identified => identified.single, fun unambiguous =>
    ⟨unambiguous, unambiguous_iff_perm.mp unambiguous⟩⟩

/-- The names of a user are the username, the e-mail and the phone. -/
theorem names_iff {identifier : String} {row : User} :
    AuthService.names identifier row = true ↔
      row.username = identifier ∨ row.email = some identifier ∨ row.phone = identifier := by
  simp [AuthService.names, or_assoc]

/-! ## One registration -/

section Registration

variable [ValidatorPackage] {dto : RegisterUserDto} {turn : Concurrency.Turn accounts} {row : User}

/-- A valid registration has an e-mail with an at sign and a phone without one. -/
theorem formatted_of_isValid (valid : dto.isValid = true) :
    '@' ∉ dto.phone.toList ∧ ∀ email ∈ dto.email, '@' ∈ email.toList := by
  simp only [RegisterUserDto.isValid, Bool.and_eq_true] at valid
  obtain ⟨⟨⟨_, emails⟩, _, phone⟩, _⟩ := valid
  refine ⟨at_not_mem_of_matchesE164 phone, fun email given => ?_⟩
  rw [Option.mem_def.mp given] at emails
  exact ValidatorPackage.at_mem_of_isEmail email emails

omit [ValidatorPackage] in
/-- The users after a registration. -/
theorem Registers.mem_after (registers : Registers dto turn row) (other : User) :
    other ∈ turn.after.users.rows ↔ other ∈ turn.before.users.rows ∨ other = row := by
  rw [Concurrency.Turn.after, registers.writes]
  exact Table.mem_insert registers.fresh

omit [ValidatorPackage] in
/-- The new row was not there before. -/
theorem Registers.absent (registers : Registers dto turn row) :
    row ∉ turn.before.users.rows := fun member =>
  Table.find?_eq_none.mp registers.fresh row member rfl

/-- No identifier names the new user and another exactly if the request is apart from them. -/
theorem Registers.apart_iff (registers : Registers dto turn row) (valid : dto.isValid = true)
    (formatted : Formatted turn.before) :
    (∀ other ∈ turn.before.users.rows, ∀ identifier,
      AuthService.names identifier other = true → ¬AuthService.names identifier row = true) ↔
      Apart turn.before dto := by
  obtain ⟨noAt, hasAt⟩ := formatted_of_isValid valid
  rw [← registers.phone] at noAt
  rw [← registers.email] at hasAt
  simp only [Apart, ← registers.username, ← registers.email, ← registers.phone, names_iff]
  refine forall₂_congr fun other member => ?_
  obtain ⟨otherNoAt, otherHasAt⟩ := formatted other member
  obtain ⟨username, phone⟩ := registers.columns other member
  constructor
  · intro apart
    refine ⟨fun same => ?_, fun same => ?_, fun same => ?_, fun same => ?_⟩
    · exact apart row.username (.inr (.inl same)) (.inl rfl)
    · exact apart row.username (.inr (.inr same)) (.inl rfl)
    · exact apart other.username (.inl rfl) (.inr (.inl same))
    · exact apart other.username (.inl rfl) (.inr (.inr same))
  · rintro ⟨emailApart, phoneApart, ownEmail, ownPhone⟩ identifier (rfl | email | rfl)
    · rintro (same | same | same)
      · exact username same.symm
      · exact ownEmail same
      · exact ownPhone same
    · rintro (same | same | same)
      · exact emailApart (same ▸ email)
      · exact registers.emails identifier same other member email
      · exact noAt (same ▸ otherHasAt identifier email)
    · rintro (same | same | same)
      · exact phoneApart same.symm
      · exact otherNoAt (hasAt other.phone same)
      · exact phone same.symm

/-- A registration keeps identifiers unambiguous exactly if it is apart from the users before. -/
theorem Registers.identified_iff (registers : Registers dto turn row) (valid : dto.isValid = true)
    (formatted : Formatted turn.before) :
    Identified turn.after ↔ Identified turn.before ∧ Apart turn.before dto := by
  rw [Auth.identified_iff, Auth.identified_iff, ← registers.apart_iff valid formatted]
  exact unambiguous_insert registers.mem_after registers.absent

/-- A valid registration keeps the columns apart. -/
theorem Registers.formatted (registers : Registers dto turn row) (valid : dto.isValid = true)
    (formatted : Formatted turn.before) : Formatted turn.after := by
  intro other member
  rcases (registers.mem_after other).mp member with old | rfl
  · exact formatted other old
  · rw [registers.phone, registers.email]
    exact formatted_of_isValid valid

end Registration

/-! ## Runs -/

/-- Registrations that are about to run. -/
def registrations [Argon2] (dtos : List RegisterUserDto) (db : Accounts) :
    Pool accounts RegisteredUser :=
  ⟨db, dtos.map AuthService.registerUser⟩

section Runs

variable [ValidatorPackage] [Argon2] {dtos : List RegisterUserDto} {db : Accounts}
  {trace : List (Concurrency.Turn accounts)} {final : Pool accounts RegisteredUser}

/-- If the turn stores a user, its request is apart from the users before. -/
def TurnApart (dtos : List RegisterUserDto) (turn : Concurrency.Turn accounts) : Prop :=
  turn.writes ≠ [] → ∀ dto, dtos[turn.thread]? = some dto → Apart turn.before dto

omit [ValidatorPackage] in
/-- Each turn only reads, or stores the user of its request. -/
theorem registers_of_turns (turns : (registrations dtos db).Turns trace final)
    {first rest : List (Concurrency.Turn accounts)} {turn : Concurrency.Turn accounts}
    (split : trace = first ++ turn :: rest) :
    turn.writes = [] ∨ ∃ dto row, dtos[turn.thread]? = some dto ∧ Registers dto turn row := by
  have meets : ∀ (thread : Nat) process, (registrations dtos db).procs[thread]? = some process →
      process.Meets (.turns (fun _ => True) thread fun _ turn => turn.writes = [] ∨
        ∃ dto row, dtos[thread]? = some dto ∧ Registers dto turn row) (fun _ _ => True) [] := by
    intro thread process found
    obtain ⟨dto, asked, rfl⟩ := Option.map_eq_some_iff.mp (List.getElem?_map.symm.trans found)
    refine (registerUser_meets dto).allow fun _ turn allowed => ?_
    exact allowed.imp_right fun ⟨row, registers⟩ => ⟨dto, row, asked, registers⟩
  exact (turns.own (fun _ _ => trivial) meets).1 first turn rest split

/-- What one turn does to the identifiers, and that it keeps the formats. -/
theorem identified_after (valid : ∀ dto ∈ dtos, dto.isValid = true)
    (turns : (registrations dtos db).Turns trace final)
    {first rest : List (Concurrency.Turn accounts)} {turn : Concurrency.Turn accounts}
    (split : trace = first ++ turn :: rest)
    (formatted : Formatted turn.before) :
    Formatted turn.after ∧
      (Identified turn.before → (Identified turn.after ↔ TurnApart dtos turn)) := by
  rcases registers_of_turns turns split with idle | ⟨dto, row, asked, registers⟩
  · rw [Concurrency.Turn.after_of_idle idle]
    exact ⟨formatted, fun identified =>
      ⟨fun _ active => absurd idle active, fun _ => identified⟩⟩
  · have checked := valid dto (List.mem_of_getElem? asked)
    refine ⟨registers.formatted checked formatted, fun identified => ?_⟩
    rw [registers.identified_iff checked formatted]
    constructor
    · rintro ⟨_, apart⟩ _ other alsoAsked
      obtain rfl := Option.some.inj (asked.symm.trans alsoAsked)
      exact apart
    · intro apart
      exact ⟨identified, apart (by rw [registers.writes]; exact List.cons_ne_nil _ _) dto asked⟩

/-- Registrations on a store without users, in any order of their steps, leave every identifier
to at most one user exactly if each of them that stores a user is apart from those before. -/
theorem login_identifiers_iff (valid : ∀ dto ∈ dtos, dto.isValid = true)
    (noUsers : db.users.rows = []) (turns : (registrations dtos db).Turns trace final) :
    ((∀ turn ∈ trace, Identified turn.before ∧ Identified turn.after) ∧ Identified final.state) ↔
      ∀ turn ∈ trace, TurnApart dtos turn := by
  have formattedStart : Formatted db := fun row member => by
    rw [noUsers] at member
    cases member
  have identifiedStart : Identified db := by
    rw [identified_iff, noUsers]
    exact Unambiguous.nil
  obtain ⟨_, formatted⟩ := turns.along (fun _ db => Formatted db) formattedStart
    fun first turn rest split now => (identified_after valid turns split now).1
  constructor
  · rintro ⟨each, _⟩ turn member
    obtain ⟨first, rest, split⟩ := List.append_of_mem member
    obtain ⟨before, after⟩ := each turn member
    exact ((identified_after valid turns split (formatted first turn rest split)).2 before).mp after
  · intro apart
    have step : ∀ first turn rest, trace = first ++ turn :: rest → Identified turn.before →
        Identified turn.after := by
      intro first turn rest split before
      have now := formatted first turn rest split
      refine ((identified_after valid turns split now).2 before).mpr ?_
      exact apart turn (split ▸ List.mem_append_right _ List.mem_cons_self)
    obtain ⟨last, before⟩ := turns.along (fun _ db => Identified db) identifiedStart step
    refine ⟨fun turn member => ?_, last⟩
    obtain ⟨first, rest, split⟩ := List.append_of_mem member
    have now := before first turn rest split
    exact ⟨now, step first turn rest split now⟩

end Runs

/-! ### A username that is a phone -/

namespace PhoneAsUsername

local instance : Argon2 := plainArgon2

/-- A check of e-mail addresses that looks for an `@` only. -/
local instance : ValidatorPackage where
  length := String.length
  isEmail text := text.toList.contains '@'
  at_mem_of_isEmail _ isEmail := List.contains_iff_mem.mp isEmail

def budi : RegisterUserDto where
  username := "budi"
  phone := "+6281234567"
  password := "rahasia-1"

/-- The phone of the other user. -/
def namesake : RegisterUserDto where
  username := "+6281234567"
  phone := "+6289999999"
  password := "rahasia-2"

def db : Accounts where
  roles := Table.empty.insert { id := 4, code := "DRIVER" }

def supply (id : Uuid) (_ : Nat) : Input := { uuid := id, salt := "s" }

def schedule : List (Nat × (Nat → accounts.Input)) :=
  [(0, supply 1), (0, supply 1), (0, supply 1), (0, supply 1),
   (1, supply 2), (1, supply 2), (1, supply 2), (1, supply 2)]

def played : List (Concurrency.Turn accounts) × Pool accounts RegisteredUser :=
  (registrations [budi, namesake] db).perform schedule

/-- The registrations are a run. -/
theorem played_turns : (registrations [budi, namesake] db).Turns played.1 played.2 :=
  Pool.perform_turns schedule _

/-- Both are valid. -/
theorem valid : ∀ dto ∈ [budi, namesake], dto.isValid = true := by
  decide

/-- The equivalence at the two registrations. -/
theorem login_identifiers_iff_played :
    ((∀ turn ∈ played.1, Identified turn.before ∧ Identified turn.after) ∧
      Identified played.2.state) ↔ ∀ turn ∈ played.1, TurnApart [budi, namesake] turn :=
  login_identifiers_iff valid rfl played_turns

/-- The string `+6281234567` names both users. -/
theorem login_identifiers_ambiguous :
    ¬∀ (dtos : List RegisterUserDto) (db : Accounts) (trace : List (Concurrency.Turn accounts))
      (final : Pool accounts RegisteredUser), (∀ dto ∈ dtos, dto.isValid = true) →
        db.users.rows = [] → (registrations dtos db).Turns trace final →
          (∀ turn ∈ trace, Identified turn.before ∧ Identified turn.after) ∧
            Identified final.state := by
  intro always
  have identified := (always _ _ _ _ valid rfl played_turns).2
  have two : ∃ first ∈ played.2.state.users.rows, ∃ second ∈ played.2.state.users.rows,
      AuthService.names "+6281234567" first = true ∧
        AuthService.names "+6281234567" second = true ∧ first.id ≠ second.id := by
    decide +kernel
  obtain ⟨first, member, second, otherMember, named, otherNamed, different⟩ := two
  exact different (congrArg User.id
    (identified.single _ first member second otherMember named otherNamed))

end PhoneAsUsername

end Armada.Auth
