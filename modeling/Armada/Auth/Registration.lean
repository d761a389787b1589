import Armada.Auth.LimitedLogin
import Armada.Collections.Naming
import Armada.Concurrency.Turns

/-!
# Registration

`RegisterUserDto` of `src/modules/auth/dto/register-user.dto.ts` with its validators, and what
`registerUser` does with one that has passed them.
-/

namespace Armada.Auth

open Collections Concurrency Relational

/-! ## The validators -/

/-- Functions of the package `validator`: the length that it counts, and `isEmail`. -/
class ValidatorPackage where
  length : String → Nat
  isEmail : String → Bool
  at_mem_of_isEmail : ∀ text, isEmail text = true → '@' ∈ text.toList

/-- `/^\+?[1-9]\d{1,14}$/`. -/
def matchesE164 (text : String) : Bool :=
  let digits := match text.toList with
    | '+' :: rest => rest
    | chars => chars
  match digits with
  | [] => false
  | first :: rest =>
      first.isDigit && first ≠ '0' && rest.all Char.isDigit && 1 ≤ rest.length && rest.length ≤ 14

section

variable [ValidatorPackage]

/-- `@IsNotEmpty() @MinLength(min) @MaxLength(max)`. -/
def hasLength (min max : Nat) (text : String) : Bool :=
  text ≠ "" && min ≤ ValidatorPackage.length text && ValidatorPackage.length text ≤ max

/-- The checks of the decorators. -/
def RegisterUserDto.isValid (dto : RegisterUserDto) : Bool :=
  hasLength 3 50 dto.username && dto.email.all ValidatorPackage.isEmail &&
    (dto.phone ≠ "" && matchesE164 dto.phone) && hasLength 8 100 dto.password

end

/-- A phone number has no @ in it. -/
theorem at_not_mem_of_matchesE164 {text : String} (matching : matchesE164 text = true) :
    '@' ∉ text.toList := by
  have digits : ∀ {first : Char} {rest : List Char}, first.isDigit = true →
      rest.all Char.isDigit = true → '@' ∉ first :: rest := by
    intro first rest firstDigit restDigits inside
    rcases List.mem_cons.mp inside with rfl | inRest
    · exact absurd firstDigit (by decide)
    · exact absurd (List.all_eq_true.mp restDigits '@' inRest) (by decide)
  rw [matchesE164] at matching
  split at matching
  · cases matching
  · rename_i first rest same
    simp only [Bool.and_eq_true] at matching
    have apart := digits matching.1.1.1.1 matching.1.1.2
    split at same
    · rename_i plus
      rw [plus, same]
      simpa using apart
    · rwa [same]

/-! ## The calls -/

/-- A new user shares no username, email or phone number with another. -/
theorem Prisma.User.create_unique {row : Input → User} {input : Input} {db : Accounts}
    {created : User} {writes : List Write}
    (succeeds : (Prisma.User.create row).Succeeds input db created writes) :
    (∀ other ∈ db.users.rows,
      other.username ≠ created.username ∧ other.phone ≠ created.phone) ∧
      ∀ email ∈ created.email, ∀ other ∈ db.users.rows, other.email ≠ some email := by
  simp only [create, query_succeeds, except_bind_ok, check_ok, Except.ok.injEq, Prod.mk.injEq,
    exists_and_left, exists_const] at succeeds
  obtain ⟨_, _, columns, emails, _, rfl, _⟩ := succeeds
  exact ⟨columns, emails⟩

/-- The turn stores a user with the identifiers of the request, which no user has in the same
column. -/
structure Registers (dto : RegisterUserDto) (turn : Concurrency.Turn accounts) (row : User) :
    Prop where
  writes : turn.writes = [.createUser row]
  username : row.username = dto.username
  email : row.email = dto.email
  phone : row.phone = dto.phone
  fresh : turn.before.user? row.id = none
  columns : ∀ other ∈ turn.before.users.rows,
    other.username ≠ row.username ∧ other.phone ≠ row.phone
  emails : ∀ email ∈ row.email, ∀ other ∈ turn.before.users.rows, other.email ≠ some email

section Requests

variable [Argon2] {supplied : Concurrency.Turn accounts → Prop} {thread : Nat}
  {history : List (Concurrency.Turn accounts)}

/-- A registration only reads until it stores its user. -/
theorem registerUser_meets (dto : RegisterUserDto) :
    (AuthService.registerUser dto).Meets
      (.turns supplied thread fun _ turn => turn.writes = [] ∨ ∃ row, Registers dto turn row)
      (fun _ _ => True) history := by
  have selects : ∀ {β : Type} {body : Accounts → Except PrismaError β}
      (turn : Concurrency.Turn accounts), turn.Performs (select body) →
        turn.writes = [] ∨ ∃ row, Registers dto turn row :=
    fun _ performs => .inl (performs.idle fun _ _ _ _ executed => (select_succeeds.mp executed).2.2)
  rw [AuthService.registerUser]
  refine Proc.Meets.told selects (fun _ _ => trivial) fun existing _ _ => ?_
  refine Proc.Meets.rejectIf (fun _ => trivial) fun _ => ?_
  refine Proc.Meets.told selects (fun _ _ => trivial) fun found _ _ => ?_
  refine Proc.Meets.require (fun _ => trivial) fun role _ => ?_
  rw [hashPassword, Proc.seq_assoc]
  refine Proc.Meets.told (fun _ performs => .inl (performs.idle fun _ _ _ _ executed =>
    (ask_succeeds.mp executed).2)) (fun _ _ => trivial) fun input _ _ => ?_
  refine Proc.Meets.next
    (fun _ _ _ _ failed => ⟨.inl (Concurrency.Turn.writes_of_error failed), trivial⟩)
    fun inputs before row writes _ created => ⟨.inr ⟨row, ?_⟩, trivial⟩
  obtain ⟨rfl, made, fresh⟩ := Prisma.User.create_succeeds created
  obtain ⟨columns, emails⟩ := Prisma.User.create_unique created
  exact ⟨(Concurrency.Turn.writes_of_succeeds thread created).trans made, rfl, rfl, rfl, fresh,
    columns, emails⟩

end Requests

end Armada.Auth
