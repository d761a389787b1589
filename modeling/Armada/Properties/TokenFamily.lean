import Armada.Sessions.Locking

/-!
# Families of refresh tokens

Rotations that interleave statement by statement. The compare-and-set makes each exchange
put the one session of a family in the place of another, and no refresh token is exchanged
twice. The `UPDATE` that ends a family on reuse sees the rows that are committed when it
starts: it ends the family if no rotation of the family commits before the `UPDATE` does.
-/

namespace Armada.Auth

open Relational Concurrency Proc

open Prisma.Session (selected revocations)

/-! ## What is claimed -/

/-- A session of the family that is not revoked. -/
def Live (db : Accounts) (tokenFamily id : Uuid) : Prop :=
  ∃ row, db.session? id = some row ∧ row.tokenFamily = tokenFamily ∧ row.isRevoked = false

/-- The family has at most one session that is not revoked. -/
def SingleLive (db : Accounts) (tokenFamily : Uuid) : Prop :=
  ∀ left right, Live db tokenFamily left → Live db tokenFamily right → left = right

/-- What a rotation answers when it has found a token that was used before. -/
def reuseDetected : Exception :=
  unauthorized "TOKEN_REUSE_DETECTED"
    "Refresh token reuse detected. All sessions in family have been revoked."

section Claim

variable [TokenHash]

/-- No two of the calls have exchanged the same refresh token. -/
def ExchangedOnce (tokens : List String) (system : System accounts SessionResult) : Prop :=
  ∀ (first second : Nat) token left right, tokens[first]? = some token →
    tokens[second]? = some token → system.Ended first (.ok left) → system.Ended second (.ok right) →
      first = second

/-- When a call has answered that a token of the family was reused, no session of the
family is left that is not revoked. -/
def ReuseEndsFamily (tokens : List String) (tokenFamily : Uuid)
    (system : System accounts SessionResult) : Prop :=
  ∀ (thread : Nat) token row, tokens[thread]? = some token →
    system.state.holder? (TokenHash.hashToken token) = some row → row.tokenFamily = tokenFamily →
      system.Ended thread (.error reuseDetected) → ∀ id, ¬Live system.state tokenFamily id

/-- An `UPDATE` of the family leaves out no session of it: since it found its rows, no
rotation of the family has committed. -/
def FindsFamily (tokenFamily : Uuid) (writes : List Write) (db : Accounts) : Prop :=
  (∃ row ∈ db.sessions.rows, row.tokenFamily = tokenFamily ∧ Write.revokeSession row.id none ∈ writes) →
    ∀ row ∈ db.sessions.rows, row.tokenFamily = tokenFamily → Write.revokeSession row.id none ∈ writes

instance (tokenFamily : Uuid) (writes : List Write) (db : Accounts) :
    Decidable (FindsFamily tokenFamily writes db) :=
  inferInstanceAs (Decidable (_ → _))

end Claim

/-! ## What is committed -/

section Writes

variable {db : Accounts} {tokenFamily id : Uuid} {writes : List Write}

/-- Writes that open no session make none live. -/
theorem live_of_opensNone (none : ∀ write ∈ writes, write.OpensNone)
    (live : Live (db.commit writes) tokenFamily id) : Live db tokenFamily id := by
  obtain ⟨row, found, sameFamily, isUnrevoked⟩ := live
  obtain ⟨old, foundOld, later⟩ := before_of_opensNone none found
  exact ⟨old, foundOld, later.tokenFamily.symm.trans sameFamily, later.unrevoked isUnrevoked⟩

/-- A session that they revoke is not live. -/
theorem not_live_of_mem (none : ∀ write ∈ writes, write.OpensNone) {at_ : Option Instant}
    (update : Write.revokeSession id at_ ∈ writes) : ¬Live (db.commit writes) tokenFamily id := by
  rintro ⟨row, found, _, isUnrevoked⟩
  obtain ⟨old, foundOld, _⟩ := before_of_opensNone none found
  exact (Accounts.revoked_of_mem foundOld update).not_active ⟨row, found, isUnrevoked⟩

/-- Where few rows are selected, one session is live. -/
theorem singleLive_of_selected (few : (selected { tokenFamily := some tokenFamily, isRevoked := some false }
    db).length ≤ 1) : SingleLive db tokenFamily := by
  have isSelected : ∀ {id}, Live db tokenFamily id →
      id ∈ selected { tokenFamily := some tokenFamily, isRevoked := some false } db := by
    rintro id ⟨row, found, rfl, isUnrevoked⟩
    exact Prisma.Session.mem_selected.mpr ⟨row, found, by simp [Prisma.SessionWhere.selects, isUnrevoked]⟩
  intro left right liveLeft liveRight
  have memberLeft := isSelected liveLeft
  have memberRight := isSelected liveRight
  obtain ⟨only, same⟩ := List.length_eq_one_iff.mp
    (le_antisymm few (List.length_pos_of_mem memberLeft))
  rw [same] at memberLeft memberRight
  rw [List.mem_singleton.mp memberLeft, List.mem_singleton.mp memberRight]

/-- The exchange of a refresh token for a new one of the same family. -/
structure Exchanges [TokenHash] (token : String) (writes : List Write) (db : Accounts)
    (old row : Session) : Prop where
  holder : db.holder? (TokenHash.hashToken token) = some old
  wasUnrevoked : old.isRevoked = false
  fresh : db.session? row.id = none
  isUnrevoked : row.isRevoked = false
  sameFamily : row.tokenFamily = old.tokenFamily
  wrote : ∃ refreshedAt, writes = [.revokeSession old.id (some refreshedAt), .createSession row]

variable [TokenHash] {token : String} {old row : Session}

/-- The old session was live. -/
theorem Exchanges.wasLive (exchanges : Exchanges token writes db old row) :
    Live db old.tokenFamily old.id :=
  ⟨old, (Accounts.session_of_holder? exchanges.holder).1, rfl, exchanges.wasUnrevoked⟩

/-- The live sessions after an exchange. -/
theorem Exchanges.live (exchanges : Exchanges token writes db old row)
    (live : Live (db.commit writes) tokenFamily id) :
    (Live db tokenFamily id ∧ id ≠ old.id) ∨ (id = row.id ∧ old.tokenFamily = tokenFamily) := by
  obtain ⟨refreshedAt, rfl⟩ := exchanges.wrote
  have none : ∀ write ∈ [Write.revokeSession old.id (some refreshedAt)], write.OpensNone :=
    fun write member => List.mem_singleton.mp member ▸ trivial
  obtain ⟨new, found, sameFamily, isUnrevoked⟩ := live
  change ((db.commit [.revokeSession old.id (some refreshedAt)]).commit [.createSession row]).session?
    id = some new at found
  rw [Accounts.commit_cons, Accounts.commit_nil, Write.session?_apply] at found
  rcases Option.or_eq_some_iff.mp found with earlier | ⟨_, inserted⟩
  · have wasLive : Live (db.commit [.revokeSession old.id (some refreshedAt)]) tokenFamily id :=
      ⟨new, earlier, sameFamily, isUnrevoked⟩
    refine .inl ⟨live_of_opensNone none wasLive, ?_⟩
    rintro rfl
    exact not_live_of_mem none List.mem_cons_self wasLive
  · split at inserted
    · rename_i same
      cases inserted
      exact .inr ⟨same.symm, exchanges.sameFamily.symm.trans sameFamily⟩
    · cases inserted

/-- After the exchange the session of the token is revoked. -/
theorem Exchanges.revoked (exchanges : Exchanges token writes db old row) :
    (db.commit writes).Revoked old.id := by
  obtain ⟨refreshedAt, rfl⟩ := exchanges.wrote
  exact Accounts.revoked_of_mem (Accounts.session_of_holder? exchanges.holder).1 List.mem_cons_self

end Writes

/-! ## The contract of a rotation -/

section Rotation

variable [TokenHash] {tokenFamily : Uuid} {tokens : List String} {whole : Prop}

/-- What others do while locks are held: they disturb nothing, and a family that is dead
stays so. -/
structure FamilyRely (tokenFamily : Uuid) (held : List Lock) (before after : Accounts) : Prop where
  undisturbed : Undisturbed held before after
  dead : (∀ id, ¬Live before tokenFamily id) → ∀ id, ¬Live after tokenFamily id

/-- What a rotation of a token commits. -/
def RotationWrites (token : String) (writes : List Write) (db : Accounts) : Prop :=
  (∀ write ∈ writes, write.OpensNone) ∨ ∃ old row, Exchanges token writes db old row

/-- What is known when a rotation has found a token that was used before: the family of the
token has been ended, if it is the one in question. -/
def Detected (tokenFamily : Uuid) (whole : Prop) (token : String) (db : Accounts) : Prop :=
  ∃ row, db.holder? (TokenHash.hashToken token) = some row ∧
    (row.tokenFamily = tokenFamily → whole → ∀ id, ¬Live db tokenFamily id)

/-- A family without a live session stays so. -/
theorem RotationWrites.dead {token : String} {writes : List Write} {db : Accounts}
    (made : RotationWrites token writes db) (dead : ∀ id, ¬Live db tokenFamily id) :
    ∀ id, ¬Live (db.commit writes) tokenFamily id := by
  intro id live
  rcases made with none | ⟨old, row, exchanges⟩
  · exact dead id (live_of_opensNone none live)
  · rcases exchanges.live live with ⟨earlier, _⟩ | ⟨_, same⟩
    · exact dead id earlier
    · exact dead old.id (same ▸ exchanges.wasLive)

/-- A rotation keeps one live session. -/
theorem RotationWrites.singleLive {token : String} {writes : List Write} {db : Accounts}
    (made : RotationWrites token writes db) (single : SingleLive db tokenFamily) :
    SingleLive (db.commit writes) tokenFamily := by
  intro left right liveLeft liveRight
  rcases made with none | ⟨old, row, exchanges⟩
  · exact single left right (live_of_opensNone none liveLeft) (live_of_opensNone none liveRight)
  · -- whoever was there before the exchange was the one that it has revoked
    have gone : ∀ {id}, Live db tokenFamily id ∧ id ≠ old.id → old.tokenFamily ≠ tokenFamily :=
      fun before same => before.2 (single _ _ before.1 (same ▸ exchanges.wasLive))
    rcases exchanges.live liveLeft with before | ⟨rfl, same⟩
    · rcases exchanges.live liveRight with beforeToo | ⟨_, same⟩
      · exact single left right before.1 beforeToo.1
      · exact absurd same (gone before)
    · rcases exchanges.live liveRight with before | ⟨rfl, _⟩
      · exact absurd same (gone before)
      · rfl

/-- The contract of each rotation. With `whole`, no `UPDATE` of the family leaves out a
session of it. -/
def rotations (tokenFamily : Uuid) (tokens : List String) (whole : Prop) :
    System.Contract accounts SessionResult where
  inv db := SingleLive db tokenFamily
  rely := FamilyRely tokenFamily
  guar thread held writes db := (∀ write ∈ writes, write.Guarded held) ∧
    ∃ token, tokens[thread]? = some token ∧ RotationWrites token writes db
  post thread result db := ∀ token, tokens[thread]? = some token → result = .error reuseDetected →
    Detected tokenFamily whole token db
  orderly writes db := whole → FindsFamily tokenFamily writes db
  relyRefl held db _ := ⟨.refl held db, fun dead => dead⟩
  relyTrans left right := ⟨left.undisturbed.trans right.undisturbed, fun dead =>
    right.dead (left.dead dead)⟩
  compatible _ _ _ _ single allowed _ := by
    obtain ⟨guarded, token, _, made⟩ := allowed
    exact ⟨made.singleLive single, fun _ compatible =>
      ⟨undisturbed_of_guarded guarded compatible, made.dead⟩⟩

/-- What was detected stays so. -/
theorem Detected.rely {token : String} {held : List Lock} {before after : Accounts}
    (detected : Detected tokenFamily whole token before)
    (within : FamilyRely tokenFamily held before after) :
    Detected tokenFamily whole token after := by
  obtain ⟨row, holder, dead⟩ := detected
  obtain ⟨later, foundLater, isLater⟩ := within.undisturbed.within.holders _ row holder
  exact ⟨later, foundLater, fun same all => within.dead (dead (isLater.tokenFamily.symm.trans same) all)⟩

variable {thread : Nat} {token : String}

/-- A call that spares sessions, once the token has been detected. -/
theorem meets_of_detected {α : Type} {statement : Statement accounts α}
    (atThread : tokens[thread]? = some token) (confined : statement.Confined Write.SparesSessions)
    {state : Accounts} (detected : Detected tokenFamily whole token state) :
    (liftM statement : Proc accounts α).Meets ((rotations tokenFamily tokens whole).discipline thread)
      (fun _ db => Detected tokenFamily whole token db) state := by
  rw [meets_lift]
  refine fun db within => ⟨fun input value writes executed => ?_, fun error => detected.rely within⟩
  have spares := confined input db value writes executed
  have made : RotationWrites token writes db := .inl fun write member => (spares write member).opensNone
  refine ⟨⟨fun write member => (spares write member).guarded _, token, atThread, made⟩, fun _ => ?_⟩
  have own : FamilyRely tokenFamily [] db (db.commit writes) :=
    ⟨undisturbed_of_guarded (fun write member => (spares write member).guarded []) (.nil []), made.dead⟩
  exact (detected.rely within).rely own

/-- The `UPDATE` of the family of a session that is the token's. -/
theorem updateMany_meets (atThread : tokens[thread]? = some token) {session row : Session}
    {state : Accounts} (holder : state.holder? (TokenHash.hashToken token) = some row)
    (isLater : session.Later row) :
    (Proc.transact (Prisma.Session.updateMany (.ok { tokenFamily := some session.tokenFamily }))).Meets
      ((rotations tokenFamily tokens whole).discipline thread)
      (OnResult (fun _ db => Detected tokenFamily whole token db)
        fun error _ => error ≠ reuseDetected) state := by
  rw [meets_transact]
  have throws : (Prisma.Session.updateMany (.ok { tokenFamily := some session.tokenFamily })).Throws
      fun error : Exception => ∃ reason, error = .prisma reason :=
    updateMany_throws (fun reason => ⟨reason, rfl⟩) _ _
  have lasting : Txn.Lasting (S := accounts) (FamilyRely tokenFamily) fun _ _ => True :=
    ⟨fun _ _ => trivial, fun _ _ => trivial⟩
  refine fun first toFirst => ⟨?_, throws.raises lasting trivial ?_⟩
  · refine (updateMany_holds FamilyRely.undisturbed (by simp [Prisma.SessionWhere.Usual])
      (List.forall_mem_nil _)).mono ?_
    rintro _ locks _ current ⟨before, changed, toBefore, since, _, updated⟩ last toLast
    obtain rfl := updated.wrote
    have none : ∀ write ∈ revocations .none changed, write.OpensNone :=
      SessionService.opensNone_revocations
    have made : RotationWrites token (revocations .none changed) last := .inl none
    refine ⟨⟨SessionService.guarded_revocations updated.locked, token, atThread, made⟩, fun ordered => ?_⟩
    -- the session of the token is there when the `UPDATE` starts, and when it commits
    obtain ⟨atStart, foundAtStart, laterAtStart⟩ :=
      (toFirst.undisturbed.within.trans toBefore.undisturbed.within).holders _ row holder
    obtain ⟨atEnd, foundAtEnd, laterAtEnd⟩ :=
      (since.within.trans toLast.undisturbed.within).holders _ atStart foundAtStart
    have sessionAtEnd := (Accounts.session_of_holder? foundAtEnd).1
    have sameFamily : atEnd.tokenFamily = session.tokenFamily :=
      laterAtEnd.tokenFamily.trans (laterAtStart.tokenFamily.trans isLater.tokenFamily)
    have isSelected : atEnd.id ∈ selected { tokenFamily := some session.tokenFamily } before := by
      rw [laterAtEnd.id]
      refine Prisma.Session.mem_selected.mpr
        ⟨atStart, (Accounts.session_of_holder? foundAtStart).1, ?_⟩
      simp [Prisma.SessionWhere.selects, laterAtStart.tokenFamily.trans isLater.tokenFamily]
    have update : Write.revokeSession atEnd.id .none ∈ revocations .none changed :=
      Prisma.Session.mem_revocations.mpr ⟨atEnd.id, updated.every rfl isSelected, rfl⟩
    obtain ⟨atCommit, foundAtCommit, laterAtCommit⟩ :=
      (Accounts.extends_commit (revocations .none changed) last).holders _ atEnd foundAtEnd
    refine ⟨atCommit, foundAtCommit, fun same all id live => ?_⟩
    obtain ⟨other, foundOther, sameToo, _⟩ := live_of_opensNone none live
    have own : atEnd.tokenFamily = tokenFamily := laterAtCommit.tokenFamily.symm.trans same
    have complete := ordered all ⟨atEnd, Accounts.mem_sessions.mpr sessionAtEnd, own, update⟩
    have isOther := Accounts.id_of_session? foundOther
    refine not_live_of_mem none (complete other (Accounts.mem_sessions.mpr ?_) sameToo) (isOther ▸ live)
    rw [isOther]
    exact foundOther
  · rintro error _ _ ⟨reason, rfl⟩ _ ⟨⟩

/-- The revocation of a family meets its discipline. -/
theorem revokeTokenFamily_meets [UuidSpelling] (atThread : tokens[thread]? = some token)
    {session row : Session} {state : Accounts}
    (holder : state.holder? (TokenHash.hashToken token) = some row) (isLater : session.Later row) :
    (SessionService.revokeTokenFamily session).Meets ((rotations tokenFamily tokens whole).discipline thread)
      (fun result db => result = .error reuseDetected ∨ (∃ answer, result = .ok answer) →
        Detected tokenFamily whole token db) state := by
  have detected : ∀ {α : Type} {statement : Statement accounts α} {state : Accounts},
      statement.Confined Write.SparesSessions → Detected tokenFamily whole token state →
        (liftM statement : Proc accounts α).Meets ((rotations tokenFamily tokens whole).discipline thread)
          (fun _ db => Detected tokenFamily whole token db) state :=
    fun confined found => meets_of_detected atThread confined found
  have mark : ∀ key, (RedisService.setRevocation key 900).Confined Write.SparesSessions :=
    fun key => confined_setRevocation fun _ => trivial
  refine (updateMany_meets atThread holder isLater).bind (fun error _ other isReuse => ?_)
    fun _ db found => ?_
  · rcases isReuse with same | ⟨_, same⟩
    · exact absurd (Except.error.inj same) other
    · cases same
  refine (detected (mark _) found).bind (fun _ _ found _ => found) fun _ db found => ?_
  refine (detected (mark _) found).bind (fun _ _ found _ => found) fun _ db found => ?_
  refine (detected (confined_publish fun _ => trivial) found).bind (fun _ _ found _ => found)
    fun _ db found => ?_
  refine (detected confined_ask found).bind (fun _ _ found _ => found) fun revokedAt db found => ?_
  exact (detected (confined_createAuditLog trivial) found).weaken fun _ _ found _ => found

/-- The errors of an exchange that has found a session. -/
def TokenError (old : Session) (error : Exception) : Prop :=
  (∃ reason, error = .prisma reason) ∨ error = .refreshTokenReuse old

/-- An exchange that has found a token that was used before has found the session of the
token. -/
theorem exchange_raises {hashed : String} {state : Accounts} :
    (SessionService.exchange hashed).Raises (FamilyRely tokenFamily)
    (fun (error : Exception) (last : Accounts) =>
      error ≠ reuseDetected ∧ ∀ session, error = .refreshTokenReuse session →
        ∃ row, last.holder? hashed = some row ∧ session.Later row) [] [] state := by
  rw [SessionService.exchange, Txn.raises_first]
  refine fun first _ input => ⟨fun error failed => ?_, fun found writes read => ?_⟩
  · obtain ⟨reason, rfl⟩ := select_fails failed
    exact ⟨by rintro ⟨⟩, by rintro _ ⟨⟩⟩
  have holder := Prisma.Session.findByHash_found read
  cases found with
  | none => exact fun last _ => ⟨by decide, by rintro _ ⟨⟩⟩
  | some old =>
      have prisma : ∀ reason, TokenError old (.prisma reason) := fun reason => .inl ⟨reason, rfl⟩
      have asks : (liftM ask : Txn accounts Input).Throws (TokenError old) := throws_of_effect prisma _
      have lasting : Txn.Lasting (S := accounts) (FamilyRely tokenFamily) fun _ db =>
          ∃ row, db.holder? hashed = some row ∧ old.Later row := by
        refine ⟨?_, fun _ fact => fact⟩
        rintro held before after ⟨row, found, isLater⟩ within
        obtain ⟨later, foundLater, isLaterToo⟩ := within.undisturbed.within.holders _ row found
        exact ⟨later, foundLater, isLater.trans isLaterToo⟩
      refine Txn.Throws.raises (.bind asks fun present =>
        .bind (.rejectIf (faults_of_prisma prisma) (.inr rfl)) fun _ =>
        .bind asks fun generated => .bind asks fun claimedAt =>
        .bind (updateMany_throws prisma _ _) fun claimed =>
        .bind (.rejectIf (faults_of_prisma prisma) (.inr rfl)) fun _ =>
        .bind (throws_of_query prisma _ _) fun _ => faults_of_prisma prisma)
        lasting ⟨old, holder, .refl old⟩ ?_
      rintro error held last (⟨reason, rfl⟩ | rfl) found
      · exact ⟨by rintro ⟨⟩, by rintro _ ⟨⟩⟩
      · exact ⟨by rintro ⟨⟩, fun session same => Exception.refreshTokenReuse.inj same ▸ found⟩

/-- Every rotation meets the contract. -/
theorem rotateSession_meets [UuidSpelling] (atThread : tokens[thread]? = some token) (state : Accounts) :
    (SessionService.rotateSession token).Meets ((rotations tokenFamily tokens whole).discipline thread)
      ((rotations tokenFamily tokens whole).post thread) state := by
  have settled : ∀ {error db}, (error = reuseDetected → Detected tokenFamily whole token db) →
      (rotations tokenFamily tokens whole).post thread (.error error) db := by
    intro error db found other atOther same
    cases atThread.symm.trans atOther
    exact found (Except.error.inj same)
  refine (meets_tryCatch _ _ _).mpr ((meets_transact _ _).mpr fun first _ => ⟨?_, ?_⟩)
  · refine (SessionService.exchange_holds FamilyRely.undisturbed).mono ?_
    intro result locks made current ended last later
    obtain ⟨old, row, refreshedAt, secret, makes, holder, isUnrevoked, _, sameFamily, _⟩ :=
      ended last later
    have exchanges : Exchanges token made last old row :=
      ⟨holder, isUnrevoked, makes.fresh, makes.isUnrevoked, sameFamily, refreshedAt, makes.writes⟩
    exact ⟨⟨makes.guarded, token, atThread, .inr ⟨old, row, exchanges⟩⟩, fun _ => nofun⟩
  · refine exchange_raises.mono fun error last raised => ?_
    cases error with
    | refreshTokenReuse session =>
        obtain ⟨row, holder, isLater⟩ := raised.2 session rfl
        refine (revokeTokenFamily_meets atThread holder isLater).bind
          (fun error db found => settled fun same => found (.inl (same ▸ rfl)))
          fun answer db found => settled fun _ => found (.inr ⟨answer, rfl⟩)
    | _ => exact settled fun same => absurd same raised.1

/-! ## What a call that returns a session has committed -/

/-- An exchange creates a session. -/
theorem exchange_creates {hashed : String} {state : Accounts} :
    (SessionService.exchange hashed).Holds (fun _ _ _ => True)
      (fun _ _ (made : List Write) _ => ∃ row, Write.createSession row ∈ made) [] [] state := by
  simp only [SessionService.exchange, Txn.holds_bind, Txn.holds_lift]
  intro first _ input found writes read
  cases found with
  | none => exact Txn.holds_fail _
  | some old =>
      simp only [Txn.holds_bind, Txn.holds_lift, Txn.holds_rejectIf, Txn.holds_pure]
      intro second _ input now writes _ _ third _ input generated writes _ fourth _ input claimedAt writes _
      refine .always (fun claimed held written current _ next _ input row writes inserted => ?_) _ _ _ _
      obtain ⟨_, _, _, _, _, _, rfl⟩ := Prisma.Session.create_succeeds inserted
      exact ⟨row, List.mem_append_right _ (List.mem_singleton_self _)⟩

/-- So does a rotation that answers. -/
theorem rotateSession_creates [UuidSpelling] (token : String) :
    (SessionService.rotateSession token).Meets .own (fun result (made : List Write) =>
      ∀ answer, result = .ok answer → ∃ row, Write.createSession row ∈ made) [] := by
  refine (meets_tryCatch _ _ _).mpr ((meets_transact _ _).mpr ⟨fun state => ?_, fun error => ?_⟩)
  · exact exchange_creates.mono fun _ _ _ _ created _ _ => created
  · cases error with
    | refreshTokenReuse session =>
        exact (Proc.Meets.own_trivial (SessionService.revokeTokenFamily session) []).bind
          (fun _ _ _ => nofun) fun _ _ _ => nofun
    | _ => exact nofun

end Rotation

/-! ## Every run -/

section Runs

variable [UuidSpelling] [TokenHash] {supplied : Input → Prop} {db : Accounts} {tokens : List String}
  {tokenFamily : Uuid} {trace : List (Commit accounts)} {final : System accounts SessionResult}

/-- The system of rotations that start together. -/
abbrev rotationsOf (db : Accounts) (tokens : List String) : System accounts SessionResult :=
  .ofPool ⟨db, tokens.map SessionService.rotateSession⟩

/-- Over a run of rotations the family is sound. -/
theorem rotations_sound (steps : (rotationsOf db tokens).Steps supplied trace final)
    (initially : SingleLive db tokenFamily) {whole : Prop}
    (ordered : whole → ∀ commit ∈ trace, FindsFamily tokenFamily commit.writes commit.before) :
    SingleLive final.state tokenFamily ∧ (rotations tokenFamily tokens whole).Upheld final ∧
      ∀ commit ∈ trace, commit.writes = [] ∨ ∃ token, tokens[commit.thread]? = some token ∧
        RotationWrites token commit.writes commit.before := by
  have upheld : (rotations tokenFamily tokens whole).Upheld (rotationsOf db tokens) := by
    refine System.Contract.upheld_ofPool initially fun thread process found => ?_
    rw [List.getElem?_map, Option.map_eq_some_iff] at found
    obtain ⟨token, atThread, rfl⟩ := found
    exact rotateSession_meets atThread db
  obtain ⟨single, within, committed⟩ := steps.sound initially (System.exclusive_ofPool _) upheld
    fun commit member all => ordered all commit member
  refine ⟨single, within, fun commit member => ?_⟩
  rcases (committed commit member).2 with none | ⟨locks, _, made⟩
  · exact .inl none
  · exact .inr made

/-- What a call has committed that has returned a session. -/
theorem exchanges_of_ended (steps : (rotationsOf db tokens).Steps supplied trace final)
    (initially : SingleLive db tokenFamily) {thread : Nat} {token : String}
    (atThread : tokens[thread]? = some token) {answer : SessionResult}
    (ended : final.Ended thread (.ok answer)) : ∃ commit ∈ trace, commit.thread = thread ∧
      ∃ old row, Exchanges token commit.writes commit.before old row := by
  have meets : ∀ (thread : Nat) process, (tokens.map SessionService.rotateSession)[thread]? = some process →
      process.Meets .own (fun result (made : List Write) =>
        ∀ answer, result = .ok answer → ∃ row, Write.createSession row ∈ made) [] := by
    intro thread process found
    rw [List.getElem?_map, Option.map_eq_some_iff] at found
    obtain ⟨token, _, rfl⟩ := found
    exact rotateSession_creates token
  obtain ⟨process, found, finished⟩ := ended
  have owned : process.Meets .own _ _ := steps.own meets thread _ found
  obtain ⟨row, created⟩ := owned.post_of_finished finished answer rfl
  obtain ⟨commit, member, rfl, inside⟩ := System.mem_committed.mp created
  refine ⟨commit, member, rfl, ?_⟩
  have never : False → ∀ commit ∈ trace, FindsFamily tokenFamily commit.writes commit.before := False.elim
  rcases (rotations_sound steps initially never).2.2 commit member with nothing | ⟨other, atOther, made⟩
  · rw [nothing] at inside
    cases inside
  · cases atThread.symm.trans atOther
    rcases made with none | exchanges
    · exact (none _ inside).elim
    · exact exchanges

omit [UuidSpelling] in
/-- After an exchange of a token there is no other. -/
theorem no_second_exchange {start last : Accounts} {first second : Commit accounts}
    {before after : List (Commit accounts)} (linked : Linked start (before ++ first :: after) last)
    (later : second ∈ after) {token : String} {old row oldToo rowToo : Session}
    (exchanges : Exchanges token first.writes first.before old row)
    (exchangesToo : Exchanges token second.writes second.before oldToo rowToo) : False := by
  obtain ⟨between, rest, rfl⟩ := List.append_of_mem later
  obtain ⟨_, _, _, afterFirst⟩ := linked.split
  obtain ⟨_, toSecond, rfl, _⟩ := afterFirst.split
  have within : Accounts.Extends first.after second.before :=
    (toSecond.onwards Accounts.Extends.refl Accounts.Extends.trans fun commit _ =>
      Accounts.extends_commit commit.writes commit.before).1
  have own : Accounts.Extends first.before first.after := Accounts.extends_commit first.writes first.before
  obtain ⟨now, holder, isLater⟩ := (own.trans within).holders _ old exchanges.holder
  cases exchangesToo.holder.symm.trans holder
  obtain ⟨row, found, isRevoked⟩ := within.revoked exchanges.revoked
  rw [← isLater.id] at found
  cases found.symm.trans (Accounts.session_of_holder? holder).1
  cases exchangesToo.wasUnrevoked.symm.trans isRevoked

/-- In every run of rotations, statement by statement: a family keeps at most one session
that is not revoked, no refresh token is exchanged twice, and if no rotation of the family
commits between the moment at which an `UPDATE` of the family finds its rows and its commit
then the family is dead when a call has answered that a token was reused. -/
theorem family_safe (steps : (rotationsOf db tokens).Steps supplied trace final)
    (initially : SingleLive db tokenFamily) :
    SingleLive final.state tokenFamily ∧ ExchangedOnce tokens final ∧
      ((∀ commit ∈ trace, FindsFamily tokenFamily commit.writes commit.before) →
        ReuseEndsFamily tokens tokenFamily final) := by
  refine ⟨(rotations_sound steps initially False.elim).1, ?_, ?_⟩
  · intro first second token left right atFirst atSecond endedFirst endedSecond
    by_contra different
    obtain ⟨one, isOne, rfl, old, row, exchanges⟩ :=
      exchanges_of_ended steps initially atFirst endedFirst
    obtain ⟨other, isOther, rfl, oldToo, rowToo, exchangesToo⟩ :=
      exchanges_of_ended steps initially atSecond endedSecond
    obtain ⟨before, after, rfl⟩ := List.append_of_mem isOne
    rcases List.mem_append.mp isOther with earlier | later
    · obtain ⟨start, between, rfl⟩ := List.append_of_mem earlier
      have linked := steps.linked
      rw [List.append_assoc] at linked
      exact no_second_exchange linked (List.mem_append_right _ List.mem_cons_self) exchangesToo exchanges
    · rcases List.mem_cons.mp later with rfl | later
      · exact different rfl
      · exact no_second_exchange steps.linked later exchanges exchangesToo
  · intro complete thread token row atThread holder sameFamily ended
    obtain ⟨_, upheld, _⟩ := rotations_sound steps initially fun _ : True => complete
    obtain ⟨since, within, detected⟩ := upheld.post_of_ended ended
    obtain ⟨now, holderNow, dead⟩ := (detected token atThread rfl).rely within
    cases holderNow.symm.trans holder
    exact dead sameFamily trivial

end Runs

/-! ## A rotation in flight -/

namespace RotationInFlight

local instance : UuidSpelling := unarySpelling

local instance : TokenHash := plainHash

local instance : DecidableRel accounts.clash := fun mine theirs =>
  inferInstanceAs (Decidable (mine.clashes theirs = true))

/-- A driver who has refreshed once: the session of the first token is revoked. -/
def db : Accounts :=
  { LoggedIn.db with
    sessions := (Table.empty.insert { LoggedIn.session with id := 2, refreshTokenHash := "q", isRevoked := true }).insert
      LoggedIn.session }

def tokens : List String := ["r", "q"]

def system : System accounts SessionResult := rotationsOf db tokens

def turns (thread count : Nat) : List (Nat × Input) :=
  List.replicate count (thread, { uuid := 30 + thread, secret := "s" })

/-- One session is live at the start. -/
theorem single : SingleLive db 5 := singleLive_of_selected (by decide)

/-- When the token that was used before comes first, its family is dead. -/
theorem family_safe_of_reuse : ReuseEndsFamily tokens 5 (system.play (turns 1 16 ++ turns 0 16)).2 :=
  (family_safe (System.play_steps (turns 1 16 ++ turns 0 16) system) single).2.2 (by decide)

/-- The rotation of the valid token has claimed its row, but not committed, when the `UPDATE`
of the family finds its rows. -/
def schedule : List (Nat × Input) := turns 0 8 ++ turns 1 7 ++ turns 0 1 ++ turns 1 7

/-- The second use of the token is answered with the error. -/
theorem answers_reuse : (system.play schedule).2.Ended 1 (.error reuseDetected) :=
  ⟨_, rfl, rfl⟩

/-- Not every run of rotations of tokens of a family keeps it safe. -/
theorem family_unsafe :
    ¬∀ (db : Accounts) (tokens : List String) (tokenFamily : Uuid) (trace : List (Commit accounts))
      (final : System accounts SessionResult),
      (rotationsOf db tokens).Steps (fun _ => True) trace final → SingleLive db tokenFamily →
        (∀ token ∈ tokens, ∃ row, db.holder? (TokenHash.hashToken token) = some row ∧
          row.tokenFamily = tokenFamily) →
        SingleLive final.state tokenFamily ∧ ExchangedOnce tokens final ∧
          ReuseEndsFamily tokens tokenFamily final := by
  intro always
  have ofFamily : ∀ token ∈ tokens, ∃ row, db.holder? (TokenHash.hashToken token) = some row ∧
      row.tokenFamily = 5 := by
    intro token member
    rcases List.mem_cons.mp member with rfl | last
    · exact ⟨_, rfl, rfl⟩
    · cases List.mem_singleton.mp last
      exact ⟨_, rfl, rfl⟩
  have ends := (always db tokens 5 _ _ (System.play_steps schedule system) single ofFamily).2.2
  exact ends 1 "q" _ rfl rfl rfl answers_reuse 30 ⟨_, rfl, rfl, rfl⟩

end RotationInFlight

end Armada.Auth
