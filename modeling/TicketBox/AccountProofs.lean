import TicketBox.Accounts
import TicketBox.Alone

/-! # Accounts, tokens and passwords

    What one call can do to the table is said once (`Wrote`): it lets an account in, signs
    one in, renames one or writes a password; nobody is removed, and no e-mail and no role
    changes.  From it every token ever signed names an account as it is now
    (`token_names_account`), and the stored hash is the hash of the password last written, so
    that this one signs in (`login_iff`).  A request by itself that fails has done nothing,
    but for the reset whose mail could not be sent and the registration whose token could
    not be signed (`failed_changes_nothing`). -/

namespace TicketAccounts

open Interleave
open TicketStore (UserId Role)

variable {platform : Platform} {w w' : World} {p p₀ q : State} {G : Condition}

/-! ## What a call writes -/

/-- The effects of a call on the store. -/
inductive Wrote (platform : Platform) (w : World) : World → Prop where
  | same : Wrote platform w w
  | created (user : User) (password salt : String) :
      w.findUser user.id = none → w.findEmail user.email = none → user.role = .customer →
      user.passwordHash = platform.hash password salt →
      Wrote platform w { w with
        users := w.users ++ [user], written := (user.id, password) :: w.written }
  | signedIn (user : User) : (∃ user' ∈ w.users, user'.payload = user.payload) →
      Wrote platform w (w.issue user)
  | renamed (id : UserId) (data : UpdateProfileDto) :
      Wrote platform w { w with users := RowTable.modify User.id id data.apply w.users }
  | password (id : UserId) (password salt : String) :
      Wrote platform w { w with
        users := RowTable.modify User.id id
          (fun u => { u with passwordHash := platform.hash password salt }) w.users
        written := (id, password) :: w.written }
  | mailed (email password : String) :
      Wrote platform w { w with mailed := (email, password) :: w.mailed }

/-- A password that is set is hashed and noted. -/
theorem wrote_of_setPassword {id : UserId} {password salt : String}
    (h : w.setPassword id (platform.hash password salt) password = some w') :
    Wrote platform w w' := by
  unfold World.setPassword at h
  cases hfind : w.findUser id with
  | none => simp [hfind] at h
  | some user =>
      rw [hfind] at h
      cases h
      exact .password id password salt

/-! ## What a request knows -/

/-- A password that was written for the account with this address. -/
def WrittenFor (w : World) (email password : String) : Prop :=
  ∃ user ∈ w.users, user.email = email ∧ (user.id, password) ∈ w.written

/-- What a token says of an account stays true. -/
theorem Wrote.payload (hw : Wrote platform w w') {payload : JwtPayload}
    (h : ∃ user ∈ w.users, user.payload = payload) :
    ∃ user ∈ w'.users, user.payload = payload := by
  obtain ⟨user, huser, rfl⟩ := h
  cases hw with
  | same => exact ⟨user, huser, rfl⟩
  | mailed email password => exact ⟨user, huser, rfl⟩
  | signedIn user' huser' => exact ⟨user, huser, rfl⟩
  | created user' password salt _ _ _ _ => exact ⟨user, List.mem_append_left _ huser, rfl⟩
  | renamed id data =>
      refine ⟨_, List.mem_map_of_mem huser, ?_⟩
      split <;> rfl
  | password id password salt =>
      refine ⟨_, List.mem_map_of_mem huser, ?_⟩
      split <;> rfl

/-- Passwords written are never forgotten. -/
theorem Wrote.written (hw : Wrote platform w w') {entry : UserId × String}
    (h : entry ∈ w.written) : entry ∈ w'.written := by
  cases hw with
  | same => exact h
  | mailed email password => exact h
  | signedIn user huser => exact h
  | created user password salt _ _ _ _ => exact List.mem_cons_of_mem _ h
  | renamed id data => exact h
  | password id password salt => exact List.mem_cons_of_mem _ h

/-- Nor for whom they were written. -/
theorem Wrote.writtenFor (hw : Wrote platform w w') {email password : String}
    (h : WrittenFor w email password) : WrittenFor w' email password := by
  obtain ⟨user, huser, hemail, hwritten⟩ := h
  obtain ⟨user', huser', hpayload⟩ := hw.payload ⟨user, huser, rfl⟩
  have hid : user'.id = user.id := congrArg JwtPayload.sub hpayload
  have hemail' : user'.email = user.email := congrArg JwtPayload.email hpayload
  exact ⟨user', huser', hemail'.trans hemail, hid ▸ hw.written hwritten⟩

/-- What a request knows between its calls: the account it signs in or resets is there,
    and the password it mails was written for it. -/
def Knows (w : World) : Ask → Prop
  | .registerSign user => ∃ user' ∈ w.users, user'.payload = user.payload
  | .forgotUpdate user => ∃ user' ∈ w.users, user'.payload = user.payload
  | .sendForgotPasswordEmail email password => WrittenFor w email password
  | _ => True

/-- What a request knows survives the writes of others. -/
theorem Wrote.knows (hw : Wrote platform w w') {d : Ask} (h : Knows w d) : Knows w' d := by
  cases d with
  | registerSign user => exact hw.payload h
  | forgotUpdate user => exact hw.payload h
  | sendForgotPasswordEmail email password => exact hw.writtenFor h
  | _ => trivial

/-- The answer aside, what a call leaves of its own operation. -/
theorem carryOut_knows (platform : Platform) (ch : Choice) {d : Ask} (h : Knows w d) :
    (carryOut platform ch w d).2.Meets (Knows (carryOut platform ch w d).1) (fun _ => True) := by
  cases d with
  | registerFind data =>
      simp only [carryOut]
      split <;> trivial
  | registerCreate email data =>
      simp only [carryOut, World.createUser]
      split
      · trivial
      · rename_i w' hcreate
        split at hcreate
        · cases hcreate
        · cases hcreate
          -- the row just created is the one that its token will name
          exact ⟨_, List.mem_append_right _ (List.mem_singleton_self _), rfl⟩
  | registerSign user => trivial
  | loginFind data =>
      simp only [carryOut]
      repeat' split
      all_goals trivial
  | getMeFind userId =>
      simp only [carryOut]
      split <;> trivial
  | profileUpdate userId data =>
      simp only [carryOut]
      split <;> trivial
  | changeFind userId data =>
      simp only [carryOut]
      repeat' split
      all_goals trivial
  | changeUpdate userId data =>
      simp only [carryOut]
      split <;> trivial
  | forgotFind email =>
      simp only [carryOut]
      split
      · trivial
      · rename_i user hfind
        exact ⟨user, RowTable.lookup_mem hfind, rfl⟩
  | forgotUpdate user =>
      simp only [carryOut]
      split
      · trivial
      · rename_i w' hset
        -- the password just written is the one to be mailed, to the address of the row
        obtain ⟨user', huser', hpayload⟩ := (wrote_of_setPassword hset).payload h
        have hid : user'.id = user.id := congrArg JwtPayload.sub hpayload
        have hemail : user'.email = user.email := congrArg JwtPayload.email hpayload
        refine ⟨user', huser', hemail, ?_⟩
        rw [hid]
        unfold World.setPassword at hset
        split at hset
        · cases hset
        · cases hset
          exact List.mem_cons_self
  | sendForgotPasswordEmail email password => trivial

/-- One call writes only what the requests may write. -/
theorem carryOut_wrote (platform : Platform) (ch : Choice) {d : Ask} (h : Knows w d) :
    Wrote platform w (carryOut platform ch w d).1 := by
  cases d with
  | registerFind data =>
      simp only [carryOut]
      split <;> exact .same
  | registerCreate email data =>
      simp only [carryOut, World.createUser]
      -- the two unique columns, id and e-mail
      by_cases htaken : (w.findUser (newUser platform ch email data).id).isSome ∨
          (w.findEmail (newUser platform ch email data).email).isSome
      · rw [if_pos htaken]
        exact .same
      · rw [if_neg htaken]
        simp only [not_or, Bool.not_eq_true, Option.isSome_eq_false_iff,
          Option.isNone_iff_eq_none] at htaken
        exact .created (newUser platform ch email data) data.password ch.salt htaken.1 htaken.2 rfl
          rfl
  | registerSign user => exact .signedIn user h
  | loginFind data =>
      simp only [carryOut]
      cases hfind : w.findEmail (platform.normalizeEmail data.email) with
      | none => exact .same
      | some user =>
          dsimp only
          split
          · exact .signedIn user ⟨user, RowTable.lookup_mem hfind, rfl⟩
          · exact .same
  | getMeFind userId =>
      simp only [carryOut]
      split <;> exact .same
  | profileUpdate userId data =>
      simp only [carryOut, World.setFullName]
      cases w.findUser userId with
      | none => exact .same
      | some user => exact .renamed userId data
  | changeFind userId data =>
      simp only [carryOut]
      repeat' split
      all_goals exact .same
  | changeUpdate userId data =>
      simp only [carryOut]
      split
      · exact .same
      · rename_i w' hset
        exact wrote_of_setPassword hset
  | forgotFind email =>
      simp only [carryOut]
      split <;> exact .same
  | forgotUpdate user =>
      simp only [carryOut]
      split
      · exact .same
      · rename_i w' hset
        exact wrote_of_setPassword hset
  | sendForgotPasswordEmail email newPassword => exact .mailed email newPassword

/-- Nor does a call that fails write anything else. -/
theorem decide_wrote {ch : Choice} {d : Ask} {prog : Op} (hd : Knows w d)
    (h : (accounts platform).decide ch w d = some (w', prog)) : Wrote platform w w' := by
  have h := Option.some.inj h
  split at h
  · cases h
    exact .same
  · rw [show w' = (carryOut platform ch w d).1 by rw [h]]
    exact carryOut_wrote platform ch hd

/-- The requests in flight know what they go on with. -/
def Informed (p : State) : Prop := ∀ prog ∈ p.ops, prog.Meets (Knows p.world) (fun _ => True)

/-- A request knows nothing when it begins. -/
theorem enter_meets (r : Request) : r.enter.Meets (Knows w) (fun _ => True) := by
  cases r with
  | register data => trivial
  | login data => trivial
  | getMe token => cases token <;> trivial
  | updateProfile token data => cases token <;> trivial
  | changePassword token data => cases token <;> trivial
  | forgotPassword email => trivial

/-- Every step keeps what the requests know. -/
theorem Informed.step (hp : Informed p) (hs : (accounts platform).Step G p q) : Informed q := by
  refine hs.meets (K := fun _ _ => True) hp ?_ ?_ ?_
  · intro r prog _ henter
    cases henter
    exact enter_meets r
  · intro ch d w' prog _ hd _ hdecide
    refine ⟨?_, fun d' h => (decide_wrote hd hdecide).knows h, fun _ h => h⟩
    have hdecide := Option.some.inj hdecide
    split at hdecide
    · cases hdecide
      trivial
    · have hmeets := carryOut_knows platform ch hd
      rw [hdecide] at hmeets
      exact hmeets
  · intro e
    exact isEmptyElim e

/-- At the start nobody is in flight. -/
theorem Opening.informed (h : Opening platform p) : Informed p := by
  intro prog hprog
  rw [h.idle] at hprog
  cases hprog

/-- The inversion of a step: the store makes one of these moves. -/
theorem step_wrote (hp : Informed p) (hs : (accounts platform).Step G p q) :
    Wrote platform p.world q.world := by
  cases hs with
  | started r prog _ _ => exact .same
  | asked i ch d w' prog hi _ hd => exact decide_wrote (hp _ (List.mem_of_getElem? hi)) hd
  | settled i h rest _ => exact .same
  | resolved i k ch ts t h rest w' _ _ _ _ => exact isEmptyElim t
  | wentOn i k ch ts t t' h rest w' _ _ _ _ => exact isEmptyElim t
  | threw i k ch ts t h rest w' _ _ _ _ => exact isEmptyElim t
  | moved e _ => exact isEmptyElim e

/-! ## What every state keeps -/

/-- The table as any run leaves it: keys and e-mails are unique, tokens name accounts, the
    accounts of the staff are those of the start, and a hash is that of the password last
    written for its account. -/
structure Kept (platform : Platform) (start : List User) (w : World) : Prop where
  keyed : RowTable.Keyed User.id w.users
  emails : RowTable.Keyed User.email w.users
  issued : ∀ payload ∈ w.issued, ∃ user ∈ w.users, user.payload = payload
  staff : ∀ user ∈ w.users, user.role ≠ .customer → ∃ user₀ ∈ start, user₀.payload = user.payload
  hashed : ∀ user ∈ w.users, ∃ password salt, w.lastWritten user.id = some password ∧
    user.passwordHash = platform.hash password salt

/-- At the start every account has the password it was given. -/
theorem Opening.kept (h : Opening platform p) : Kept platform p.world.users p.world := by
  refine ⟨h.keyed, h.emails, ?_, fun user huser _ => ⟨user, huser, rfl⟩, h.hashed⟩
  rw [h.issued]
  intro payload hpayload
  cases hpayload

/-- Rows that keep what a token says keep the keys, the tokens and the staff. -/
theorem Kept.rewrite {start : List User} {id : UserId} {f : User → User}
    (h : Kept platform start w) (hf : ∀ user, (f user).payload = user.payload)
    (written : List (UserId × String))
    (hhashed : ∀ user ∈ RowTable.modify User.id id f w.users, ∃ password salt,
      ({ w with users := RowTable.modify User.id id f w.users, written } : World).lastWritten
        user.id = some password ∧ user.passwordHash = platform.hash password salt) :
    Kept platform start { w with users := RowTable.modify User.id id f w.users, written } := by
  have hid : ∀ user, (f user).id = user.id := fun user => congrArg JwtPayload.sub (hf user)
  have hemail : ∀ user, (f user).email = user.email :=
    fun user => congrArg JwtPayload.email (hf user)
  have hpayload : ∀ user, (if user.id = id then f user else user).payload = user.payload := by
    intro user
    split
    · exact hf user
    · rfl
  refine ⟨h.keyed.modify hid, ?_, ?_, ?_, hhashed⟩
  · rw [RowTable.Keyed, RowTable.column_modify hemail]
    exact h.emails
  · intro payload hmem
    obtain ⟨user, huser, rfl⟩ := h.issued payload hmem
    exact ⟨_, List.mem_map_of_mem huser, hpayload user⟩
  · intro user' huser' hrole
    obtain ⟨user, huser, rfl⟩ := RowTable.mem_modify huser'
    rw [hpayload]
    refine h.staff user huser ?_
    rw [show user.role = (if user.id = id then f user else user).role from
      (congrArg JwtPayload.role (hpayload user)).symm]
    exact hrole

/-- A write keeps the account's password the one last written. -/
theorem Kept.wrote {start : List User} (h : Kept platform start w) (hw : Wrote platform w w') :
    Kept platform start w' := by
  cases hw with
  | same => exact h
  | mailed email password => exact ⟨h.keyed, h.emails, h.issued, h.staff, h.hashed⟩
  | signedIn user huser =>
      refine ⟨h.keyed, h.emails, ?_, h.staff, h.hashed⟩
      exact List.forall_mem_cons.mpr ⟨huser, h.issued⟩
  | created user password salt hid hemail hrole hhash =>
      refine ⟨h.keyed.append hid, h.emails.append hemail, ?_, ?_, ?_⟩
      -- tokens signed before name rows that are still there
      · intro payload hpayload
        obtain ⟨user', huser', heq⟩ := h.issued payload hpayload
        exact ⟨user', List.mem_append_left _ huser', heq⟩
      · refine List.forall_mem_append.mpr ⟨h.staff, List.forall_mem_singleton.mpr ?_⟩
        intro hstaff
        exact absurd hrole hstaff
      · refine List.forall_mem_append.mpr ⟨?_, List.forall_mem_singleton.mpr ?_⟩
        · intro user' huser'
          obtain ⟨password', salt', hlast, hhash'⟩ := h.hashed user' huser'
          have hne : user.id ≠ user'.id := Ne.symm (RowTable.lookup_eq_none.mp hid user' huser')
          refine ⟨password', salt', ?_, hhash'⟩
          rw [World.lastWritten, List.find?_cons_of_neg (by simpa using hne)]
          exact hlast
        · refine ⟨password, salt, ?_, hhash⟩
          rw [World.lastWritten, List.find?_cons_of_pos (by simp)]
          rfl
  | renamed id data =>
      have hpayload : ∀ user, (data.apply user).payload = user.payload := fun _ => rfl
      refine h.rewrite hpayload w.written ?_
      intro user' huser'
      obtain ⟨user, huser, rfl⟩ := RowTable.mem_modify huser'
      split
      · exact h.hashed user huser
      · exact h.hashed user huser
  | password id password salt =>
      have hpayload : ∀ user : User,
          ({ user with passwordHash := platform.hash password salt } : User).payload
            = user.payload := fun _ => rfl
      refine h.rewrite hpayload ((id, password) :: w.written) ?_
      intro user' huser'
      obtain ⟨user, huser, rfl⟩ := RowTable.mem_modify huser'
      -- the account whose password is written, and the others
      by_cases huid : user.id = id
      · rw [if_pos huid]
        refine ⟨password, salt, ?_, rfl⟩
        rw [World.lastWritten, List.find?_cons_of_pos (by simp [huid])]
        rfl
      · obtain ⟨password', salt', hlast, hhash⟩ := h.hashed user huser
        rw [if_neg huid]
        refine ⟨password', salt', ?_, hhash⟩
        rw [World.lastWritten, List.find?_cons_of_neg (by simpa using Ne.symm huid)]
        exact hlast

/-- So does a whole run. -/
theorem run_kept (h₀ : Opening platform p₀) (hr : (accounts platform).Run G p₀ p) :
    Kept platform p₀.world.users p.world := by
  have hboth := hr.inv (I := fun p => Informed p ∧ Kept platform p₀.world.users p.world)
    (fun _ _ hp hs => ⟨hp.1.step hs, hp.2.wrote (step_wrote hp.1 hs)⟩) ⟨h₀.informed, h₀.kept⟩
  exact hboth.2

/-! ## A platform, and a server with one account -/

/-- A platform that keeps passwords as they are and reads them as bcrypt does, for text that
    has no capitals. -/
def plain : Platform where
  toLowerCase := fun text => text
  hash := fun password _ => password
  compare := fun password passwordHash => effective password = effective passwordHash

theorem plain_compares : plain.Compares := fun _ _ _ => decide_eq_true_iff

/-- The account that is there at the start. -/
def admin : User := ⟨1, "admin@ticketbox.vn", "secret1", none, .admin⟩

/-- A platform with its administrator, who has been told his password. -/
def opened : State := ⟨⟨[admin], [], [(1, "secret1")], []⟩, []⟩

/-- The platform with its administrator is a start. -/
theorem opened_opening : Opening plain opened := by
  refine ⟨rfl, by decide, by decide, rfl, rfl, ?_⟩
  exact List.forall_mem_singleton.mpr ⟨"secret1", "", rfl, rfl⟩

/-- The new password is long enough. -/
theorem long_enough : 6 ≤ "secret2".length := by decide

/-- Another client registers. -/
def registration : RegisterDto := ⟨" an@ticketbox.vn", "secret2", none, long_enough⟩

/-- A registration, its three calls carried out. -/
def registering : List (Action Choice Request Empty) :=
  [.start (.register registration), .step 0 0 {}, .step 0 0 { id := 2, salt := "s" },
    .step 0 0 {}]

/-! ## Tokens -/

/-- **A token names its account**: after every run of requests, however they interleave and
    fail, every access token that was ever signed carries the id, the e-mail and the role of
    an account as it is now, and a role above that of a customer only if the account had it
    from the start. -/
theorem token_names_account (h₀ : Opening platform p₀)
    (hr : (accounts platform).Run Guard.any p₀ p) {payload : JwtPayload}
    (hpayload : payload ∈ p.world.issued) :
    (∃ user ∈ p.world.users, user.payload = payload) ∧
      (payload.role ≠ .customer → ∃ user₀ ∈ p₀.world.users, user₀.payload = payload) := by
  have hkept := run_kept h₀ hr
  obtain ⟨user, huser, rfl⟩ := hkept.issued payload hpayload
  exact ⟨⟨user, huser, rfl⟩, fun hrole => hkept.staff user huser hrole⟩

/-- The token of the account that was registered names it. -/
theorem token_names_account_registered :
    ∃ p, (accounts plain).Run Guard.any opened p ∧
      ∃ user ∈ p.world.users, user.payload = ⟨2, "an@ticketbox.vn", .customer⟩ := by
  obtain ⟨p, hrun, hissued⟩ := exists_run (S := accounts plain) (G := Guard.any) (p := opened)
    registering (fun p => ⟨2, "an@ticketbox.vn", .customer⟩ ∈ p.world.issued) (by decide)
  exact ⟨p, hrun, (token_names_account opened_opening hrun hissued).1⟩

/-! ## Passwords -/

/-- **The last password signs in**: after every run of requests, a login that does not fail
    is answered with a token exactly where its address, trimmed and in lower case, is that of
    an account and bcrypt reads in its password what it reads in the one last written for
    the account; the token is the account's. -/
theorem login_iff (hcompares : platform.Compares) (h₀ : Opening platform p₀)
    (hr : (accounts platform).Run Guard.any p₀ p) (ch : Choice) (data : LoginDto)
    (token : JwtPayload) (view : UserView) :
    (carryOut platform ch p.world (.loginFind data)).2 = .ret (.signedIn token view) ↔
      ∃ user ∈ p.world.users, user.email = platform.normalizeEmail data.email ∧
        (∃ password, p.world.lastWritten user.id = some password ∧
          effective data.password = effective password) ∧
        token = user.payload ∧ view = user.view := by
  have hkept := run_kept h₀ hr
  simp only [carryOut]
  cases hfind : p.world.findEmail (platform.normalizeEmail data.email) with
  | none =>
      constructor
      · intro h
        cases h
      · rintro ⟨user, huser, hemail, -⟩
        exact absurd hemail (RowTable.lookup_eq_none.mp hfind user huser)
  | some user =>
      have huser : user ∈ p.world.users := RowTable.lookup_mem hfind
      have hemail : user.email = platform.normalizeEmail data.email := RowTable.lookup_key hfind
      obtain ⟨password, salt, hlast, hhash⟩ := hkept.hashed user huser
      have hmatch := hcompares data.password password salt
      rw [← hhash] at hmatch
      dsimp only
      by_cases hcompare : platform.compare data.password user.passwordHash = true
      · rw [if_pos hcompare, signIn]
        constructor
        · intro h
          cases h
          exact ⟨user, huser, hemail, ⟨password, hlast, hmatch.mp hcompare⟩, rfl, rfl⟩
        · rintro ⟨user', huser', hemail', -, rfl, rfl⟩
          rw [RowTable.eq_of_key hkept.emails huser' huser (hemail'.trans hemail.symm)]
      · rw [if_neg hcompare]
        constructor
        · intro h
          cases h
        · rintro ⟨user', huser', hemail', ⟨password', hlast', heq⟩, -⟩
          rw [RowTable.eq_of_key hkept.emails huser' huser (hemail'.trans hemail.symm),
            hlast] at hlast'
          cases hlast'
          exact absurd (hmatch.mpr heq) hcompare

theorem secret_ne : "secret1" ≠ "" := by decide

/-- The administrator signs in, with a space behind the address. -/
theorem login_iff_admin :
    (carryOut plain {} opened.world (.loginFind ⟨"admin@ticketbox.vn ", "secret1", secret_ne⟩)).2
      = .ret (.signedIn ⟨1, "admin@ticketbox.vn", .admin⟩
        ⟨1, "admin@ticketbox.vn", none, .admin⟩) :=
  (login_iff plain_compares opened_opening (System.Run.refl opened) {}
      ⟨"admin@ticketbox.vn ", "secret1", secret_ne⟩ _ _).mpr
    ⟨admin, List.mem_singleton_self _, by decide, ⟨"secret1", rfl, rfl⟩, rfl, rfl⟩

/-! ## Mails -/

/-- Setting a password mails nothing. -/
theorem setPassword_mailed {id : UserId} {passwordHash password : String}
    (h : w.setPassword id passwordHash password = some w') : w'.mailed = w.mailed := by
  unfold World.setPassword at h
  split at h
  · cases h
  · cases h
    rfl

/-- Creating an account signs nothing. -/
theorem createUser_issued {user : User} {password : String}
    (h : w.createUser user password = some w') : w'.issued = w.issued := by
  unfold World.createUser at h
  split at h
  · cases h
  · cases h
    rfl

/-- Only a reset mails a password. -/
theorem carryOut_mailed (platform : Platform) (ch : Choice) {d : Ask} {entry : String × String}
    (hentry : entry ∈ (carryOut platform ch w d).1.mailed) :
    entry ∈ w.mailed ∨ d = .sendForgotPasswordEmail entry.1 entry.2 := by
  cases d with
  | registerFind data =>
      simp only [carryOut] at hentry
      split at hentry <;> exact .inl hentry
  | registerCreate email data =>
      simp only [carryOut, World.createUser] at hentry
      split at hentry
      · exact .inl hentry
      · rename_i w' hcreate
        split at hcreate
        · cases hcreate
        · cases hcreate
          exact .inl hentry
  | registerSign user => exact .inl hentry
  | loginFind data =>
      simp only [carryOut] at hentry
      repeat' split at hentry
      all_goals exact .inl hentry
  | getMeFind userId =>
      simp only [carryOut] at hentry
      split at hentry <;> exact .inl hentry
  | profileUpdate userId data =>
      simp only [carryOut, World.setFullName] at hentry
      cases hfind : w.findUser userId with
      | none =>
          rw [hfind] at hentry
          exact .inl hentry
      | some user =>
          rw [hfind] at hentry
          exact .inl hentry
  | changeFind userId data =>
      simp only [carryOut] at hentry
      repeat' split at hentry
      all_goals exact .inl hentry
  | changeUpdate userId data =>
      simp only [carryOut] at hentry
      split at hentry
      · exact .inl hentry
      · rename_i w' hset
        exact .inl (setPassword_mailed hset ▸ hentry)
  | forgotFind email =>
      simp only [carryOut] at hentry
      split at hentry <;> exact .inl hentry
  | forgotUpdate user =>
      simp only [carryOut] at hentry
      split at hentry
      · exact .inl hentry
      · rename_i w' hset
        exact .inl (setPassword_mailed hset ▸ hentry)
  | sendForgotPasswordEmail email password =>
      rcases List.mem_cons.mp hentry with rfl | hentry
      · exact .inr rfl
      · exact .inl hentry

/-- The requests in flight know what they go on with, and the mails are of passwords
    written. -/
structure Mailing (p : State) : Prop where
  ops : Informed p
  mailed : ∀ entry ∈ p.world.mailed, WrittenFor p.world entry.1 entry.2

/-- Every step keeps the mails to the owners. -/
theorem Mailing.step (hp : Mailing p) (hs : (accounts platform).Step G p q) : Mailing q := by
  have hwrote := step_wrote hp.ops hs
  refine ⟨hp.ops.step hs, ?_⟩
  cases hs with
  | started r prog _ _ => exact hp.mailed
  | settled i h rest _ => exact hp.mailed
  | resolved i k ch ts t h rest w' _ _ _ _ => exact isEmptyElim t
  | wentOn i k ch ts t t' h rest w' _ _ _ _ => exact isEmptyElim t
  | threw i k ch ts t h rest w' _ _ _ _ => exact isEmptyElim t
  | moved e _ => exact isEmptyElim e
  | asked i ch d w' prog hi _ hdecide =>
      have hknows : Knows p.world d := hp.ops _ (List.mem_of_getElem? hi)
      intro entry hentry
      have hold : entry ∈ p.world.mailed ∨ d = .sendForgotPasswordEmail entry.1 entry.2 := by
        have hdecide := Option.some.inj hdecide
        split at hdecide
        · cases hdecide
          exact .inl hentry
        · refine carryOut_mailed platform ch ?_
          rw [hdecide]
          exact hentry
      rcases hold with hold | rfl
      · exact hwrote.writtenFor (hp.mailed entry hold)
      · exact hwrote.writtenFor hknows

/-- **A reset is told to its owner**: after every run of requests, every password that was
    ever mailed went to the e-mail of an account, and had been written for that account. -/
theorem mailed_to_owner (h₀ : Opening platform p₀)
    (hr : (accounts platform).Run Guard.any p₀ p) {email password : String}
    (hmailed : (email, password) ∈ p.world.mailed) :
    ∃ user ∈ p.world.users, user.email = email ∧ (user.id, password) ∈ p.world.written := by
  have hstart : Mailing p₀ := by
    refine ⟨h₀.informed, ?_⟩
    rw [h₀.mailed]
    intro entry hentry
    cases hentry
  exact (hr.inv (fun _ _ hp hs => hp.step hs) hstart).mailed (email, password) hmailed

/-- The administrator asks for a new password, and the mail goes out. -/
def resetting : List (Action Choice Request Empty) :=
  [.start (.forgotPassword "admin@ticketbox.vn"), .step 0 0 {},
    .step 0 0 { digits := "k3f9x2m7q1" }, .step 0 0 {}]

/-- The new password of the administrator has been mailed to him. -/
theorem mailed_to_owner_reset :
    ∃ p, (accounts plain).Run Guard.any opened p ∧ ∃ user ∈ p.world.users,
      user.email = "admin@ticketbox.vn" ∧ (user.id, "k3f9x2m7") ∈ p.world.written := by
  obtain ⟨p, hrun, hmailed⟩ := exists_run (S := accounts plain) (G := Guard.any) (p := opened)
    resetting (fun p => ("admin@ticketbox.vn", "k3f9x2m7") ∈ p.world.mailed) (by decide)
  exact ⟨p, hrun, mailed_to_owner opened_opening hrun hmailed⟩

/-! ## Requests that fail -/

/-- The reset of a request has written a password for the account of its address. -/
def Replaced (platform : Platform) (request : Request) (w w' : World) (user : User)
    (password : String) : Prop :=
  ∃ email salt, request = .forgotPassword email ∧
    w.findEmail (platform.normalizeEmail email) = some user ∧
    w.setPassword user.id (platform.hash password salt) password = some w'

/-- The registration of a request has inserted its account. -/
def Registered (platform : Platform) (request : Request) (w w' : World) (user : User) : Prop :=
  ∃ data ch, request = .register data ∧
    user = newUser platform ch (platform.normalizeEmail data.email) data ∧
    w.createUser user data.password = some w'

/-- Where a request by itself stands: it has done nothing before its last call, but for a
    reset, whose mail comes after its write, and a registration, whose token is signed
    after it. -/
def Midway (platform : Platform) (request : Request) (w w' : World) : Op → Prop
  | .ret (.error e) => w' = w ∨
      (∃ user password message, e = mailError message ∧
        Replaced platform request w w' user password) ∨
      ∃ user, e = internalError ∧ Registered platform request w w' user
  | .ret _ => True
  | .ask (.registerFind data) => w' = w ∧ request = .register data
  | .ask (.registerCreate email data) => w' = w ∧ request = .register data ∧
      email = platform.normalizeEmail data.email
  | .ask (.registerSign user) => Registered platform request w w' user
  | .ask (.sendForgotPasswordEmail email password) =>
      ∃ user, user.email = email ∧ Replaced platform request w w' user password
  | .ask (.forgotFind email) => w' = w ∧ request = .forgotPassword email
  | .ask (.forgotUpdate user) => w' = w ∧ ∃ email, request = .forgotPassword email ∧
      w.findEmail (platform.normalizeEmail email) = some user
  | .ask _ => w' = w
  | .par _ _ _ => False

/-- A request begins with nothing done. -/
theorem enter_midway (platform : Platform) (request : Request) (w : World) :
    Midway platform request w w request.enter := by
  cases request with
  | register data => exact ⟨rfl, rfl⟩
  | login data => rfl
  | getMe token =>
      cases token with
      | absent => exact .inl rfl
      | refused => exact .inl rfl
      | verified payload => rfl
  | updateProfile token data =>
      cases token with
      | absent => exact .inl rfl
      | refused => exact .inl rfl
      | verified payload => rfl
  | changePassword token data =>
      cases token with
      | absent => exact .inl rfl
      | refused => exact .inl rfl
      | verified payload => rfl
  | forgotPassword email => exact ⟨rfl, rfl⟩

/-- A call that fails leaves what was done before it. -/
theorem failure_midway {request : Request} {ch : Choice} {d : Ask}
    (h : Midway platform request w w' (.ask d)) :
    Midway platform request w w' (.ret (.error (failure ch d))) := by
  cases d with
  | sendForgotPasswordEmail email password =>
      obtain ⟨user, -, hreplaced⟩ := h
      exact .inr (.inl ⟨user, password, ch.errorMessage, rfl, hreplaced⟩)
  | registerSign user => exact .inr (.inr ⟨user, rfl, h⟩)
  | registerFind data => exact .inl h.1
  | registerCreate email data => exact .inl h.1
  | forgotFind email => exact .inl h.1
  | forgotUpdate user => exact .inl h.1
  | _ => exact .inl h

/-- A call goes on from what was done before it. -/
theorem carryOut_midway {request : Request} (ch : Choice) {d : Ask}
    (h : Midway platform request w w' (.ask d)) :
    Midway platform request w (carryOut platform ch w' d).1 (carryOut platform ch w' d).2 := by
  cases d with
  | registerFind data =>
      obtain ⟨rfl, hrequest⟩ := h
      simp only [carryOut]
      split
      · exact .inl rfl
      · exact ⟨rfl, hrequest, rfl⟩
  | registerCreate email data =>
      obtain ⟨rfl, hrequest, rfl⟩ := h
      simp only [carryOut]
      split
      · exact .inl rfl
      · rename_i w₁ hcreate
        -- from here on the account stays, whatever becomes of the token
        exact ⟨data, ch, hrequest, rfl, hcreate⟩
  | registerSign user => trivial
  | loginFind data =>
      obtain rfl : w' = w := h
      simp only [carryOut]
      split
      · exact .inl rfl
      · split
        · trivial
        · exact .inl rfl
  | getMeFind userId =>
      obtain rfl : w' = w := h
      simp only [carryOut]
      split
      · exact .inl rfl
      · trivial
  | profileUpdate userId data =>
      obtain rfl : w' = w := h
      simp only [carryOut]
      split
      · exact .inl rfl
      · trivial
  | changeFind userId data =>
      obtain rfl : w' = w := h
      simp only [carryOut]
      split
      · exact .inl rfl
      · split
        · split
          · exact .inl rfl
          · rfl
        · exact .inl rfl
  | changeUpdate userId data =>
      obtain rfl : w' = w := h
      simp only [carryOut]
      split
      · exact .inl rfl
      · trivial
  | forgotFind email =>
      obtain ⟨rfl, hrequest⟩ := h
      simp only [carryOut]
      split
      · exact .inl rfl
      · rename_i user hfind
        exact ⟨rfl, email, hrequest, hfind⟩
  | forgotUpdate user =>
      obtain ⟨rfl, email, hrequest, hfind⟩ := h
      simp only [carryOut]
      split
      · exact .inl rfl
      · rename_i w₁ hset
        -- from here on the new password stays, whatever becomes of the mail
        exact ⟨user, rfl, email, ch.salt, hrequest, hfind, hset⟩
  | sendForgotPasswordEmail email password => trivial

/-- **A request that fails has done nothing**: whatever request runs by itself, and whichever
    of its calls fails, an error leaves the store as it was.  There are two exceptions: a
    reset whose mail could not be sent, where the account of its address has a new password
    that nobody has been told, and a registration whose token could not be signed, where the
    account is there all the same. -/
theorem failed_changes_nothing {request : Request} {e : AuthError}
    {trace : List (Turn World Ask Empty Answer Choice)}
    (h : (accounts platform).Alone Eq w request.enter trace w' (.ret (.error e))) :
    w' = w ∨
      (∃ user password message, e = mailError message ∧ w'.mailed = w.mailed ∧
        Replaced platform request w w' user password) ∨
      ∃ user, e = internalError ∧ w'.issued = w.issued ∧
        Registered platform request w w' user := by
  have hmidway : Midway platform request w w' (.ret (.error e)) := by
    refine h.inv (I := fun _ w' prog => Midway platform request w w' prog)
      (enter_midway platform request w) ?_ ?_
    · rintro tr w₁ _ prog hprog rfl
      exact hprog
    · intro tr w₁ w₂ prog₁ prog₂ k ch hprog hturn
      cases hturn with
      | asked d _ _ hdecide =>
          have hdecide := Option.some.inj hdecide
          split at hdecide
          · cases hdecide
            exact failure_midway hprog
          · have hmid := carryOut_midway ch hprog
            rw [hdecide] at hmid
            exact hmid
      | settled hh rest => exact hprog.elim
      | resolved ts t hh rest _ _ _ => exact isEmptyElim t
      | wentOn ts t t' hh rest _ _ _ => exact isEmptyElim t
  rcases hmidway with hsame | ⟨user, password, message, he, hreplaced⟩ | ⟨user, he, hregistered⟩
  · exact .inl hsame
  · obtain ⟨email, salt, hrequest, hfind, hset⟩ := hreplaced
    exact .inr (.inl ⟨user, password, message, he, setPassword_mailed hset, email, salt,
      hrequest, hfind, hset⟩)
  · obtain ⟨data, salt, hrequest, huser, hcreate⟩ := hregistered
    exact .inr (.inr ⟨user, he, createUser_issued hcreate, data, salt, hrequest, huser, hcreate⟩)

/-- A reset whose mail cannot be sent. -/
def unsent : List (Nat × Choice) :=
  [(0, {}), (0, { digits := "k3f9x2m7q1" }), (0, { fails := true, errorMessage := "SMTP" })]

/-- The password is written, and nothing mailed. -/
def unsentEnd : World :=
  { opened.world with
    users := [{ admin with passwordHash := "k3f9x2m7" }]
    written := [(1, "k3f9x2m7"), (1, "secret1")] }

/-- The mail that fails leaves the password as it was. -/
theorem failed_changes_nothing_unsent :
    ∃ trace, (accounts plain).Alone Eq opened.world
        (Request.forgotPassword "admin@ticketbox.vn").enter trace unsentEnd
        (.ret (.error (mailError "SMTP"))) ∧
      (unsentEnd = opened.world ∨
        (∃ user password message, mailError "SMTP" = mailError message ∧
          unsentEnd.mailed = opened.world.mailed ∧
          Replaced plain (.forgotPassword "admin@ticketbox.vn") opened.world unsentEnd user
            password) ∨
        ∃ user, mailError "SMTP" = internalError ∧ unsentEnd.issued = opened.world.issued ∧
          Registered plain (.forgotPassword "admin@ticketbox.vn") opened.world unsentEnd
            user) := by
  obtain ⟨trace, hturns⟩ : ∃ trace, (accounts plain).turns opened.world
      (Request.forgotPassword "admin@ticketbox.vn").enter unsent
      = some (trace, unsentEnd, .ret (.error (mailError "SMTP"))) := ⟨_, rfl⟩
  have halone : (accounts plain).Alone Eq opened.world
      (Request.forgotPassword "admin@ticketbox.vn").enter trace unsentEnd
      (.ret (.error (mailError "SMTP"))) := alone_of_turns hturns
  exact ⟨trace, halone, failed_changes_nothing halone⟩

end TicketAccounts
