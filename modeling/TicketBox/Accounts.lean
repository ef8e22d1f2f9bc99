import TicketBox.Pwa
import TicketBox.Sequential

/-! # `auth.service.ts`

    The user table and the requests on it: `register`, `login`, `getMe`,
    `updateProfile`, `changePassword` and `forgotPassword`.  Every query is one call of
    `Ask`; requests interleave between them, and the check that an e-mail is free
    comes before the insert, so the unique index decides.  What comes from outside is a
    parameter (`Platform`): bcrypt, and the built-in `toLowerCase`.  A token is what its
    signature vouches for, the payload. -/

namespace TicketAccounts

open Interleave
open TicketStore (UserId Role)

/-! ## Rows, tokens and bodies -/

/-- A row of `User`, of which the account requests use these columns. -/
structure User where
  id : UserId
  email : String
  passwordHash : String
  fullName : Option String
  role : Role
  deriving DecidableEq

/-- `JwtPayload`: what a token says of its account. -/
structure JwtPayload where
  sub : UserId
  email : String
  role : Role
  deriving DecidableEq

/-- What the responses show of an account. -/
structure UserView where
  id : UserId
  email : String
  fullName : Option String
  role : Role
  deriving DecidableEq

/-- What `signToken` writes of an account. -/
def User.payload (user : User) : JwtPayload := ⟨user.id, user.email, user.role⟩

/-- The account without its password, as `toUserResponse` shows it. -/
def User.view (user : User) : UserView := ⟨user.id, user.email, user.fullName, user.role⟩

/-- A body that passes its checks; a full name that is absent or null is stored as null. -/
structure RegisterDto where
  email : String
  password : String
  fullName : Option String
  minLength : 6 ≤ password.length

/-- `LoginDto`, as the validation pipe lets it through. -/
structure LoginDto where
  email : String
  password : String
  notEmpty : password ≠ ""

/-- An absent name (`none`) leaves the column, null (`some none`) clears it. -/
structure UpdateProfileDto where
  fullName : Option (Option String)
  maxLength : ∀ name ∈ fullName, ∀ text ∈ name, text.length ≤ 255

/-- `ChangePasswordDto`, as the validation pipe lets it through. -/
structure ChangePasswordDto where
  currentPassword : String
  newPassword : String
  notEmpty : currentPassword ≠ ""
  minLength : 6 ≤ newPassword.length

/-! ## What is not in the repository -/

/-- What the account requests call outside the repository. -/
structure Platform where
  toLowerCase : String → String
  /-- `bcrypt.hash(password, salt)` -/
  hash : String → String → String
  /-- `bcrypt.compare(password, passwordHash)` -/
  compare : String → String → Bool

/-- `email.trim().toLowerCase()` -/
def Platform.normalizeEmail (platform : Platform) (email : String) : String :=
  platform.toLowerCase (String.ofList (CheckinPwa.trim email.toList))

/-- What bcrypt reads of a password: its first 72 bytes. -/
def effective (password : String) : List UInt8 := password.toUTF8.data.toList.take 72

/-- A comparison succeeds where bcrypt has read the same of both passwords. -/
def Platform.Compares (platform : Platform) : Prop :=
  ∀ password password' salt,
    platform.compare password (platform.hash password' salt) = true ↔
      effective password = effective password'

/-! ## The table -/

/-- The accounts, with what has been signed, written and mailed. -/
structure World where
  users : List User
  /-- bookkeeping: the payloads of the tokens signed so far -/
  issued : List JwtPayload
  /-- bookkeeping: the passwords written so far, the last one first -/
  written : List (UserId × String)
  /-- bookkeeping: the passwords mailed so far, with the address -/
  mailed : List (String × String)

/-- `prisma.user.findUnique` by id. -/
def World.findUser (id : UserId) (w : World) : Option User := RowTable.lookup User.id id w.users

/-- `findUnique({ where: { email } })` -/
def World.findEmail (email : String) (w : World) : Option User :=
  RowTable.lookup User.email email w.users

/-- `user.create`; a taken id or e-mail violates its unique index. -/
def World.createUser (user : User) (password : String) (w : World) : Option World :=
  if (w.findUser user.id).isSome ∨ (w.findEmail user.email).isSome then none
  else
    some { w with users := w.users ++ [user], written := (user.id, password) :: w.written }

/-- `user.update({ where: { id }, data: { passwordHash } })`; an absent row throws. -/
def World.setPassword (id : UserId) (passwordHash password : String) (w : World) : Option World :=
  match w.findUser id with
  | none => none
  | some _ =>
      some { w with
        users := RowTable.modify User.id id (fun u => { u with passwordHash }) w.users
        written := (id, password) :: w.written }

/-- The columns that `updateProfile` writes. -/
def UpdateProfileDto.apply (data : UpdateProfileDto) (user : User) : User :=
  { user with fullName := data.fullName.getD user.fullName }

/-- `user.update({ where: { id }, data: { fullName } })`, with the row after it. -/
def World.setFullName (id : UserId) (data : UpdateProfileDto) (w : World) : Option (User × World) :=
  (w.findUser id).map fun user =>
    (data.apply user, { w with users := RowTable.modify User.id id data.apply w.users })

/-- `jwtService.signAsync`, for a user. -/
def World.issue (user : User) (w : World) : World := { w with issued := user.payload :: w.issued }

/-- The password last written for an account. -/
def World.lastWritten (id : UserId) (w : World) : Option String :=
  (w.written.find? fun entry => entry.1 = id).map Prod.snd

/-! ## Requests -/

/-- The exceptions of `AuthService`. -/
inductive AuthError where
  | unauthorized (message : String)
  | conflict (message : String)
  | notFound (message : String)
  | internal (message : String)
  deriving DecidableEq

/-- What an account request is answered. -/
inductive Answer where
  | signedIn (accessToken : JwtPayload) (user : UserView)
  | account (user : UserView)
  | done (message : String)
  | error (e : AuthError)
  deriving DecidableEq

/-- The awaited calls, in the order of the code. -/
inductive Ask where
  | registerFind (data : RegisterDto)
  | registerCreate (email : String) (data : RegisterDto)
  /-- `jwtService.signAsync`, of `register` -/
  | registerSign (user : User)
  | loginFind (data : LoginDto)
  | getMeFind (userId : UserId)
  | profileUpdate (userId : UserId) (data : UpdateProfileDto)
  | changeFind (userId : UserId) (data : ChangePasswordDto)
  | changeUpdate (userId : UserId) (data : ChangePasswordDto)
  | forgotFind (email : String)
  | forgotUpdate (user : User)
  | sendForgotPasswordEmail (email newPassword : String)

/-- An account request in flight. -/
abbrev Op := Prog Ask Empty Answer

/-- What the scheduler resolves: whether the call fails and with which message, the id and
    the salt that are generated, and the digits of `Math.random().toString(36)`. -/
structure Choice where
  fails : Bool := false
  errorMessage : String := ""
  id : UserId := 0
  salt : String := ""
  digits : String := ""

/-- What Nest makes of an error that is none of its own. -/
def internalError : AuthError := .internal "Internal server error"

/-- What `login` answers whether the e-mail or the password is wrong. -/
def wrongCredentials : AuthError := .unauthorized "Sai email hoặc mật khẩu"

/-- What a token of an account that is gone is answered. -/
def noSuchUser : AuthError := .unauthorized "Người dùng không tồn tại"

/-- What `forgotPassword` answers when the mail is not accepted. -/
def mailError (errorMessage : String) : AuthError :=
  .internal s!"Không thể gửi email khôi phục mật khẩu: {errorMessage}. Vui lòng kiểm tra lại cấu hình các biến môi trường SMTP (EMAIL_HOST, EMAIL_PORT, EMAIL_USER, EMAIL_PASS, EMAIL_SECURE) trong cấu hình của Render."

/-- `Math.random().toString(36).substring(2, 10)` -/
def generatedPassword (ch : Choice) : String := String.ofList (ch.digits.toList.take 8)

/-- The row that `register` creates. -/
def newUser (platform : Platform) (ch : Choice) (email : String) (data : RegisterDto) : User where
  id := ch.id
  email := email
  passwordHash := platform.hash data.password ch.salt
  fullName := data.fullName
  role := .customer

/-- A token and the account it is for. -/
def signIn (user : User) (w : World) : World × Op :=
  (w.issue user, .ret (.signedIn user.payload user.view))

/-- Each call that does not fail, carried out. -/
def carryOut (platform : Platform) (ch : Choice) (w : World) : Ask → World × Op
  | .registerFind data =>
      let email := platform.normalizeEmail data.email
      match w.findEmail email with
      | some _ => (w, .ret (.error (.conflict "Email này đã được sử dụng")))
      | none => (w, .ask (.registerCreate email data))
  | .registerCreate email data =>
      let user := newUser platform ch email data
      match w.createUser user data.password with
      | none => (w, .ret (.error internalError))
      | some w' => (w', .ask (.registerSign user))
  | .registerSign user => signIn user w
  -- nothing is written before `login` signs, so a failure there is one of this call
  | .loginFind data =>
      match w.findEmail (platform.normalizeEmail data.email) with
      | none => (w, .ret (.error wrongCredentials))
      | some user =>
          if platform.compare data.password user.passwordHash = true then signIn user w
          else (w, .ret (.error wrongCredentials))
  | .getMeFind userId =>
      match w.findUser userId with
      | none => (w, .ret (.error noSuchUser))
      | some user => (w, .ret (.account user.view))
  | .profileUpdate userId data =>
      match w.setFullName userId data with
      | none => (w, .ret (.error internalError))
      | some (user, w') => (w', .ret (.account user.view))
  | .changeFind userId data =>
      match w.findUser userId with
      | none => (w, .ret (.error noSuchUser))
      | some user =>
          if platform.compare data.currentPassword user.passwordHash = true then
            if data.currentPassword = data.newPassword then
              (w, .ret (.error (.conflict "Mật khẩu mới phải khác mật khẩu hiện tại")))
            else (w, .ask (.changeUpdate userId data))
          else (w, .ret (.error (.unauthorized "Mật khẩu hiện tại không đúng")))
  | .changeUpdate userId data =>
      match w.setPassword userId (platform.hash data.newPassword ch.salt) data.newPassword with
      | none => (w, .ret (.error internalError))
      | some w' => (w', .ret (.done "Mật khẩu đã được thay đổi thành công"))
  | .forgotFind email =>
      match w.findEmail (platform.normalizeEmail email) with
      | none => (w, .ret (.error (.notFound "Không tìm thấy tài khoản với email này")))
      | some user => (w, .ask (.forgotUpdate user))
  | .forgotUpdate user =>
      let password := generatedPassword ch
      match w.setPassword user.id (platform.hash password ch.salt) password with
      | none => (w, .ret (.error internalError))
      | some w' => (w', .ask (.sendForgotPasswordEmail user.email password))
  | .sendForgotPasswordEmail email newPassword =>
      ({ w with mailed := (email, newPassword) :: w.mailed },
        .ret (.done "Mật khẩu mới đã được gửi về email của bạn"))

/-- What a call that fails ends its request with; the mail's failure has its own text. -/
def failure (ch : Choice) : Ask → AuthError
  | .sendForgotPasswordEmail _ _ => mailError ch.errorMessage
  | _ => internalError

/-! ## The system -/

/-- The access token of a request: absent, refused by `jwtService.verify`, or its payload. -/
inductive Bearer where
  | absent
  | refused
  | verified (payload : JwtPayload)

/-- The routes of `AuthController`. -/
inductive Request where
  | register (data : RegisterDto)
  | login (data : LoginDto)
  | getMe (token : Bearer)
  | updateProfile (token : Bearer) (data : UpdateProfileDto)
  | changePassword (token : Bearer) (data : ChangePasswordDto)
  | forgotPassword (email : String)

/-- `AuthGuard`, before a handler that is given the token's user id. -/
def guarded (token : Bearer) (handler : UserId → Ask) : Op :=
  match token with
  | .absent => .ret (.error (.unauthorized "Không tìm thấy token truy cập"))
  | .refused => .ret (.error (.unauthorized "Token không hợp lệ hoặc đã hết hạn"))
  | .verified payload => .ask (handler payload.sub)

/-- How a request begins: the routes with a guard read the token first. -/
def Request.enter : Request → Op
  | .register data => .ask (.registerFind data)
  | .login data => .ask (.loginFind data)
  | .getMe token => guarded token .getMeFind
  | .updateProfile token data => guarded token fun userId => .profileUpdate userId data
  | .changePassword token data => guarded token fun userId => .changeFind userId data
  | .forgotPassword email => .ask (.forgotFind email)

/-- The account requests of any number of clients, interleaved at every await. -/
def accounts (platform : Platform) : System World Ask Empty Answer Choice Request Empty where
  decide := fun ch w d =>
    some (if ch.fails then (w, .ret (.error (failure ch d))) else carryOut platform ch w d)
  perform := fun _ _ t => nomatch t
  enter := fun _ request => some request.enter
  env := fun e _ => nomatch e
  detached := .error internalError

/-- The accounts with the requests in flight. -/
abbrev State := Pool World Ask Empty Answer

/-- A condition on the steps of the account requests. -/
abbrev Condition := Guard World Ask Empty Answer Choice Request Empty

/-- Nothing runs, and the passwords of the accounts there are have been written. -/
structure Opening (platform : Platform) (p : State) : Prop where
  idle : p.ops = []
  keyed : RowTable.Keyed User.id p.world.users
  emails : RowTable.Keyed User.email p.world.users
  issued : p.world.issued = []
  mailed : p.world.mailed = []
  hashed : ∀ user ∈ p.world.users, ∃ password salt,
    p.world.lastWritten user.id = some password ∧ user.passwordHash = platform.hash password salt

end TicketAccounts
