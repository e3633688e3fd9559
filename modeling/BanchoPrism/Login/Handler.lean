import BanchoPrism.Packets.Reader
import BanchoPrism.Login.Accounts

namespace BanchoPrism.Login

open Library

-- What Python makes of characters and texts: the value of a decimal digit, and int.
structure Numerals where
  digit : Char → Option Nat
  int : String → Option Int

-- text.split(sep, maxsplit)
def splitMax (sep : Char) : Nat → List Char → List (List Char)
  | 0, text => [text]
  | splits + 1, text =>
      match text.span (· ≠ sep) with
      | (head, []) => [head]
      | (head, _ :: rest) => head :: splitMax sep splits rest

-- text.rstrip("\n")
def stripNewlines (text : List Char) : List Char := (text.reverse.dropWhile (· = '\n')).reverse

structure LoginData where
  username : String
  passwordMd5 : List UInt8
  osuVersion : String
  utcOffset : Int
  displayCity : Bool
  pmPrivate : Bool
  osuPathMd5 : String
  adaptersStr : String
  adaptersMd5 : String
  uninstallMd5 : String
  diskSignatureMd5 : String

-- Unpacking as many parts as there are names is a ValueError otherwise.
def parseClientHashes (clientHashes : List Char) :
    Except PyError (String × String × String × String × String) :=
  match splitMax ':' 4 clientHashes.dropLast with
  | [osuPath, adapters, adaptersMd5, uninstall, diskSignature] =>
      .ok (String.ofList osuPath, String.ofList adapters, String.ofList adaptersMd5,
        String.ofList uninstall, String.ofList diskSignature)
  | _ => .error .value

def parseLoginData (n : Numerals) (body : List UInt8) : Except PyError LoginData := do
  let decoded ← decode body
  match splitMax '\n' 2 (stripNewlines decoded.toList) with
  | [username, password, remainder] =>
      match splitMax '|' 4 remainder with
      | [osuVersion, utcOffset, displayCity, clientHashes, pmPrivate] => do
          let (osuPath, adapters, adaptersMd5, uninstall, diskSignature) ←
            parseClientHashes clientHashes
          let offset ← ofOption .value (n.int (String.ofList utcOffset))
          return {
            username := String.ofList username
            passwordMd5 := (String.ofList password).toUTF8.data.toList
            osuVersion := String.ofList osuVersion
            utcOffset := offset
            displayCity := displayCity == ['1']
            pmPrivate := pmPrivate == ['1']
            osuPathMd5 := osuPath
            adaptersStr := adapters
            adaptersMd5 := adaptersMd5
            uninstallMd5 := uninstall
            diskSignatureMd5 := diskSignature }
      | _ => .error .value
  | _ => .error .value

inductive OsuStream
  | stable
  | beta
  | cuttingedge
  | tourney
  | dev
  deriving DecidableEq

-- datetime.date
structure Date where
  year : Nat
  month : Nat
  day : Nat
  deriving DecidableEq

def daysInMonth (year month : Nat) : Nat :=
  if month = 2 then
    if year % 4 = 0 ∧ (year % 100 ≠ 0 ∨ year % 400 = 0) then 29 else 28
  else if month = 4 ∨ month = 6 ∨ month = 9 ∨ month = 11 then 30
  else 31

def Date.make (year month day : Nat) : Except PyError Date :=
  if 1 ≤ year ∧ year ≤ 9999 ∧ 1 ≤ month ∧ month ≤ 12 ∧ 1 ≤ day ∧ day ≤ daysInMonth year month then
    .ok { year := year, month := month, day := day }
  else .error .value

structure OsuVersion where
  date : Date
  revision : Option Nat
  stream : OsuStream

-- \d{count}
def takeDigits (n : Numerals) : Nat → List Char → Option (List Nat × List Char)
  | 0, text => some ([], text)
  | _ + 1, [] => none
  | count + 1, c :: rest => do
      let d ← n.digit c
      let (ds, rest) ← takeDigits n count rest
      return (d :: ds, rest)

def ofDigits (digits : List Nat) : Nat := digits.foldl (fun value d => 10 * value + d) 0

-- (\.\d)?
def takeRevision (n : Numerals) : List Char → Option Nat × List Char
  | '.' :: c :: rest =>
      match n.digit c with
      | some d => (some d, rest)
      | none => (none, '.' :: c :: rest)
  | text => (none, text)

-- (beta|cuttingedge|dev|tourney)?$, where $ lets one newline follow
def streamOf (text : List Char) : Option OsuStream :=
  let stream := if text.getLast? = some '\n' then text.dropLast else text
  if stream = [] then some .stable
  else if stream = "beta".toList then some .beta
  else if stream = "cuttingedge".toList then some .cuttingedge
  else if stream = "dev".toList then some .dev
  else if stream = "tourney".toList then some .tourney
  else none

-- regexes.OSU_VERSION.match
def matchVersion (n : Numerals) : List Char → Option (List Nat × Option Nat × OsuStream)
  | 'b' :: rest => do
      let (digits, rest) ← takeDigits n 8 rest
      let (revision, rest) := takeRevision n rest
      let stream ← streamOf rest
      return (digits, revision, stream)
  | _ => none

def parseOsuVersionString (n : Numerals) (text : String) : Except PyError (Option OsuVersion) :=
  match matchVersion n text.toList with
  | none => .ok none
  | some (digits, revision, stream) =>
      (Date.make (ofDigits (digits.take 4)) (ofDigits ((digits.drop 4).take 2))
        (ofDigits (digits.drop 6))).map fun date =>
          some { date := date, revision := revision, stream := stream }

def wineAdapterSentinel : String := "runningunderwine"

-- None is the ValueError for a missing trailing delimiter.
def parseAdaptersString (text : String) : Option (List String × Bool) :=
  if text = wineAdapterSentinel then some ([wineAdapterSentinel], true)
  else if endsWith text "." then
    let adapters := text.toList.dropLast
    some ((splitMax '.' adapters.length adapters).map String.ofList, false)
  else none

-- The row of a user, as authenticate returns it.
structure User where
  id : Nat
  name : String
  priv : Privileges
  silenceEnd : Int
  country : String
  clanId : Nat
  clanPriv : Nat

-- What a login reads and is answered outside the session state. The database, the
-- changelog and the geolocation may raise.
structure Outside where
  numerals : Numerals
  disallowOldClients : Bool
  allowedVersions : OsuStream → Except PyError (Option (List Date))
  loginTime : Int
  lastRecvTime : PlayerRef → Int
  authenticate : String → List UInt8 → Except PyError (Option User)
  recordLogin : User → OsuVersion → Except PyError Unit
  recordClientHashes : User → LoginData → Except PyError Unit
  -- the privileges of the accounts with the same hardware
  hardwareMatches : User → LoginData → Bool → Option String → Except PyError (List Privileges)
  -- the country, by the headers and the peer address
  geoloc : Except PyError (Option String)
  updateCountry : User → String → Except PyError Unit
  passwordHash : User → Except PyError (Option String)
  token : String

inductive LoginPacket
  | loginReply (reason : Int)
  | notification (msg : String)
  | versionUpdate
  deriving DecidableEq

def AUTHENTICATION_FAILED : Int := -1
def OLD_CLIENT : Int := -2

structure Refusal where
  osuToken : String
  responseBody : List LoginPacket
  deriving DecidableEq

inductive LoginResponse
  | refused (refusal : Refusal)
  | session (osuToken : String)
  deriving DecidableEq

namespace Refusal

def restart (osuToken : String) : Refusal :=
  { osuToken := osuToken
    responseBody := [.loginReply AUTHENTICATION_FAILED,
      .notification "Please restart your osu! and try again."] }

def clientTooOld : Refusal :=
  { osuToken := "client-too-old", responseBody := [.versionUpdate, .loginReply OLD_CLIENT] }

def alreadyLoggedIn : Refusal :=
  { osuToken := "user-already-logged-in"
    responseBody := [.loginReply AUTHENTICATION_FAILED, .notification "User already logged in."] }

def incorrectCredentials (domain : String) : Refusal :=
  { osuToken := "incorrect-credentials"
    responseBody := [.notification s!"{domain}: Incorrect credentials",
      .loginReply AUTHENTICATION_FAILED] }

def insufficientPrivileges : Refusal :=
  { osuToken := "no", responseBody := [.loginReply AUTHENTICATION_FAILED] }

def contactStaff : Refusal :=
  { osuToken := "contact-staff"
    responseBody := [.notification "Please contact staff directly to create an account.",
      .loginReply AUTHENTICATION_FAILED] }

def loginFailed (domain : String) : Refusal :=
  { osuToken := "login-failed"
    responseBody := [.notification s!"{domain}: Login failed. Please contact an admin.",
      .loginReply AUTHENTICATION_FAILED] }

end Refusal

-- A request that has passed the checks of the client.
structure Request where
  data : LoginData
  version : OsuVersion
  runningUnderWine : Bool

def checkAdapters (data : LoginData) (version : OsuVersion) : Refusal ⊕ Request :=
  match parseAdaptersString data.adaptersStr with
  | none => .inl (Refusal.restart "invalid-adapters")
  | some (adapters, wine) =>
      if !(wine || adapters.any (· ≠ "")) then .inl (Refusal.restart "empty-adapters")
      else .inr { data := data, version := version, runningUnderWine := wine }

-- The checks before any session is looked at.
def checkClient (o : Outside) (body : List UInt8) : Except PyError (Refusal ⊕ Request) := do
  let data ← parseLoginData o.numerals body
  match ← parseOsuVersionString o.numerals data.osuVersion with
  | none => return .inl (Refusal.restart "invalid-request")
  | some version =>
      let allowed ← if o.disallowOldClients then o.allowedVersions version.stream else pure none
      if ∀ versions ∈ allowed, version.date ∈ versions then return checkAdapters data version
      else return .inl Refusal.clientTooOld

-- The md5 of "0", a disk signature that says nothing.
def inactionableDiskSignature : String := "cfcd208495d565ef66e7dff9f98764da"

def hasRestrictedHardwareMatch (matches_ : List Privileges) : Bool :=
  !matches_.all fun priv => priv.has Privileges.UNRESTRICTED

-- The checks of the account, and what is stored on the way.
def checkAccount (o : Outside) (domain : String) (request : Request) :
    Except PyError (Refusal ⊕ User) := do
  match ← o.authenticate request.data.username request.data.passwordMd5 with
  | none => return .inl (Refusal.incorrectCredentials domain)
  | some user =>
      if request.version.stream = .tourney ∧
          !(user.priv.has Privileges.DONATOR && user.priv.has Privileges.UNRESTRICTED) then
        return .inl Refusal.insufficientPrivileges
      o.recordLogin user request.version
      o.recordClientHashes user request.data
      let signature := request.data.diskSignatureMd5
      let matches_ ← o.hardwareMatches user request.data request.runningUnderWine
        (if signature = inactionableDiskSignature then none else some signature)
      if matches_ ≠ [] ∧ !user.priv.has Privileges.VERIFIED ∧ hasRestrictedHardwareMatch matches_ then
        return .inl Refusal.contactStaff
      if user.clanId ≠ 0 ∧ user.clanPriv ∉ [1, 2, 3] then throw .value
      match ← o.geoloc with
      | none => return .inl (Refusal.loginFailed domain)
      | some country =>
          if user.country = "xx" then o.updateCountry user country
          if (← o.passwordHash user).isNone then throw .assertion
          return .inr user

def finishLogin (o : Outside) (request : Request) : Handler LoginResponse := do
  let s ← Prog.read
  match ← Prog.lift (checkAccount o s.domain request) with
  | .inl refusal => pure (.refused refusal)
  | .inr user => do
      -- the packets of a successful login are left out
      login { id := user.id
              name := user.name
              token := o.token
              priv := user.priv
              silenceEnd := user.silenceEnd
              loginTime := o.loginTime }
      pure (.session o.token)

-- handle_osu_login_request
def handleOsuLoginRequest (o : Outside) (body : List UInt8) : Handler LoginResponse := do
  match ← Prog.lift (checkClient o body) with
  | .inl refusal => pure (.refused refusal)
  | .inr request => do
      let free ← replaceSession o.lastRecvTime request.data.username
        (request.version.stream == .tourney) o.loginTime
      if free then finishLogin o request else pure (.refused Refusal.alreadyLoggedIn)

-- The session that is taken for inactive.
def inactive (o : Outside) (s : Server) (request : Request) : Option PlayerRef :=
  if request.version.stream = .tourney then none
  else (s.getByName request.data.username).filter fun p =>
    decide (¬o.loginTime - o.lastRecvTime p < 10)

-- The session that a request replaces, before the password is checked.
def replaced (o : Outside) (s : Server) (body : List UInt8) : Option PlayerRef :=
  match checkClient o body with
  | .ok (.inr request) => inactive o s request
  | _ => none

-- A session that is in nothing, on no list and has no token: logging it out is
-- of no effect.
structure Gone (s : Server) (p : PlayerRef) : Prop where
  match_ : (s.player p).matchRef = none
  spectating : (s.player p).spectating = none
  channels : (s.player p).channels = []
  listed : p ∉ s.players.list
  token : (s.player p).token = ""
  quiet : (s.player p).restricted ∨ ∀ q ∈ s.players.list, (s.player q).isBotClient

end BanchoPrism.Login
