import BanchoPrism.Library.Rows
import BanchoPrism.Library.Tasks

namespace BanchoPrism.Linking

open Library

-- What a field of a JSON body may be: None, a str, or another value with what str() gives of it.
inductive JsonValue
  | null
  | str (s : String)
  | other (text : String)

-- What comes of a request to Discord: the call raises, or the body decodes to an object or to
-- something else, on which .get raises.
inductive Response
  | raises
  | object (fields : List (String × JsonValue))
  | other

-- What the annotation of the two calls promises: dict[str, Any], or it raises.
def Response.typed : Response → Bool
  | .other => false
  | .raises | .object _ => true

structure DiscordIdentity where
  id : String
  username : String

def discordAuthorizeUrl : String := "https://discord.com/api/oauth2/authorize"

def discordTokenUrl : String := "https://discord.com/api/oauth2/token"

def discordIdentityUrl : String := "https://discord.com/api/users/@me"

def defaultScope : String := "identify"

def hexDigit (n : UInt8) : Char :=
  if n < 10 then Char.ofNat ('0'.toNat + n.toNat) else Char.ofNat ('A'.toNat + n.toNat - 10)

-- urllib.parse.quote_plus, a byte at a time
def quoteByte (b : UInt8) : List Char :=
  let c := Char.ofNat b.toNat
  if c = ' ' then ['+']
  else if b < 128 && (c.isAlphanum || c = '_' || c = '.' || c = '-' || c = '~') then [c]
  else ['%', hexDigit (b / 16), hexDigit (b % 16)]

def quotePlus (s : String) : String :=
  String.ofList ((s.toList.flatMap String.utf8EncodeChar).flatMap quoteByte)

-- urllib.parse.urlencode
def urlencode (query : List (String × String)) : String :=
  "&".intercalate (query.map fun item => quotePlus item.1 ++ "=" ++ quotePlus item.2)

def buildAuthorizeUrl (clientId redirectUri state : String) : String :=
  discordAuthorizeUrl ++ "?" ++
    urlencode
      [("client_id", clientId), ("redirect_uri", redirectUri), ("response_type", "code"),
        ("scope", defaultScope), ("state", state)]

def buildTokenExchangeData (clientId clientSecret redirectUri code : String) :
    List (String × String) :=
  [("client_id", clientId), ("client_secret", clientSecret),
    ("grant_type", "authorization_code"), ("code", code), ("redirect_uri", redirectUri)]

def buildIdentityHeaders (accessToken : String) : List (String × String) :=
  [("Authorization", "Bearer " ++ accessToken)]

-- payload.get: a field that is not there is None.
def get (payload : List (String × JsonValue)) (field : String) : JsonValue :=
  (payload.lookup field).getD .null

def parseAccessToken (payload : List (String × JsonValue)) : Option String :=
  match get payload "access_token" with
  | .str token => if token = "" then none else some token
  | _ => none

-- str(raw_id), where there is one
def JsonValue.text : JsonValue → Option String
  | .null => none
  | .str s => some s
  | .other text => some text

def parseIdentity (payload : List (String × JsonValue)) : Option DiscordIdentity :=
  match (get payload "id").text, get payload "username" with
  | some discordId, .str username =>
      if username = "" then none
      else if discordId = "" then none
      else some { id := discordId, username := username }
  | _, _ => none

-- A row of user_discord_links.
structure DiscordLink where
  userId : Int
  discordId : String
  discordUsername : String
  linkedAt : Int
  deriving DecidableEq

def discordIdMaxLen : Nat := 20

def discordUsernameMaxLen : Nat := 32

inductive LinkOutcome
  | LINKED
  | DISABLED
  | INVALID_STATE
  | EXCHANGE_FAILED
  | IDENTITY_FAILED
  | ALREADY_LINKED_ELSEWHERE
  deriving DecidableEq

structure LinkResult where
  outcome : LinkOutcome
  link : Option DiscordLink := none
  deriving DecidableEq

-- What complete_link may raise: .get on a body that is no object, an id that does not fit its
-- column, an id that another row has, a row that is not there after the upsert.
inductive Raised
  | AttributeError
  | DataError
  | IntegrityError
  | AssertionError
  deriving DecidableEq

-- The callback of a flow: what Discord is asked and answers, and what func.now() is.
structure Call where
  state : String
  code : String
  exchangeCode : String → List (String × String) → Response
  fetchIdentity : String → List (String × String) → Response
  now : Int

structure Answer where
  state : String
  result : Except Raised LinkResult

structure World where
  -- The tokens in Redis, with the user that each was stored for.
  states : List (String × Int)
  links : List DiscordLink
  -- The tokens that were stored, and those that were consumed.
  issued : List (String × Int) := []
  consumed : List (String × Int) := []
  -- What begin_link and complete_link have answered.
  redirects : List (Int × Option String) := []
  answers : List Answer := []

-- The collation of user_discord_links is what two ids have to differ in to be two.
structure DiscordLinkingService where
  clientId : String
  clientSecret : String
  redirectUri : String
  collate : String → String

inductive Op
  | beginLink (userId : Int) (state : String)
  | completeLink (call : Call)
  -- A token goes that nobody has come back with in time.
  | expire (state : String)

inductive Line
  | store (userId : Int) (state : String)
  | expire (state : String)
  | consume (call : Call)
  | exchange (call : Call) (userId : Int)
  | identify (call : Call) (userId : Int) (accessToken : String)
  | check (call : Call) (userId : Int) (identity : DiscordIdentity)
  | upsert (call : Call) (userId : Int) (identity : DiscordIdentity)
  | fetch (call : Call) (userId : Int)

def Op.lines : Op → List Line
  | .beginLink userId state => [.store userId state]
  | .completeLink call => [.consume call]
  | .expire state => [.expire state]

def World.redirect (w : World) (userId : Int) (url : Option String) : World :=
  { w with redirects := w.redirects ++ [(userId, url)] }

def World.answer (w : World) (call : Call) (result : Except Raised LinkResult) : World :=
  { w with answers := w.answers ++ [{ state := call.state, result := result }] }

namespace DiscordLinkingService

variable (v : DiscordLinkingService)

def enabled : Bool := v.clientId ≠ "" && v.clientSecret ≠ "" && v.redirectUri ≠ ""

-- What the unique index compares of a row.
def indexed (link : DiscordLink) : String := v.collate link.discordId

def tokenResponse (call : Call) : Response :=
  call.exchangeCode discordTokenUrl
    (buildTokenExchangeData v.clientId v.clientSecret v.redirectUri call.code)

def exchangeCodeForToken (call : Call) : Except Raised (Option String) :=
  match v.tokenResponse call with
  | .raises => .ok none
  | .object payload => .ok (parseAccessToken payload)
  | .other => .error .AttributeError

def identityResponse (call : Call) (accessToken : String) : Response :=
  call.fetchIdentity discordIdentityUrl (buildIdentityHeaders accessToken)

def fetchDiscordIdentity (call : Call) (accessToken : String) :
    Except Raised (Option DiscordIdentity) :=
  match identityResponse call accessToken with
  | .raises => .ok none
  | .object payload => .ok (parseIdentity payload)
  | .other => .error .AttributeError

def fetchByDiscordId (links : List DiscordLink) (discordId : String) : Option DiscordLink :=
  fetchBy v.indexed links (v.collate discordId)

-- The row that an upsert inserts.
def row (userId : Int) (identity : DiscordIdentity) (now : Int) : DiscordLink where
  userId := userId
  discordId := identity.id
  discordUsername := String.ofList (identity.username.toList.take discordUsernameMaxLen)
  linkedAt := now

-- The columns of the ON DUPLICATE KEY UPDATE.
def refresh (new old : DiscordLink) : DiscordLink := { new with userId := old.userId }

def upsertLink (links : List DiscordLink) (userId : Int) (identity : DiscordIdentity) (now : Int) :
    Except Raised (List DiscordLink) :=
  if identity.id.length ≤ discordIdMaxLen then
    let new := row userId identity now
    match upsertInto DiscordLink.userId v.indexed links new (refresh new) with
    | some after => .ok after
    | none => .error .IntegrityError
  else .error .DataError

def perform (line : Line) (w : World) : World × List Line :=
  match line with
  | .store userId state =>
      if v.enabled then
        let stored :=
          { w with
            states := replaceBy Prod.fst w.states (state, userId)
            issued := w.issued ++ [(state, userId)] }
        (stored.redirect userId (some (buildAuthorizeUrl v.clientId v.redirectUri state)), [])
      else (w.redirect userId none, [])
  | .expire state => ({ w with states := deleteBy Prod.fst w.states state }, [])
  | .consume call =>
      if v.enabled then
        match fetchBy Prod.fst w.states call.state with
        | none => (w.answer call (.ok { outcome := .INVALID_STATE }), [])
        | some entry =>
            let after :=
              { w with
                states := deleteBy Prod.fst w.states call.state
                consumed := w.consumed ++ [entry] }
            (after, [.exchange call entry.2])
      else (w.answer call (.ok { outcome := .DISABLED }), [])
  | .exchange call userId =>
      match v.exchangeCodeForToken call with
      | .error raised => (w.answer call (.error raised), [])
      | .ok none => (w.answer call (.ok { outcome := .EXCHANGE_FAILED }), [])
      | .ok (some accessToken) => (w, [.identify call userId accessToken])
  | .identify call userId accessToken =>
      match fetchDiscordIdentity call accessToken with
      | .error raised => (w.answer call (.error raised), [])
      | .ok none => (w.answer call (.ok { outcome := .IDENTITY_FAILED }), [])
      | .ok (some identity) => (w, [.check call userId identity])
  | .check call userId identity =>
      match v.fetchByDiscordId w.links identity.id with
      | some existing =>
          if existing.userId ≠ userId then
            (w.answer call (.ok { outcome := .ALREADY_LINKED_ELSEWHERE }), [])
          else (w, [.upsert call userId identity])
      | none => (w, [.upsert call userId identity])
  | .upsert call userId identity =>
      match v.upsertLink w.links userId identity call.now with
      | .ok after => ({ w with links := after }, [.fetch call userId])
      | .error raised => (w.answer call (.error raised), [])
  | .fetch call userId =>
      match fetchBy DiscordLink.userId w.links userId with
      | some link => (w.answer call (.ok { outcome := .LINKED, link := some link }), [])
      | none => (w.answer call (.error .AssertionError), [])

end DiscordLinkingService

abbrev Flows := Tasks World Line

abbrev Event := Tasks.Event Op

def Flows.step (v : DiscordLinkingService) : Flows → Event → Flows := Tasks.step Op.lines v.perform

-- Before any flow has begun.
def started (links : List DiscordLink) : Flows where
  world := { states := [], links := links }
  running := []

end BanchoPrism.Linking
