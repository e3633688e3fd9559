import BanchoPrism.Constants.Privileges
import BanchoPrism.Sessions.State

namespace BanchoPrism.Privs

-- The privileges and donor_end of an account, in its row of the users table and in
-- each Player that is made of the row.
structure Holding where
  priv : Privileges
  donorEnd : Int

inductive Change
  | add (bits : Privileges)
  | remove (bits : Privileges)

namespace Change

def bits : Change → Privileges
  | .add bits => bits
  | .remove bits => bits

-- What a change sets its bits to.
def value : Change → Bool
  | .add _ => true
  | .remove _ => false

-- priv | bits, or priv & ~bits
def apply : Change → Privileges → Privileges
  | .add bits, priv => priv ||| bits
  | .remove bits, priv => priv ^^^ (priv &&& bits)

end Change

def strPrivDict : List (String × Privileges) :=
  [("normal", Privileges.UNRESTRICTED),
    ("verified", Privileges.VERIFIED),
    ("whitelisted", Privileges.WHITELISTED),
    ("supporter", Privileges.SUPPORTER),
    ("premium", Privileges.PREMIUM),
    ("alumni", Privileges.ALUMNI),
    ("tournament", Privileges.TOURNEY_MANAGER),
    ("nominator", Privileges.NOMINATOR),
    ("mod", Privileges.MODERATOR),
    ("admin", Privileges.ADMINISTRATOR),
    ("developer", Privileges.DEVELOPER)]

-- The bits of the roles that a command names, in lower case.
def bitsOf : List String → Option Privileges
  | [] => some 0
  | role :: roles =>
      match strPrivDict.lookup role, bitsOf roles with
      | some bits, some others => some (bits ||| others)
      | _, _ => none

-- What is done to a Player that from_cache_or_sql gave, or that submitted a score.
inductive Operation
  -- developer: the player of the command is a developer
  | restrict (developer : Bool)
  | unrestrict (developer : Bool)
  | addpriv (bits : Privileges)
  | rmpriv (bits : Privileges)
  -- what timeparse makes of the duration, and time.time()
  | givedonator (timespan : Option Int) (now : Int)
  | expire
  | missingReplay

inductive Command
  | restrict (developer : Bool)
  | unrestrict (developer : Bool)
  | addpriv (roles : List String)
  | rmpriv (roles : List String)
  | givedonator (timespan : Option Int) (now : Int)

-- The operation of a command, if it names only roles that there are.
def Command.operation : Command → Option Operation
  | .restrict developer => some (.restrict developer)
  | .unrestrict developer => some (.unrestrict developer)
  | .addpriv roles => (bitsOf roles).map Operation.addpriv
  | .rmpriv roles => (bitsOf roles).map Operation.rmpriv
  | .givedonator timespan now => some (.givedonator timespan now)

-- An UPDATE of the row.
inductive Statement
  | priv (value : Privileges)
  | donorEnd (value : Int)

-- What follows an UPDATE.
inductive Rest
  | finish
  | logout
  -- the donor_end of the player and of the row become 0
  | resetDonor
  | addSupporter
  -- login, after add_privs(VERIFIED) and after add_privs of the first user
  | verified
  | welcomed

-- Where an operation or a login waits.
inductive Task
  -- for the SELECT of get_sql
  | selecting (op : Operation)
  -- for what get_sql awaits after it
  | selected (op : Operation) (row : Holding)
  -- the sweep, with the account among the expired donors
  | expired
  -- a score submission of a session
  | submitting (p : PlayerRef)
  -- a login that has read the row
  | entering (row : Holding)
  -- for an UPDATE to execute
  | writing (p : PlayerRef) (statement : Statement) (rest : Rest)
  -- to go on after it
  | written (p : PlayerRef) (rest : Rest)

-- One account: its row, the Players made of it, which of them are in the player list
-- and which one the indexes give.
structure Account where
  id : Nat
  row : Holding
  player : PlayerRef → Holding
  nextPlayer : PlayerRef := 0
  sessions : List PlayerRef := []
  cached : Option PlayerRef := none
  -- in the order in which they began to wait
  tasks : List Task := []
  -- what the row held at the start and what add_privs and remove_privs did since
  original : Privileges
  changes : List Change := []

-- What a task does between two awaits.
inductive Stretch
  | finish
  | change (p : PlayerRef) (change : Change) (rest : Rest)
  | setDonorEnd (p : PlayerRef) (donorEnd : Int) (rest : Rest)
  | append (p : PlayerRef)
  | logout (p : PlayerRef)
  | wait (task : Task)

def FIRST_USER_ID : Nat := 3

namespace Account

def modify (s : Account) (p : PlayerRef) (f : Holding → Holding) : Account :=
  { s with player := Function.update s.player p (f (s.player p)) }

-- Player(priv=..., donor_end=...)
def build (s : Account) (row : Holding) : Account :=
  { s with player := Function.update s.player s.nextPlayer row, nextPlayer := s.nextPlayer + 1 }

-- players.append
def append (s : Account) (p : PlayerRef) : Account :=
  if p ∈ s.sessions then s
  else { s with sessions := s.sessions ++ [p], cached := some p }

-- players.remove; it raises when the indexes do not have the account, after the list
-- has lost the player
def remove (s : Account) (p : PlayerRef) : Account :=
  if p ∈ s.sessions then { s with sessions := s.sessions.erase p, cached := none } else s

-- Player.logout; leaves says that nothing raised before players.remove
def logout (s : Account) (p : PlayerRef) (leaves : Bool) : Account :=
  if leaves then s.remove p else s

def restricted (s : Account) (p : PlayerRef) : Bool :=
  !(s.player p).priv.has Privileges.UNRESTRICTED

def staff (s : Account) (p : PlayerRef) : Bool := (s.player p).priv.has Privileges.STAFF

-- The operation on a Player, up to its first await.
def act (s : Account) (p : PlayerRef) : Operation → Stretch
  | .restrict developer =>
      if s.staff p && !developer then .finish
      else if s.restricted p then .finish
      else .change p (.remove Privileges.UNRESTRICTED) .logout
  | .unrestrict developer =>
      if s.staff p && !developer then .finish
      else if !s.restricted p then .finish
      else .change p (.add Privileges.UNRESTRICTED) .logout
  | .addpriv bits =>
      if bits.has Privileges.DONATOR then .finish
      else .change p (.add bits) .finish
  | .rmpriv bits =>
      .change p (.remove bits) (if bits.has Privileges.DONATOR then .resetDonor else .finish)
  | .givedonator timespan now =>
      match timespan with
      | none => .finish
      | some timespan =>
          if timespan = 0 then .finish
          else if (s.player p).donorEnd < now then .setDonorEnd p (timespan + now) .addSupporter
          else .setDonorEnd p (timespan + (s.player p).donorEnd) .addSupporter
  | .expire => .change p (.remove Privileges.DONATOR) .resetDonor
  | .missingReplay =>
      if s.restricted p then .finish
      else .change p (.remove Privileges.UNRESTRICTED) .logout

-- from_cache_or_sql: the session that the indexes give, or get_sql
def fromCacheOrSql (s : Account) (op : Operation) : Stretch :=
  match s.cached with
  | some p => s.act p op
  | none => .wait (.selecting op)

-- login from the Player to the end of its first await, or to players.append
def welcome (s : Account) (p : PlayerRef) : Stretch :=
  if s.restricted p then .append p
  else if (s.player p).priv.has Privileges.VERIFIED then .append p
  else .change p (.add Privileges.VERIFIED) .verified

def goOn (s : Account) (p : PlayerRef) : Rest → Stretch
  | .finish => .finish
  | .logout => .logout p
  | .resetDonor => .setDonorEnd p 0 .finish
  | .addSupporter => .change p (.add Privileges.SUPPORTER) .finish
  | .verified =>
      if s.id = FIRST_USER_ID then
        .change p (.add (Privileges.STAFF ||| Privileges.NOMINATOR ||| Privileges.WHITELISTED |||
          Privileges.TOURNEY_MANAGER ||| Privileges.DONATOR ||| Privileges.ALUMNI)) .welcomed
      else .append p
  | .welcomed => .append p

-- The next stretch of a task that does not wait for a statement, with the Player that
-- it builds.
def next (s : Account) : Task → Option (Account × Stretch)
  | .selecting _ => none
  | .selected op row => some (s.build row, (s.build row).act s.nextPlayer op)
  | .expired => some (s, s.fromCacheOrSql .expire)
  | .submitting p => some (s, s.act p .missingReplay)
  | .entering row => some (s.build row, (s.build row).welcome s.nextPlayer)
  | .writing _ _ _ => none
  | .written p rest => some (s, s.goOn p rest)

def perform (s : Account) (leaves : Bool) : Stretch → Account
  | .finish => s
  | .change p change rest =>
      -- the UPDATE is of the priv that the player has now
      let priv := change.apply (s.player p).priv
      { s.modify p fun holding => { holding with priv := priv } with
        tasks := s.tasks ++ [.writing p (.priv priv) rest]
        changes := s.changes ++ [change] }
  | .setDonorEnd p donorEnd rest =>
      { s.modify p fun holding => { holding with donorEnd := donorEnd } with
        tasks := s.tasks ++ [.writing p (.donorEnd donorEnd) rest] }
  | .append p => s.append p
  | .logout p => s.logout p leaves
  | .wait task => { s with tasks := s.tasks ++ [task] }

end Account

def Statement.execute : Statement → Holding → Holding
  | .priv value, row => { row with priv := value }
  | .donorEnd value, row => { row with donorEnd := value }

inductive Event
  | command (command : Command)
  -- the SELECT of the sweep, at UNIX_TIMESTAMP()
  | sweep (now : Int)
  -- a score comes in without a replay
  | submit
  -- authenticate of a login reads the row
  | authenticate (tourney : Bool)
  -- a later exit of that login, without a session
  | refuse (i : Nat)
  -- the statement that a task waits for executes
  | execute (i : Nat)
  | resume (i : Nat) (leaves : Bool)
  -- any other logout of a session
  | logout (p : PlayerRef) (leaves : Bool)

namespace Account

def execute (s : Account) (i : Nat) : Account :=
  match s.tasks[i]? with
  | some (.selecting op) => { s with tasks := s.tasks.set i (.selected op s.row) }
  | some (.writing p statement rest) =>
      { s with row := statement.execute s.row, tasks := s.tasks.set i (.written p rest) }
  | _ => s

def resume (s : Account) (i : Nat) (leaves : Bool) : Account :=
  match s.tasks[i]?.bind s.next with
  | none => s
  | some (t, stretch) => { t with tasks := s.tasks.eraseIdx i }.perform leaves stretch

def refuse (s : Account) (i : Nat) : Account :=
  match s.tasks[i]? with
  | some (.entering _) => { s with tasks := s.tasks.eraseIdx i }
  | _ => s

def step (s : Account) : Event → Account
  | .command command =>
      match command.operation with
      | none => s
      | some op => s.perform true (s.fromCacheOrSql op)
  | .sweep now =>
      if s.row.donorEnd ≤ now ∧ s.row.priv.has Privileges.DONATOR then
        { s with tasks := s.tasks ++ [.expired] }
      else s
  | .submit =>
      match s.cached with
      | none => s
      | some p => { s with tasks := s.tasks ++ [.submitting p] }
  | .authenticate tourney =>
      if tourney && !(s.row.priv.has Privileges.DONATOR && s.row.priv.has Privileges.UNRESTRICTED)
      then s
      else { s with tasks := s.tasks ++ [.entering s.row] }
  | .refuse i => s.refuse i
  | .execute i => s.execute i
  | .resume i leaves => s.resume i leaves
  | .logout p leaves => s.logout p leaves

-- Nobody is logged in.
def start (id : Nat) (row : Holding) : Account :=
  { id := id, row := row, player := fun _ => row, original := row.priv }

end Account

end BanchoPrism.Privs
