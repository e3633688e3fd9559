import BanchoPrism.Library.Rows
import BanchoPrism.Library.Run
import BanchoPrism.Library.Text
import BanchoPrism.Library.Keyed

namespace BanchoPrism.Registration

open Library

-- A str, as its characters.
abbrev Str : Type := List Char

-- The characters of the category Cc.
def isControl (c : Char) : Bool := c.val < 0x20 || (0x7f ≤ c.val && c.val ≤ 0x9f)

-- What the runtime knows of characters, and the database of texts: str.isalnum, str.lower, and
-- what the texts of a column are compared by.
structure Unicode where
  isalnum : Char → Bool
  lower : Str → Str
  collate : Str → Str
  isalnum_control : ∀ c, isControl c = true → isalnum c = false

section Validation

variable (unicode : Unicode)

def makeSafeName (name : Str) : Str :=
  (unicode.lower name).map fun c => if c = ' ' then '_' else c

-- [\w \[\]-]
def nameChar (c : Char) : Bool := unicode.isalnum c || c ∈ ['_', ' ', '[', ']', '-']

-- What $ matches at: the end, also if a last newline stands before it.
def atEnd (rest : Str) : Bool := rest = [] || rest = ['\n']

-- regexes.USERNAME.match: some two to fifteen characters, with the end after them.
def usernameMatches (name : Str) : Bool :=
  (List.range' 2 14).any fun n =>
    n ≤ name.length && (name.take n).all (nameChar unicode) && atEnd (name.drop n)

def underscoreAndSpace (name : Str) : Bool := name.contains '_' && name.contains ' '

-- validate_username
def validateUsername (disallowedNames : List Str) (username : Str) : List String :=
  (if usernameMatches unicode username then [] else ["Must be 2-15 characters in length."]) ++
    (if underscoreAndSpace username then ["May contain \"_\" and \" \", but not both."] else []) ++
    (if disallowedNames.contains username then ["Disallowed username; pick another."] else [])

end Validation

-- A row of the users table.
structure User where
  id : Nat
  name : Str
  safeName : Str
  deriving DecidableEq

-- The safe name is that of a name, as the database compares them.
def User.named (unicode : Unicode) (name : Str) (user : User) : Bool :=
  unicode.collate user.safeName = unicode.collate (makeSafeName unicode name)

-- The users table, whose ids count up, and DISALLOWED_NAMES.
structure Accounts where
  users : List User
  nextId : Nat
  disallowedNames : List Str

def takenMessage : String := "Username already taken by another player."

-- A request that gives a name to an account, with what is wrong with the rest of it: an email and
-- a password, or the other fields of a profile. Not every registration is one in earnest.
inductive Request
  | register (username : Str) (otherErrors : List String) (shouldCreateAccount : Bool)
  | updateProfile (id : Nat) (username : Str) (otherErrors : List String)
  | changename (id : Nat) (args : List Str)
  deriving DecidableEq

def Request.name : Request → Str
  | .register username _ _ => username
  | .updateProfile _ username _ => username
  | .changename _ args => Text.strip ([' '].intercalate args)

-- The account that is there already.
def Request.account : Request → Option Nat
  | .register _ _ _ => none
  | .updateProfile id _ _ => some id
  | .changename id _ => some id

namespace Accounts

variable (unicode : Unicode) (s : Accounts)

-- users.fetch_one(name=...) and users.fetch_one(id=...)
def fetchByName (name : Str) : Option User := s.users.find? (·.named unicode name)

def fetchById (id : Nat) : Option User := s.users.find? fun user => user.id = id

-- The errors under "username", of validate_registration and of a new name in
-- validate_profile_update.
def usernameErrors (username : Str) : List String :=
  match validateUsername unicode s.disallowedNames username with
  | [] => if (s.fetchByName unicode username).isSome then [takenMessage] else []
  | errors => errors

def profileUsernameErrors (user : User) (username : Str) : List String :=
  if username ≠ user.name then s.usernameErrors unicode username else []

-- What changename answers, if it refuses.
def changenameReply (name : Str) : Option String :=
  if ¬ usernameMatches unicode name then some "Must be 2-15 characters in length."
  else if underscoreAndSpace name then some "May contain \"_\" and \" \", but not both."
  else if s.disallowedNames.contains name then some "Disallowed username; pick another."
  else if (s.fetchByName unicode name).isSome then some takenMessage
  else none

-- users.create
def create (name : Str) : Accounts :=
  { s with
    users := s.users ++ [{ id := s.nextId, name := name, safeName := makeSafeName unicode name }]
    nextId := s.nextId + 1 }

-- users.partial_update with a name
def partialUpdate (id : Nat) (name : Str) : Accounts :=
  { s with
    users := s.users.map fun user =>
      if user.id = id then { user with name := name, safeName := makeSafeName unicode name }
      else user }

end Accounts

section Requests

variable (unicode : Unicode) (s : Accounts)

-- The name is let through.
def Request.accepted : Request → Bool
  | .register username _ _ => s.usernameErrors unicode username = []
  | .updateProfile id username _ =>
      (s.fetchById id).any fun user => s.profileUsernameErrors unicode user username = []
  | .changename id args => s.changenameReply unicode (Request.changename id args).name = none

def step (request : Request) : Accounts :=
  if request.accepted unicode s then
    match request with
    | .register username otherErrors shouldCreateAccount =>
        if otherErrors = [] ∧ shouldCreateAccount then s.create unicode username else s
    | .updateProfile id username otherErrors =>
        if otherErrors = [] then s.partialUpdate unicode id username else s
    | .changename id args => s.partialUpdate unicode id (Request.changename id args).name
  else s

end Requests

section Rules

variable (unicode : Unicode) (s : Accounts)

-- Two to fifteen characters of those a name is made of.
structure Spelled (name : Str) : Prop where
  length_ge : 2 ≤ name.length
  length_le : name.length ≤ 15
  chars : ∀ c ∈ name, nameChar unicode c = true

-- What a name should be.
structure Proper (name : Str) : Prop where
  spelled : Spelled unicode name
  plain : ∀ c ∈ name, isControl c = false
  single : ¬ ('_' ∈ name ∧ ' ' ∈ name)

-- No other account has the safe name.
def Free (id : Nat) (name : Str) : Prop :=
  ∀ other ∈ s.users, other.id ≠ id → other.named unicode name = false

-- Only a proper name is let through; and for an account that is there, exactly the proper ones
-- that are not disallowed and that no other account has.
structure Ruled (request : Request) : Prop where
  proper : request.accepted unicode s = true → Proper unicode request.name
  exact : ∀ user ∈ s.users, request.account = some user.id →
    (request.accepted unicode s = true ↔ Proper unicode request.name ∧
      request.name ∉ s.disallowedNames ∧ Free unicode s user.id request.name)

-- A proper name that nobody has, with a newline behind it.
structure Escapes (name : Str) : Prop where
  newline : ∃ stem, name = stem ++ ['\n'] ∧ Proper unicode stem
  allowed : name ∉ s.disallowedNames
  unused : ∀ user ∈ s.users, user.named unicode name = false

-- Another spelling of the name that the account has.
structure Respelled (user : User) (name : Str) : Prop where
  proper : Proper unicode name
  allowed : name ∉ s.disallowedNames
  own : user.named unicode name = true

-- No newline is behind the name and no account asks for another spelling of its own, and none
-- sends its own along when that is not one that it could ask for.
def Request.InOrder : Request → Prop
  | .register username _ _ => ¬ Escapes unicode s username
  | .updateProfile id username _ => ∀ user ∈ s.users, user.id = id →
      if username = user.name then Proper unicode username ∧ username ∉ s.disallowedNames
      else ¬ Escapes unicode s username ∧ ¬ Respelled unicode s user username
  | .changename id args => ∀ user ∈ s.users, user.id = id →
      ¬ Respelled unicode s user (Request.changename id args).name

-- The table as a run leaves it: every id and every safe name is that of one account.
structure Sound : Prop where
  ids : (s.users.map (·.id)).Nodup
  fresh : ∀ user ∈ s.users, user.id < s.nextId
  safe : ∀ user ∈ s.users, user.safeName = makeSafeName unicode user.name
  unique : (s.users.map fun user => unicode.collate user.safeName).Nodup

end Rules

section Matching

variable {unicode : Unicode} {name : Str}

theorem atEnd_iff {rest : Str} : atEnd rest = true ↔ rest = [] ∨ rest = ['\n'] := by
  simp [atEnd]

-- What $ lets through beside a name is one newline after it.
theorem usernameMatches_iff :
    usernameMatches unicode name = true ↔
      Spelled unicode name ∨ ∃ stem, name = stem ++ ['\n'] ∧ Spelled unicode stem := by
  simp only [usernameMatches, List.any_eq_true, List.mem_range'_1, Bool.and_eq_true,
    decide_eq_true_eq, List.all_eq_true, atEnd_iff]
  constructor
  · rintro ⟨n, ⟨hge, hlt⟩, ⟨hn, hall⟩, hend⟩
    have htake : (name.take n).length = n := List.length_take_of_le hn
    have hspelled : Spelled unicode (name.take n) := ⟨by omega, by omega, hall⟩
    have hname := List.take_append_drop n name
    rcases hend with hend | hend
    · rw [hend, List.append_nil] at hname
      rw [hname] at hspelled
      exact Or.inl hspelled
    · rw [hend] at hname
      exact Or.inr ⟨name.take n, hname.symm, hspelled⟩
  · rintro (h | ⟨stem, rfl, h⟩)
    · have hge := h.length_ge
      have hle := h.length_le
      refine ⟨name.length, ⟨hge, by omega⟩, ⟨le_refl _, ?_⟩, Or.inl List.drop_length⟩
      rw [List.take_length]
      exact h.chars
    · have hge := h.length_ge
      have hle := h.length_le
      refine ⟨stem.length, ⟨hge, by omega⟩, ⟨?_, ?_⟩, Or.inr List.drop_left⟩
      · rw [List.length_append]
        exact Nat.le_add_right _ _
      · rw [List.take_left]
        exact h.chars

theorem nameChar_plain {c : Char} (h : nameChar unicode c = true) : isControl c = false := by
  cases hcontrol : isControl c with
  | false => rfl
  | true =>
    rw [nameChar, unicode.isalnum_control c hcontrol, Bool.false_or, decide_eq_true_eq] at h
    have hothers : (['_', ' ', '[', ']', '-'].all fun c => !isControl c) = true := by decide
    have hplain := List.all_eq_true.mp hothers c h
    rw [hcontrol] at hplain
    cases hplain

theorem proper_iff :
    Proper unicode name ↔ Spelled unicode name ∧ underscoreAndSpace name = false := by
  have hboth : underscoreAndSpace name = false ↔ ¬ ('_' ∈ name ∧ ' ' ∈ name) := by
    simp [underscoreAndSpace]
  rw [hboth]
  constructor
  · exact fun h => ⟨h.spelled, h.single⟩
  · exact fun h => ⟨h.1, fun c hc => nameChar_plain (h.1.chars c hc), h.2⟩

theorem not_proper_newline (stem : Str) : ¬ Proper unicode (stem ++ ['\n']) := by
  intro h
  have hplain := h.plain '\n' (List.mem_append_right _ List.mem_cons_self)
  exact absurd hplain (by decide)

-- The two tests of a name's text let through a proper one, and one with a newline behind it.
theorem matches_iff :
    usernameMatches unicode name = true ∧ underscoreAndSpace name = false ↔
      Proper unicode name ∨ ∃ stem, name = stem ++ ['\n'] ∧ Proper unicode stem := by
  have hnewline : ∀ stem : Str, underscoreAndSpace (stem ++ ['\n']) = underscoreAndSpace stem := by
    intro stem
    simp [underscoreAndSpace]
  simp only [usernameMatches_iff, proper_iff]
  constructor
  · rintro ⟨h | ⟨stem, rfl, h⟩, hboth⟩
    · exact Or.inl ⟨h, hboth⟩
    · exact Or.inr ⟨stem, rfl, h, (hnewline stem).symm.trans hboth⟩
  · rintro (⟨h, hboth⟩ | ⟨stem, rfl, h, hboth⟩)
    · exact ⟨Or.inl h, hboth⟩
    · exact ⟨Or.inr ⟨stem, rfl, h⟩, (hnewline stem).trans hboth⟩

end Matching

section Requests

variable {unicode : Unicode} {s : Accounts} {name : Str}

-- What is let through without a look at the name that the account has.
structure Passes (unicode : Unicode) (s : Accounts) (name : Str) : Prop where
  spelled : Proper unicode name ∨ ∃ stem, name = stem ++ ['\n'] ∧ Proper unicode stem
  allowed : name ∉ s.disallowedNames
  unused : ∀ user ∈ s.users, user.named unicode name = false

theorem fetchByName_eq_none :
    s.fetchByName unicode name = none ↔ ∀ user ∈ s.users, user.named unicode name = false := by
  simp [Accounts.fetchByName, List.find?_eq_none]

theorem validateUsername_eq_nil :
    validateUsername unicode s.disallowedNames name = [] ↔
      (usernameMatches unicode name = true ∧ underscoreAndSpace name = false) ∧
        name ∉ s.disallowedNames := by
  unfold validateUsername
  by_cases hmatch : usernameMatches unicode name = true <;>
    by_cases hboth : underscoreAndSpace name = true <;>
    by_cases hname : name ∈ s.disallowedNames <;> simp [hmatch, hboth, hname]

theorem usernameErrors_eq_nil : s.usernameErrors unicode name = [] ↔ Passes unicode s name := by
  unfold Accounts.usernameErrors
  constructor
  · intro herrors
    split at herrors
    · rename_i hvalid
      obtain ⟨hmatches, hallowed⟩ := validateUsername_eq_nil.mp hvalid
      refine ⟨matches_iff.mp hmatches, hallowed, fetchByName_eq_none.mp ?_⟩
      split at herrors
      · cases herrors
      · rename_i hnone
        exact Option.not_isSome_iff_eq_none.mp hnone
    · rename_i hinvalid
      exact absurd herrors (by simpa using hinvalid)
  · intro h
    rw [validateUsername_eq_nil.mpr ⟨matches_iff.mpr h.spelled, h.allowed⟩]
    simp [fetchByName_eq_none.mpr h.unused]

theorem changenameReply_eq_none :
    s.changenameReply unicode name = none ↔ Passes unicode s name := by
  have hpasses : Passes unicode s name ↔
      (usernameMatches unicode name = true ∧ underscoreAndSpace name = false) ∧
        name ∉ s.disallowedNames ∧ s.fetchByName unicode name = none := by
    rw [matches_iff, fetchByName_eq_none]
    exact ⟨fun h => ⟨h.spelled, h.allowed, h.unused⟩, fun h => ⟨h.1, h.2.1, h.2.2⟩⟩
  rw [hpasses]
  unfold Accounts.changenameReply
  by_cases hmatch : usernameMatches unicode name = true <;>
    by_cases hboth : underscoreAndSpace name = true <;>
    by_cases hname : name ∈ s.disallowedNames <;> simp [hmatch, hboth, hname]

theorem Passes.proper_iff (h : Passes unicode s name) :
    Proper unicode name ↔ ¬ Escapes unicode s name := by
  constructor
  · rintro hproper ⟨⟨stem, rfl, -⟩, -, -⟩
    exact not_proper_newline stem hproper
  · intro hescapes
    rcases h.spelled with hproper | hnewline
    · exact hproper
    · exact absurd ⟨hnewline, h.allowed, h.unused⟩ hescapes

theorem Escapes.passes (h : Escapes unicode s name) : Passes unicode s name :=
  ⟨Or.inr h.newline, h.allowed, h.unused⟩

theorem Sound.eq_of_id (h : Sound unicode s) {user other : User} (huser : user ∈ s.users)
    (hother : other ∈ s.users) (hid : other.id = user.id) : other = user :=
  List.inj_on_of_nodup_map h.ids hother huser hid

theorem Sound.eq_of_named (h : Sound unicode s) {user other : User} (huser : user ∈ s.users)
    (hother : other ∈ s.users) (hname : user.named unicode name = true)
    (hothername : other.named unicode name = true) : other = user :=
  List.inj_on_of_nodup_map h.unique hother huser
    ((of_decide_eq_true hothername).trans (of_decide_eq_true hname).symm)

-- A name that is an account's own is nobody else's.
theorem Sound.free (h : Sound unicode s) {user : User} (huser : user ∈ s.users)
    (hname : user.named unicode name = true) : Free unicode s user.id name := by
  intro other hother hne
  by_contra hnamed
  have hsame := h.eq_of_named huser hother hname (eq_true_of_ne_false hnamed)
  exact hne (congrArg User.id hsame)

theorem Sound.named_own (h : Sound unicode s) {user : User} (huser : user ∈ s.users) :
    user.named unicode user.name = true := by
  rw [User.named, h.safe user huser]
  exact decide_eq_true rfl

-- Where names pass as new ones, an account may take another name as it should be, unless a newline
-- comes with it or it is the account's own in another spelling.
theorem Sound.taking_iff (hsound : Sound unicode s) {user : User} (huser : user ∈ s.users) :
    ((Passes unicode s name → Proper unicode name) ∧
        (Passes unicode s name ↔ Proper unicode name ∧ name ∉ s.disallowedNames ∧
          Free unicode s user.id name)) ↔
      ¬ Escapes unicode s name ∧ ¬ Respelled unicode s user name := by
  constructor
  · rintro ⟨hproper, hexact⟩
    refine ⟨fun hescapes => ?_, fun hrespelled => ?_⟩
    · exact hescapes.passes.proper_iff.mp (hproper hescapes.passes) hescapes
    · have hfree := hsound.free huser hrespelled.own
      have hpasses := hexact.mpr ⟨hrespelled.proper, hrespelled.allowed, hfree⟩
      exact Bool.false_ne_true ((hpasses.unused user huser).symm.trans hrespelled.own)
  · rintro ⟨hescapes, hrespelled⟩
    refine ⟨fun hpasses => hpasses.proper_iff.mpr hescapes, fun hpasses => ?_, ?_⟩
    · exact ⟨hpasses.proper_iff.mpr hescapes, hpasses.allowed,
        fun other hother _ => hpasses.unused other hother⟩
    · rintro ⟨hproper, hallowed, hfree⟩
      refine ⟨Or.inl hproper, hallowed, fun other hother => ?_⟩
      by_cases hid : other.id = user.id
      · rw [hsound.eq_of_id huser hother hid]
        by_contra hown
        exact hrespelled ⟨hproper, hallowed, eq_true_of_ne_false hown⟩
      · exact hfree other hother hid

end Requests

section Accepted

variable {unicode : Unicode} {s : Accounts}

theorem fetchById_of_mem (h : Sound unicode s) {user : User} (huser : user ∈ s.users) :
    s.fetchById user.id = some user := fetchBy_of_mem h.ids huser

theorem register_accepted (username : Str) (otherErrors : List String)
    (shouldCreateAccount : Bool) :
    (Request.register username otherErrors shouldCreateAccount).accepted unicode s = true ↔
      Passes unicode s username :=
  decide_eq_true_iff.trans usernameErrors_eq_nil

theorem changename_accepted (id : Nat) (args : List Str) :
    (Request.changename id args).accepted unicode s = true ↔
      Passes unicode s (Request.changename id args).name :=
  decide_eq_true_iff.trans changenameReply_eq_none

theorem updateProfile_accepted (h : Sound unicode s) {user : User} (huser : user ∈ s.users)
    (username : Str) (otherErrors : List String) :
    (Request.updateProfile user.id username otherErrors).accepted unicode s = true ↔
      username = user.name ∨ Passes unicode s username := by
  rw [Request.accepted, fetchById_of_mem h huser, Option.any_some, decide_eq_true_iff,
    Accounts.profileUsernameErrors]
  by_cases hname : username = user.name
  · simp [hname]
  · rw [if_pos hname, usernameErrors_eq_nil]
    exact (or_iff_right hname).symm

theorem register_ruled_iff (username : Str) (otherErrors : List String)
    (shouldCreateAccount : Bool) :
    Ruled unicode s (.register username otherErrors shouldCreateAccount) ↔
      ¬ Escapes unicode s username := by
  have haccepted := @register_accepted unicode s username otherErrors shouldCreateAccount
  constructor
  · intro hruled hescapes
    have hproper := hruled.proper (haccepted.mpr hescapes.passes)
    exact hescapes.passes.proper_iff.mp hproper hescapes
  · intro hescapes
    refine ⟨fun hpasses => ?_, fun _ _ haccount => by cases haccount⟩
    exact (haccepted.mp hpasses).proper_iff.mpr hescapes

-- What strip leaves has no newline behind it.
theorem not_escapes_strip {text : Str} : ¬ Escapes unicode s (Text.strip text) := by
  rintro ⟨⟨stem, hstrip, -⟩, -, -⟩
  exact absurd (Text.rstripBy_concat hstrip) (by decide)

theorem changename_ruled_iff (h : Sound unicode s) (id : Nat) (args : List Str) :
    Ruled unicode s (.changename id args) ↔
      (Request.changename id args).InOrder unicode s := by
  have haccepted := @changename_accepted unicode s id args
  have hescapes : ¬ Escapes unicode s (Request.changename id args).name := not_escapes_strip
  constructor
  · rintro ⟨hproper, hexact⟩ user huser rfl
    rw [haccepted] at hproper
    have hown := hexact user huser rfl
    rw [haccepted] at hown
    exact ((h.taking_iff huser).mp ⟨hproper, hown⟩).2
  · intro horder
    refine ⟨fun hpasses => ?_, fun user huser haccount => ?_⟩
    · exact (haccepted.mp hpasses).proper_iff.mpr hescapes
    · have hid : user.id = id := (Option.some.inj haccount).symm
      rw [haccepted]
      exact ((h.taking_iff huser).mpr ⟨hescapes, horder user huser hid⟩).2

-- The name that an account has already is always let through.
theorem updateProfile_ruled_own (h : Sound unicode s) {user : User} (huser : user ∈ s.users)
    (otherErrors : List String) :
    Ruled unicode s (.updateProfile user.id user.name otherErrors) ↔
      Proper unicode user.name ∧ user.name ∉ s.disallowedNames := by
  have haccepted := (updateProfile_accepted h huser user.name otherErrors).mpr (Or.inl rfl)
  constructor
  · rintro ⟨hproper, hexact⟩
    exact ⟨hproper haccepted, ((hexact user huser rfl).mp haccepted).2.1⟩
  · rintro ⟨hproper, hallowed⟩
    refine ⟨fun _ => hproper, fun other hother haccount => ?_⟩
    have hid : user.id = other.id := Option.some.inj haccount
    refine iff_of_true haccepted ⟨hproper, hallowed, ?_⟩
    rw [← hid]
    exact h.free huser (h.named_own huser)

theorem updateProfile_ruled_other (h : Sound unicode s) {user : User} (huser : user ∈ s.users)
    {username : Str} (hname : username ≠ user.name) (otherErrors : List String) :
    Ruled unicode s (.updateProfile user.id username otherErrors) ↔
      ¬ Escapes unicode s username ∧ ¬ Respelled unicode s user username := by
  have haccepted := (updateProfile_accepted h huser username otherErrors).trans
    (or_iff_right hname)
  rw [← h.taking_iff huser]
  constructor
  · rintro ⟨hproper, hexact⟩
    have hown := hexact user huser rfl
    rw [haccepted] at hproper hown
    exact ⟨hproper, hown⟩
  · rintro ⟨hproper, hown⟩
    refine ⟨fun hpasses => hproper (haccepted.mp hpasses), fun other hother haccount => ?_⟩
    have hid : other.id = user.id := (Option.some.inj haccount).symm
    rw [h.eq_of_id huser hother hid, haccepted]
    exact hown

theorem updateProfile_ruled_iff (h : Sound unicode s) (id : Nat) (username : Str)
    (otherErrors : List String) :
    Ruled unicode s (.updateProfile id username otherErrors) ↔
      (Request.updateProfile id username otherErrors).InOrder unicode s := by
  cases hfind : s.fetchById id with
  | none =>
    have habsent : ∀ user ∈ s.users, user.id ≠ id := fetchBy_eq_none.mp hfind
    refine iff_of_true ⟨fun haccepted => ?_, fun user huser haccount => ?_⟩ ?_
    · rw [Request.accepted, hfind] at haccepted
      cases haccepted
    · exact absurd (Option.some.inj haccount).symm (habsent user huser)
    · exact fun user huser hid => absurd hid (habsent user huser)
  | some user =>
    have huser : user ∈ s.users := mem_of_fetchBy hfind
    obtain rfl : user.id = id := key_of_fetchBy hfind
    have hone : (Request.updateProfile user.id username otherErrors).InOrder unicode s ↔
        if username = user.name then Proper unicode username ∧ username ∉ s.disallowedNames
        else ¬ Escapes unicode s username ∧ ¬ Respelled unicode s user username := by
      constructor
      · exact fun horder => horder user huser rfl
      · intro horder other hother hid
        rw [h.eq_of_id huser hother hid]
        exact horder
    rw [hone]
    split
    · rename_i hname
      subst hname
      exact updateProfile_ruled_own h huser otherErrors
    · rename_i hname
      exact updateProfile_ruled_other h huser hname otherErrors

theorem ruled_iff (h : Sound unicode s) (request : Request) :
    Ruled unicode s request ↔ request.InOrder unicode s := by
  cases request with
  | register username otherErrors shouldCreateAccount =>
    exact register_ruled_iff username otherErrors shouldCreateAccount
  | updateProfile id username otherErrors => exact updateProfile_ruled_iff h id username otherErrors
  | changename id args => exact changename_ruled_iff h id args

end Accepted

section Runs

variable {unicode : Unicode} {s : Accounts}

theorem Sound.create (h : Sound unicode s) {name : Str}
    (hunused : ∀ user ∈ s.users, user.named unicode name = false) :
    Sound unicode (s.create unicode name) where
  ids := nodup_map_append h.ids fun user huser => (h.fresh user huser).ne
  fresh := by
    intro user huser
    rcases List.mem_append.mp huser with hold | hnew
    · exact Nat.lt_succ_of_lt (h.fresh user hold)
    · rw [List.mem_singleton.mp hnew]
      exact Nat.lt_succ_self _
  safe := by
    intro user huser
    rcases List.mem_append.mp huser with hold | hnew
    · exact h.safe user hold
    · rw [List.mem_singleton.mp hnew]
  unique := nodup_map_append h.unique fun user huser => of_decide_eq_false (hunused user huser)

theorem Sound.partialUpdate (h : Sound unicode s) {id : Nat} {name : Str}
    (hfree : ∀ user ∈ s.users, user.id ≠ id → user.named unicode name = false) :
    Sound unicode (s.partialUpdate unicode id name) where
  ids := by
    refine nodup_map_of_same h.ids fun user => ?_
    split <;> rfl
  fresh := by
    intro user huser
    obtain ⟨old, hold, rfl⟩ := List.mem_map.mp huser
    have hlt := h.fresh old hold
    split <;> exact hlt
  safe := by
    intro user huser
    obtain ⟨old, hold, rfl⟩ := List.mem_map.mp huser
    split
    · rfl
    · exact h.safe old hold
  unique := by
    rw [Accounts.partialUpdate, List.map_map]
    refine List.Nodup.map_on (fun user huser other hother hsame => ?_) (h.unique.of_map _)
    dsimp only [Function.comp_apply] at hsame
    by_cases huserId : user.id = id <;> by_cases hotherId : other.id = id
    · exact h.eq_of_id hother huser (huserId.trans hotherId.symm)
    · rw [if_pos huserId, if_neg hotherId] at hsame
      exact absurd hsame.symm (of_decide_eq_false (hfree other hother hotherId))
    · rw [if_neg huserId, if_pos hotherId] at hsame
      exact absurd hsame (of_decide_eq_false (hfree user huser huserId))
    · rw [if_neg huserId, if_neg hotherId] at hsame
      exact List.inj_on_of_nodup_map h.unique huser hother hsame

theorem Sound.step (h : Sound unicode s) (request : Request) :
    Sound unicode (step unicode s request) := by
  unfold Registration.step
  split
  · rename_i haccepted
    cases request with
    | register username otherErrors shouldCreateAccount =>
      have hpasses := (register_accepted _ _ _).mp haccepted
      dsimp only
      split
      · exact h.create hpasses.unused
      · exact h
    | updateProfile id username otherErrors =>
      dsimp only
      split
      · obtain ⟨user, hfind⟩ : ∃ user, s.fetchById id = some user := by
          cases hfind : s.fetchById id with
          | none =>
            rw [Request.accepted, hfind] at haccepted
            cases haccepted
          | some user => exact ⟨user, rfl⟩
        have huser : user ∈ s.users := mem_of_fetchBy hfind
        obtain rfl : user.id = id := key_of_fetchBy hfind
        refine h.partialUpdate ?_
        rcases (updateProfile_accepted h huser username otherErrors).mp haccepted with rfl | hpasses
        · exact h.free huser (h.named_own huser)
        · exact fun other hother _ => hpasses.unused other hother
      · exact h
    | changename id args =>
      have hpasses := (changename_accepted id args).mp haccepted
      exact h.partialUpdate fun user huser _ => hpasses.unused user huser
  · exact h

theorem Sound.run (h : Sound unicode s) (requests : List Request) :
    Sound unicode (runFrom (Registration.step unicode) s requests) := by
  induction requests generalizing s with
  | nil => exact h
  | cons request rest ih => exact ih (h.step request)

-- After any run no two accounts have one safe name; and the names are ruled as they should be for
-- exactly those requests that are in order.
theorem names_ruled_iff (h : Sound unicode s) (requests : List Request) :
    (∀ user ∈ (runFrom (step unicode) s requests).users,
      ∀ other ∈ (runFrom (step unicode) s requests).users,
        makeSafeName unicode user.name = makeSafeName unicode other.name → user = other) ∧
      ∀ request, Ruled unicode (runFrom (step unicode) s requests) request ↔
        request.InOrder unicode (runFrom (step unicode) s requests) := by
  have hsound := h.run requests
  refine ⟨fun user huser other hother hsame => ?_, ruled_iff hsound⟩
  refine List.inj_on_of_nodup_map hsound.unique huser hother ?_
  rw [hsound.safe user huser, hsound.safe other hother, hsame]

theorem isAlphanum_iff {c : Char} : c.isAlphanum = true ↔
    65 ≤ c.val.toNat ∧ c.val.toNat ≤ 90 ∨ 97 ≤ c.val.toNat ∧ c.val.toNat ≤ 122 ∨
      48 ≤ c.val.toNat ∧ c.val.toNat ≤ 57 := by
  have hsplit : c.isAlphanum = (decide (65 ≤ c.val ∧ c.val ≤ 90) ||
      (decide (97 ≤ c.val) && decide (c.val ≤ 122)) ||
        (decide (48 ≤ c.val) && decide (c.val ≤ 57))) := rfl
  simp only [hsplit, Bool.or_eq_true, Bool.and_eq_true, decide_eq_true_eq,
    UInt32.le_iff_toNat_le, UInt32.reduceToNat, or_assoc]

-- Of characters only those of ASCII are told apart.
def ascii : Unicode where
  isalnum := Char.isAlphanum
  lower := List.map Char.toLower
  collate := id
  isalnum_control := by
    intro c hcontrol
    simp only [isControl, Bool.or_eq_true, Bool.and_eq_true, decide_eq_true_eq,
      UInt32.lt_iff_toNat_lt, UInt32.le_iff_toNat_le, UInt32.reduceToNat] at hcontrol
    rw [← Bool.not_eq_true, isAlphanum_iff]
    omega

-- Only the bot has an account.
def botOnly : Accounts where
  users := [⟨1, "BanchoBot".toList, "banchobot".toList⟩]
  nextId := 3
  disallowedNames := []

theorem sound_botOnly : Sound ascii botOnly where
  ids := by decide
  fresh := by decide
  safe := by decide
  unique := by decide

theorem names_ruled_registered :
    let s := runFrom (step ascii) botOnly [.register "cookie".toList [] true]
    (∀ user ∈ s.users, ∀ other ∈ s.users,
        makeSafeName ascii user.name = makeSafeName ascii other.name → user = other) ∧
      ∀ request, Ruled ascii s request ↔ request.InOrder ascii s :=
  names_ruled_iff sound_botOnly [.register "cookie".toList [] true]

def longName : Str := "fifteen letters\n".toList

def twoNames : Accounts :=
  runFrom (step ascii) botOnly
    [.register longName [] true, .register "cookie".toList [] true]

-- A name of sixteen characters is registered, the last of them a newline; and its account may not
-- change the case of it, since it is taken by itself.
theorem not_names_ruled :
    twoNames.users.map (·.name) = ["BanchoBot".toList, longName, "cookie".toList] ∧
      ¬ Ruled ascii botOnly (.register longName [] true) ∧
      ¬ Ruled ascii twoNames (.changename 4 ["Cookie".toList]) ∧
      ¬ Ruled ascii twoNames (.updateProfile 4 "Cookie".toList []) := by
  have hcookie : Proper ascii "Cookie".toList :=
    proper_iff.mpr ⟨⟨by decide, by decide, List.all_eq_true.mp (by decide)⟩, by decide⟩
  have hfree : Free ascii twoNames 4 "Cookie".toList := by
    unfold Free
    decide
  refine ⟨by decide, ?_, ?_, ?_⟩
  · intro hruled
    exact absurd ((hruled.proper (by decide)).plain '\n' (by decide)) (by decide)
  · intro hruled
    have hexact := hruled.exact ⟨4, "cookie".toList, "cookie".toList⟩ (by decide) rfl
    exact absurd (hexact.mpr ⟨hcookie, by decide, hfree⟩) (by decide)
  · intro hruled
    have hexact := hruled.exact ⟨4, "cookie".toList, "cookie".toList⟩ (by decide) rfl
    exact absurd (hexact.mpr ⟨hcookie, by decide, hfree⟩) (by decide)

end Runs

end BanchoPrism.Registration
