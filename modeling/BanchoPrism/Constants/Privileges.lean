namespace BanchoPrism

abbrev Privileges := Nat

namespace Privileges

def UNRESTRICTED : Privileges := 1 <<< 0
def VERIFIED : Privileges := 1 <<< 1
def WHITELISTED : Privileges := 1 <<< 2
def SUPPORTER : Privileges := 1 <<< 4
def PREMIUM : Privileges := 1 <<< 5
def ALUMNI : Privileges := 1 <<< 7
def TOURNEY_MANAGER : Privileges := 1 <<< 10
def NOMINATOR : Privileges := 1 <<< 11
def MODERATOR : Privileges := 1 <<< 12
def ADMINISTRATOR : Privileges := 1 <<< 13
def DEVELOPER : Privileges := 1 <<< 14

def DONATOR : Privileges := SUPPORTER ||| PREMIUM
def STAFF : Privileges := MODERATOR ||| ADMINISTRATOR ||| DEVELOPER

def has (priv bits : Privileges) : Bool := priv &&& bits != 0

end Privileges

-- A user or a session.
structure PlayerIdentity where
  id : Int
  priv : Privileges

def publicPlayerMask : Privileges := Privileges.UNRESTRICTED ||| Privileges.VERIFIED

def canViewPlayer (viewer : Option PlayerIdentity) (targetId : Int) (targetPriv : Privileges) :
    Bool :=
  if targetPriv &&& publicPlayerMask = publicPlayerMask then true
  else
    match viewer with
    | none => false
    | some viewer => viewer.id = targetId || viewer.priv.has Privileges.STAFF

end BanchoPrism
