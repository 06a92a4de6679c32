import ServiceSocket.Session.Item

/-!
# Sessions

A session makes items, asks things of them and lets go of them.  It is a program over
system calls like any of its parts, so it says nothing about which system it runs on.  An
item that takes the name of an older one is made first; then the older one is released.
An item that a recipe puts aside is released between the two.
-/

namespace ServiceSocket

/-- Items under names, in the order of the names. -/
structure Session where
  items : List (String × Session.Item) := []

namespace Session

inductive Recipe where
  | dial (network : String) (near far : Option Address)
  | dialer (dialer : Dialer) (network : String) (far : Option Address)
  | connect (dialer : Dialer) (far : Address)
  | listen (network : String) (address : Option Address)
  | builder (builder : Listener.Builder) (network : String) (address : Option Address)
  | bind (builder : Listener.Builder) (address : Address)
  | adopt (d : Descriptor)
  | adoptHeld (name : String)
  /-- Take over a descriptor from elsewhere and let go of the item under a name. -/
  | adoptInstead (d : Descriptor) (name : String)
  | tcpConnection (d : Descriptor)
  | tcpListener (d : Descriptor)
  | accept (listener : String)
  | anyAccept (listener : String)
  | duplicate (listener : String)

inductive Action where
  | make (name : String) (recipe : Recipe)
  | ask (name : String) (request : Request)
  | drop (name : String)

def find? (s : Session) (name : String) : Option Item :=
  (s.items.find? fun entry => entry.1 == name).map Prod.snd

def insertSorted (name : String) (item : Item) : List (String × Item) -> List (String × Item)
  | [] => [(name, item)]
  | (other, held) :: rest =>
      if name < other then (name, item) :: (other, held) :: rest
      else if name = other then (name, item) :: rest
      else (other, held) :: insertSorted name item rest

def insert (s : Session) (name : String) (item : Item) : Session :=
  ⟨insertSorted name item s.items⟩

def erase (s : Session) (name : String) : Session :=
  ⟨s.items.filter fun entry => entry.1 != name⟩

/-!
# Making
-/

/-- Make an item; none when the recipe needs one that the session does not hold. -/
def prepare (s : Session) (recipe : Recipe) (patience : Nat) : Option (Attempt Item) :=
  match recipe with
  | .dial network near far =>
      some (.connection <$> Connection.dial network near far patience)
  | .dialer dialer network far => some (.connection <$> dialer.dial network far patience)
  | .connect dialer far => some (.connection <$> dialer.connect far patience)
  | .listen network address => some (.listener <$> Listener.listen network address)
  | .builder builder network address => some (.listener <$> builder.listen network address)
  | .bind builder address => some (.listener <$> builder.bind address)
  | .adopt d | .adoptInstead d _ => some (.connection <$> Connection.adopt d)
  | .adoptHeld name =>
      match s.find? name with
      | some (.descriptor d) => some (.connection <$> Connection.adopt d)
      | _ => none
  | .tcpConnection d => some (return .tcpConnection (.ofDescriptor d))
  | .tcpListener d => some (return .tcpListener ⟨d⟩)
  | .accept name =>
      match s.find? name with
      | some (.listener l) => some (.connection <$> l.accept patience)
      | _ => none
  | .anyAccept name =>
      match s.find? name with
      | some (.listener l) =>
          some (.anyConnection <$> (AnyListener.service l).accept patience)
      | some (.tcpListener l) =>
          some (.anyConnection <$> (AnyListener.tcp l).accept patience)
      | _ => none
  | .duplicate name =>
      match s.find? name with
      | some (.listener l) => some (.descriptor <$> l.duplicate)
      | _ => none

def useUp (s : Session) : Recipe -> Session
  | .adoptHeld name | .adoptInstead _ name => s.erase name
  | _ => s

def setAside (s : Session) : Recipe -> Option Item
  | .adoptInstead _ name => s.find? name
  | _ => none

def releaseHeld : Option Item -> Program Unit
  | some item => item.release
  | none => return ()

def make (s : Session) (name : String) (recipe : Recipe) (patience : Nat) :
    Program (Answer × Session) :=
  match s.prepare recipe patience with
  | none => return (.missing, s)
  | some body => do
      let aside := s.setAside recipe
      let s := s.useUp recipe
      let result ← body.run
      releaseHeld aside
      match result with
      | .error error => return (.failed error, s)
      | .ok item =>
          releaseHeld (s.find? name)
          return (.made, s.insert name item)

/-!
# Acting
-/

def act (s : Session) (action : Action) (patience : Nat) : Program (Answer × Session) :=
  match action with
  | .make name recipe => s.make name recipe patience
  | .ask name request =>
      match s.find? name with
      | none => return (.missing, s)
      | some item => do
          let (answer, changed) ← item.ask request patience
          return (answer, s.insert name changed)
  | .drop name =>
      match s.find? name with
      | none => return (.missing, s)
      | some item => do
          item.release
          return (.done, s.erase name)

def finish (s : Session) : Program Unit :=
  s.items.forM fun entry => entry.2.release

end Session
end ServiceSocket
