import DeclaredTriggers.Connection.Address

/-!
# Connection parameters

What a connection string says: where servers may be, what a session begins with and what it has to
be like. Each parameter is set by its name; a later value replaces an earlier one, except that
hosts, addresses and ports are added to those before. Without a host or an address there is nothing
to try.
-/

namespace DeclaredTriggers

/-- Whether something is left out, used if possible, or has to be there. -/
inductive Demand where
  | disable
  | prefer
  | require
  deriving DecidableEq

/-- The demand of a name. -/
def Demand.ofName? : String → Option Demand
  | "disable" => some .disable
  | "prefer" => some .prefer
  | "require" => some .require
  | _ => none

/-- Which sessions will do. -/
inductive SessionKind where
  | any
  | readWrite
  | readOnly
  deriving DecidableEq

/-- The kind of session of a name. -/
def SessionKind.ofName? : String → Option SessionKind
  | "any" => some .any
  | "read-write" => some .readWrite
  | "read-only" => some .readOnly
  | _ => none

/-- The parameters of connections. -/
structure ConnectionParams where
  /-- Names of hosts and paths of sockets; none is a path whose bytes are no text. -/
  hosts : List (Option String) := []
  /-- Numeric addresses, which take the place of the hosts. -/
  addresses : List String := []
  ports : List Nat := []
  /-- What the server is told when a session begins, by parameter. -/
  opening : List (String × String) := []
  encryption : Demand := .prefer
  channelBinding : Demand := .prefer
  session : SessionKind := .any
  deriving DecidableEq

/-- The number below `limit` that a text spells; a plus may stand before it. -/
def boundedNumber? (limit : Nat) (s : String) : Option Nat :=
  let ds := match s.toList with
    | '+' :: rest => rest
    | s => s
  if !ds.isEmpty && ds.all Char.isDigit && Decimal.digitsValue ds < limit then
    some (Decimal.digitsValue ds)
  else none

/-- Whether a text spells a number of 64 bits with a sign. -/
def isSignedNumber (s : String) : Bool :=
  let (negative, ds) := Decimal.readSign s.toList
  !ds.isEmpty && ds.all Char.isDigit &&
    Decimal.digitsValue ds < Nat.pow 2 63 + (if negative then 1 else 0)

/-- The parts of a text between commas. -/
def commaParts (s : String) : List String := (Text.splitAll ',' s.toList).map String.ofList

namespace ConnectionParams

/-- Which of a host's ports servers listen on if nothing is said. -/
def defaultPort : Nat := 5432

/-- The number of 16 bits that a text spells; an empty text stands for the default. -/
def portNumber? (s : String) : Option Nat :=
  if s.isEmpty then some defaultPort else boundedNumber? (Nat.pow 2 16) s

/-- The parameters with a host added. -/
def withHost (p : ConnectionParams) (host : Option String) : ConnectionParams :=
  { p with hosts := p.hosts ++ [host] }

/-- The parameters with the addresses added that a text spells. -/
def withAddresses? (p : ConnectionParams) (s : String) : Option ConnectionParams :=
  if (commaParts s).all isAddress then some { p with addresses := p.addresses ++ commaParts s }
  else none

/-- The parameters with the numbers of ports added that a text spells. -/
def withPorts? (p : ConnectionParams) (s : String) : Option ConnectionParams := do
  let numbers ← (commaParts s).mapM portNumber?
  pure { p with ports := p.ports ++ numbers }

/-- The parameters that a session begins with. -/
def openingNames : List String := ["user", "dbname", "options", "application_name"]

/-- The parameters whose value is a number with a sign. -/
def signedNames : List String :=
  ["connect_timeout", "tcp_user_timeout", "keepalives_idle", "keepalives_interval"]

/-- Whether a parameter that changes nothing here has a value that it may have. -/
def isInert (name value : String) : Bool :=
  match name with
  | "password" => true
  | "sslnegotiation" => value = "postgres" || value = "direct"
  | "load_balance_hosts" => value = "disable" || value = "random"
  | "keepalives" => (boundedNumber? (Nat.pow 2 64) value).isSome
  | "keepalives_retries" => (boundedNumber? (Nat.pow 2 32) value).isSome
  | _ => signedNames.contains name && isSignedNumber value

/-- The parameters with one more set. -/
def set? (p : ConnectionParams) (name value : String) : Option ConnectionParams :=
  if openingNames.contains name then
    some { p with opening := (name, value) :: p.opening.filter (·.1 ≠ name) }
  else
    match name with
    | "host" => some ((commaParts value).foldl (fun p host => p.withHost (some host)) p)
    | "hostaddr" => p.withAddresses? value
    | "port" => p.withPorts? value
    | "sslmode" => (Demand.ofName? value).map ({ p with encryption := · })
    | "channel_binding" => (Demand.ofName? value).map ({ p with channelBinding := · })
    | "target_session_attrs" => (SessionKind.ofName? value).map ({ p with session := · })
    | _ => if isInert name value then some p else none

end ConnectionParams

/-- One place where a server may listen. -/
structure Endpoint where
  /-- The name or address of a host, or the path of a socket. -/
  host : String
  /-- Which of the host's ports it is. -/
  portNumber : Nat := ConnectionParams.defaultPort
  deriving DecidableEq

namespace ConnectionParams

/-- The places to try, one after the other. There has to be one, hosts and addresses have to be as
many if there are both, and of several ports each belongs to one place. A path whose bytes are no
text leads to none. -/
def endpoints? (p : ConnectionParams) : Option (List Endpoint) :=
  let places := if p.addresses.isEmpty then p.hosts else p.addresses.map some
  if places.isEmpty then none
  else if !p.hosts.isEmpty && p.hosts.length ≠ places.length then none
  else if 1 < p.ports.length && p.ports.length ≠ places.length then none
  else
    let portAt (i : Nat) : Nat := ((p.ports[i]?).or p.ports.head?).getD defaultPort
    some ((places.mapIdx fun i host => host.map (⟨·, portAt i⟩)).filterMap id)

/-- Whether a session can begin: none is encrypted or bound to its channel, and what the server is
told has no NUL in it. -/
def canBegin (p : ConnectionParams) : Bool :=
  p.encryption ≠ .require && p.channelBinding ≠ .require &&
    p.opening.all fun (_, value) => !value.toList.contains '\x00'

end ConnectionParams

end DeclaredTriggers
