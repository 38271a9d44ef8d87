import TunnelKeeper.Number.Numeral
import TunnelKeeper.Text.Blank
import TunnelKeeper.Text.Split
/-!
# Settings in the environment

Variables whose names begin with `AWGMAN_` override settings. The rest of the name, in small
letters, is the name of the setting; names that mean nothing are passed over. One value that cannot
be read, or one setting that is given twice, makes the whole environment unusable.
-/

namespace TunnelKeeper

/-- The variables of an environment, in the order of their names. -/
structure Environment where
  entries : List (String × String)
  deriving DecidableEq, Repr

namespace Environment

/-- The environment with some variables. -/
def ofList (entries : List (String × String)) : Environment :=
  ⟨entries.mergeSort fun a b => a.1 ≤ b.1⟩

/-- The value of a variable. -/
def value? (env : Environment) (name : String) : Option String := env.entries.lookup name

end Environment

/-- Why the environment cannot be used. -/
inductive EnvironmentFault
  | numeral (fault : Number.NumeralFault) (raw name : String)
  | truthValue (raw name : String)
  | repeated (field : String)
  deriving DecidableEq, Repr

/-- Where a value that cannot be read comes from. -/
def EnvironmentFault.place (raw name : String) : String :=
  " while parsing value '" ++ raw ++ "' provided by " ++ name

/-- The wording of a fault of the environment. -/
def EnvironmentFault.message : EnvironmentFault → String
  | .numeral fault raw name => fault.message ++ place raw name
  | .truthValue raw name =>
    "provided string was not `true` or `false`" ++ place raw name
  | .repeated field => "duplicate field `" ++ field ++ "`"

/-- The settings that the environment overrides. -/
structure Overrides where
  wireguardMode : Option String
  databaseUrl : Option String
  maxConnections : Option UInt32
  logLevel : Option String
  startListenPort : Option UInt16
  startCidrV4 : Option String
  startCidrV6 : Option String
  useIpV6 : Option Bool
  storagePath : Option String
  compressionLevel : Option UInt32
  deriving DecidableEq, Repr

namespace Overrides

/-- Nothing is overridden. -/
def empty : Overrides := ⟨none, none, none, none, none, none, none, none, none, none⟩

/-- What the names of all overriding variables begin with. -/
def leader : String := "AWGMAN_"

/-- What follows the leader, however often that is repeated, in a text of at most `n`
characters. -/
def afterLeaders : Nat → List Char → List Char
  | 0, name => name
  | n + 1, name =>
    match Text.afterLeading leader.toList name with
    | some rest => afterLeaders n rest
    | none => name

/-- A value that must be a number below a limit. -/
def number (limit : Nat) (name raw : String) : Except EnvironmentFault Nat :=
  (Number.readNumeral 10 limit raw.toList).mapError fun fault => .numeral fault raw name

/-- A value that must be a truth value. -/
def truthValue (name raw : String) : Except EnvironmentFault Bool :=
  if raw = "true" then .ok true
  else if raw = "false" then .ok false
  else .error (.truthValue raw name)

/-- Sets a field that must not have been set before. -/
def once {α : Type} (field : String) (old : Option α) (new : Except EnvironmentFault α)
    (put : Option α → Overrides) : Except EnvironmentFault Overrides :=
  if old.isSome then .error (.repeated field) else new.map fun value => put (some value)

/-- Takes the value of a variable in, whose name is given without leader. -/
def set (o : Overrides) (name raw : String) : Except EnvironmentFault Overrides :=
  let field := Text.lower name
  match field with
  | "wireguard_mode" =>
    once field o.wireguardMode (.ok raw) fun v => { o with wireguardMode := v }
  | "database_url" => once field o.databaseUrl (.ok raw) fun v => { o with databaseUrl := v }
  | "max_db_connections" =>
    once field o.maxConnections ((number UInt32.size name raw).map UInt32.ofNat)
      fun v => { o with maxConnections := v }
  | "log_level" => once field o.logLevel (.ok raw) fun v => { o with logLevel := v }
  | "start_listen_port" =>
    once field o.startListenPort ((number UInt16.size name raw).map UInt16.ofNat)
      fun v => { o with startListenPort := v }
  | "start_cidr_v4" => once field o.startCidrV4 (.ok raw) fun v => { o with startCidrV4 := v }
  | "start_cidr_v6" => once field o.startCidrV6 (.ok raw) fun v => { o with startCidrV6 := v }
  | "use_ip_v6" =>
    once field o.useIpV6 (truthValue name raw) fun v => { o with useIpV6 := v }
  | "config_storage_path" =>
    once field o.storagePath (.ok raw) fun v => { o with storagePath := v }
  | "compression_level" =>
    once field o.compressionLevel ((number UInt32.size name raw).map UInt32.ofNat)
      fun v => { o with compressionLevel := v }
  | _ => .ok o

/-- Takes a variable in if its name begins with the leader. -/
def takeVariable (o : Overrides) (v : String × String) : Except EnvironmentFault Overrides :=
  match Text.stripLeading leader v.1 with
  | some rest => o.set (String.ofList (afterLeaders rest.length rest.toList)) v.2
  | none => .ok o

/-- The overrides of an environment. -/
def ofEnvironment (env : Environment) : Except EnvironmentFault Overrides :=
  env.entries.foldlM takeVariable empty

end Overrides

end TunnelKeeper
