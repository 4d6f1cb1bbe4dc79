import PeerLink.Cli.Argument
import PeerLink.Link.Config
import PeerLink.Message.Encode

/-! # Options

What the commands are told, once the command line has been taken apart.

* `LinkOptions`: the options of every command that opens an endpoint, with their defaults.
* `LinkOptions.config`: the settings that they stand for.
* `PayloadOptions`: what is to be sent, and `PayloadOptions.resolve`: its bytes.
* `Invocation`: a command with its options.
-/

namespace PeerLink

/-- The options of an endpoint. Durations are still texts. -/
structure LinkOptions where
  name : String
  role : Role := .auto
  disconnect : DisconnectBehavior := .onTimeout
  staleThreshold : String := "100ms"
  reconnectWait : String := "5s"
  reconnectInterval : String := "100ms"
  /-- How many attempts reconnection may take; zero is no limit. -/
  maxReconnectAttempts : UInt32 := 50
  /-- Whether the region stays when nobody needs it. -/
  keepRegion : Bool := false
  deriving DecidableEq, Repr

/-- The settings that options stand for. -/
def LinkOptions.config (o : LinkOptions) : Except Failure EndpointConfig := do
  let staleThreshold ← Argument.duration o.staleThreshold
  let reconnectWait ← Argument.optionalDuration o.reconnectWait
  let retryInterval ← Argument.duration o.reconnectInterval
  let config : EndpointConfig :=
    { name := o.name
      role := o.role
      behavior := o.disconnect
      staleThreshold
      reconnectWait
      retryInterval
      maxAttempts := if o.maxReconnectAttempts = 0 then none else some o.maxReconnectAttempts
      autoCleanup := !o.keepRegion }
  match config.validate with
  | .ok () => .ok config
  | .error e => .error (.ofLink "invalid endpoint options" e)

structure PayloadOptions where
  /-- Items, each as `key=type:value`. -/
  items : List String := []
  data : Option String := none
  file : Option String := none
  deriving DecidableEq, Repr

/-- The items of a list of arguments, or the failure of the first that is none. -/
def Argument.items : List String → Except Failure (List Item)
  | [] => .ok []
  | input :: rest => do
    let i ← Argument.item input
    let is ← Argument.items rest
    .ok (i :: is)

/-- The bytes to be sent: items if there are any, else the text, else the file, else nothing. -/
def PayloadOptions.resolve (readFile : String → Except IoError Bytes) (o : PayloadOptions) :
    Except Failure Bytes :=
  if !o.items.isEmpty then do
    let items ← Argument.items o.items
    match Message.encode items with
    | .ok payload => .ok payload
    | .error e => .error (.ofCodec "item encoding failed" e)
  else
    match o.data, o.file with
    | some text, _ => .ok (Utf8.encode text)
    | none, some path =>
      match readFile path with
      | .ok bytes => .ok bytes
      | .error e => .error (.ofIo s!"failed reading {path}" e)
    | none, none => .ok []

/-! ## Commands -/

inductive OutputFormat where
  /-- One JSON object a line. -/
  | json
  /-- A box. -/
  | table
  /-- Plain lines. -/
  | pretty
  /-- The bytes themselves. -/
  | raw
  deriving DecidableEq, Repr

namespace OutputFormat

def name : OutputFormat → String
  | .json => "json"
  | .table => "table"
  | .pretty => "pretty"
  | .raw => "raw"

def all : List OutputFormat := [.json, .table, .pretty, .raw]

def ofName? (s : String) : Option OutputFormat := all.find? (·.name == s)

end OutputFormat

structure SendOptions where
  link : LinkOptions
  payload : PayloadOptions := {}
  waitPeer : String := "5s"
  wait : Bool := false
  waitTimeout : String := "5s"
  /-- Whether the reply is shown as it is. -/
  raw : Bool := false
  deriving DecidableEq, Repr

structure ListenOptions where
  link : LinkOptions
  /-- How many messages to receive. -/
  count : Option Nat := none
  /-- How long to be without a message. -/
  timeout : Option String := none
  /-- Whether messages are shown as they are. -/
  raw : Bool := false
  deriving DecidableEq, Repr

structure EchoOptions where
  link : LinkOptions
  /-- How many messages to send back. -/
  count : Option Nat := none
  deriving DecidableEq, Repr

inductive Invocation where
  | send (options : SendOptions)
  | listen (options : ListenOptions)
  | echo (options : EchoOptions)
  | stats (name : String)
  | version (extended : Bool)
  deriving DecidableEq, Repr

end PeerLink
