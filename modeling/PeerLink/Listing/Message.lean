import PeerLink.Cli.Options
import PeerLink.Link.Role
import PeerLink.Listing.Table
import PeerLink.Real.RealText
import PeerLink.Text.Json

/-! # Received messages

How a message is shown: as a JSON object, as a box, as plain lines, or as it is.

* `Value.json`, `Value.plain`: a value in JSON and by itself.
* `Payload.preview`: bytes as text, if they are text.
* `ReceivedMessage`, `ReceivedMessage.listing`: a message and the way it is shown.
-/

namespace PeerLink

namespace Value

/-- A value in JSON. A real that is no number has no form there. -/
def json : Value → Json.Value
  | .integer v => .number (toString v.toInt)
  | .boolean v => .bool v
  | .real v => if v.isFinite then .number (RealFormat.json.write v) else .null
  | .string v => .string v
  | .binary v => .string (Hex.encode v)

def plain : Value → String
  | .integer v => toString v.toInt
  | .boolean v => if v then "true" else "false"
  | .real v => RealFormat.plain.write v
  | .string v => v
  | .binary v => "0x" ++ Hex.encode v

end Value

/-- Bytes as text, or how many there are if they are no text. -/
def Payload.preview (payload : Bytes) : String :=
  match Utf8.decode payload with
  | .ok text => text
  | .error _ => s!"<binary {payload.length} bytes>"

/-- A received message and, unless it is shown as it is, its items. -/
structure ReceivedMessage where
  region : String
  role : Role
  payload : Bytes
  items : Option (List Item)

namespace ReceivedMessage

/-- What the JSON form of a message is called. -/
def schema : String :=
  "https://schemas.3leaps.dev/eshm/cli/v1/message-received.schema.json"

def itemJson (i : Item) : Json.Value :=
  .object [("key", .string i.key), ("type", .string i.type.name), ("value", i.value.json)]

/-- A message in JSON; the time of receipt is given as text. -/
def json (time : String) (m : ReceivedMessage) : Json.Value :=
  let content := match m.items with
    | some items => ("items", .array (items.map itemJson))
    | none => ("payload", .string (Payload.preview m.payload))
  .object
    [("schema_id", .string schema), ("region", .string m.region), ("role", .string m.role.name),
      ("payload_size", Json.ofNat m.payload.length), content, ("timestamp", .string time)]

def table (m : ReceivedMessage) : Table :=
  match m.items with
  | some items =>
    ⟨["KEY", "TYPE", "VALUE"], items.map fun i => [i.key, i.type.name, i.value.plain]⟩
  | none =>
    ⟨["REGION", "ROLE", "SIZE", "PAYLOAD"],
      [[m.region, m.role.name, toString m.payload.length, Payload.preview m.payload]]⟩

def lines (m : ReceivedMessage) : List String :=
  match m.items with
  | some items =>
    s!"region={m.region} size={m.payload.length} items={items.length}"
      :: items.map fun i => s!"  {i.key} ({i.type.name}) = {i.value.plain}"
  | none =>
    [s!"region={m.region} size={m.payload.length} payload={Payload.preview m.payload}"]

def output (ls : List String) : Bytes := Utf8.encode (String.join (ls.map (· ++ "\n")))

def listing (time : String) (format : OutputFormat) (m : ReceivedMessage) : Bytes :=
  match format with
  | .json => output [(m.json time).render]
  | .table => output [m.table.render]
  | .pretty => output m.lines
  | .raw => m.payload

end ReceivedMessage

end PeerLink
