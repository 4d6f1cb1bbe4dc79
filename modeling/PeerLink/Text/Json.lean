import PeerLink.Bytes.Hex

/-! # JSON text

Compact JSON, members in the order given.

* `Json.Value`: a document; numbers are carried as their text.
* `Json.Value.render`: its one-line form.
-/

namespace PeerLink.Json

inductive Value where
  | null
  | bool (b : Bool)
  /-- A number, already in the form it is written in. -/
  | number (text : String)
  | string (s : String)
  | array (elements : List Value)
  | object (members : List (String × Value))

def escape (c : Char) : List Char :=
  if c == '"' || c == '\\' then ['\\', c]
  else if c.toNat == 8 then ['\\', 'b']
  else if c == '\t' then ['\\', 't']
  else if c == '\n' then ['\\', 'n']
  else if c.toNat == 12 then ['\\', 'f']
  else if c == '\r' then ['\\', 'r']
  else if c.toNat < 0x20 then '\\' :: 'u' :: (Hex.word 4 c.toNat).toList
  else [c]

def quote (s : String) : String :=
  String.ofList ('"' :: s.toList.flatMap escape ++ ['"'])

mutual
/-- The one-line form of a document. -/
def Value.render : Value → String
  | .null => "null"
  | .bool true => "true"
  | .bool false => "false"
  | .number text => text
  | .string s => quote s
  | .array elements => "[" ++ String.intercalate "," (renderAll elements) ++ "]"
  | .object members => "\x7b" ++ String.intercalate "," (renderMembers members) ++ "\x7d"

def renderAll : List Value → List String
  | [] => []
  | v :: rest => v.render :: renderAll rest

def renderMembers : List (String × Value) → List String
  | [] => []
  | (k, v) :: rest => (quote k ++ ":" ++ v.render) :: renderMembers rest
end

def ofNat (n : Nat) : Value := .number (toString n)

end PeerLink.Json
