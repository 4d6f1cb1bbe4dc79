import PeerLink.Bytes.Hex
import PeerLink.Text.CodePoints

/-! # Quoted text

The form in which messages show a text that may hold anything: double quotes around it, a
backslash before a quote or a backslash, short names for the common control characters, and a
numeric escape for every other character that would not be seen by itself.
-/

namespace PeerLink.Quoted

def escape (c : Char) : List Char :=
  if c == '\x00' then ['\\', '0']
  else if c == '\t' then ['\\', 't']
  else if c == '\r' then ['\\', 'r']
  else if c == '\n' then ['\\', 'n']
  else if c == '"' || c == '\\' then ['\\', c]
  else if Text.isExtender c || !Text.isPrintable c then
    ['\\', 'u', '\x7b'] ++ Nat.toDigits 16 c.toNat ++ ['\x7d']
  else [c]

def quote (s : String) : String :=
  String.ofList ('"' :: s.toList.flatMap escape ++ ['"'])

end PeerLink.Quoted
