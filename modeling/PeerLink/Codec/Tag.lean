/-! # Tags

The one-byte tags in front of every element, and the header byte of a real.
-/

namespace PeerLink.Tag

def boolean : UInt8 := 0x01

def integer : UInt8 := 0x02

def octets : UInt8 := 0x04

def real : UInt8 := 0x09

def text : UInt8 := 0x0c

def sequence : UInt8 := 0x30

/-- The header byte of a real given by its bit pattern. -/
def binary64 : UInt8 := 0x03

end PeerLink.Tag
