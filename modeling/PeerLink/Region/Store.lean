import PeerLink.Region.Error
import PeerLink.Region.Layout
import PeerLink.Region.Name

/-! # Named regions

The regions of a host. A name stands for a memory object; removing the name leaves the object to
those who have it mapped, and creating the name again makes another object.

* `Memory`: the bytes of one object, seen as a layout.
* `Regions`: the objects made so far and the names that stand for some of them.
* `Kernel`: which calls the system refuses.
* `Regions.create`, `Regions.attach`, `Regions.unlink`, `Regions.identify`: the operations on names.
* `RegionHandle`: what a process keeps of a region that it has mapped.
-/

namespace PeerLink

/-! ## Memory -/

/-- The bytes of one object. A layout covers the front of every object; an object shorter than a
layout has only the layout's first bytes, the others are zero and out of reach. Behind the layout
the bytes are zero beyond those ever written. -/
structure Memory where
  size : Nat
  layout : Layout
  /-- Bytes behind the layout. -/
  rest : Bytes
  deriving DecidableEq

namespace Memory

def zero (size : Nat) : Memory := ⟨size, Layout.zero, []⟩

def none : Memory := zero 0

/-- The bytes as far as any was written. -/
def image (m : Memory) : Bytes := (m.layout.image ++ m.rest).take m.size

/-- The `n` bytes from a position on, as far as the memory reaches. -/
def read (start n : Nat) (m : Memory) : Bytes :=
  let n := min n (m.size - start)
  let seen := Bytes.slice m.image start n
  seen ++ List.replicate (n - seen.length) 0

/-- Writes bytes from a position on, as far as the memory reaches. -/
def write (start : Nat) (new : Bytes) (m : Memory) : Memory :=
  let new := new.take (m.size - start)
  if new.isEmpty then m
  else
    let image := m.layout.image ++ m.rest
    let image := image ++ List.replicate (start + new.length - image.length) 0
    let image := image.overwrite start new
    { m with layout := Layout.ofImage image, rest := image.drop Layout.size }

end Memory

/-! ## Regions -/

/-- What tells one object from every other. -/
abbrev ObjectId := Nat

structure Regions where
  /-- The objects, each at the place of its number. -/
  objects : List Memory
  /-- The names, each with the number of its object. -/
  names : List (String × ObjectId)
  deriving DecidableEq

/-- Which calls the system refuses while a region is created and an endpoint is opened. -/
structure Kernel where
  making : Option Errno := none
  permitting : Nat → Option Errno := fun _ => none
  sizing : Nat → Option Errno
  /-- Mapping so many bytes. -/
  mapping : Nat → Option Errno
  identifying : Option Errno := none
  /-- Starting a thread. -/
  spawning : Option Errno := none

namespace Kernel

/-- A size is a signed word of 64 bits. -/
def maxSize : Nat := 0x7fffffffffffffff

/-- Bytes that a process can address. -/
def addressSpace : Nat := 0x800000000000

/-- A system that refuses nothing it can do: it cannot make an object larger than a size can say,
nor map more than can be addressed. -/
def able : Kernel where
  sizing n := if maxSize < n then some .invalidArgument else none
  mapping n := if addressSpace ≤ n then some .noMemory else none

end Kernel

/-- What a process keeps of a region that it has mapped. -/
structure RegionHandle where
  name : String
  objectName : String
  object : ObjectId
  size : Nat
  created : Bool
  deriving DecidableEq, Repr

namespace Regions

def empty : Regions := ⟨[], []⟩

/-! ## Objects -/

def memory (r : Regions) (id : ObjectId) : Memory := r.objects.getD id .none

/-- The front of an object, as a layout. -/
def layout (r : Regions) (id : ObjectId) : Layout := (r.memory id).layout

/-- Puts memory in the place of an object's. -/
def setMemory (id : ObjectId) (m : Memory) (r : Regions) : Regions :=
  { r with objects := r.objects.set id m }

/-- An operation on the layout of an object. -/
def onLayout {α : Type} (id : ObjectId) (act : Layout → α × Layout) (r : Regions) : α × Regions :=
  let m := r.memory id
  let (a, l) := act m.layout
  (a, r.setMemory id { m with layout := l })

def allocate (m : Memory) (r : Regions) : ObjectId × Regions :=
  (r.objects.length, { r with objects := r.objects ++ [m] })

/-! ## Names -/

def find? (objectName : String) (r : Regions) : Option ObjectId :=
  (r.names.find? (·.1 == objectName)).map (·.2)

/-- Lets a free name stand for an object. -/
def bind (objectName : String) (id : ObjectId) (r : Regions) : Regions :=
  { r with names := r.names ++ [(objectName, id)] }

def free (objectName : String) (r : Regions) : Regions :=
  { r with names := r.names.filter (·.1 != objectName) }

/-- The permissions of a region unless others are asked for: its owner alone. -/
def defaultMode : Nat := 0o600

/-- The call that the system refuses once the object is made, if any. -/
def refusal? (k : Kernel) (mode size : Nat) : Option Errno :=
  (k.permitting mode).orElse fun _ =>
    (k.sizing size).orElse fun _ => (k.mapping size).orElse fun _ => k.identifying

/-- Creates a region of zeros under a name that must be free. If the system refuses a call after the
object was made, the name is freed again. -/
def create (k : Kernel) (name : String) (size mode : Nat) (r : Regions) :
    Except RegionError RegionHandle × Regions :=
  match RegionName.object name with
  | .error e => (.error e, r)
  | .ok objectName =>
    if size = 0 then
      (.error (.create objectName (.custom .invalidInput "region length must be non-zero")), r)
    else
      match (r.find? objectName).map (fun _ => Errno.exists) <|> k.making with
      | some errno => (.error (.create objectName (.system errno)), r)
      | none =>
        let (id, made) := r.allocate (.zero size)
        let made := made.bind objectName id
        match refusal? k mode size with
        | some errno => (.error (.create objectName (.system errno)), made.free objectName)
        | none => (.ok ⟨name, objectName, id, size, true⟩, made)

/-- Attaches to the region of a name, which must have at least `minSize` bytes. -/
def attach (name : String) (minSize : Nat) (r : Regions) : Except RegionError RegionHandle :=
  match RegionName.object name with
  | .error e => .error e
  | .ok objectName =>
    match r.find? objectName with
    | none => .error (.attach objectName (.system .noEntry))
    | some id =>
      let size := (r.memory id).size
      if size < minSize then .error (.tooSmall objectName size minSize)
      else .ok ⟨name, objectName, id, size, false⟩

/-- Removes a name; the answer is whether it stood for a region. -/
def unlink (name : String) (r : Regions) : Except RegionError Bool × Regions :=
  match RegionName.object name with
  | .error e => (.error e, r)
  | .ok objectName =>
    match r.find? objectName with
    | none => (.ok false, r)
    | some _ => (.ok true, r.free objectName)

/-- The object that stands under a name now. -/
def identify (name : String) (r : Regions) : Except RegionError (Option ObjectId) :=
  match RegionName.object name with
  | .error e => .error e
  | .ok objectName => .ok (r.find? objectName)

def contains (name : String) (r : Regions) : Except RegionError Bool :=
  match r.identify name with
  | .error e => .error e
  | .ok id => .ok id.isSome

end Regions

end PeerLink
