import PeerLink.Link.Claim
import PeerLink.Link.Config
import PeerLink.Region.Store

/-! # Attaching

How an endpoint comes by its region. A slave only attaches. The other roles attach to a complete
region, make one where there is none, and replace one that they cannot use. Between two looks at the
name others may act, so the way there is given as single steps.

* `Regions.attachLayout`, `Regions.createLayout`: one look at a name, one creation.
* `Approach`: where an attacher stands.
* `Approach.step`: its next step.
* `Approach.run`: the steps of an attacher while nobody else acts.
-/

namespace PeerLink

/-! ## Refusals that an attacher acts on -/

namespace LinkError

def isNotFound : LinkError → Bool
  | .region e => e.isNotFound
  | _ => false

def isAlreadyExists : LinkError → Bool
  | .region e => e.isAlreadyExists
  | _ => false

/-- Whether a region is there that cannot be used. -/
def isUnusable : LinkError → Bool
  | .incompatibleRegion _ _ => true
  | .region (.tooSmall _ _ _) => true
  | _ => false

end LinkError

namespace Regions

/-! ## Single steps -/

def mapHeader (id : ObjectId) (f : Header → Header) (r : Regions) : Regions :=
  (r.onLayout id fun l => ((), { l with header := f l.header })).2

/-- An operation on the header of an object. -/
def onHeader {α : Type} (id : ObjectId) (act : Header → α × Header) (r : Regions) : α × Regions :=
  r.onLayout id (·.onHeader act)

/-- Attaches to a region that is large enough and has a valid header. -/
def attachLayout (name : String) (r : Regions) : Except LinkError RegionHandle :=
  match r.attach name Layout.size with
  | .error e => .error (.region e)
  | .ok handle =>
    match (r.layout handle.object).header.validate with
    | .error e => .error e
    | .ok () => .ok handle

/-- Creates a region and fills in its header. A region whose header cannot be filled in is removed
again. -/
def createLayout (k : Kernel) (p : Process) (name : String) (staleThreshold : Duration)
    (r : Regions) : Except LinkError RegionHandle × Regions :=
  match r.create k name Layout.size defaultMode with
  | (.error e, r) => (.error (.region e), r)
  | (.ok handle, r) =>
    match r.onHeader handle.object (·.publish p staleThreshold) with
    | (.ok (), r) => (.ok handle, r)
    | (.error e, r) => (.error e, (r.unlink name).2)

end Regions

/-! ## The way to a region -/

/-- Where an attacher stands. -/
inductive Approach where
  /-- About to look at the name, with so many looks left; the last refusal of a creation. -/
  | look (left : Nat) (last : Option LinkError)
  /-- About to remove the name of an unusable region. -/
  | discard (left : Nat)
  | make (left : Nat)
  | attached (handle : RegionHandle)
  | refused (e : LinkError)
  deriving DecidableEq

namespace Approach

/-- Looks at a name before an attacher gives up. -/
def looks : Nat := 3

def start : Approach := .look looks none

def step (k : Kernel) (p : Process) (c : EndpointConfig) :
    Approach → Regions → Approach × Regions
  | .look 0 last, r =>
    (.refused (last.getD (.invalidConfig s!"could not attach region {c.name}")), r)
  | .look (left + 1) _, r =>
    match r.attachLayout c.name with
    | .ok handle => (.attached handle, r)
    | .error e =>
      if c.role = .slave then (.refused e, r)
      else if e.isNotFound then (.make left, r)
      else if e.isUnusable then (.discard left, r)
      else (.refused e, r)
  | .discard left, r =>
    match r.unlink c.name with
    | (.ok _, r) => (.make left, r)
    | (.error e, r) => (.refused (.region e), r)
  | .make left, r =>
    match r.createLayout k p c.name c.staleThreshold with
    | (.ok handle, r) => (.attached handle, r)
    | (.error e, r) => if e.isAlreadyExists then (.look left (some e), r) else (.refused e, r)
  | .attached handle, r => (.attached handle, r)
  | .refused e, r => (.refused e, r)

/-- A number of steps, none after the end. -/
def run (k : Kernel) (p : Process) (c : EndpointConfig) :
    Nat → Approach → Regions → Except LinkError RegionHandle × Regions
  | _, .attached handle, r => (.ok handle, r)
  | _, .refused e, r => (.error e, r)
  | 0, _, r => (.error (.invalidConfig s!"could not attach region {c.name}"), r)
  | n + 1, a, r =>
    let (a, r) := a.step k p c r
    run k p c n a r

/-- Every look takes at most three steps. -/
def maxSteps : Nat := 3 * looks + 1

end Approach

/-- The region of an endpoint, attached to or made. -/
def Regions.acquire (k : Kernel) (p : Process) (c : EndpointConfig) (r : Regions) :
    Except LinkError RegionHandle × Regions :=
  Approach.start.run k p c Approach.maxSteps r

end PeerLink
