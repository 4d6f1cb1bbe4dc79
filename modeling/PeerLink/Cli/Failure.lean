import PeerLink.Link.Error

/-! # Failures of the command line

A command that fails ends with an exit code that tells the kind of failure, and one line of text:
what was being done and what went wrong.

* `ExitCode`: the codes.
* `Failure`: a code and a text.
* `Failure.ofLink`, `Failure.ofRegion`, `Failure.ofCodec`, `Failure.ofIo`: the failures that errors
  of the lower layers become.
-/

namespace PeerLink

abbrev ExitCode := Nat

namespace ExitCode

def success : ExitCode := 0

/-- Something asked for is not there or cannot be had. -/
def failure : ExitCode := 1

/-- The command line cannot be understood. -/
def badCommandLine : ExitCode := 2

def transport : ExitCode := 3

/-- The system does not permit it. -/
def permission : ExitCode := 50

def data : ExitCode := 60

/-- An argument has no meaning. -/
def usage : ExitCode := 64

/-- The program broke off. -/
def aborted : ExitCode := 101

/-- It took too long. -/
def timeout : ExitCode := 124

def internal : ExitCode := 125

end ExitCode

/-- Why a command ends early. -/
structure Failure where
  code : ExitCode
  message : String
  deriving DecidableEq, Repr

namespace Failure

def usage (message : String) : Failure := ⟨ExitCode.usage, message⟩

/-- A failure while something was being done. -/
def during (code : ExitCode) (context message : String) : Failure :=
  ⟨code, s!"{context}: {message}"⟩

/-! ## Codes of errors -/

def ioCode (e : IoError) : ExitCode :=
  match e.kind with
  | .permissionDenied => ExitCode.permission
  | .timedOut | .wouldBlock => ExitCode.timeout
  | .notFound => ExitCode.failure
  | _ => ExitCode.internal

/-- The code of a refused call on a region. -/
def callCode (e : IoError) : ExitCode :=
  if e.kind = .permissionDenied then ExitCode.permission else ExitCode.transport

def regionCode : RegionError → ExitCode
  | .create _ source | .attach _ source | .detach _ source | .destroy _ source => callCode source
  | .nameTooLong _ _ _ | .invalidName _ => ExitCode.usage
  | .lockTimeout _ _ => ExitCode.timeout
  | .unsupported => ExitCode.internal
  | .tooSmall _ _ _ | .lockInit _ | .lockStolen _ _ => ExitCode.transport

/-! ## Failures of errors -/

def ofIo (context : String) (e : IoError) : Failure := during (ioCode e) context e.message

def ofRegion (context : String) (e : RegionError) : Failure :=
  during (regionCode e) context e.message

def ofCodec (context : String) (e : CodecError) : Failure := during ExitCode.data context e.message

/-- A link error while something was being done. Errors of the lower layers are shown without the
lead that the link puts before them. -/
def ofLink (context : String) (e : LinkError) : Failure :=
  match e with
  | .region e => ofRegion context e
  | .codec e => ofCodec context e
  | .io e => ofIo context e
  | .invalidConfig _ => during ExitCode.usage context e.message
  | .noData | .timeout _ => during ExitCode.timeout context e.message
  | .bufferFull _ _ | .bufferTooSmall _ _ => during ExitCode.data context e.message
  | .peerStale _ | .reconnectFailed _ _ | .incompatibleRegion _ _ =>
    during ExitCode.transport context e.message
  | .roleMismatch _ _ => during ExitCode.failure context e.message
  | .notInitialized => during ExitCode.internal context e.message

end Failure

end PeerLink
