/-! # System errors

What the operating system answers when it refuses a call.

* `IoErrorKind`: the portable kinds of failure, each with a standard description.
* `Errno`: the system's own error numbers that region calls, threads and file reads can meet.
* `IoError`: a failure, either by number, by kind alone, or with a wording of its own.
-/

namespace PeerLink

inductive IoErrorKind where
  | addrInUse | addrNotAvailable | alreadyExists | argumentListTooLong | brokenPipe
  | connectionAborted | connectionRefused | connectionReset | crossesDevices | deadlock
  | directoryNotEmpty | executableFileBusy | fileTooLarge | filesystemLoop | hostUnreachable
  | inProgress | interrupted | invalidData | invalidFilename | invalidInput | isADirectory
  | networkDown | networkUnreachable | notADirectory | notConnected | notFound | notSeekable
  | other | outOfMemory | permissionDenied | quotaExceeded | readOnlyFilesystem | resourceBusy
  | staleNetworkFileHandle | storageFull | timedOut | tooManyLinks | uncategorized | unexpectedEof
  | unsupported | wouldBlock | writeZero
  deriving DecidableEq, Repr

def IoErrorKind.all : List IoErrorKind :=
  [.addrInUse, .addrNotAvailable, .alreadyExists, .argumentListTooLong, .brokenPipe,
    .connectionAborted, .connectionRefused, .connectionReset, .crossesDevices, .deadlock,
    .directoryNotEmpty, .executableFileBusy, .fileTooLarge, .filesystemLoop, .hostUnreachable,
    .inProgress, .interrupted, .invalidData, .invalidFilename, .invalidInput, .isADirectory,
    .networkDown, .networkUnreachable, .notADirectory, .notConnected, .notFound, .notSeekable,
    .other, .outOfMemory, .permissionDenied, .quotaExceeded, .readOnlyFilesystem, .resourceBusy,
    .staleNetworkFileHandle, .storageFull, .timedOut, .tooManyLinks, .uncategorized, .unexpectedEof,
    .unsupported, .wouldBlock, .writeZero]

def IoErrorKind.description : IoErrorKind → String
  | .addrInUse => "address in use"
  | .addrNotAvailable => "address not available"
  | .alreadyExists => "entity already exists"
  | .argumentListTooLong => "argument list too long"
  | .brokenPipe => "broken pipe"
  | .connectionAborted => "connection aborted"
  | .connectionRefused => "connection refused"
  | .connectionReset => "connection reset"
  | .crossesDevices => "cross-device link or rename"
  | .deadlock => "deadlock"
  | .directoryNotEmpty => "directory not empty"
  | .executableFileBusy => "executable file busy"
  | .fileTooLarge => "file too large"
  | .filesystemLoop => "filesystem loop or indirection limit (e.g. symlink loop)"
  | .hostUnreachable => "host unreachable"
  | .inProgress => "in progress"
  | .interrupted => "operation interrupted"
  | .invalidData => "invalid data"
  | .invalidFilename => "invalid filename"
  | .invalidInput => "invalid input parameter"
  | .isADirectory => "is a directory"
  | .networkDown => "network down"
  | .networkUnreachable => "network unreachable"
  | .notADirectory => "not a directory"
  | .notConnected => "not connected"
  | .notFound => "entity not found"
  | .notSeekable => "seek on unseekable file"
  | .other => "other error"
  | .outOfMemory => "out of memory"
  | .permissionDenied => "permission denied"
  | .quotaExceeded => "quota exceeded"
  | .readOnlyFilesystem => "read-only filesystem or storage medium"
  | .resourceBusy => "resource busy"
  | .staleNetworkFileHandle => "stale network file handle"
  | .storageFull => "no storage space"
  | .timedOut => "timed out"
  | .tooManyLinks => "too many links"
  | .uncategorized => "uncategorized error"
  | .unexpectedEof => "unexpected end of file"
  | .unsupported => "unsupported"
  | .wouldBlock => "operation would block"
  | .writeZero => "write zero"

/-- Error numbers of the operating system. -/
inductive Errno where
  /-- No such name. -/
  | noEntry
  | tryAgain
  | noMemory
  | accessDenied
  | exists
  /-- A path goes through something that is no directory. -/
  | notDirectory
  | isDirectory
  /-- An argument out of range. -/
  | invalidArgument
  | noSpace
  /-- A name beyond the limit. -/
  | nameTooLong
  deriving DecidableEq, Repr

namespace Errno

def number : Errno → Nat
  | .noEntry => 2
  | .tryAgain => 11
  | .noMemory => 12
  | .accessDenied => 13
  | .exists => 17
  | .notDirectory => 20
  | .isDirectory => 21
  | .invalidArgument => 22
  | .noSpace => 28
  | .nameTooLong => 36

def description : Errno → String
  | .noEntry => "No such file or directory"
  | .tryAgain => "Resource temporarily unavailable"
  | .noMemory => "Cannot allocate memory"
  | .accessDenied => "Permission denied"
  | .exists => "File exists"
  | .notDirectory => "Not a directory"
  | .isDirectory => "Is a directory"
  | .invalidArgument => "Invalid argument"
  | .noSpace => "No space left on device"
  | .nameTooLong => "File name too long"

/-- The portable kind of a number. -/
def kind : Errno → IoErrorKind
  | .noEntry => .notFound
  | .tryAgain => .wouldBlock
  | .noMemory => .outOfMemory
  | .accessDenied => .permissionDenied
  | .exists => .alreadyExists
  | .notDirectory => .notADirectory
  | .isDirectory => .isADirectory
  | .invalidArgument => .invalidInput
  | .noSpace => .storageFull
  | .nameTooLong => .invalidFilename

end Errno

/-- A refused system call. -/
inductive IoError where
  /-- Refused by the system with a number. -/
  | system (errno : Errno)
  /-- Known by its kind alone. -/
  | ofKind (kind : IoErrorKind)
  /-- Refused before the system was asked, with a wording of its own. -/
  | custom (kind : IoErrorKind) (text : String)
  deriving DecidableEq, Repr

namespace IoError

def kind : IoError → IoErrorKind
  | .system e => e.kind
  | .ofKind k => k
  | .custom k _ => k

def message : IoError → String
  | .system e => s!"{e.description} (os error {e.number})"
  | .ofKind k => k.description
  | .custom _ text => text

end IoError

end PeerLink
