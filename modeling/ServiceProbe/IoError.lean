/-!
Failures of files, sockets and streams: a kind, by which a passed deadline is
told from everything else, and the text that is shown.
-/

namespace ServiceProbe

inductive IoErrorKind where
  | wouldBlock
  | timedOut
  | interrupted
  | connectionRefused
  | connectionReset
  | brokenPipe
  | notFound
  | unexpectedEof
  | other
  deriving DecidableEq, Repr

/-- Kinds under which a passed deadline shows itself on a socket. -/
def IoErrorKind.isTimeout : IoErrorKind → Bool
  | .wouldBlock | .timedOut => true
  | _ => false

structure IoError where
  kind : IoErrorKind
  text : String
  deriving DecidableEq, Repr

namespace IoError

def noSuchFile : IoError := ⟨.notFound, "No such file or directory (os error 2)"⟩

/-- Something that cannot be opened like a file. -/
def noSuchDevice : IoError := ⟨.other, "No such device or address (os error 6)"⟩

def permissionDenied : IoError := ⟨.other, "Permission denied (os error 13)"⟩

def notADirectory : IoError := ⟨.other, "Not a directory (os error 20)"⟩

def isADirectory : IoError := ⟨.other, "Is a directory (os error 21)"⟩

def nameTooLong : IoError := ⟨.other, "File name too long (os error 36)"⟩

def connectionRefused : IoError :=
  ⟨.connectionRefused, "Connection refused (os error 111)"⟩

/-- The peer has closed, and more was sent. -/
def brokenPipe : IoError := ⟨.brokenPipe, "Broken pipe (os error 32)"⟩

def nulInName : IoError := ⟨.other, "file name contained an unexpected NUL byte"⟩

def notUtf8 : IoError := ⟨.other, "stream did not contain valid UTF-8"⟩

def notASocketAddress : IoError := ⟨.other, "invalid socket address"⟩

def notAPort : IoError := ⟨.other, "invalid port value"⟩

def incompleteWrite : IoError := ⟨.other, "failed to write whole buffer"⟩

end IoError

end ServiceProbe
