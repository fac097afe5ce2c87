/-!
# Error numbers

The system reports failures by number. Each known number has a kind, a text for people, a symbolic
name and a short description; a number not in the table has none of these but is shown as it is.
-/

namespace RecallShell

/-- What sort of failure an input or output operation met. -/
inductive ErrorKind where
  | addrInUse
  | addrNotAvailable
  | alreadyExists
  | argumentListTooLong
  | brokenPipe
  | connectionAborted
  | connectionRefused
  | connectionReset
  | crossesDevices
  | deadlock
  | directoryNotEmpty
  | executableFileBusy
  | fileTooLarge
  | filesystemLoop
  | hostUnreachable
  | inProgress
  | inputOutput
  | interrupted
  | invalidData
  | invalidFilename
  | invalidInput
  | isADirectory
  | networkDown
  | networkUnreachable
  | notADirectory
  | notConnected
  | notFound
  | notSeekable
  | other
  | outOfMemory
  | permissionDenied
  | quotaExceeded
  | readOnlyFilesystem
  | resourceBusy
  | staleNetworkFileHandle
  | storageFull
  | timedOut
  | tooManyLinks
  | uncategorized
  | unexpectedEof
  | unsupported
  | wouldBlock
  | writeZero
  deriving DecidableEq, Repr, Inhabited

/-- The kind in words. -/
def ErrorKind.description : ErrorKind → String
  | .addrInUse => "address in use"
  | .addrNotAvailable => "address not available"
  | .alreadyExists => "entity already exists"
  | .argumentListTooLong => "argument list too long"
  | .brokenPipe => "broken pipe"
  | .connectionAborted => "connection aborted"
  | .connectionRefused => "connection refused"
  | .connectionReset => "connection reset"
  | .crossesDevices => "cross-device link or rename"
  | .deadlock => "deadlock"
  | .directoryNotEmpty => "directory not empty"
  | .executableFileBusy => "executable file busy"
  | .fileTooLarge => "file too large"
  | .filesystemLoop => "filesystem loop or indirection limit (e.g. symlink loop)"
  | .hostUnreachable => "host unreachable"
  | .inProgress => "in progress"
  | .inputOutput => "input/output error"
  | .interrupted => "operation interrupted"
  | .invalidData => "invalid data"
  | .invalidFilename => "invalid filename"
  | .invalidInput => "invalid input parameter"
  | .isADirectory => "is a directory"
  | .networkDown => "network down"
  | .networkUnreachable => "network unreachable"
  | .notADirectory => "not a directory"
  | .notConnected => "not connected"
  | .notFound => "entity not found"
  | .notSeekable => "seek on unseekable file"
  | .other => "other error"
  | .outOfMemory => "out of memory"
  | .permissionDenied => "permission denied"
  | .quotaExceeded => "quota exceeded"
  | .readOnlyFilesystem => "read-only filesystem or storage medium"
  | .resourceBusy => "resource busy"
  | .staleNetworkFileHandle => "stale network file handle"
  | .storageFull => "no storage space"
  | .timedOut => "timed out"
  | .tooManyLinks => "too many links"
  | .uncategorized => "uncategorized error"
  | .unexpectedEof => "unexpected end of file"
  | .unsupported => "unsupported"
  | .wouldBlock => "operation would block"
  | .writeZero => "write zero"

/-- An error number of the system. -/
structure Errno where
  /-- The number itself. -/
  code : Int
  deriving DecidableEq, Repr, Inhabited

namespace Errno

/-- What is known about one error number. -/
structure Entry where
  /-- The number. -/
  code : Int
  /-- The sort of failure it stands for. -/
  kind : ErrorKind
  /-- The system's text for it. -/
  text : String
  /-- Its symbolic name. -/
  name : String
  /-- A short description of it. -/
  description : String

/-- The known error numbers. -/
def table : List Entry := [
  ⟨1, .permissionDenied, "Operation not permitted", "EPERM", "Operation not permitted"⟩,
  ⟨2, .notFound, "No such file or directory", "ENOENT", "No such file or directory"⟩,
  ⟨3, .uncategorized, "No such process", "ESRCH", "No such process"⟩,
  ⟨4, .interrupted, "Interrupted system call", "EINTR", "Interrupted system call"⟩,
  ⟨5, .inputOutput, "Input/output error", "EIO", "I/O error"⟩,
  ⟨6, .uncategorized, "No such device or address", "ENXIO", "No such device or address"⟩,
  ⟨7, .argumentListTooLong, "Argument list too long", "E2BIG", "Argument list too long"⟩,
  ⟨8, .uncategorized, "Exec format error", "ENOEXEC", "Exec format error"⟩,
  ⟨9, .uncategorized, "Bad file descriptor", "EBADF", "Bad file number"⟩,
  ⟨10, .uncategorized, "No child processes", "ECHILD", "No child processes"⟩,
  ⟨11, .wouldBlock, "Resource temporarily unavailable", "EAGAIN", "Try again"⟩,
  ⟨12, .outOfMemory, "Cannot allocate memory", "ENOMEM", "Out of memory"⟩,
  ⟨13, .permissionDenied, "Permission denied", "EACCES", "Permission denied"⟩,
  ⟨14, .uncategorized, "Bad address", "EFAULT", "Bad address"⟩,
  ⟨15, .uncategorized, "Block device required", "ENOTBLK", "Block device required"⟩,
  ⟨16, .resourceBusy, "Device or resource busy", "EBUSY", "Device or resource busy"⟩,
  ⟨17, .alreadyExists, "File exists", "EEXIST", "File exists"⟩,
  ⟨18, .crossesDevices, "Invalid cross-device link", "EXDEV", "Cross-device link"⟩,
  ⟨19, .uncategorized, "No such device", "ENODEV", "No such device"⟩,
  ⟨20, .notADirectory, "Not a directory", "ENOTDIR", "Not a directory"⟩,
  ⟨21, .isADirectory, "Is a directory", "EISDIR", "Is a directory"⟩,
  ⟨22, .invalidInput, "Invalid argument", "EINVAL", "Invalid argument"⟩,
  ⟨23, .uncategorized, "Too many open files in system", "ENFILE", "File table overflow"⟩,
  ⟨24, .uncategorized, "Too many open files", "EMFILE", "Too many open files"⟩,
  ⟨25, .uncategorized, "Inappropriate ioctl for device", "ENOTTY", "Not a typewriter"⟩,
  ⟨26, .executableFileBusy, "Text file busy", "ETXTBSY", "Text file busy"⟩,
  ⟨27, .fileTooLarge, "File too large", "EFBIG", "File too large"⟩,
  ⟨28, .storageFull, "No space left on device", "ENOSPC", "No space left on device"⟩,
  ⟨29, .notSeekable, "Illegal seek", "ESPIPE", "Illegal seek"⟩,
  ⟨30, .readOnlyFilesystem, "Read-only file system", "EROFS", "Read-only file system"⟩,
  ⟨31, .tooManyLinks, "Too many links", "EMLINK", "Too many links"⟩,
  ⟨32, .brokenPipe, "Broken pipe", "EPIPE", "Broken pipe"⟩,
  ⟨33, .uncategorized, "Numerical argument out of domain", "EDOM",
    "Math argument out of domain of func"⟩,
  ⟨34, .uncategorized, "Numerical result out of range", "ERANGE", "Math result not representable"⟩,
  ⟨35, .deadlock, "Resource deadlock avoided", "EDEADLK", "Resource deadlock would occur"⟩,
  ⟨36, .invalidFilename, "File name too long", "ENAMETOOLONG", "File name too long"⟩,
  ⟨37, .uncategorized, "No locks available", "ENOLCK", "No record locks available"⟩,
  ⟨38, .unsupported, "Function not implemented", "ENOSYS", "Function not implemented"⟩,
  ⟨39, .directoryNotEmpty, "Directory not empty", "ENOTEMPTY", "Directory not empty"⟩,
  ⟨40, .filesystemLoop, "Too many levels of symbolic links", "ELOOP",
    "Too many symbolic links encountered"⟩,
  ⟨42, .uncategorized, "No message of desired type", "ENOMSG", "No message of desired type"⟩,
  ⟨43, .uncategorized, "Identifier removed", "EIDRM", "Identifier removed"⟩,
  ⟨44, .uncategorized, "Channel number out of range", "ECHRNG", "Channel number out of range"⟩,
  ⟨45, .uncategorized, "Level 2 not synchronized", "EL2NSYNC", "Level 2 not synchronized"⟩,
  ⟨46, .uncategorized, "Level 3 halted", "EL3HLT", "Level 3 halted"⟩,
  ⟨47, .uncategorized, "Level 3 reset", "EL3RST", "Level 3 reset"⟩,
  ⟨48, .uncategorized, "Link number out of range", "ELNRNG", "Link number out of range"⟩,
  ⟨49, .uncategorized, "Protocol driver not attached", "EUNATCH", "Protocol driver not attached"⟩,
  ⟨50, .uncategorized, "No CSI structure available", "ENOCSI", "No CSI structure available"⟩,
  ⟨51, .uncategorized, "Level 2 halted", "EL2HLT", "Level 2 halted"⟩,
  ⟨52, .uncategorized, "Invalid exchange", "EBADE", "Invalid exchange"⟩,
  ⟨53, .uncategorized, "Invalid request descriptor", "EBADR", "Invalid request descriptor"⟩,
  ⟨54, .uncategorized, "Exchange full", "EXFULL", "Exchange full"⟩,
  ⟨55, .uncategorized, "No anode", "ENOANO", "No anode"⟩,
  ⟨56, .uncategorized, "Invalid request code", "EBADRQC", "Invalid request code"⟩,
  ⟨57, .uncategorized, "Invalid slot", "EBADSLT", "Invalid slot"⟩,
  ⟨59, .uncategorized, "Bad font file format", "EBFONT", "Bad font file format"⟩,
  ⟨60, .uncategorized, "Device not a stream", "ENOSTR", "Device not a stream"⟩,
  ⟨61, .uncategorized, "No data available", "ENODATA", "No data available"⟩,
  ⟨62, .uncategorized, "Timer expired", "ETIME", "Timer expired"⟩,
  ⟨63, .uncategorized, "Out of streams resources", "ENOSR", "Out of streams resources"⟩,
  ⟨64, .uncategorized, "Machine is not on the network", "ENONET", "Machine is not on the network"⟩,
  ⟨65, .uncategorized, "Package not installed", "ENOPKG", "Package not installed"⟩,
  ⟨66, .uncategorized, "Object is remote", "EREMOTE", "Object is remote"⟩,
  ⟨67, .uncategorized, "Link has been severed", "ENOLINK", "Link has been severed"⟩,
  ⟨68, .uncategorized, "Advertise error", "EADV", "Advertise error"⟩,
  ⟨69, .uncategorized, "Srmount error", "ESRMNT", "Srmount error"⟩,
  ⟨70, .uncategorized, "Communication error on send", "ECOMM", "Communication error on send"⟩,
  ⟨71, .uncategorized, "Protocol error", "EPROTO", "Protocol error"⟩,
  ⟨72, .uncategorized, "Multihop attempted", "EMULTIHOP", "Multihop attempted"⟩,
  ⟨73, .uncategorized, "RFS specific error", "EDOTDOT", "RFS specific error"⟩,
  ⟨74, .uncategorized, "Bad message", "EBADMSG", "Not a data message"⟩,
  ⟨75, .uncategorized, "Value too large for defined data type", "EOVERFLOW",
    "Value too large for defined data type"⟩,
  ⟨76, .uncategorized, "Name not unique on network", "ENOTUNIQ", "Name not unique on network"⟩,
  ⟨77, .uncategorized, "File descriptor in bad state", "EBADFD", "File descriptor in bad state"⟩,
  ⟨78, .uncategorized, "Remote address changed", "EREMCHG", "Remote address changed"⟩,
  ⟨79, .uncategorized, "Can not access a needed shared library", "ELIBACC",
    "Can not access a needed shared library"⟩,
  ⟨80, .uncategorized, "Accessing a corrupted shared library", "ELIBBAD",
    "Accessing a corrupted shared library"⟩,
  ⟨81, .uncategorized, ".lib section in a.out corrupted", "ELIBSCN",
    ".lib section in a.out corrupted"⟩,
  ⟨82, .uncategorized, "Attempting to link in too many shared libraries", "ELIBMAX",
    "Attempting to link in too many shared libraries"⟩,
  ⟨83, .uncategorized, "Cannot exec a shared library directly", "ELIBEXEC",
    "Cannot exec a shared library directly"⟩,
  ⟨84, .uncategorized, "Invalid or incomplete multibyte or wide character", "EILSEQ",
    "Illegal byte sequence"⟩,
  ⟨85, .uncategorized, "Interrupted system call should be restarted", "ERESTART",
    "Interrupted system call should be restarted"⟩,
  ⟨86, .uncategorized, "Streams pipe error", "ESTRPIPE", "Streams pipe error"⟩,
  ⟨87, .uncategorized, "Too many users", "EUSERS", "Too many users"⟩,
  ⟨88, .uncategorized, "Socket operation on non-socket", "ENOTSOCK",
    "Socket operation on non-socket"⟩,
  ⟨89, .uncategorized, "Destination address required", "EDESTADDRREQ",
    "Destination address required"⟩,
  ⟨90, .uncategorized, "Message too long", "EMSGSIZE", "Message too long"⟩,
  ⟨91, .uncategorized, "Protocol wrong type for socket", "EPROTOTYPE",
    "Protocol wrong type for socket"⟩,
  ⟨92, .uncategorized, "Protocol not available", "ENOPROTOOPT", "Protocol not available"⟩,
  ⟨93, .uncategorized, "Protocol not supported", "EPROTONOSUPPORT", "Protocol not supported"⟩,
  ⟨94, .uncategorized, "Socket type not supported", "ESOCKTNOSUPPORT",
    "Socket type not supported"⟩,
  ⟨95, .unsupported, "Operation not supported", "EOPNOTSUPP",
    "Operation not supported on transport endpoint"⟩,
  ⟨96, .uncategorized, "Protocol family not supported", "EPFNOSUPPORT",
    "Protocol family not supported"⟩,
  ⟨97, .uncategorized, "Address family not supported by protocol", "EAFNOSUPPORT",
    "Address family not supported by protocol"⟩,
  ⟨98, .addrInUse, "Address already in use", "EADDRINUSE", "Address already in use"⟩,
  ⟨99, .addrNotAvailable, "Cannot assign requested address", "EADDRNOTAVAIL",
    "Cannot assign requested address"⟩,
  ⟨100, .networkDown, "Network is down", "ENETDOWN", "Network is down"⟩,
  ⟨101, .networkUnreachable, "Network is unreachable", "ENETUNREACH", "Network is unreachable"⟩,
  ⟨102, .uncategorized, "Network dropped connection on reset", "ENETRESET",
    "Network dropped connection because of reset"⟩,
  ⟨103, .connectionAborted, "Software caused connection abort", "ECONNABORTED",
    "Software caused connection abort"⟩,
  ⟨104, .connectionReset, "Connection reset by peer", "ECONNRESET", "Connection reset by peer"⟩,
  ⟨105, .uncategorized, "No buffer space available", "ENOBUFS", "No buffer space available"⟩,
  ⟨106, .uncategorized, "Transport endpoint is already connected", "EISCONN",
    "Transport endpoint is already connected"⟩,
  ⟨107, .notConnected, "Transport endpoint is not connected", "ENOTCONN",
    "Transport endpoint is not connected"⟩,
  ⟨108, .uncategorized, "Cannot send after transport endpoint shutdown", "ESHUTDOWN",
    "Cannot send after transport endpoint shutdown"⟩,
  ⟨109, .uncategorized, "Too many references: cannot splice", "ETOOMANYREFS",
    "Too many references: cannot splice"⟩,
  ⟨110, .timedOut, "Connection timed out", "ETIMEDOUT", "Connection timed out"⟩,
  ⟨111, .connectionRefused, "Connection refused", "ECONNREFUSED", "Connection refused"⟩,
  ⟨112, .uncategorized, "Host is down", "EHOSTDOWN", "Host is down"⟩,
  ⟨113, .hostUnreachable, "No route to host", "EHOSTUNREACH", "No route to host"⟩,
  ⟨114, .uncategorized, "Operation already in progress", "EALREADY",
    "Operation already in progress"⟩,
  ⟨115, .inProgress, "Operation now in progress", "EINPROGRESS", "Operation now in progress"⟩,
  ⟨116, .staleNetworkFileHandle, "Stale file handle", "ESTALE", "Stale file handle"⟩,
  ⟨117, .uncategorized, "Structure needs cleaning", "EUCLEAN", "Structure needs cleaning"⟩,
  ⟨118, .uncategorized, "Not a XENIX named type file", "ENOTNAM", "Not a XENIX named type file"⟩,
  ⟨119, .uncategorized, "No XENIX semaphores available", "ENAVAIL",
    "No XENIX semaphores available"⟩,
  ⟨120, .uncategorized, "Is a named type file", "EISNAM", "Is a named type file"⟩,
  ⟨121, .uncategorized, "Remote I/O error", "EREMOTEIO", "Remote I/O error"⟩,
  ⟨122, .quotaExceeded, "Disk quota exceeded", "EDQUOT", "Quota exceeded"⟩,
  ⟨123, .uncategorized, "No medium found", "ENOMEDIUM", "No medium found"⟩,
  ⟨124, .uncategorized, "Wrong medium type", "EMEDIUMTYPE", "Wrong medium type"⟩,
  ⟨125, .uncategorized, "Operation canceled", "ECANCELED", "Operation canceled"⟩,
  ⟨126, .uncategorized, "Required key not available", "ENOKEY", "Required key not available"⟩,
  ⟨127, .uncategorized, "Key has expired", "EKEYEXPIRED", "Key has expired"⟩,
  ⟨128, .uncategorized, "Key has been revoked", "EKEYREVOKED", "Key has been revoked"⟩,
  ⟨129, .uncategorized, "Key was rejected by service", "EKEYREJECTED",
    "Key was rejected by service"⟩,
  ⟨130, .uncategorized, "Owner died", "EOWNERDEAD", "Owner died"⟩,
  ⟨131, .uncategorized, "State not recoverable", "ENOTRECOVERABLE", "State not recoverable"⟩,
  ⟨132, .uncategorized, "Operation not possible due to RF-kill", "ERFKILL",
    "Operation not possible due to RF-kill"⟩,
  ⟨133, .uncategorized, "Memory page has hardware error", "EHWPOISON",
    "Memory page has hardware error"⟩]

/-- What is known about an error number, if anything is. -/
def entry? (e : Errno) : Option Entry := table.find? fun r => r.code == e.code

/-- The sort of failure that a number stands for. -/
def kind (e : Errno) : ErrorKind := (e.entry?.map (·.kind)).getD .uncategorized

/-- The system's text for a number; zero stands for success. -/
def text (e : Errno) : String :=
  match e.entry? with
  | some r => r.text
  | none => if e.code = 0 then "Success" else s!"Unknown error {e.code}"

/-- The symbolic name and the description of a number. -/
def label (e : Errno) : String :=
  match e.entry? with
  | some r => s!"{r.name}: {r.description}"
  | none => "UnknownErrno: Unknown errno"

/-- The operation is not allowed to this process. -/
def notPermitted : Errno := ⟨1⟩

/-- Nothing has this name. -/
def noEntry : Errno := ⟨2⟩

/-- No process has this number. -/
def noProcess : Errno := ⟨3⟩

/-- A signal cut the operation short. -/
def interrupted : Errno := ⟨4⟩

/-- Nothing can be read or written there. -/
def inputOutput : Errno := ⟨5⟩

/-- No device is there. -/
def noDevice : Errno := ⟨6⟩

/-- The arguments take more room than there is. -/
def tooBig : Errno := ⟨7⟩

/-- A file may be run but does not say what carries it out. -/
def execFormat : Errno := ⟨8⟩

/-- Nothing is open under this number. -/
def badDescriptor : Errno := ⟨9⟩

/-- There is no child left to wait for. -/
def noChild : Errno := ⟨10⟩

/-- There is no room for this at the moment. -/
def tryAgain : Errno := ⟨11⟩

/-- The operation is not allowed on this file. -/
def accessDenied : Errno := ⟨13⟩

/-- The system itself uses this. -/
def busy : Errno := ⟨16⟩

/-- Something has this name already. -/
def alreadyExists : Errno := ⟨17⟩

/-- A name stands for a file where a directory is needed. -/
def notDirectory : Errno := ⟨20⟩

/-- A name stands for a directory where a file is needed. -/
def isDirectory : Errno := ⟨21⟩

/-- The operation does not know what to do with a value it was given. -/
def invalidArgument : Errno := ⟨22⟩

/-- There is no room for another open file. -/
def tooManyOpen : Errno := ⟨24⟩

/-- The file has grown as far as it may. -/
def fileTooBig : Errno := ⟨27⟩

/-- The device has no room left. -/
def noSpace : Errno := ⟨28⟩

/-- There is no place to go to in what is read or written. -/
def noSeek : Errno := ⟨29⟩

/-- Nobody reads what is written. -/
def brokenPipe : Errno := ⟨32⟩

/-- A value lies beyond what can be told apart. -/
def outOfRange : Errno := ⟨34⟩

/-- A name has more bytes than a directory can hold. -/
def nameTooLong : Errno := ⟨36⟩

/-- A directory still holds something. -/
def notEmpty : Errno := ⟨39⟩

/-- Links lead to links too many times. -/
def linkLoop : Errno := ⟨40⟩

end Errno

end RecallShell
