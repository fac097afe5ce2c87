import RecallShell.Disk.Change

/-!
# The disk of a new machine

The directories, devices and tables that every machine has, and an empty directory to work in. The
descriptors that a process has open are entries of a directory of their own, which changes with the
process that looks.
-/

namespace RecallShell

open Text

namespace Disk

/-- The directory of open descriptors. -/
def descriptorDirectory : NodeId := 1

/-- The disk as a process sees it that has some descriptors open on nodes. -/
def withDescriptors (d : Disk) (descriptors : List (Nat × NodeId)) : Disk :=
  let entries := descriptors.map fun e => (encode (toString e.1), e.2)
  d.put descriptorDirectory
    { d.node descriptorDirectory with body := .directory (d.parentOf descriptorDirectory) entries }

/-- The time at which a new machine starts, in microseconds. -/
def dawn : Nat := 1767225600000000

/-- The directories of a new machine, each behind the one that it lies in. -/
def standardDirectories : List String :=
  ["/boot", "/dev", "/dev/pts", "/dev/shm", "/etc", "/home", "/media", "/mnt", "/opt", "/proc",
    "/proc/self", "/root", "/run", "/run/lock", "/srv", "/sys", "/tmp", "/usr", "/usr/bin",
    "/usr/games", "/usr/include", "/usr/lib", "/usr/lib64", "/usr/libexec", "/usr/local",
    "/usr/local/bin", "/usr/local/etc", "/usr/local/games", "/usr/local/include", "/usr/local/lib",
    "/usr/local/sbin", "/usr/local/share", "/usr/local/src", "/usr/sbin", "/usr/share", "/usr/src",
    "/var", "/var/backups", "/var/cache", "/var/lib", "/var/local", "/var/log", "/var/mail",
    "/var/opt", "/var/spool", "/var/tmp"]

/-- The links of a new machine, with what they lead to. -/
def standardLinks : List (String × String) :=
  [("/bin", "usr/bin"), ("/sbin", "usr/sbin"), ("/lib", "usr/lib"), ("/lib64", "usr/lib64"),
    ("/var/run", "/run"), ("/var/lock", "/run/lock"), ("/dev/fd", "/proc/self/fd"),
    ("/dev/stdin", "/proc/self/fd/0"), ("/dev/stdout", "/proc/self/fd/1"),
    ("/dev/stderr", "/proc/self/fd/2")]

/-- The devices of a new machine. -/
def standardDevices : List (String × Device) :=
  [("/dev/null", .sink), ("/dev/zero", .zeros), ("/dev/full", .full), ("/dev/random", .noise),
    ("/dev/urandom", .noise), ("/dev/tty", .terminal), ("/proc/self/mem", .memory)]

/-- The users of a new machine: name, number, group, home and shell. -/
def users : List (String × Nat × Nat × String × String) :=
  [("root", 0, 0, "/root", "/bin/bash"), ("daemon", 1, 1, "/usr/sbin", "/usr/sbin/nologin"),
    ("bin", 2, 2, "/bin", "/usr/sbin/nologin"), ("sys", 3, 3, "/dev", "/usr/sbin/nologin"),
    ("sync", 4, 65534, "/bin", "/bin/sync"), ("games", 5, 60, "/usr/games", "/usr/sbin/nologin"),
    ("man", 6, 12, "/var/cache/man", "/usr/sbin/nologin"),
    ("lp", 7, 7, "/var/spool/lpd", "/usr/sbin/nologin"),
    ("mail", 8, 8, "/var/mail", "/usr/sbin/nologin"),
    ("news", 9, 9, "/var/spool/news", "/usr/sbin/nologin"),
    ("uucp", 10, 10, "/var/spool/uucp", "/usr/sbin/nologin"),
    ("proxy", 13, 13, "/bin", "/usr/sbin/nologin"),
    ("www-data", 33, 33, "/var/www", "/usr/sbin/nologin"),
    ("backup", 34, 34, "/var/backups", "/usr/sbin/nologin"),
    ("list", 38, 38, "/var/list", "/usr/sbin/nologin"),
    ("irc", 39, 39, "/run/ircd", "/usr/sbin/nologin"),
    ("_apt", 42, 65534, "/nonexistent", "/usr/sbin/nologin"),
    ("nobody", 65534, 65534, "/nonexistent", "/usr/sbin/nologin")]

/-- The line of a user in the table of users. -/
def userLine (user : String × Nat × Nat × String × String) : String :=
  let (name, number, group, home, shell) := user
  let title := match name with
    | "list" => "Mailing List Manager"
    | "_apt" => ""
    | name => name
  s!"{name}:x:{number}:{group}:{title}:{home}:{shell}\n"

/-- The tables of a new machine, with what they hold. -/
def standardTables : List (String × String) :=
  [("/etc/passwd", String.join (users.map userLine))]

/-- Nothing but the root and the directory of open descriptors. -/
def bare : Disk where
  nodes := #[⟨.directory root [], 0o755, 2, dawn⟩, ⟨.directory root [], 0o555, 1, dawn⟩]
  here := root
  mask := 0
  clock := dawn
  obstacles := []

/-- The directory that a new machine works in. -/
def workspace : String := "/tmp/oracle"

/-- The disk of a new machine. -/
def blank : Disk :=
  let d := (standardDirectories ++ [workspace]).foldl (fun d path => d.withDirectory (encode path)) bare
  let d := match d.look (encode "/proc/self") with
    | .ok id =>
      let d := d.enter id (encode "fd") descriptorDirectory
      d.put descriptorDirectory { d.node descriptorDirectory with body := .directory id [] }
    | .error _ => d
  let d := standardLinks.foldl (fun d l =>
    ((d.makeLink (encode l.2) (encode l.1)).toOption).getD d) d
  let d := standardDevices.foldl (fun d v =>
    ((d.make (encode v.1) (.device v.2) 0o666).toOption).getD d) d
  let d := standardTables.foldl (fun d t => d.withFile (encode t.1) (encode t.2) false) d
  let home := (d.look (encode workspace)).toOption.getD root
  { d with here := home, mask := 0o022 }

end Disk

end RecallShell
