import RecallShell.Machine.Activity

/-!
# Loading programs

The programs that come with the machine lie in one directory of its disk. A file that may be run is
such a program, or a script: the first line of a script can name the file that carries it out, and
where it does not the shell does. A program is found by its path or, if its name has no slash in it,
in the directories of a search.
-/

namespace RecallShell.Machine

open Text

/-- The directory that holds the programs. -/
def programDirectory : String := "/usr/bin"

/-- The path of the shell. -/
def shellPath : String := "/bin/sh"

/-- The directories that programs are looked for in. -/
def searchPath : String := "/usr/local/sbin:/usr/local/bin:/usr/sbin:/usr/bin:/sbin:/bin"

/-- The directories that programs are looked for in where nothing else is said. -/
def defaultSearchPath : String := "/bin:/usr/bin"

/-! ## Scripts that name what carries them out -/

/-- The number of bytes at the start of a file that decide what it is. -/
def leadSize : Nat := 256

/-- Whether a byte is a space or a tab. -/
def isGap (b : UInt8) : Bool := b == 32 || b == 9

/-- The interpreter that the first line of a script names, and the one argument it may have. The
line counts as far as it lies in the lead; a name that the end of the lead cuts off is none. -/
def interpreter? (content : Bytes) : Option (Bytes × Option Bytes) :=
  match content with
  | 35 :: 33 :: rest =>
    let lead := (rest ++ List.replicate leadSize zeroByte).take (leadSize - 2)
    let upToZero := lead.takeWhile (· != zeroByte)
    let line? : Option Bytes :=
      if upToZero.contains lineFeed then
        some (((upToZero.takeWhile (· != lineFeed)).reverse.dropWhile isGap).reverse)
      else
        let whole := lead.dropLast
        if (lead.dropWhile isGap).any fun b => isGap b || b == zeroByte then some whole else none
    line?.bind fun line =>
      let named := line.dropWhile isGap
      let name := named.takeWhile fun b => !isGap b && b != zeroByte
      let behind := named.drop name.length
      let argument := (behind.dropWhile isGap).takeWhile (· != zeroByte)
      if name.isEmpty then none
      else
        some (name,
          if behind.head? == some zeroByte || argument.isEmpty then none else some argument)
  | _ => none

/-- The greatest number of scripts that carry out one another. -/
def maxScripts : Nat := 6

/-- Finds what carries out the file at a path. -/
def load (disk : Disk) : Nat → String → List String → List (String × String) → Except Errno Loaded
  | 0, _, _, _ => .error .linkLoop
  | depth + 1, path, argv, environment =>
    match disk.status true (ofOctets path) with
    | .error e => .error e
    | .ok id =>
      let node := disk.node id
      if !node.mayRun then .error .accessDenied
      else
        match node.body with
        | .program name => .ok ⟨name, argv, environment⟩
        | .file content =>
          match interpreter? content with
          | none => .error .execFormat
          | some (name, argument) =>
            load disk depth (octets name)
              (octets name :: (argument.map octets).toList ++ path :: argv.tail) environment
        | _ => .error .accessDenied

/-- The greatest number of bytes in one argument. -/
def maxArgument : Nat := 131071

/-- Whether arguments and an environment are too much for a program. -/
def isTooBig (argv : List String) (environment : List (String × String)) : Bool :=
  argv.any (fun a => maxArgument < a.utf8ByteSize && maxArgument < a.length)
    || environment.any fun v => maxArgument < v.1.length + v.2.length + 1

/-- Finds what carries out the file at a path, which must say so. -/
def loadFile (disk : Disk) (path : String) (argv : List String)
    (environment : List (String × String)) : Except Errno Loaded :=
  if isTooBig argv environment then .error .tooBig
  else load disk maxScripts path argv environment

/-- Finds what carries out the file at a path; the shell carries out what does not say. -/
def loadOrScript (disk : Disk) (path : String) (argv : List String)
    (environment : List (String × String)) : Except Errno Loaded :=
  match loadFile disk path argv environment with
  | .error e =>
    if e = .execFormat then
      loadFile disk shellPath (shellPath :: path :: argv.tail) environment
    else .error e
  | found => found

/-- The path of a name in a directory. -/
def within (directory name : String) : String :=
  if directory.endsWith "/" then directory ++ name else s!"{directory}/{name}"

/-- The paths at which a program may be found by its name. -/
def candidates (search name : String) : List String :=
  (search.splitToList (· == ':')).map fun directory =>
    if directory.isEmpty then name else within directory name

/-- Finds what carries out a program, in the directories of a search unless its name is a path. The
first directory that has it counts; one where it may not be run is passed over. -/
def findProgram (disk : Disk) (search : String) (argv : List String)
    (environment : List (String × String)) : Except Errno Loaded :=
  let name := argv.headD ""
  if name.isEmpty then .error .noEntry
  else if name.toList.contains '/' then loadOrScript disk name argv environment
  else
    let rec go (seen : Errno) : List String → Except Errno Loaded
      | [] => .error seen
      | path :: paths =>
        match loadOrScript disk path argv environment with
        | .ok l => .ok l
        | .error e =>
          if e = .accessDenied then go .accessDenied paths
          else if e = .noEntry || e = .notDirectory then go seen paths
          else .error e
    go .noEntry (candidates search name)

end RecallShell.Machine
