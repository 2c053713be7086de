import BoardConsole.Text.Utf8

/-!
# Volume — Files

The files and directories that a program can tell apart. A path is walked component by component,
links are followed, the directories on the way have to be there, and each of the ways in which a
path leads nowhere has its own fault. Some directories and special files are always there; the
working directory lies in one of them.
-/

namespace BoardConsole

/-- The components of a normal path: no empty one, no `.` and no `..`. The first one is `/` in an
absolute path; all others begin at the working directory, and none that lies in it is absolute. -/
abbrev Path := List String

/-- Why a path leads to no file. -/
inductive PathFault where
  | missing
  | notADirectory
  | isADirectory
  | nameTooLong
  | tooManyLinks
  | nulInName
deriving DecidableEq, Repr

/-- What the system says of a fault. -/
def PathFault.reason : PathFault → String
  | missing        => "No such file or directory"
  | notADirectory  => "Not a directory"
  | isADirectory   => "Is a directory"
  | nameTooLong    => "File name too long"
  | tooManyLinks   => "Too many levels of symbolic links"
  | nulInName      => "file name contained an unexpected NUL byte"

/-- The number of a fault, where the system has one. -/
def PathFault.number? : PathFault → Option Nat
  | missing        => some 2
  | notADirectory  => some 20
  | isADirectory   => some 21
  | nameTooLong    => some 36
  | tooManyLinks   => some 40
  | nulInName      => none

/-- The words for a fault. -/
def PathFault.message (fault : PathFault) : String :=
  match fault.number? with
  | some n => fault.reason ++ " (os error " ++ toString n ++ ")"
  | none   => fault.reason

/-- A special file. -/
inductive Special where
  /-- Empty to read, and takes all. -/
  | null
  /-- Takes nothing. -/
  | full
deriving DecidableEq, Repr

/-- What a path leads to. -/
inductive Place where
  | file (path : Path)
  | special (device : Special)
deriving DecidableEq, Repr

/-- Files and directories. -/
structure Volume where
  /-- The absolute path of the working directory. -/
  base        : Path
  directories : List Path
  /-- The files, the one that was written last at the end. -/
  files       : List (Path × List UInt8)
  /-- The symbolic links and what they lead to. -/
  links       : List (Path × String)
  /-- The pipes that have names. -/
  pipes       : List Path
  /-- The permissions that are not the usual ones. -/
  modes       : List (Path × Nat)
  /-- The times that were given to files, in nanoseconds from the beginning of 1970. -/
  times       : List (Path × Int)
  /-- The numbers of all that was made. Names of one file have the same number. -/
  numbers     : List (Path × Nat)
deriving DecidableEq, Repr

namespace Volume

/-- The working directory of a volume that knows no other. -/
def usualBase : Path := ["/", "tmp", "board"]

def empty : Volume := ⟨usualBase, [], [], [], [], [], [], []⟩

/-- The longest name of a file, in bytes. -/
def longestName : Nat := 255

/-- The longest path, in bytes. -/
def longestPath : Nat := 4095

/-- The most links that lead to one file. -/
def longestChain : Nat := 40

/-- The name of a path. -/
def nameOf (path : Path) : String :=
  match path with
  | "/" :: rest => "/" ++ "/".intercalate rest
  | path        => "/".intercalate path

/-! ### Paths -/

/-- The directory that a path begins at. -/
def origin (name : String) : Path := if name.startsWith "/" then ["/"] else []

/-- The components of a path after its beginning. -/
def components (name : String) : List String :=
  (name.splitOn "/").filter fun c => c != "" && c != "."

/-- The normal form of a path. -/
def normal (v : Volume) (path : Path) : Path :=
  if v.base.isPrefixOf path then path.drop v.base.length else path

/-- The path from the root. -/
def absolute (v : Volume) (path : Path) : Path :=
  if path.head? = some "/" then path else v.base ++ path

/-- The directory above. -/
def parent (v : Volume) (path : Path) : Path :=
  match v.absolute path with
  | [root] => [root]
  | whole  => v.normal whole.dropLast

/-- Whether the last component of a path can only be a directory. -/
def endsInDirectory (name : String) : Bool :=
  match (name.splitOn "/").getLast? with
  | some last => last == "" || last == "." || last == ".."
  | none      => false

/-! ### What is there -/

/-- The directories that are always there. -/
def standingDirectories : List Path :=
  [["/"], ["/", "bin"], ["/", "dev"], ["/", "etc"], ["/", "home"], ["/", "lib"], ["/", "mnt"],
   ["/", "opt"], ["/", "proc"], ["/", "root"], ["/", "run"], ["/", "sbin"], ["/", "srv"],
   ["/", "sys"], ["/", "tmp"], ["/", "usr"], ["/", "usr", "bin"], ["/", "usr", "lib"],
   ["/", "usr", "local"], ["/", "usr", "local", "bin"], ["/", "usr", "sbin"],
   ["/", "usr", "share"], ["/", "var"], ["/", "var", "tmp"]]

/-- The working directory and those above it, those that are always there and those that were made
are directories. -/
def isDirectory (v : Volume) (path : Path) : Bool :=
  path.isEmpty || path.isPrefixOf v.base || standingDirectories.contains path ||
    v.directories.contains path

def contents? (v : Volume) (path : Path) : Option (List UInt8) :=
  v.files.lookup path

/-- What a symbolic link leads to. -/
def linkTarget? (v : Volume) (path : Path) : Option String :=
  v.links.lookup path

/-- The special file at a path. -/
def special? (path : Path) : Option Special :=
  if path = ["/", "dev", "null"] then some .null
  else if path = ["/", "dev", "full"] then some .full
  else none

/-! ### Walking -/

/-- Walks a path from a directory. Its last component may be missing, and a link there is followed
only where `follows` is set. -/
def walk (v : Volume) (follows : Bool) (links : Nat) (here : Path) :
    List String → Except PathFault Path
  | []      => .ok here
  | c :: cs =>
    if c = ".." then walk v follows links (v.parent here) cs
    else if longestName < Text.Utf8.size c then .error .nameTooLong
    else
      let there := v.normal (here ++ [c])
      match v.linkTarget? there with
      | some target =>
        if cs.isEmpty && !follows then .ok there
        else
          match links with
          | 0         => .error .tooManyLinks
          | links + 1 =>
            let start := if target.startsWith "/" then ["/"] else here
            walk v follows links start (components target ++ cs)
      | none =>
        if cs.isEmpty then .ok there
        else if v.isDirectory there then walk v follows links there cs
        else if (v.contents? there).isSome || (special? there).isSome || v.pipes.contains there then
          .error .notADirectory
        else .error .missing
termination_by cs => (links, cs.length)

/-- The path that a name leads to from a directory, whether anything is there or not. -/
def resolve (v : Volume) (follows : Bool) (here : Path) (name : String) : Except PathFault Path :=
  if name.contains '\x00' then .error .nulInName
  else if name = "" then .error .missing
  else if longestPath < Text.Utf8.size name then .error .nameTooLong
  else
    let start := if name.startsWith "/" then ["/"] else here
    match v.walk (follows || endsInDirectory name) longestChain start (components name) with
    | .error fault => .error fault
    | .ok path =>
      if endsInDirectory name && !v.isDirectory path then
        .error (if (v.contents? path).isSome then .notADirectory else .missing)
      else .ok path

/-- The place that a path leads to, whether a file is there or not. -/
def locate (v : Volume) (name : String) : Except PathFault Place :=
  match v.resolve true [] name with
  | .error fault => .error fault
  | .ok path =>
    if v.isDirectory path then .error .isADirectory
    else
      match special? path with
      | some device => .ok (.special device)
      | none        => .ok (.file path)

/-- The bytes of the file that a path leads to. -/
def read (v : Volume) (name : String) : Except PathFault (List UInt8) :=
  match v.locate name with
  | .error fault    => .error fault
  | .ok (.special _) => .ok []
  | .ok (.file path) =>
    match v.contents? path with
    | some bytes => .ok bytes
    | none       => .error .missing

/-- Whether anything is there. -/
def isThere (v : Volume) (name : String) : Bool :=
  match v.read name with
  | .ok _              => true
  | .error .isADirectory => true
  | .error _           => false

/-! ### Changes -/

/-- All names of the file at a path. -/
def namesOf (v : Volume) (path : Path) : List Path :=
  match v.numbers.lookup path with
  | some n => (v.numbers.filter (·.2 = n)).map (·.1)
  | none   => [path]

/-- The volume in which a path has a number of its own, unless it has one already. -/
def enroll (v : Volume) (path : Path) : Volume :=
  if v.numbers.any (·.1 = path) then v
  else { v with numbers := (path, v.numbers.foldl (fun n p => max n p.2) 0 + 1) :: v.numbers }

/-- Puts bytes into the file of a path, whether it was there before or not. -/
def put (v : Volume) (path : Path) (bytes : List UInt8) : Volume :=
  let v := v.enroll path
  let names := v.namesOf path
  { v with
    files := v.files.filter (fun f => !names.contains f.1) ++ names.map (·, bytes)
    times := v.times.filter fun t => !names.contains t.1 }

/-- Puts bytes into what stands at a place. A special file keeps none. -/
def store (v : Volume) (place : Place) (bytes : List UInt8) : Volume :=
  match place with
  | .file path => v.put path bytes
  | .special _ => v

/-- Gives a file a time. -/
def setTime (v : Volume) (path : Path) (time : Int) : Volume :=
  let names := v.namesOf path
  { v with times := names.map (·, time) ++ v.times.filter fun t => !names.contains t.1 }

/-- Removes a file, a link or a directory. -/
def delete (v : Volume) (path : Path) : Volume :=
  { v with
    files       := v.files.filter (·.1 != path)
    directories := v.directories.filter (· != path)
    links       := v.links.filter (·.1 != path)
    pipes       := v.pipes.filter (· != path)
    modes       := v.modes.filter (·.1 != path)
    times       := v.times.filter (·.1 != path)
    numbers     := v.numbers.filter (·.1 != path) }

/-- Writes the file that a path leads to; nothing where it leads nowhere. -/
def write (v : Volume) (name : String) (bytes : List UInt8) : Volume :=
  match v.locate name with
  | .ok (.file path) => v.put path bytes
  | _                => v

/-- Adds a directory. -/
def addDirectory (v : Volume) (path : Path) : Volume :=
  if v.isDirectory path then v
  else { v.enroll path with directories := v.directories ++ [path] }

/-- Makes a directory where one can be made. -/
def makeDirectory (v : Volume) (name : String) : Volume :=
  match v.walk false longestChain (origin name) (components name) with
  | .ok path => if (v.contents? path).isSome then v else v.addDirectory path
  | _        => v

/-- Adds a symbolic link. -/
def addLink (v : Volume) (path : Path) (target : String) : Volume :=
  { v.enroll path with links := v.links ++ [(path, target)] }

/-- Adds a pipe with a name. -/
def addPipe (v : Volume) (path : Path) : Volume :=
  { v.enroll path with pipes := v.pipes ++ [path] }

/-- Gives a file, a link or a pipe another name. -/
def share (v : Volume) (path newPath : Path) : Volume :=
  let v := v.enroll path
  { v with
    files   := v.files ++ (v.files.lookup path).toList.map (newPath, ·)
    links   := v.links ++ (v.links.lookup path).toList.map (newPath, ·)
    pipes   := if v.pipes.contains path then v.pipes ++ [newPath] else v.pipes
    modes   := (v.modes.lookup path).toList.map (newPath, ·) ++ v.modes
    times   := (v.times.lookup path).toList.map (newPath, ·) ++ v.times
    numbers := (v.numbers.lookup path).toList.map (newPath, ·) ++ v.numbers }

/-- Moves all that lies at or below a path. -/
def move (v : Volume) (path newPath : Path) : Volume :=
  let moved (p : Path) : Path :=
    if path.isPrefixOf p then newPath ++ p.drop path.length else p
  { v with
    files       := v.files.map fun (p, bytes) => (moved p, bytes)
    directories := v.directories.map moved
    links       := v.links.map fun (p, target) => (moved p, target)
    pipes       := v.pipes.map moved
    modes       := v.modes.map fun (p, mode) => (moved p, mode)
    times       := v.times.map fun (p, time) => (moved p, time)
    numbers     := v.numbers.map fun (p, n) => (moved p, n) }

/-- Sets the permissions of a path. -/
def setMode (v : Volume) (path : Path) (mode : Nat) : Volume :=
  let names := v.namesOf path
  { v with modes := names.map (·, mode) ++ v.modes.filter fun m => !names.contains m.1 }

end Volume

end BoardConsole
