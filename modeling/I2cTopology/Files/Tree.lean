import I2cTopology.OrderedMap

/-!
# File trees

Files and directories under paths of names, and a current directory from which relative paths start. Every proper
beginning of the path of a file, of a directory or of the current directory is a directory. Behind the files there is a
`Medium`, which can fail at any of them. A write empties its file before anything is put into it, so the file need not
hold what it held before when the medium fails.

- `FileTree.locate`: what a path leads to;
- `FileTree.readText`, `FileTree.writeText`: access by path.
-/

namespace I2cTopology

/-- Why a file cannot be read or written. -/
inductive FileError where
  | notFound
  | notDirectory
  | isDirectory
  /-- A name or the path as a whole has too many bytes. -/
  | nameTooLong
  /-- A path has a character that ends paths. -/
  | invalidPath
  /-- The file does not hold text. -/
  | invalidText
  /-- Another failure of the system, with its text and its number. -/
  | system (details : String) (number : Nat)
deriving DecidableEq

/-- The text of a failure. -/
def FileError.message : FileError → String
  | .notFound => "No such file or directory (os error 2)"
  | .notDirectory => "Not a directory (os error 20)"
  | .isDirectory => "Is a directory (os error 21)"
  | .nameTooLong => "File name too long (os error 36)"
  | .invalidPath => "file name contained an unexpected NUL byte"
  | .invalidText => "stream did not contain valid UTF-8"
  | .system details number => s!"{details} (os error {number})"

/-- What becomes of a write that fails. -/
structure WriteFailure where
  error : FileError
  /-- What is in the file afterwards. A file that could not be opened is left as it was. -/
  left : Option ByteArray

/-- What stands behind a file tree. -/
structure Medium where
  /-- Why a file cannot be read, if it cannot. -/
  readFailure : List String → Option FileError := fun _ => none
  /-- What becomes of a write of contents to a file, if it fails. -/
  writeFailure : List String → ByteArray → Option WriteFailure := fun _ _ => none

/-- Files, directories and a current directory. -/
structure FileTree where
  files : OrderedMap (List String) ByteArray := {}
  /-- Paths of directories. The directories on the way to something need not be listed. -/
  directories : List (List String) := []
  /-- The path of the current directory. -/
  current : List String := []
  medium : Medium := {}

/-- What a path leads to. -/
inductive Located where
  | file (path : List String)
  | directory
  /-- A place in a directory where there is nothing yet. -/
  | vacant (path : List String)
deriving DecidableEq

namespace FileTree

/-- Whether there is a directory at a path. -/
def isDirectory (t : FileTree) (path : List String) : Bool :=
  (t.current :: t.directories).any (path.isPrefixOf ·) ||
    t.files.keys.any fun file => path.isPrefixOf file && path != file

/-- A name has at most this number of bytes. -/
def maxName : Nat := 255

/-- A path has at most this number of bytes. -/
def maxPath : Nat := 4095

/-- Goes from a directory along names. -/
def walk (t : FileTree) (directory : List String) : List String → Except FileError Located
  | [] => .ok .directory
  | name :: names =>
    if name = "." then t.walk directory names
    else if name = ".." then t.walk directory.dropLast names
    else if maxName < name.utf8ByteSize then .error .nameTooLong
    else
      let path := directory ++ [name]
      if (t.files.get? path).isSome then
        if names.isEmpty then .ok (.file path) else .error .notDirectory
      else if t.isDirectory path then t.walk path names
      else if names.isEmpty then .ok (.vacant path)
      else .error .notFound

/-- The names in a path; slashes that follow each other count once. -/
def names (path : String) : List String := ((path.toList.splitOn '/').filter (· ≠ [])).map String.ofList

/-- Whether a path can be followed at all. -/
def checkPath (path : String) : Except FileError Unit :=
  if path.toList.contains '\x00' then .error .invalidPath
  else if path.isEmpty then .error .notFound
  else if maxPath < path.utf8ByteSize then .error .nameTooLong
  else .ok ()

/-- Where a path starts. -/
def start (t : FileTree) (path : String) : List String := if path.startsWith "/" then [] else t.current

/-- What a path leads to. -/
def locate (t : FileTree) (path : String) : Except FileError Located := do
  checkPath path
  t.walk (t.start path) (names path)

/-- What a path with a slash at its end leads to when a file is to be written there: its last name is not looked at,
but the way to it has to lead to a directory. -/
def locateParent (t : FileTree) (path : String) : Except FileError Located := do
  checkPath path
  t.walk (t.start path) ((names path).dropLast ++ ["."])

/-- The file, or the place for one, that a path stands for when something is to be written. -/
def target (t : FileTree) (path : String) : Except FileError (List String) :=
  if path.endsWith "/" then
    match t.locateParent path with
    | .error e => .error e
    | .ok _ => .error .isDirectory
  else
    match t.locate path with
    | .error e => .error e
    | .ok .directory => .error .isDirectory
    | .ok (.file file) | .ok (.vacant file) => .ok file

/-- Reads the text in a file. -/
def readText (t : FileTree) (path : String) : Except FileError String :=
  match t.locate path with
  | .error e => .error e
  | .ok .directory => .error .isDirectory
  | .ok (.vacant _) => .error .notFound
  | .ok (.file file) =>
    if path.endsWith "/" then .error .notDirectory
    else
      match t.medium.readFailure file with
      | some e => .error e
      | none =>
        match (t.files.get? file).bind String.fromUTF8? with
        | some text => .ok text
        | none => .error .invalidText

/-- The tree with contents put into a file. -/
def put (t : FileTree) (file : List String) (contents : ByteArray) : FileTree :=
  { t with files := t.files.insert file contents }

/-- Writes contents to a file, as far as the medium takes them. -/
def writeFile (t : FileTree) (file : List String) (contents : ByteArray) : Except FileError Unit × FileTree :=
  match t.medium.writeFailure file contents with
  | none => (.ok (), t.put file contents)
  | some ⟨e, none⟩ => (.error e, t)
  | some ⟨e, some left⟩ => (.error e, t.put file left)

/-- Writes a text to a file. -/
def writeText (t : FileTree) (path text : String) : Except FileError Unit × FileTree :=
  match t.target path with
  | .error e => (.error e, t)
  | .ok file => t.writeFile file text.toUTF8

/-- The path of a file in a directory. -/
def join (directory file : String) : String :=
  if directory.isEmpty || directory.endsWith "/" then directory ++ file else directory ++ "/" ++ file

end FileTree

end I2cTopology
