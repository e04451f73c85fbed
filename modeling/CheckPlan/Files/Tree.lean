import CheckPlan.Files.Access

namespace CheckPlan

/-- What a file holds: text, or bytes that are not text in UTF-8. -/
inductive FileContent
  | text (text : Text)
  | binary (bytes : ByteArray)

namespace FileContent

/-- The content that is made of bytes. -/
def ofBytes (bytes : ByteArray) : FileContent :=
  match String.fromUTF8? bytes with
  | some string => .text string.toList
  | none => .binary bytes

/-- The text of the content, if it is text. -/
def decode : FileContent → Except FileError Text
  | .text decoded => .ok decoded
  | .binary _ => .error .notText

end FileContent

/-- What there is at a place. -/
inductive FileNode
  | directory
  | file (content : FileContent)

/-- The names on the way from the root to a place. The root itself is `[]`. -/
abbrev Place := List Text

/-- What there is at each place below the root, which is the directory that paths
    start from. -/
structure FileTree where
  node? : Place → Option FileNode

namespace FileTree

/-- The tree with nothing below its root. -/
def empty : FileTree :=
  ⟨fun _ => none⟩

/-- Whether a place is the root, or a directory above it. Of what else those
    hold nothing is known. -/
def isAbove (place : Place) : Bool :=
  place.all fun name => name = ['.', '.'] || name = ['/']

/-- What there is at a place. The root and all above it are directories. -/
def get? (tree : FileTree) (place : Place) : Option FileNode :=
  if isAbove place then some .directory else tree.node? place

/-- The tree with a node put at a place. -/
def put (tree : FileTree) (place : Place) (node : FileNode) : FileTree :=
  ⟨fun other => if other = place then some node else tree.node? other⟩

/-- The parts of a path between its slashes, without empty ones. -/
def parts : Path → List Text
  | [] => []
  | c :: rest =>
    if c = '/' then parts rest
    else if rest.head? = some '/' || rest.isEmpty then [c] :: parts rest
    else
      match parts rest with
      | [] => [[c]]
      | part :: more => (c :: part) :: more

/-- The directory above a place. Above the top of all files is the top. -/
def above (place : Place) : Place :=
  if place = [['/']] then place
  else if isAbove place then place ++ [['.', '.']]
  else place.dropLast

/-- Where a part of a path leads from a directory. -/
def follow (place : Place) (part : Text) : Place :=
  if part = ['.'] then place
  else if part = ['.', '.'] then above place
  else place ++ [part]

/-- Whether a part of a path takes more bytes than the name of a file may. -/
def isTooLong (part : Text) : Bool :=
  255 < Text.byteLength part

/-- The directory that parts of a path lead to. -/
def walk (tree : FileTree) (place : Place) : List Text → Except FileError Place
  | [] => .ok place
  | part :: rest =>
    if isTooLong part then
      .error .nameTooLong
    else
      match tree.get? (follow place part) with
      | none => .error .notFound
      | some (.file _) => .error .notADirectory
      | some .directory => walk tree (follow place part) rest

/-- Whether a path can only lead to a directory: it ends with a slash, or with
    a part that stands for a directory. -/
def asksDirectory (path : Path) : Bool :=
  path.getLast? = some '/' || (parts path).getLast? = some ['.'] ||
    (parts path).getLast? = some ['.', '.']

/-- The directory in which the last part of a path is looked for, and that
    part. A path that starts with a slash starts at the top of all files. It is
    an error if the path takes more than 4095 bytes, or its parts before the last
    one do not lead through directories. -/
def locate (tree : FileTree) (path : Path) : Except FileError (Place × Text) :=
  if path.contains '\x00' then .error .nulInPath
  else if path = [] then .error .notFound
  else if 4095 < Text.byteLength path then .error .nameTooLong
  else
    let top := if path.head? = some '/' then [['/']] else []
    (tree.walk top (parts path).dropLast).map fun directory =>
      (directory, (parts path).getLast?.getD ['.'])

/-- The content of the file that a path leads to. -/
def content (tree : FileTree) (path : Path) : Except FileError FileContent :=
  match tree.locate path with
  | .error error => .error error
  | .ok (directory, name) =>
    if isTooLong name then
      .error .nameTooLong
    else
      match tree.get? (follow directory name) with
      | none => .error .notFound
      | some .directory => .error .isADirectory
      | some (.file content) => if asksDirectory path then .error .notADirectory else .ok content

/-- The text of the file that a path leads to. -/
def read (tree : FileTree) (path : Path) : Except FileError Text :=
  match tree.content path with
  | .error error => .error error
  | .ok content => content.decode

/-- The tree with text written to the file that a path leads to. The file need
    not exist. -/
def write (tree : FileTree) (path : Path) (text : Text) : Except FileError FileTree :=
  match tree.locate path with
  | .error error => .error error
  | .ok (directory, name) =>
    if asksDirectory path then
      .error .isADirectory
    else if isTooLong name then
      .error .nameTooLong
    else
      match tree.get? (follow directory name) with
      | some .directory => .error .isADirectory
      | _ => .ok (tree.put (follow directory name) (.file (.text text)))

/-- The tree with a directory put at a place, if there is nothing. -/
def addDirectory (tree : FileTree) (place : Place) : FileTree :=
  if (tree.get? place).isSome then tree else tree.put place .directory

/-- The tree with directories at all places that parts of a path lead through
    from a directory, and where they lead. -/
def addWay (tree : FileTree) (place : Place) : List Text → FileTree × Place
  | [] => (tree, place)
  | part :: rest => addWay (tree.addDirectory (follow place part)) (follow place part) rest

/-- The tree with a node put where a path leads, and directories at all places
    on the way that there is nothing at. -/
def create (tree : FileTree) (path : Path) (node : FileNode) : FileTree :=
  let (withWay, directory) := tree.addWay [] (parts path).dropLast
  withWay.put (follow directory ((parts path).getLast?.getD ['.'])) node

end FileTree

instance : FileAccess (StateM FileTree) where
  read path := fun tree => (tree.read path, tree)
  write path text := fun tree =>
    match tree.write path text with
    | .ok changed => (.ok (), changed)
    | .error error => (.error error, tree)

end CheckPlan
