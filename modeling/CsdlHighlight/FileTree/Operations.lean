import CsdlHighlight.FileTree.Walk

/-!
Contract: the operations of a file system on a file tree.

Owns:
- reading, listing and the canonical path, as a `DiskReader`;
- directories, files, links and removal, each with the tree after it, and what
  a `DiskWriter` needs of them.

Does not own: permissions; every entry may be read and written.
-/

namespace CsdlHighlight.FileTree

/-! ## Operations that change nothing -/

def present (tree : FileTree) (path : Path) : Bool :=
  match tree.resolve path with
  | .ok _ => true
  | .error _ => false

def isDirectory (tree : FileTree) (path : Path) : Bool :=
  match tree.resolve path with
  | .ok (_, .directory) => true
  | _ => false

def content (tree : FileTree) (path : Path) : Except DiskError Bytes :=
  match tree.resolve path with
  | .ok (_, .file content) => .ok content
  | .ok (_, _) => .error .isADirectory
  | .error failure => .error failure

def list (tree : FileTree) (path : Path) :
    Except DiskError (List (Name × EntryKind)) :=
  match tree.resolve path with
  | .ok (location, .directory) =>
      .ok ((tree.children location).map fun (name, entry) => (name, entry.kind))
  | .ok (_, _) => .error .notADirectory
  | .error failure => .error failure

def pathTo (location : Location) : Path :=
  .ofNames (location.map FileName.name)

/-- The path to the entry that a path leads to, without links and dots.  Its
length counts, and not that of the path. -/
def canonicalPath (tree : FileTree) (path : Path) : Except DiskError Path :=
  match arrive (tree.follow .target path) with
  | .ok (location, _) =>
      if pathLimit < (pathTo location).bytes.length then
        .error .nameTooLong
      else
        .ok (pathTo location)
  | .error failure => .error failure

def reader (tree : FileTree) : DiskReader Id where
  present := fun path => pure (tree.present path)
  isDirectory := fun path => pure (tree.isDirectory path)
  content := fun path => pure (tree.content path)
  list := fun path => pure (tree.list path)
  canonicalPath := fun path => pure (tree.canonicalPath path)

/-! ## Operations that change the tree -/

/-- Put an entry at the missing end of a path.  A link at the end of the path
is there already, wherever it leads.  Only a directory is created at a slash. -/
def create (tree : FileTree) (path : Path) (entry : Entry) :
    Except DiskError FileTree :=
  match tree.find .entry path with
  | .ok (.missing directory name) =>
      if path.endsInSlash && entry != .directory then
        .error .notFound
      else
        .ok (tree.insert (directory ++ [name]) entry)
  | .ok (.found _ _) => .error .alreadyExists
  | .error failure => .error failure

def createDirectory (tree : FileTree) (path : Path) :
    Except DiskError FileTree :=
  tree.create path .directory

def createLink (tree : FileTree) (path target : Path) :
    Except DiskError FileTree :=
  tree.create path (.link target)

/-- Give the file that a path leads to a new content.  A file that is missing
is created, also at the end of a link. -/
def writeFile (tree : FileTree) (path : Path) (content : Bytes) :
    Except DiskError FileTree :=
  match tree.find .file path with
  | .ok (.missing directory name) =>
      .ok (tree.insert (directory ++ [name]) (.file content))
  | .ok (.found location (.file _)) => .ok (tree.insert location (.file content))
  | .ok (.found _ _) => .error .isADirectory
  | .error failure => .error failure

def removeFile (tree : FileTree) (path : Path) : Except DiskError FileTree :=
  match tree.find .entry path with
  | .ok (.found _ .directory) => .error .isADirectory
  | .ok (.found location _) =>
      if path.endsInSlash then .error .notADirectory else .ok (tree.erase location)
  | .ok (.missing _ _) => .error .notFound
  | .error failure => .error failure

def settle (tree : FileTree) (change : Except DiskError FileTree) :
    Except DiskError Unit × FileTree :=
  match change with
  | .ok changed => (.ok (), changed)
  | .error failure => (.error failure, tree)

def ensureDirectory (tree : FileTree) (path : Path) :
    Except DiskError Unit × FileTree :=
  match tree.createDirectory path with
  | .ok changed => (.ok (), changed)
  | .error failure =>
      if tree.isDirectory path then (.ok (), tree) else (.error failure, tree)

/-- Changes are made one after another on the tree of the state. -/
def writer : DiskWriter (StateM FileTree) where
  ensureDirectory := fun path tree => tree.ensureDirectory path
  writeFile := fun path content tree =>
    tree.settle (tree.writeFile path content)

end CsdlHighlight.FileTree
