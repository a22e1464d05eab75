import PhotoArchive.Bytes
import PhotoArchive.Failure
import PhotoArchive.Text.Segments
import PhotoArchive.Text.Utf8

/-!
# File trees

The files below a working directory: directories, files and symbolic links. A file name is resolved
name by name. Links are followed, up to a limit, and `..` goes to the directory above the one that
has been reached, which may be another one than the text suggests.

## Main definitions

- `FileTree` — what is below a working directory
- `FileName.refusal?` — why a text cannot be a file name
- `FileName.standard`, `FileName.size` — what a text means as a file name, and how long it is then
- `FileName` — a file name, without the parts that say nothing
- `FileName.below` — what some texts stand for below a directory
- `FileTree.resolve` — what a file name stands for
- `FileTree.openFile`, `FileTree.isDirectory` — open a file, ask for a directory
- `FileTree.create`, `FileTree.writeFile`, `FileTree.removeFile` — change a tree
- `FileTree.newFiles` — what has come to a tree

## Design notes

File names are those of POSIX systems: a slash is the only separator, a file name in front of which
there is a slash begins at the root, and there are no drives, no reserved names and no difference
between names that the system does not make. To the system a name is a row of bytes: bytes that are no
UTF-8 stand in texts as surrogates, so two texts can mean the same name. The names in a tree are those
that the system would list.

Nothing is known about what lies outside the working directory: it is taken for directories with
nothing in them, apart from the directories that every system has below its root. Files have an
identity, so that a file that is open stays the same when its name is
removed or its contents are replaced.
-/

namespace PhotoArchive

/-! ## File names -/

/-- A file name: the slashes in front (none, one, or exactly two), and the names in between. Names
that are empty or a single dot have been dropped. -/
structure FileName where
  slashes : Nat
  names : List String
  deriving DecidableEq, Repr

namespace FileName

/-- Why a text cannot be a file name, if it cannot. A file name can be encoded, and it does not have the
character NUL. -/
def refusal? (s : String) : Option Failure :=
  match Text.nameFault? s with
  | some fault => some (.unencodable fault)
  | none => if s.toList.contains '\x00' then some (.unusableName s) else none

/-- Whether a text can be a file name at all. -/
def isUsable (s : String) : Bool := (refusal? s).isNone

theorem isUsable_iff {s : String} : isUsable s = true ↔ refusal? s = none :=
  Option.isNone_iff_eq_none

/-- The bytes of a code point in a file name. -/
def pointBytes : Text.Point → Bytes
  | .character c => String.utf8EncodeChar c
  | .surrogate code => [UInt8.ofNat (code - 0xDC00)]

/-- The bytes of a text as a file name. -/
def bytes (s : String) : Bytes := (Text.points s.toList).flatMap pointBytes

/-- The length of a text as a file name. -/
def size (s : String) : Nat := (bytes s).length

/-- The code points that bytes stand for in a file name: characters as far as the bytes are in UTF-8, and
a surrogate for each other byte. -/
def pointsOf : Bytes → List Text.Point
  | [] => []
  | byte :: rest =>
    match ((byte :: rest).take 4).toByteArray.utf8DecodeChar? 0 with
    | some c => .character c :: pointsOf (rest.drop (c.utf8Size - 1))
    | none => .surrogate (0xDC00 + byte.toNat) :: pointsOf rest
termination_by bytes => bytes.length
decreasing_by
  · rw [List.length_drop, List.length_cons]
    omega
  · exact Nat.lt_succ_self _

/-- The text that means the same file name and is what the system lists. -/
def standard (s : String) : String :=
  if (Text.encodingFault? s).isNone then s
  else String.ofList ((pointsOf (bytes s)).flatMap Text.spell)

/-- The names between the slashes of a text, as the system lists them. -/
def pieces (s : String) : List String :=
  (Text.cut s.toList).map fun piece => standard (String.ofList piece)

/-- A name that says something. -/
def isMeaningful (name : List Char) : Bool := !name.isEmpty && name != ['.']

theorem isMeaningful_toList {name : String} :
    isMeaningful name.toList = true ↔ name ≠ "" ∧ name ≠ "." := by
  have hdot : name.toList = ".".toList ↔ name = "." := String.toList_inj
  simp [isMeaningful, ← hdot]

/-- The file name that a text stands for. -/
def ofString (s : String) : FileName :=
  let cs := s.toList
  let leading := (cs.takeWhile (· = '/')).length
  { slashes := if leading = 2 then 2 else min leading 1
    names := ((Text.cut cs).filter isMeaningful).map String.ofList }

/-- The text of a file name; nothing at all is a single dot. -/
def text (f : FileName) : String :=
  let cs := List.replicate f.slashes '/' ++ ['/'].intercalate (f.names.map String.toList)
  if cs.isEmpty then "." else String.ofList cs

/-- What a text stands for in a directory. With a slash in front it stands for the same everywhere. -/
def enter (f : FileName) (s : String) : FileName :=
  let g := ofString s
  if g.slashes = 0 then { f with names := f.names ++ g.names } else g

/-- What some texts stand for below a directory, each of them in what those before it stand for. -/
def below (f : FileName) (texts : List String) : FileName := texts.foldl enter f

/-- Texts without slashes are names below the directory, if they say something. -/
theorem below_eq {texts : List String} (h : ∀ text ∈ texts, '/' ∉ text.toList) (f : FileName) :
    f.below texts
      = { f with names := f.names ++ texts.filter fun text => isMeaningful text.toList } := by
  induction texts generalizing f with
  | nil => simp [below]
  | cons text rest ih =>
    have htext := h text List.mem_cons_self
    have hslashes : text.toList.takeWhile (· = '/') = [] := by
      cases hchars : text.toList with
      | nil => rfl
      | cons c cs =>
        have hc : c ≠ '/' := fun heq => htext (by simp [hchars, heq])
        simp [hc]
    have henter : f.enter text
        = { f with names := f.names ++ [text].filter fun text => isMeaningful text.toList } := by
      cases hmeaning : isMeaningful text.toList <;>
        simp [enter, ofString, hslashes, Text.cut_of_not_mem htext, hmeaning]
    have hrest := ih fun other hother => h other (List.mem_cons_of_mem _ hother)
    rw [below, List.foldl_cons, ← below, hrest, henter, List.append_assoc, ← List.filter_append,
      List.singleton_append]

example : ((ofString "store").below ["a", ".", "/etc", "b"]).text = "/etc/b" := by decide

end FileName

/-! ## Trees -/

/-- What a name in a directory stands for. -/
inductive FileNode where
  | directory
  | file (id : Nat)
  | link (target : String)
  deriving DecidableEq, Repr

/-- What is below a working directory. -/
structure FileTree where
  /-- What stands at which place; a place is given by the names that lead to it. -/
  nodes : List (List String × FileNode) := []
  /-- What the files hold, by identity. -/
  contents : List Bytes := []
  deriving DecidableEq

/-- A directory that has been reached: one below the working directory, the root, or another one
outside. -/
inductive Place where
  | inside (names : List String)
  | root
  | outside
  deriving DecidableEq, Repr

namespace FileTree

/-- What stands at a place. The working directory itself is a directory. -/
def node? (t : FileTree) (names : List String) : Option FileNode :=
  if names.isEmpty then some .directory
  else (t.nodes.find? fun node => node.1 = names).map Prod.snd

/-- The directories that every system has below its root. -/
def systemDirectories : List String :=
  ["bin", "boot", "dev", "etc", "home", "lib", "media", "mnt", "opt", "proc", "root", "run", "sbin",
    "srv", "sys", "tmp", "usr", "var"]

/-- The longest name, in bytes. -/
def maxName : Nat := 255

/-- The longest file name, in bytes. -/
def maxFileName : Nat := 4095

/-- How many links are followed. -/
def maxLinks : Nat := 40

/-- What a file name stands for in the end: a directory, a file, or nothing yet, if only the last
name is missing from a directory. -/
inductive Target where
  | directory (place : Place)
  | file (id : Nat)
  | missing (place : Place) (name : String)
  deriving DecidableEq, Repr

/-- A name that is missing from a directory, with the names behind it. -/
def absent (place : Place) (name : String) (rest : List String) : Except FileFault Target :=
  if rest.isEmpty then .ok (.missing place name) else .error .noEntry

/-- Whether only slashes stand behind a name: at least one, which makes it the name of a
directory. -/
def isClosing (rest : List String) : Bool := !rest.isEmpty && rest.all (·.isEmpty)

/-- What the names that are left stand for, from a directory on, when so many links may still be
followed. For a file that is created if need be, the last name may not be that of a directory. -/
def walk (t : FileTree) (creating : Bool) (links : Nat) (place : Place) :
    List String → Except FileFault Target
  | [] => .ok (.directory place)
  | name :: rest =>
    if name.isEmpty || name = "." then walk t creating links place rest
    else if name = ".." then
      match place with
      | .inside names =>
        walk t creating links (if names.isEmpty then .outside else .inside names.dropLast) rest
      | place => walk t creating links place rest
    else if creating && isClosing rest then .error .isDirectory
    else if maxName < FileName.size name then .error .nameTooLong
    else
      match place with
      | .outside => absent place name rest
      | .root =>
        if systemDirectories.contains name then walk t creating links .outside rest
        else absent place name rest
      | .inside names =>
        match t.node? (names ++ [name]) with
        | none => absent place name rest
        | some .directory => walk t creating links (.inside (names ++ [name])) rest
        | some (.file id) => if rest.isEmpty then .ok (.file id) else .error .notDirectory
        | some (.link target) =>
          match links with
          | 0 => .error .tooManyLinks
          | links + 1 =>
            let start := if target.toList.head? = some '/' then .root else .inside names
            walk t creating links start (FileName.pieces target ++ rest)
termination_by names => (links, names.length)

/-- What a text stands for as a file name, that of a file to be created or any other. The empty text
stands for nothing. -/
def resolve (t : FileTree) (name : String) (creating : Bool) : Except FileFault Target :=
  if name.isEmpty then .error .noEntry
  else if maxFileName < FileName.size name then .error .nameTooLong
  else
    let start := if name.toList.head? = some '/' then .root else .inside []
    t.walk creating maxLinks start (FileName.pieces name)

/-- The file that a file name stands for. -/
def openFile (t : FileTree) (name : String) : Except FileFault Nat :=
  match t.resolve name false with
  | .ok (.file id) => .ok id
  | .ok (.directory _) => .error .isDirectory
  | .ok (.missing _ _) => .error .noEntry
  | .error fault => .error fault

/-- Whether a text is the file name of a directory. A fault is passed on if it does not mean that
there is no such directory. -/
def isDirectory (t : FileTree) (name : String) : Except FileFault Bool :=
  if FileName.isUsable name then
    match t.resolve name false with
    | .ok (.directory _) => .ok true
    | .ok _ => .ok false
    | .error .nameTooLong => .error .nameTooLong
    | .error _ => .ok false
  else .ok false

/-- What a file holds. -/
def content (t : FileTree) (id : Nat) : Bytes := t.contents.getD id []

/-! ## Making and changing trees -/

/-- Put a node at a place. -/
def put (t : FileTree) (names : List String) (node : FileNode) : FileTree :=
  { t with nodes := t.nodes.filter (·.1 ≠ names) ++ [(names, node)] }

/-- Make the directories that lead to a place, and the place itself. -/
def makeDirectories (t : FileTree) (names : List String) : FileTree :=
  (List.range (names.length + 1)).foldl
    (fun t n =>
      let place := names.take n
      if (t.node? place).isSome then t else t.put place .directory)
    t

/-- The names in a text. -/
def namesOf (text : String) : List String := (FileName.ofString text).names.map FileName.standard

/-- Make a directory. -/
def addDirectory (t : FileTree) (name : String) : FileTree := t.makeDirectories (namesOf name)

/-- The place below the working directory at which the last one of some names stands or would
stand. The names before it have to lead to a directory there. -/
def placeOf (t : FileTree) (names : List String) : Except FileFault (List String) :=
  match names.getLast? with
  | none => .error .isDirectory
  | some last => do
    match ← t.walk false maxLinks (.inside []) names.dropLast with
    | .directory (.inside place) => .ok (place ++ [last])
    | .file _ => .error .notDirectory
    | _ => .error .noEntry

/-- Make a link, after making the directories that lead to it. -/
def addLink (t : FileTree) (name target : String) : FileTree :=
  let names := namesOf name
  match t.placeOf names with
  | .ok place => t.put place (.link target)
  | .error _ => (t.makeDirectories names.dropLast).put names (.link target)

/-- Put a new, empty file at a place, and give its identity. Outside the working directory it leaves
no trace but that. -/
def addFile (t : FileTree) (place : Place) (name : String) : Nat × FileTree :=
  let id := t.contents.length
  let t := { t with contents := t.contents ++ [[]] }
  match place with
  | .inside names => (id, t.put (names ++ [name]) (.file id))
  | _ => (id, t)

/-- Change what a file holds. -/
def setContent (t : FileTree) (id : Nat) (data : Bytes) : FileTree :=
  { t with contents := t.contents.set id data }

/-- The empty file that a file name stands for when it is opened for writing: one that was there and
has lost its contents, or a new one. -/
def create (t : FileTree) (name : String) : Except FileFault (Nat × FileTree) := do
  match ← t.resolve name true with
  | .directory _ => .error .isDirectory
  | .file id => .ok (id, t.setContent id [])
  | .missing place last => .ok (t.addFile place last)

/-- Write a file, after making the directories that lead to it. -/
def writeFile (t : FileTree) (name : String) (data : Bytes) : Except FileFault FileTree := do
  let isThere := (t.resolve name false).toOption.isSome
  let (id, t) ← (if isThere then t else t.makeDirectories (namesOf name).dropLast).create name
  return t.setContent id data

/-- Remove a name. A file that is open stays. -/
def removeFile (t : FileTree) (name : String) : Except FileFault FileTree := do
  let place ← t.placeOf (namesOf name)
  match t.node? place with
  | none => .error .noEntry
  | some .directory => .error .isDirectory
  | some _ => .ok { t with nodes := t.nodes.filter (·.1 ≠ place) }

/-- The files of a tree at places where an earlier tree has nothing, with what they hold. -/
def newFiles (t earlier : FileTree) : List (String × Bytes) :=
  t.nodes.filterMap fun (names, node) =>
    match earlier.node? names, node with
    | none, .file id => some ("/".intercalate names, t.content id)
    | _, _ => none

end FileTree

end PhotoArchive
