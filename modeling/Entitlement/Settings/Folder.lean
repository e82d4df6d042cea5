import Entitlement.Text.Bytes
import Entitlement.Text.Pieces

/-! # Folders

The files that settings can be read from. Paths start from the folder that the program was
started in, or, if they begin with a slash, from the root of all folders. A path is walked
along name by name, and every name but the last has to lead to a folder. -/

namespace Entitlement

/-- What lies at a path. Locked files must not be read, locked folders not be entered either. -/
inductive FolderEntry where
  | file (content : Bytes)
  | lockedFile
  | folder
  | lockedFolder
deriving DecidableEq

inductive PathFault where
  | missing
  | folder
  | notAFolder
  | longName
  | zeroCharacter
  | locked
  /-- The bytes of the file are no text. -/
  | notText
deriving DecidableEq

def PathFault.message : PathFault → String
  | missing => "No such file or directory (os error 2)"
  | folder => "Is a directory (os error 21)"
  | notAFolder => "Not a directory (os error 20)"
  | longName => "File name too long (os error 36)"
  | zeroCharacter => "file name contained an unexpected NUL byte"
  | locked => "Permission denied (os error 13)"
  | notText => "stream did not contain valid UTF-8"

/-- The names along a way from where the program was started. Two dots lead to the folder
around; they only stand at the beginning. A slash at the beginning is the root. -/
abbrev Way := List String

namespace Way

def parent (way : Way) : Way :=
  if way = ["/"] then way
  else if way.all (· = "..") then way ++ [".."]
  else way.dropLast

def follow (way : Way) (name : String) : Way :=
  if name = "" ∨ name = "." then way
  else if name = ".." then way.parent
  else way ++ [name]

def start (path : String) : Way :=
  if path.startsWith "/" then ["/"] else []

def namesOf (path : String) : List String :=
  (Text.pieces '/' path.toList).map String.ofList

def ofPath (path : String) : Way :=
  (namesOf path).foldl follow (start path)

end Way

/-- What lies at the ends of some ways. A folder on the way to an entry need not be listed. -/
structure Folder where
  entries : List (Way × FolderEntry)

namespace Folder

def ofPaths (entries : List (String × FolderEntry)) : Folder :=
  ⟨entries.map fun (path, entry) => (Way.ofPath path, entry)⟩

def entry? (folder : Folder) (way : Way) : Option FolderEntry :=
  match folder.entries.lookup way with
  | some entry => some entry
  | none =>
      if way.all (· = "..") ∨ way = ["/"] ∨ folder.entries.any fun entry => way.isPrefixOf entry.1
      then some .folder
      else none

def maxName : Nat := 255

def maxPath : Nat := 4095

/-- Goes on by one name, if it leads anywhere. A slash at the end of a path enters no folder. -/
def step (folder : Folder) (way : Way) (name : String) : Except PathFault Way :=
  let next := way.follow name
  match folder.entry? way with
  | some .folder =>
      if maxName < name.utf8ByteSize then .error .longName
      else if (folder.entry? next).isNone then .error .missing
      else .ok next
  | some .lockedFolder => if name = "" then .ok way else .error .locked
  | _ => .error .notAFolder

def find (folder : Folder) (path : String) : Except PathFault FolderEntry := do
  if path.toList.contains '\x00' then throw .zeroCharacter
  if path.isEmpty then throw .missing
  if maxPath < path.utf8ByteSize then throw .longName
  let way ← (Way.namesOf path).foldlM folder.step (Way.start path)
  match folder.entry? way with
  | some entry => return entry
  | none => throw .missing

def hasPath (folder : Folder) (path : String) : Bool :=
  (folder.find path).toOption.isSome

def read (folder : Folder) (path : String) : Except PathFault String := do
  match ← folder.find path with
  | .file content =>
      match Text.ofBytes? content with
      | some text => return text
      | none => throw .notText
  | .folder => throw .folder
  | .lockedFile | .lockedFolder => throw .locked

end Folder

end Entitlement
