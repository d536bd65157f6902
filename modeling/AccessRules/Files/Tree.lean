import AccessRules.Files.Path

/-!
What is found at a path, and a tree of files in which to look. A directory is there when it holds
something or when it is listed; a path is walked part by part, and what comes after a file on the
way leads nowhere. Every file of a tree can be read, which is not so of files at large.
-/

namespace AccessRules

inductive FileState where
  | missing
  | directory
  /-- A file stands where a directory is needed. -/
  | blocked
  | regular (content : ByteArray)
  /-- The system refuses to read what is there, though it may tell that it is a file. -/
  | withheld (isFile : Bool) (reason : String)

namespace FileState

def isFile : FileState → Bool
  | .regular _ => true
  | .withheld isFile _ => isFile
  | .missing | .directory | .blocked => false

def content? : FileState → Option ByteArray
  | .regular content => some content
  | _ => none

end FileState

/-- Files by the parts of their absolute paths, and directories that are there without files. -/
structure FileTree where
  files : List (List String × ByteArray)
  directories : List (List String)

namespace FileTree

def file? (tree : FileTree) (parts : List String) : Option ByteArray :=
  (tree.files.find? fun file => file.1 == parts).map (·.2)

def isDirectory (tree : FileTree) (parts : List String) : Bool :=
  parts.isEmpty || tree.files.any (fun file => parts.isPrefixOf file.1 && file.1 != parts) ||
    tree.directories.any (fun directory => parts.isPrefixOf directory)

def walk (tree : FileTree) (origin : List String) : List String → FileState
  | [] => .directory
  | "" :: rest | "." :: rest => walk tree origin rest
  | ".." :: rest => walk tree origin.dropLast rest
  | part :: rest =>
    let here := origin ++ [part]
    match tree.file? here with
    | some content => if rest.isEmpty then .regular content else .blocked
    | none => if tree.isDirectory here then walk tree here rest else .missing

def look (tree : FileTree) (workingDirectory path : String) : FileState :=
  if path.isEmpty then .missing
  else tree.walk [] (Path.parts (Path.join workingDirectory path))

end FileTree

end AccessRules
