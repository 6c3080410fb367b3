import CheckRouter.SystemError
import CheckRouter.Text.Lines

/-!
# File trees and disks

A file tree gives some absolute places a node each: a directory, a regular file or a symbolic link.
The directories above a node exist with it. A disk is a file tree of which the system does not show
every place. `Disk.find` looks a name up the way the system does: links are followed wherever they
stand, at most forty of them, and every place before a slash has to be a directory.
-/

namespace CheckRouter

/-- The names on the way from the root to a file. -/
abbrev Place := List String

structure RegularFile where
  content : List UInt8
  executable : Bool := false
  unreadable : Bool := false
  deriving DecidableEq, Repr

inductive Node
  | directory
  | file (file : RegularFile)
  | link (target : String)
  deriving DecidableEq, Repr

structure FileTree where
  nodes : List (Place × Node)
  deriving Repr

namespace FileTree

def node? (tree : FileTree) (place : Place) : Option Node :=
  match tree.nodes.lookup place with
  | some node => some node
  | none =>
    if place.isEmpty || tree.nodes.any (place.isPrefixOf ·.1) then some .directory else none

def steps (name : String) : List String := Text.splitAt '/' name

def isRooted (name : String) : Bool := name.toList.head? == some '/'

/-- The length of a name in bytes. -/
def byteLength (name : String) : Nat := name.toList.foldl (fun length c => length + c.utf8Size) 0

/-- The refusal of a name of more than 255 bytes. -/
def tooLong? (place : Place) : Option SystemError :=
  if 255 < byteLength (place.getLast?.getD "") then some .nameTooLong else none

end FileTree

/-- A file tree with the places that the system refuses to look up, because their names are too long
or the directories above them may not be searched, say. -/
structure Disk where
  tree : FileTree
  refuses : Place → Option SystemError

namespace Disk

open FileTree (isRooted)

/-- Where a walk ends that stops at the first link on its way. -/
inductive Walk
  | refused (error : SystemError)
  | arrived (place : Place) (node : Node)
  | atLink (directory : Place) (target : String) (rest : List String)
  deriving DecidableEq, Repr

/-- The node at a place, unless the system refuses to look it up. -/
def nodeAt (disk : Disk) (place : Place) : Except SystemError Node :=
  match disk.refuses place, disk.tree.node? place with
  | some error, _ => .error error
  | none, none => .error .noEntry
  | none, some node => .ok node

/-- Walks from a place that holds `node` along some steps, up to the first link. -/
def walk (disk : Disk) (followLast : Bool) (place : Place) (node : Node) : List String → Walk
  | [] => .arrived place node
  | step :: rest =>
    if node ≠ .directory then .refused .notDirectory
    else if step = "" || step = "." then disk.walk followLast place .directory rest
    else if step = ".." then disk.walk followLast place.dropLast .directory rest
    else
      match disk.nodeAt (place ++ [step]) with
      | .error error => .refused error
      | .ok (.link target) =>
        if rest.isEmpty && !followLast then .arrived (place ++ [step]) (.link target)
        else .atLink place target rest
      | .ok node => disk.walk followLast (place ++ [step]) node rest

/-- Walks along some steps and follows as many links as `links` allows. -/
def walkLinks (disk : Disk) (followLast : Bool) :
    Nat → Place → List String → Except SystemError (Place × Node)
  | links, place, steps =>
    match disk.tree.node? place with
    | none => .error .noEntry
    | some node =>
      match disk.walk followLast place node steps with
      | .refused error => .error error
      | .arrived place node => .ok (place, node)
      | .atLink directory target rest =>
        match links with
        | 0 => .error .linkLoop
        | links + 1 =>
          if target = "" then .error .noEntry
          else
            disk.walkLinks followLast links (if isRooted target then [] else directory)
              (FileTree.steps target ++ rest)

/-- The place and the node that a name stands for, seen from where some steps lead. -/
def findFrom (disk : Disk) (followLast : Bool) (base : List String) (name : String) :
    Except SystemError (Place × Node) :=
  if name = "" then .error .noEntry
  else if isRooted name then disk.walkLinks followLast 40 [] (FileTree.steps name)
  else disk.walkLinks followLast 40 [] (base ++ FileTree.steps name)

/-- The place and the node that a name stands for, seen from a directory. -/
def find (disk : Disk) (followLast : Bool) (directory name : String) :
    Except SystemError (Place × Node) :=
  disk.findFrom followLast (FileTree.steps directory) name

end Disk

end CheckRouter
