import CheckRouter.FileTree

/-!
# Canonical names

`Disk.canonical?` rewrites a name, step by step from the left, to one without links, dots and double
dots. Steps that lead nowhere are kept, and so is the rest behind a link that leads back to itself.
Each link is followed once and its trail remembered. Links seen from a directory can lead ever
further up under new names, so there is a limit to how many are followed inside each other.
-/

namespace CheckRouter

/-- A name built so far. Seen from a directory it may start with double dots. -/
structure Trail where
  rooted : Bool
  names : List String
  deriving DecidableEq, Repr

namespace Trail

def text (trail : Trail) : String :=
  (if trail.rooted then "/" else "") ++ "/".intercalate trail.names

def push (trail : Trail) (name : String) : Trail := { trail with names := trail.names ++ [name] }

def up (trail : Trail) : Trail :=
  if trail.rooted then { trail with names := trail.names.dropLast }
  else
    match trail.names.getLast? with
    | none | some ".." => trail.push ".."
    | some _ => { trail with names := trail.names.dropLast }

/-- The trail with the rest of a name put behind it as it is. A slash at the end of the trail is the
one before the rest. -/
def extend (trail : Trail) : List String → Trail
  | [] => trail
  | "" :: name :: rest => ⟨true, name :: rest⟩
  | rest =>
    let names := if trail.names.getLast? = some "" then trail.names.dropLast else trail.names
    { trail with names := names ++ rest }

/-- Where the target of a link starts that stands behind a trail. -/
def base (trail : Trail) (target : String) : Trail :=
  if FileTree.isRooted target then ⟨true, []⟩ else trail

end Trail

namespace Disk

open FileTree (isRooted steps)

/-- The names of links that were met, each with the trail it leads to once that is known. -/
abbrev Links := List (String × Option Trail)

/-- Where some steps lead. -/
inductive Arrival
  | at (trail : Trail)
  /-- At a link that leads back to itself, with the rest of the steps behind it. -/
  | caught (trail : Trail)
  | tooDeep
  deriving DecidableEq, Repr

/-- Goes along some steps; `target?` tells a link and `follow` where its target leads. -/
def climbWith (target? : Trail → Option String)
    (follow : Links → Trail → String → Links × Arrival) :
    Links → Trail → List String → Links × Arrival
  | links, trail, [] => (links, .at trail)
  | links, trail, step :: rest =>
    if step = "" || step = "." then climbWith target? follow links trail rest
    else if step = ".." then climbWith target? follow links trail.up rest
    else
      let next := trail.push step
      match target? next with
      | none => climbWith target? follow links next rest
      | some target =>
        match links.lookup next.text with
        | some (some found) => climbWith target? follow links found rest
        | some none => (links, .caught (next.extend rest))
        | none =>
          match follow ((next.text, none) :: links) trail target with
          | (links, .at found) =>
            climbWith target? follow ((next.text, some found) :: links) found rest
          | (links, .caught found) => (links, .caught (found.extend rest))
          | (links, .tooDeep) => (links, .tooDeep)

def linkTarget? (disk : Disk) (directory : String) (trail : Trail) : Option String :=
  match disk.find false directory trail.text with
  | .ok (_, .link target) => some target
  | _ => none

/-- Goes along some steps through links nested at most `depth` deep. -/
def climb (disk : Disk) (directory : String) :
    Nat → Links → Trail → List String → Links × Arrival
  | 0, links, _, _ => (links, .tooDeep)
  | depth + 1, links, trail, steps =>
    climbWith (disk.linkTarget? directory)
      (fun links before target =>
        disk.climb directory depth links (before.base target) (FileTree.steps target))
      links trail steps

/-- Drops empty steps and dots, and takes double dots together with the step before them. -/
def normalise (steps : List String) : List String :=
  steps.foldl (fun names step =>
    if step = "" || step = "." then names
    else if step = ".." then names.dropLast
    else names ++ [step]) []

/-- The name without empty steps, dots and double dots that a trail stands for. Two slashes in
front, and no more, are kept. -/
def rooted (directory : String) (trail : Trail) : String :=
  let names := if trail.rooted then trail.names else steps directory ++ trail.names
  let slashes := if trail.rooted then (trail.text.toList.takeWhile (· = '/')).length else 1
  (if slashes = 2 then "//" else "/") ++ "/".intercalate (normalise names)

/-- The canonical name of a file seen from a directory, unless its links are nested too deep. -/
def canonical? (disk : Disk) (depth : Nat) (directory name : String) : Option String :=
  match (disk.climb directory depth [] ⟨isRooted name, []⟩ (FileTree.steps name)).2 with
  | .at trail => some (rooted directory trail)
  | .caught trail => some (rooted directory trail)
  | .tooDeep => none

end Disk

end CheckRouter
