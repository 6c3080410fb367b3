import CheckRouter.Text.Lines

/-!
# Paths

A path is an anchor and a list of parts. Empty parts and single dots are dropped when a path is
read, double dots are kept. Exactly two slashes at the front make an anchor of their own.
-/

namespace CheckRouter

/-- What the parts of a path start from. -/
inductive Anchor
  | relative
  | root
  | doubleRoot
  deriving DecidableEq, Repr

def Anchor.text : Anchor → String
  | .relative => ""
  | .root => "/"
  | .doubleRoot => "//"

def Anchor.ofText (text : List Char) : Anchor :=
  match (text.takeWhile (· = '/')).length with
  | 0 => .relative
  | 2 => .doubleRoot
  | _ => .root

def isPathPart (part : String) : Bool :=
  part != "" && part != "." && !part.toList.contains '/'

structure Path where
  anchor : Anchor
  parts : List String
  valid : parts.all isPathPart = true
  deriving DecidableEq, Repr

namespace Path

def partsOf (text : String) : List String :=
  (Text.splitAt '/' text).filter fun part => part != "" && part != "."

theorem partsOf_valid (text : String) : (partsOf text).all isPathPart = true := by
  simp only [List.all_eq_true, partsOf, List.mem_filter, Text.splitAt, List.mem_map]
  rintro part ⟨⟨piece, member, rfl⟩, kept⟩
  have := Text.not_mem_of_mem_pieces member
  simp_all [isPathPart]

def ofString (text : String) : Path :=
  ⟨Anchor.ofText text.toList, partsOf text, partsOf_valid text⟩

/-- The path as text. The path without anchor and parts is a single dot. -/
def toString (path : Path) : String :=
  if path.anchor = .relative && path.parts.isEmpty then "."
  else path.anchor.text ++ "/".intercalate path.parts

def isAbsolute (path : Path) : Bool := path.anchor != .relative

/-- The path of `other` seen from `path`. An absolute path is its own. -/
def join (path other : Path) : Path :=
  if other.isAbsolute then other
  else ⟨path.anchor, path.parts ++ other.parts, by simp [path.valid, other.valid]⟩

instance : HDiv Path String Path := ⟨fun path name => path.join (ofString name)⟩

instance : HDiv Path Path Path := ⟨join⟩

def parent (path : Path) : Path :=
  ⟨path.anchor, path.parts.dropLast, by
    have := List.all_eq_true.mp path.valid
    exact List.all_eq_true.mpr fun part member => this part (List.dropLast_subset _ member)⟩

def name (path : Path) : String := path.parts.getLast?.getD ""

/-- The last dot of the name and what stands behind it. A dot at either end of the name starts no
suffix. -/
def suffix (path : Path) : String :=
  let reversed := path.name.toList.reverse
  let ending := reversed.takeWhile (· != '.')
  if ending.isEmpty || reversed.length ≤ ending.length + 1 then ""
  else .ofList ('.' :: ending.reverse)

theorem isAbsolute_join_of_isAbsolute {path other : Path} (absolute : path.isAbsolute = true) :
    (path.join other).isAbsolute = true := by
  unfold join
  split <;> assumption

end Path

end CheckRouter
