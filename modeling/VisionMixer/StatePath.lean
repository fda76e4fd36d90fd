/-
Dotted paths into the device's tree, and the paths that one command changed.

A path is a list of keys and ids. Its text joins them by points; reading a text splits it at the points and takes every
segment that spells a 32-bit number as an id, whether it has a plus sign or leading zeros or not. Paths are ordered
segment by segment, keys before ids.
-/
import VisionMixer.Document
import VisionMixer.Error

namespace VisionMixer

/-- one step of a path -/
inductive Segment where
  | key (name : String)
  | index (id : UInt32)
  deriving DecidableEq

namespace Segment

/-- a segment in a path's text -/
def text : Segment → List Char
  | .key name => name.toList
  | .index id => Text.digits id.toNat

/-- the id that a segment spells, if it does -/
def index? (cs : List Char) : Option UInt32 :=
  let digits := match cs with
    | '+' :: rest => rest
    | _ => cs
  (Text.ofDigits? digits).bind fun n => if n < UInt32.size then some (UInt32.ofNat n) else none

/-- the segment that a nonempty text spells -/
def ofChars (cs : List Char) : Segment :=
  match index? cs with
  | some id => .index id
  | none => .key (String.ofList cs)

/-- keys by their characters, then ids by their numbers -/
def order : Segment → Segment → Ordering
  | .key a, .key b => compare a b
  | .key _, .index _ => .lt
  | .index _, .key _ => .gt
  | .index a, .index b => compare a b

end Segment

/-- a place in the tree -/
structure StatePath where
  segments : List Segment
  deriving DecidableEq

namespace StatePath

/-- a path of one key -/
def root (key : String) : StatePath := ⟨[.key key]⟩

/-- the path a key further down -/
def key (p : StatePath) (key : String) : StatePath := ⟨p.segments ++ [.key key]⟩

/-- the path an id further down -/
def index {κ : Type} [Id κ] (p : StatePath) (id : κ) : StatePath :=
  ⟨p.segments ++ [.index (UInt32.ofNat (Id.toNat id))]⟩

/-- the paths of several keys right below a path -/
def keys (p : StatePath) (keys : List String) : List StatePath := keys.map p.key

/-- the place itself or a place above it -/
def startsWith (p above : StatePath) : Bool := above.segments.isPrefixOf p.segments

/-- characters of the segments with points between -/
def join : List Segment → List Char
  | [] => []
  | [s] => s.text
  | s :: rest => s.text ++ '.' :: join rest

/-- the text of a path -/
def text (p : StatePath) : String := String.ofList (join p.segments)

/-- the parts between points -/
def parts : List Char → List (List Char)
  | [] => [[]]
  | c :: rest =>
    if c = '.' then [] :: parts rest
    else
      match parts rest with
      | [] => [[c]]
      | first :: others => (c :: first) :: others

/-- the path of a text; no segment may be empty -/
def parse (s : String) : Except Error StatePath :=
  let segments := parts s.toList
  if segments.any List.isEmpty then .error (.config (.emptySegment s)) else .ok ⟨segments.map Segment.ofChars⟩

/-- the order of paths, segment by segment -/
def order (a b : StatePath) : Ordering := go a.segments b.segments
where
  go : List Segment → List Segment → Ordering
    | [], [] => .eq
    | [], _ :: _ => .lt
    | _ :: _, [] => .gt
    | x :: xs, y :: ys => (x.order y).then (go xs ys)

instance : Stored StatePath where
  store p := .text p.text
  load?
    | .text s => (parse s).toOption
    | _ => none

end StatePath

namespace Document

/-- the member that a segment names; an id names the member of its decimal text -/
def child? : Document → Segment → Option Document
  | .object members, s => member? members (String.ofList s.text)
  | _, _ => none

/-- the part of a document at a path -/
def at? (d : Document) (p : StatePath) : Option Document := p.segments.foldlM child? d

end Document

/-- the paths that were changed, in order -/
structure ChangedPaths where
  paths : List StatePath
  deriving DecidableEq

namespace ChangedPaths

/-- no path -/
def empty : ChangedPaths := ⟨[]⟩

instance : Inhabited ChangedPaths := ⟨empty⟩

/-- the paths with one more at the end, unless it is there already -/
def insert (c : ChangedPaths) (p : StatePath) : ChangedPaths := if p ∈ c.paths then c else ⟨c.paths ++ [p]⟩

/-- the paths with others inserted in their order -/
def extend (c d : ChangedPaths) : ChangedPaths := d.paths.foldl insert c

/-- some path has this text -/
def contains (c : ChangedPaths) (text : String) : Bool := c.paths.any (·.text = text)

/-- some path is this place or below it -/
def touches (c : ChangedPaths) (place : StatePath) : Bool := c.paths.any (·.startsWith place)

/-- the number of paths -/
def size (c : ChangedPaths) : Nat := c.paths.length

/-- there is no path -/
def isEmpty (c : ChangedPaths) : Bool := c.paths.isEmpty

/-- the paths of a list, each once -/
def ofList (paths : List StatePath) : ChangedPaths := paths.foldl insert empty

instance : Stored ChangedPaths where
  store c := store c.paths
  load? d := (load? d).map ChangedPaths.mk

end ChangedPaths

end VisionMixer
