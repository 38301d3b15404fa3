import RouteWorks.Text.Blank
import RouteWorks.Text.Split

/-!
# Route paths

A route path such as `/users/:id/edit` is a list of segments. A segment led by `:` captures one
path element, one led by `*` captures the rest of the path, and every other segment is literal.
Only the literal segments in front of the first capture decide where a route is grouped; the rest
is carried along in the registration pattern.
-/

namespace RouteWorks

/-- One part of a route path between separators. -/
inductive Segment where
  /-- Matched as it is written. -/
  | literal (text : String)
  /-- Captures one path element. -/
  | parameter (name : String)
  /-- Captures the rest of the path. -/
  | wildcard (name : String)
  deriving DecidableEq, Repr, Inhabited

namespace Segment

/-- Reads a segment by its first character. -/
def ofText (text : String) : Segment :=
  match text.toList with
  | ':' :: name => parameter (String.ofList name)
  | '*' :: name => wildcard (String.ofList name)
  | _ => literal text

/-- The segment as it is written. -/
def text : Segment → String
  | literal t => t
  | parameter n => ":" ++ n
  | wildcard n => "*" ++ n

/-- The empty segment, which stands for the root of all paths. -/
def root : Segment := literal ""

/-- Whether the segment is matched as it is written. -/
def isLiteral : Segment → Bool
  | literal _ => true
  | _ => false

@[simp] theorem text_ofText (t : String) : (ofText t).text = t := by
  unfold ofText
  split
  · rename_i name h
    rw [text, ← String.toList_inj]
    simp [h]
  · rename_i name h
    rw [text, ← String.toList_inj]
    simp [h]
  · rfl

end Segment

namespace Route

/-- A path without the blank characters and then the separators around it. -/
def trimPath (raw : String) : String :=
  String.ofList (Text.stripWhile (· == '/') (Text.trimChars raw.toList))

/-- The segments of a path. Empty parts between separators do not count, and a path without any
other part is the root. -/
def segments (raw : String) : List Segment :=
  let parts := (Text.split (· == '/') (trimPath raw)).filter (· ≠ "")
  if parts.isEmpty then [.root] else parts.map Segment.ofText

/-- The literal segments in front, or the root when there is none. -/
def grouping (segs : List Segment) : List Segment :=
  let front := segs.takeWhile Segment.isLiteral
  if front.isEmpty then [.root] else front

/-- The segments from the first capture on. -/
def tail (segs : List Segment) : List Segment :=
  segs.dropWhile Segment.isLiteral

/-- Where a route is grouped and what it is registered as. -/
structure Path where
  /-- The literal keys from the root to the node of the route. -/
  keys : List String
  /-- The last key and the segments from the first capture on, without a leading separator. -/
  pattern : String
  deriving DecidableEq, Repr, Inhabited

/-- Reads a route path. -/
def Path.ofText (raw : String) : Path :=
  let segs := segments raw
  let keys := (grouping segs).map Segment.text
  { keys
    pattern :=
      Text.join "/" ((keys.getLast?.toList ++ (tail segs).map Segment.text).filter (· ≠ "")) }

end Route

end RouteWorks
