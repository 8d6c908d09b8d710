/-
  Writing tokens as a pattern.

  A symbol is written as its name.  In a literal every cluster that could be read as something
  else, the escape or a cluster of some symbol name, is escaped; all other clusters stand for
  themselves.  `mem_reserved` says which clusters are escaped, `write_cons` that tokens are written
  one after the other.
-/
import DatePattern.Pattern.Scan
import DatePattern.Text.Order

namespace DatePattern

open Text

namespace Token

/-- The clusters that have to be escaped in literals: the escape and those of the names. -/
def reserved (names : List Text) : List Text := distinct (escapeCluster :: names.flatMap graphemes)

/-- A literal cluster in the written form, with the given clusters escaped. -/
def writeCluster (reserved : List Text) (cluster : Text) : Text :=
  if cluster ∈ reserved then escapeCluster ++ cluster else cluster

/-- The pattern text of one token, with the given clusters escaped in literals. -/
def written (reserved : List Text) : Token → Text
  | .literal t => (graphemes t).flatMap (writeCluster reserved)
  | .symbol name => name

/-- The pattern texts of the tokens, one by one. -/
def writtenEach (names : List Text) (ts : List Token) : List Text :=
  ts.map (written (reserved names))

/-- The pattern text of a token sequence. -/
def write (names : List Text) (ts : List Token) : Text := (writtenEach names ts).flatten

theorem mem_reserved {names : List Text} {cluster : Text} :
    cluster ∈ reserved names ↔
      cluster = escapeCluster ∨ ∃ name ∈ names, cluster ∈ graphemes name := by
  simp [reserved, mem_distinct]

theorem write_cons (names : List Text) (t : Token) (ts : List Token) :
    write names (t :: ts) = t.written (reserved names) ++ write names ts := rfl

end Token

end DatePattern
