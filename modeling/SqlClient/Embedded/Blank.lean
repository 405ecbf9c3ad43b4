import SqlClient.Text.Blank

namespace SqlClient.Embedded

/-!
# Blank statements

A statement text with nothing in it but white space, semicolons and comments is not run.

* `isBlankStatement` — decided in one pass from left to right.
-/

/-- What the characters at a place of a statement text belong to. -/
inductive Region where
  | code
  | lineComment
  | blockComment
deriving DecidableEq, Repr

/-- Nothing but blanks from here on.  Comments run to the end of their line, or to their
    closing mark, or to the end of the text. -/
def isBlankFrom : Region → List Char → Bool
  | _, [] => true
  | .lineComment, c :: rest => isBlankFrom (if c = '\n' then .code else .lineComment) rest
  | .blockComment, '*' :: '/' :: rest => isBlankFrom .code rest
  | .blockComment, _ :: rest => isBlankFrom .blockComment rest
  | .code, '-' :: '-' :: rest => isBlankFrom .lineComment rest
  | .code, '/' :: '*' :: rest => isBlankFrom .blockComment rest
  | .code, c :: rest => (Text.isBlank c || c = ';') && isBlankFrom .code rest

/-- A statement text of white space, semicolons and comments alone. -/
def isBlankStatement (sql : String) : Bool := isBlankFrom .code sql.toList

end SqlClient.Embedded
