namespace SqlClient.Text

/-!
# White space

Blank characters are those with the Unicode property `White_Space`.

* `isBlank` — the twenty-five of them.
* `skipBlanks`, `trim` — leading white space gone, and white space gone at both ends.
-/

/-- The characters with the Unicode property `White_Space`, as ranges of code points. -/
def blankRanges : List (Nat × Nat) :=
  [(0x09, 0x0d), (0x20, 0x20), (0x85, 0x85), (0xa0, 0xa0), (0x1680, 0x1680),
   (0x2000, 0x200a), (0x2028, 0x2029), (0x202f, 0x202f), (0x205f, 0x205f), (0x3000, 0x3000)]

/-- A white-space character. -/
def isBlank (c : Char) : Bool :=
  blankRanges.any fun r => r.1 ≤ c.toNat && c.toNat ≤ r.2

/-- The text after its leading white space. -/
def skipBlanks (cs : List Char) : List Char := cs.dropWhile isBlank

/-- The text between its leading and its trailing white space. -/
def trim (cs : List Char) : List Char :=
  (skipBlanks (skipBlanks cs).reverse).reverse

/-- Nothing but white space. -/
def allBlank (s : String) : Bool := (trim s.toList).isEmpty

end SqlClient.Text
