/-!
# Blanks, comments and forbidden characters

What may stand between the parts of a document. A line break is a single character here: the reader
of documents has joined the pair of return and line feed before.
-/

namespace AddonPicker.Toml

/-- The blanks inside a line. -/
def isBlank (c : Char) : Bool :=
  c = ' ' || c = '\t'

/-- The characters that never stand for themselves in one line: the control characters other than
the tab. -/
def isForbidden (c : Char) : Bool :=
  (c.val < 0x20 && c != '\t') || c.val == 0x7f

/-- The characters that never stand for themselves in a text of several lines. -/
def isForbiddenInLines (c : Char) : Bool :=
  c != '\n' && isForbidden c

/-- Drop leading blanks. -/
def skipBlanks (cs : List Char) : List Char :=
  cs.dropWhile isBlank

/-- Drop a comment up to the end of its line, if there is one. -/
def skipComment : List Char → Option (List Char)
  | '#' :: rest =>
    if (rest.takeWhile (· != '\n')).any isForbidden then none
    else some (rest.dropWhile (· != '\n'))
  | cs => some cs

/-- Drop blanks, line breaks and comments, `inComment` saying whether a comment has begun. -/
def skipFiller (inComment : Bool) : List Char → Option (List Char)
  | [] => some []
  | c :: rest =>
    if c = '\n' then skipFiller false rest
    else if inComment then if isForbidden c then none else skipFiller true rest
    else if isBlank c then skipFiller false rest
    else if c = '#' then skipFiller true rest
    else some (c :: rest)

end AddonPicker.Toml
