import ProxyTestbed.Text.Pieces

/-!
# Lines of a text

A line ends at a line feed, a carriage return, the two together, or one of the other line and page
breaks of Unicode. The end of the last line may be missing; a text that ends with a line break has no
empty line after it.
-/

namespace ProxyTestbed.Text

/-- Ends a line. -/
def isLineBreak (c : Char) : Bool :=
  let n := c.toNat
  (0x0A ≤ n && n ≤ 0x0D) || (0x1C ≤ n && n ≤ 0x1E) || n == 0x85 || n == 0x2028 || n == 0x2029

/-- The lines of a text, without their ends; `line` is what has been read of the first one, in
reverse. -/
def linesFrom (line : List Char) : List Char → List (List Char)
  | [] => if line.isEmpty then [] else [line.reverse]
  | '\r' :: '\n' :: r => line.reverse :: linesFrom [] r
  | c :: r => if isLineBreak c then line.reverse :: linesFrom [] r else linesFrom (c :: line) r

/-- The lines of a text, without their ends. -/
def lines (s : List Char) : List (List Char) :=
  linesFrom [] s

/-- The end of a list: its last `count` elements; with a count of zero all of it, and with a negative
count all but that many of the first elements. -/
def lastOf {α : Type} (count : Int) (xs : List α) : List α :=
  if 0 < count then xs.drop (xs.length - count.toNat) else xs.drop (-count).toNat

/-- The last lines of a text, joined by line feeds. -/
def tail (s : String) (count : Int) : String :=
  String.ofList (joinWith ['\n'] (lastOf count (lines s.toList)))

/-- How many of its last lines a report shows of a log that ended badly. -/
def logTailLines : Int := 40

/-- The text with every carriage return, alone or before a line feed, read as a line feed. -/
def unifyNewlines : List Char → List Char
  | [] => []
  | '\r' :: '\n' :: r => '\n' :: unifyNewlines r
  | '\r' :: r => '\n' :: unifyNewlines r
  | c :: r => c :: unifyNewlines r

end ProxyTestbed.Text
