/-!
# Blank characters

The white space of Unicode, and the three things done with it: trimming the ends of a text, trimming
its right end only, and dropping it everywhere.
-/

namespace ProxyTestbed.Text

/-- White space: the controls from tab to carriage return, the four information separators, and the
space characters of Unicode. -/
def isBlank (c : Char) : Bool :=
  let n := c.toNat
  (9 ≤ n && n ≤ 13) || (28 ≤ n && n ≤ 32) || n == 0x85 || n == 0xA0 || n == 0x1680 ||
    (0x2000 ≤ n && n ≤ 0x200A) || n == 0x2028 || n == 0x2029 || n == 0x202F || n == 0x205F ||
    n == 0x3000

/-- The text without the blanks it begins with. -/
def trimStart (s : List Char) : List Char :=
  s.dropWhile isBlank

/-- The text without the blanks it ends with. -/
def trimEnd : List Char → List Char
  | [] => []
  | c :: r =>
    match trimEnd r with
    | [] => if isBlank c then [] else [c]
    | t => c :: t

/-- The text without the blanks at either end. -/
def trim (s : List Char) : List Char :=
  trimEnd (trimStart s)

/-- The text without any blank. -/
def dropBlanks (s : List Char) : List Char :=
  s.filter fun c => !isBlank c

end ProxyTestbed.Text
