import Schemata.Text.Quote
import Schemata.Yaml.Plain

/-! How YAML shows a string: plain, in quotes, or as a literal block. -/
namespace Schemata.Yaml

def isBreak (c : Char) : Bool :=
  c = '\n' || c = '\r' || c.toNat = 0x85 || c.toNat = 0x2028 || c.toNat = 0x2029

/-- What may separate tokens: blanks, breaks, and the null character. -/
def isSeparator (c : Char) : Bool := c = ' ' || c = '\t' || c = '\x00' || isBreak c

def isPrintable (c : Char) : Bool :=
  let n := c.toNat
  n = 10 || (0x20 ≤ n && n ≤ 0x7E) || (0xA0 ≤ n && n ≠ 0xFEFF && n ≠ 0xFFFE && n ≠ 0xFFFF)

/-- Whether somewhere a character with `p` stands before one with `q`. -/
def hasPair (p q : Char → Bool) : List Char → Bool
  | a :: b :: cs => (p a && q b) || hasPair p q (b :: cs)
  | _ => false

def separates : Option Char → Bool
  | none => true
  | some c => isSeparator c

/-- Whether a colon before a separator or a number sign after one stands behind the first character. -/
def hasInnerIndicator : List Char → Bool
  | a :: b :: cs =>
    (b = ':' && separates cs.head?) || (b = '#' && isSeparator a) || hasInnerIndicator (b :: cs)
  | _ => false

/-- Whether a text starts like some other construct of YAML. -/
def startsWithIndicator (cs : List Char) : Bool :=
  cs.take 3 = ['-', '-', '-'] || cs.take 3 = ['.', '.', '.'] ||
    match cs with
    | [] => false
    | c :: rest =>
      "#,[]\x7b\x7d&*!|>'\"%@\x60".toList.contains c ||
        ((c = '?' || c = ':' || c = '-') && separates rest.head?)

/-- The ways to show a string. -/
inductive Style where
  | plain
  | singleQuoted
  | doubleQuoted
  | literal
  deriving DecidableEq

/-- Text between quotes keeps its breaks, but no blank next to a break and nothing unprintable. -/
def allowsSingleQuotes (cs : List Char) : Bool :=
  cs.all isPrintable && !hasPair isBreak (· = ' ') cs && !hasPair (· = ' ') isBreak cs

def allowsPlain (cs : List Char) : Bool :=
  allowsSingleQuotes cs && !cs.any isBreak && !cs.isEmpty && cs.head? ≠ some ' ' &&
    cs.getLast? ≠ some ' ' && !startsWithIndicator cs && !hasInnerIndicator cs

def allowsLiteral (cs : List Char) : Bool :=
  cs.all isPrintable && !hasPair (· = ' ') isBreak cs && cs.getLast? ≠ some ' '

/-- A string with newlines is a literal block, one that would read as something else is quoted,
and any other is plain, as far as each of these can show it. -/
def styleOf (s : String) : Style :=
  let cs := s.toList
  if cs.contains '\n' then if allowsLiteral cs then .literal else .doubleQuoted
  else if !readsAsOther s && allowsPlain cs then .plain
  else if allowsSingleQuotes cs then .singleQuoted
  else .doubleQuoted

def spaces (n : Nat) : List Char := List.replicate n ' '

/-- The text between single quotes; a line after a break starts at the indentation. -/
def singleQuoted (indent : Nat) (afterBreak : Bool) : List Char → List Char
  | [] => if afterBreak then spaces indent else []
  | c :: cs =>
    if isBreak c then c :: singleQuoted indent true cs
    else
      (if afterBreak then spaces indent else []) ++ (if c = '\'' then ['\'', '\''] else [c]) ++
        singleQuoted indent false cs

/-- `width` hexadecimal digits in upper case. -/
def upperHex (width n : Nat) : List Char := (Text.hex width n).map Char.toUpper

def escape (c : Char) : List Char :=
  match c with
  | '\x00' => ['\\', '0']
  | '\x07' => ['\\', 'a']
  | '\x08' => ['\\', 'b']
  | '\t' => ['\\', 't']
  | '\n' => ['\\', 'n']
  | '\x0B' => ['\\', 'v']
  | '\x0C' => ['\\', 'f']
  | '\r' => ['\\', 'r']
  | '\x1B' => ['\\', 'e']
  | '"' => ['\\', '"']
  | '\\' => ['\\', '\\']
  | _ =>
    let n := c.toNat
    if n = 0x85 then ['\\', 'N']
    else if n = 0x2028 then ['\\', 'L']
    else if n = 0x2029 then ['\\', 'P']
    else if isPrintable c then [c]
    else if n < 0x100 then ['\\', 'x'] ++ upperHex 2 n
    else if n < 0x10000 then ['\\', 'u'] ++ upperHex 4 n
    else ['\\', 'U'] ++ upperHex 8 n

/-- The lines of a literal block; an empty line is not indented. -/
def literalLines (indent : Nat) (afterBreak : Bool) : List Char → List Char
  | [] => []
  | c :: cs =>
    if isBreak c then c :: literalLines indent true cs
    else (if afterBreak then spaces indent else []) ++ c :: literalLines indent false cs

/-- The header of a literal block: the indentation, where the text starts with a blank or a
break, and what becomes of the breaks at its end. -/
def literalHeader (cs : List Char) : List Char :=
  let hint := match cs with
    | c :: _ => if c = ' ' || isBreak c then ['2'] else []
    | [] => []
  let chomping := match cs.reverse with
    | [] => ['-']
    | [c] => if isBreak c then ['+'] else ['-']
    | c :: d :: _ => if !isBreak c then ['-'] else if isBreak d then ['+'] else []
  '|' :: hint ++ chomping

/-- The text of a string whose further lines start at the indentation. -/
def scalar (indent : Nat) (s : String) : String :=
  let cs := s.toList
  String.ofList <|
    match styleOf s with
    | .plain => cs
    | .singleQuoted => '\'' :: singleQuoted indent false cs ++ ['\'']
    | .doubleQuoted => '"' :: cs.flatMap escape ++ ['"']
    | .literal => literalHeader cs ++ '\n' :: literalLines indent true cs

example : scalar 2 "a\n" = "|\n  a\n" := by decide
example : scalar 2 "\na" = "|2-\n\n  a" := by decide
example : scalar 2 "'" = "''''" := by decide
example : scalar 2 "a\tb" = "\"a\\tb\"" := by decide

end Schemata.Yaml
