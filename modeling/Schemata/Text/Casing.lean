import Schemata.Text.Alphabetic
import Schemata.Text.Cased
import Schemata.Text.CaseMap

/-! Words inside a name, and the two casings that are put together from them. -/
namespace Schemata.Text

/-- The case of the last cased character of a word so far. -/
inductive CaseMode where
  | none
  | lower
  | upper
  deriving DecidableEq

/-- Cuts at every character that is neither a letter nor a digit; `piece` is what stands before. -/
def pieces (piece : List Char) : List Char → List (List Char)
  | [] => [piece]
  | c :: cs => if isAlphanumeric c then pieces (piece ++ [c]) cs else piece :: pieces [] cs

/-- Cuts a piece before a capital that follows small letters, and before the last capital
of a run that small letters follow; `word` is the word so far, without its last character. -/
def humps (mode : CaseMode) (word : List Char) : List Char → List (List Char)
  | [] => []
  | [c] => [word ++ [c]]
  | c :: next :: rest =>
    let reached := if isLowercase c then .lower else if isUppercase c then .upper else mode
    if reached = .lower ∧ isUppercase next then
      (word ++ [c]) :: humps .none [] (next :: rest)
    else if mode = .upper ∧ isUppercase c ∧ isLowercase next then
      word :: humps .none [c] (next :: rest)
    else humps reached (word ++ [c]) (next :: rest)

def words (name : List Char) : List (List Char) := (pieces [] name).flatMap (humps .none [])

/-- A word in lower case; a sigma at its end takes the final form. -/
def lowerWord : List Char → List Char
  | [] => []
  | ['Σ'] => ['ς']
  | c :: cs => lower c ++ lowerWord cs

def capitalWord : List Char → List Char
  | [] => []
  | c :: cs => upper c ++ lowerWord cs

/-- The words in lower case, joined by underscores. -/
def snakeCase (name : String) : String :=
  String.ofList (['_'].intercalate ((words name.toList).map lowerWord))

/-- The words without a joint, capitalized from the second on. -/
def lowerCamelCase (name : String) : String :=
  match words name.toList with
  | [] => ""
  | w :: ws => String.ofList (lowerWord w ++ ws.flatMap capitalWord)

example : snakeCase "HTTPServer2Go" = "http_server2_go" := by decide
example : lowerCamelCase "multiple_of" = "multipleOf" := by decide

end Schemata.Text
