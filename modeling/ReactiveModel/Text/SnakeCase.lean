import ReactiveModel.Text.LetterCase
import ReactiveModel.Text.Letters

/-!
# Snake case

A name is cut into words at every character that is no letter or digit, between a lower-case and an
upper-case letter, and before the last capital of a run of capitals that a lower-case letter
follows. Digits belong to the word they stand in and take the case of the letter before them. The
snake-case form is the lower-cased words joined by underscores.
-/

namespace ReactiveModel.Text

/-- The case of the last cased character of the word being read. -/
inductive WordCase where
  | none
  | lower
  | upper
  deriving DecidableEq

/-- The case after one more character of the same word. -/
def WordCase.next (case : WordCase) (c : Char) : WordCase :=
  if isLower c then .lower else if isUpper c then .upper else case

/-- The words of a run of letters and digits; `word` holds what is read of the current one. -/
def caseWords : WordCase → (word : List Char) → List Char → List (List Char)
  | _, _, [] => []
  | _, word, [c] => [word ++ [c]]
  | case, word, c :: d :: rest =>
    if case.next c = .lower && isUpper d then
      (word ++ [c]) :: caseWords .none [] (d :: rest)
    else if case = .upper && isUpper c && isLower d then
      word :: caseWords .none [c] (d :: rest)
    else
      caseWords (case.next c) (word ++ [c]) (d :: rest)

/-- The runs of letters and digits, empty ones where two separators meet. -/
def alphanumericRuns : List Char → List (List Char)
  | [] => [[]]
  | c :: cs =>
    match alphanumericRuns cs with
    | [] => [[]]
    | run :: runs => if isAlphanumeric c then (c :: run) :: runs else [] :: run :: runs

/-- The words of a name. -/
def words (name : List Char) : List (List Char) :=
  (alphanumericRuns name).flatMap (caseWords .none [])

/-- A word in lower case; a sigma at its end takes the final form. -/
def lowerWord : List Char → List Char
  | [] => []
  | [c] => if c = 'Σ' then ['ς'] else toLower c
  | c :: rest => toLower c ++ lowerWord rest

/-- The lower-cased words of a name joined by underscores. -/
def snakeCase (name : String) : String :=
  String.ofList (List.intercalate ['_'] ((words name.toList).map lowerWord))

end ReactiveModel.Text
