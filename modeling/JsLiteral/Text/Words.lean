import JsLiteral.Text

/-!
# Command words

A command line is cut into words at blanks (space, tab, carriage return, line feed).
Single quotes keep everything, double quotes everything but a backslash before a double
quote or a backslash, and outside quotes a backslash keeps the next code point. Quotes
that stand together make an empty word.

    words t = .error .unclosedQuote     a quote is left open
    words t = .error .danglingEscape    a backslash is the last code point
-/

namespace JsLiteral.Text

/-- Why a command line has no words. -/
inductive WordsError where
  | unclosedQuote
  | danglingEscape
deriving DecidableEq, Repr

/-- Where the reader stands. -/
inductive WordState where
  | between
  | plain
  | single
  | double
  | escaped
  | doubleEscaped
deriving DecidableEq, Repr

def isWordBlank (c : CodePoint) : Bool := c == ' ' || c == '\t' || c == '\r' || c == '\n'

/-- Reads on from state `s`; `word` holds the current word, last code point first, and
`done` the words before it, last first. -/
def wordsFrom : WordState → Text → List Text → Text → Except WordsError (List Text)
  | .between, _, done, [] => .ok done.reverse
  | .plain, word, done, [] => .ok (word.reverse :: done).reverse
  | .single, _, _, [] => .error .unclosedQuote
  | .double, _, _, [] => .error .unclosedQuote
  | .escaped, _, _, [] => .error .danglingEscape
  | .doubleEscaped, _, _, [] => .error .danglingEscape
  | .single, word, done, c :: t =>
    if c = '\'' then wordsFrom .plain word done t else wordsFrom .single (c :: word) done t
  | .double, word, done, c :: t =>
    if c = '"' then wordsFrom .plain word done t
    else if c = '\\' then wordsFrom .doubleEscaped word done t
    else wordsFrom .double (c :: word) done t
  | .escaped, word, done, c :: t => wordsFrom .plain (c :: word) done t
  | .doubleEscaped, word, done, c :: t =>
    if c = '"' ∨ c = '\\' then wordsFrom .double (c :: word) done t
    else wordsFrom .double (c :: .scalar '\\' :: word) done t
  | .plain, word, done, c :: t =>
    if isWordBlank c then wordsFrom .between [] (word.reverse :: done) t
    else if c = '\'' then wordsFrom .single word done t
    else if c = '"' then wordsFrom .double word done t
    else if c = '\\' then wordsFrom .escaped word done t
    else wordsFrom .plain (c :: word) done t
  | .between, _, done, c :: t =>
    if isWordBlank c then wordsFrom .between [] done t
    else if c = '\'' then wordsFrom .single [] done t
    else if c = '"' then wordsFrom .double [] done t
    else if c = '\\' then wordsFrom .escaped [] done t
    else wordsFrom .plain [c] done t

/-- The words of a command line. -/
def words (t : Text) : Except WordsError (List Text) := wordsFrom .between [] [] t

end JsLiteral.Text
