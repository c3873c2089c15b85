-- SUMMARY: Splitting a shell-style line into words and quoting words back into a line.

/-!
# Words of a command line

`Words.split` cuts a line as a POSIX shell does where nothing is expanded:
blanks separate words, quotes and backslashes protect them, `#` at the start of
a word begins a comment, and a backslash before a line break joins the lines.
`Words.quote` writes one word so that it is read back as that word.
-/

namespace Flaky.Words

/-! ## Splitting -/

/-- Where the reader stands between two characters. -/
inductive State
  | between
  | betweenEscaped
  | comment
  | bare
  | bareEscaped
  | singleQuoted
  | doubleQuoted
  | doubleEscaped
deriving DecidableEq

def isBlank (c : Char) : Bool := c == ' ' || c == '\t' || c == '\n'

/-- The characters that a backslash protects inside double quotes. -/
def protectedInDouble (c : Char) : Bool := "$`\"\\".toList.contains c

/-- Split the rest of a line; `word` is the word begun so far and `none` an open quote. -/
def splitFrom : State → (word : List Char) → List Char → Option (List (List Char))
  | .between, _, [] => some []
  | .between, word, c :: rest =>
    if c = '\'' then splitFrom .singleQuoted word rest
    else if c = '"' then splitFrom .doubleQuoted word rest
    else if c = '\\' then splitFrom .betweenEscaped word rest
    else if isBlank c then splitFrom .between word rest
    else if c = '#' then splitFrom .comment word rest
    else splitFrom .bare (word ++ [c]) rest
  | .betweenEscaped, word, [] => some [word ++ ['\\']]
  | .betweenEscaped, word, c :: rest =>
    if c = '\n' then splitFrom .between word rest else splitFrom .bare (word ++ [c]) rest
  | .comment, _, [] => some []
  | .comment, word, c :: rest =>
    if c = '\n' then splitFrom .between word rest else splitFrom .comment word rest
  | .bare, word, [] => some [word]
  | .bare, word, c :: rest =>
    if c = '\'' then splitFrom .singleQuoted word rest
    else if c = '"' then splitFrom .doubleQuoted word rest
    else if c = '\\' then splitFrom .bareEscaped word rest
    else if isBlank c then (splitFrom .between [] rest).map (word :: ·)
    else splitFrom .bare (word ++ [c]) rest
  | .bareEscaped, word, [] => some [word ++ ['\\']]
  | .bareEscaped, word, c :: rest =>
    if c = '\n' then splitFrom .bare word rest else splitFrom .bare (word ++ [c]) rest
  | .singleQuoted, _, [] => none
  | .singleQuoted, word, c :: rest =>
    if c = '\'' then splitFrom .bare word rest else splitFrom .singleQuoted (word ++ [c]) rest
  | .doubleQuoted, _, [] => none
  | .doubleQuoted, word, c :: rest =>
    if c = '"' then splitFrom .bare word rest
    else if c = '\\' then splitFrom .doubleEscaped word rest
    else splitFrom .doubleQuoted (word ++ [c]) rest
  | .doubleEscaped, _, [] => none
  | .doubleEscaped, word, c :: rest =>
    if c = '\n' then splitFrom .doubleQuoted word rest
    else if protectedInDouble c then splitFrom .doubleQuoted (word ++ [c]) rest
    else splitFrom .doubleQuoted (word ++ ['\\', c]) rest

/-- The words of a line, or `none` if a quote is left open. -/
def split? (line : String) : Option (List String) :=
  (splitFrom .between [] line.toList).map (List.map String.ofList)

/-! ## Quoting -/

/-- A word with one of these characters is quoted. -/
def needsQuotes (c : Char) : Bool := "\n'|&;<>()$`\\\" \t*?[#~=%".toList.contains c

/-- The inside of a quoted word: a quote closes, stands escaped, and opens again. -/
def quoted : List Char → List Char
  | [] => []
  | c :: rest => if c = '\'' then '\'' :: '\\' :: '\'' :: '\'' :: quoted rest else c :: quoted rest

def quoteChars (word : List Char) : List Char :=
  if word.isEmpty || word.any needsQuotes then '\'' :: (quoted word ++ ['\'']) else word

def quote (word : String) : String := String.ofList (quoteChars word.toList)

def join (words : List String) : String := String.intercalate " " (words.map quote)

end Flaky.Words
