/-!
# Shell scripts

A script is made of commands: lists and pipelines of simple commands, branches, loops and
functions. The words of a command are made of pieces: characters as they stand, parameters, the
output of other scripts, and the values of expressions.
-/

namespace TrackSelect.Shell

/-- The two languages that scripts are written in. The extended one has arrays, conditions in
double brackets, arithmetic commands and some more forms of words. -/
inductive Dialect where
  | plain
  | extended
deriving DecidableEq, Repr

/-- Which parts of a value are replaced. -/
inductive Extent where
  | first
  | all
  | start
  | finish
deriving DecidableEq, Repr

/-- What becomes of the value of a parameter. -/
inductive Change where
  | keep
  /-- The number of its bytes or elements. -/
  | count
  /-- Without the shortest or longest part at its start that fits a pattern. -/
  | withoutStart (longest : Bool)
  /-- The same for its end. -/
  | withoutEnd (longest : Bool)
  /-- A word instead of a value that is missing or, if `orEmpty`, empty. -/
  | default (orEmpty : Bool)
  /-- The same, and the parameter is set to it. -/
  | assign (orEmpty : Bool)
  /-- A word instead of a value that is not missing and, if `orEmpty`, not empty. -/
  | instead (orEmpty : Bool)
  /-- A failure if the value is missing or, if `orEmpty`, empty. -/
  | require (orEmpty : Bool)
  /-- From some position on, so many bytes or elements. -/
  | slice
  /-- With parts that fit a pattern replaced. -/
  | replace (extent : Extent)
  /-- With the first or all letters in upper or lower case. -/
  | letters (upper all : Bool)
  /-- The value of the parameter that the value names. -/
  | indirect
  /-- The indices of an array. -/
  | indices
  /-- The names of the variables that start like this. -/
  | names
  /-- The value as it would be quoted. -/
  | quote
  /-- No change that there is: a failure when the word is used. -/
  | bad
deriving DecidableEq, Repr

/-- What a channel is redirected to. -/
inductive Redirection where
  /-- From a file. -/
  | input
  /-- To a file, in place of what it holds. -/
  | output
  /-- The same, whatever the file holds. -/
  | force
  /-- To a file, behind what it holds. -/
  | append
  /-- From and to a file. -/
  | both
  /-- The same as another channel, for reading or for writing. -/
  | copy (reads : Bool)
  /-- From a text in the script. -/
  | here
  /-- From a word and a line end. -/
  | word
  /-- The output and the error output to a file, in place of what it holds or behind it. -/
  | outputs (appends : Bool)
deriving DecidableEq, Repr

mutual

inductive Piece where
  /-- Characters, which stand for nothing but themselves if they are quoted. -/
  | text (isQuoted : Bool) (cs : List Char)
  /-- The value of a parameter, or of an element of it. -/
  | parameter (isQuoted : Bool) (name : String) (index : Option (List Piece)) (change : Change)
      (operands : List (List Piece))
  /-- The output of a script. -/
  | output (isQuoted : Bool) (body : Script)
  /-- The value of an expression, which is written out in pieces. -/
  | number (isQuoted : Bool) (expression : List Piece)
  /-- The path of a pipe from or to a script. -/
  | channel (reads : Bool) (body : Script)
  /-- The text with a number that stands below the line. -/
  | here (number : Nat)

/-- What a variable is set to. -/
inductive Value where
  | word (word : List Piece)
  /-- The elements of an array, with their indices if they are given. -/
  | elements (items : List (Option (List Piece) × List Piece))

/-- A setting of a variable or of an element of it, or an addition to what it holds. -/
inductive Setting where
  | set (name : String) (index : Option (List Piece)) (adds : Bool) (value : Value)

/-- A redirection of a channel, to what a word names. -/
inductive Redirect where
  | to (channel : Nat) (how : Redirection) (target : List Piece)

inductive Condition where
  | word (word : List Piece)
  | unary (operator : String) (word : List Piece)
  | binary (operator : String) (first second : List Piece)
  | negation (body : Condition)
  | both (first second : Condition)
  | either (first second : Condition)

/-- One case of a choice, with what follows its body: nothing, the body of the next case, or the
tests of the next cases. -/
inductive Case where
  | when (patterns : List (List Piece)) (body : Script) (ending : String)

inductive Script where
  | nothing
  /-- A command on some line. -/
  | simple (line : Nat) (settings : List Setting) (words : List (List Piece))
      (redirects : List Redirect)
  | sequence (first second : Script)
  /-- The second part only if the first one succeeds. -/
  | both (first second : Script)
  /-- The second part only if the first one fails. -/
  | either (first second : Script)
  | negation (body : Script)
  | pipeline (stages : List Script)
  /-- In a process of its own, without waiting for it. -/
  | background (body : Script)
  | redirected (line : Nat) (body : Script) (redirects : List Redirect)
  /-- In a process of its own. -/
  | subshell (line : Nat) (body : Script) (redirects : List Redirect)
  | branch (test yes : Script) (no : Option Script)
  /-- Repeat while the test succeeds, or while it does not. -/
  | loop (succeeding : Bool) (test body : Script)
  /-- Once for each word, or for each argument of the script. -/
  | each (line : Nat) (name : String) (words : Option (List (List Piece))) (body : Script)
  | choice (line : Nat) (subject : List Piece) (cases : List Case)
  | define (line : Nat) (name : String) (body : Script)
  /-- Expressions before the first time, before every time, and after every time. -/
  | counted (line : Nat) (start test next : List Piece) (body : Script)
  | calculation (line : Nat) (expression : List Piece)
  | condition (line : Nat) (condition : Condition)

end

abbrev Word := List Piece

instance : Inhabited Script := ⟨.nothing⟩

/-! ### Characters -/

def isSpace (c : Char) : Bool := c = ' ' || c = '\t'

/-- A character that ends a word. -/
def isMeta (c : Char) : Bool :=
  isSpace c || c = '\n' || c = ';' || c = '&' || c = '|' || c = '<' || c = '>' || c = '(' || c = ')'

def isNameStart (c : Char) : Bool := c.isAlpha || c = '_'

def isNamePart (c : Char) : Bool := c.isAlphanum || c = '_'

def isName (cs : List Char) : Bool :=
  match cs with
  | c :: rest => isNameStart c && rest.all isNamePart
  | [] => false

/-- A parameter of one character that is no name. -/
def isSpecial (c : Char) : Bool :=
  c.isDigit || c = '@' || c = '*' || c = '#' || c = '?' || c = '$' || c = '!' || c = '-'

/-- The quote that encloses the source of an output. -/
def isBackquote (c : Char) : Bool := c.toNat = 0x60

namespace Script

/-- A word that is the same whatever happens. -/
def literal? : Word → Option (List Char)
  | [.text false cs] => some cs
  | _ => none

end Script

end TrackSelect.Shell
