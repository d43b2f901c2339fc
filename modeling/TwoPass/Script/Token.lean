import TwoPass.Text.Bytes

/-!
# Script tokens

Configuration scripts are written in Starlark, whose blocks are marked by indentation.  A
script becomes a list of tokens in which the start and end of a block are tokens of their
own, lines inside brackets are joined, and literals have their values.
-/

namespace TwoPass

namespace Script

/-- A token.  Operators, brackets and other punctuation are symbols; a real number is a
    whole number times a power of ten. -/
inductive Token where
  | newline
  | indent
  | outdent
  | name (name : Bytes)
  | keyword (word : String)
  | symbol (mark : String)
  | integer (value : Nat)
  | real (digits : Nat) (exponent : Int)
  | text (value : Bytes)
  | data (value : Bytes)
  deriving DecidableEq, Repr

/-- The words with a meaning of their own. -/
def keywords : List String :=
  [ "and", "break", "continue", "def", "elif", "else", "for", "if", "in", "lambda", "load", "not",
    "or", "pass", "return", "while" ]

/-- Words kept free for other uses, which no script may contain. -/
def reserved : List String :=
  [ "as", "async", "await", "class", "del", "except", "finally", "from", "global", "import", "is",
    "nonlocal", "raise", "try", "with", "yield" ]

/-- Operators and punctuation, each before its own beginnings. -/
def symbols : List String :=
  [ "//=", "<<=", ">>=", "**", "//", "<<", ">>", "==", "!=", "<=", ">=", "+=", "-=", "*=", "/=",
    "%=", "&=", "|=", "^=", "+", "-", "*", "/", "%", "&", "|", "^", "~", "<", ">", "=", "(", ")",
    "[", "]", "\x7b", "\x7d", ",", ":", ";", "." ]

end Script

end TwoPass
