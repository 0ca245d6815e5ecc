/-
Tokens of the script language.

* `Literal`: the constants that can be written in a script;
* `Keyword` and `Symbol`: the reserved words and the punctuation, with
  their spellings, the first of which is the canonical one;
* `Token`: a kind and the position of its first character;
* `Token.Kind.shown`: how an error message names a token.
-/
import MockupStudio.Decimal.Layout
import MockupStudio.Text.Quoted

namespace MockupStudio.Script

/-- A constant written in a script. -/
inductive Literal where
  | null
  | bool (value : Bool)
  | int (value : Int64)
  | float (value : Float)
  | text (value : String)
  deriving Inhabited

/-- Reserved words by their meaning. -/
inductive Keyword where
  | letWord | fnWord | returnWord | ifWord | elseWord | whileWord | forWord | inWord
  | breakWord | continueWord
  deriving Repr, DecidableEq

/-- Punctuation and operators. -/
inductive Symbol where
  | plus | minus | star | slash | percent
  | assign | equal | unequal | less | lessEqual | greater | greaterEqual
  | both | either | bang | pipe
  | leftParen | rightParen | leftBrace | rightBrace | leftBracket | rightBracket
  | comma | semicolon | colon | dot
  deriving Repr, DecidableEq

/-- The words for a keyword; any of them may be written. -/
def Keyword.spellings : Keyword → List String
  | letWord => ["let", "const", "var"]
  | fnWord => ["fn", "function"]
  | returnWord => ["return"]
  | ifWord => ["if"]
  | elseWord => ["else"]
  | whileWord => ["while"]
  | forWord => ["for"]
  | inWord => ["in", "of"]
  | breakWord => ["break"]
  | continueWord => ["continue"]

/-- All keywords. -/
def Keyword.all : List Keyword :=
  [letWord, fnWord, returnWord, ifWord, elseWord, whileWord, forWord, inWord, breakWord,
    continueWord]

/-- How a symbol is written. -/
def Symbol.spelling : Symbol → List Char
  | plus => ['+']
  | minus => ['-']
  | star => ['*']
  | slash => ['/']
  | percent => ['%']
  | assign => ['=']
  | equal => ['=', '=']
  | unequal => ['!', '=']
  | less => ['<']
  | lessEqual => ['<', '=']
  | greater => ['>']
  | greaterEqual => ['>', '=']
  | both => ['&', '&']
  | either => ['|', '|']
  | bang => ['!']
  | pipe => ['|']
  | leftParen => ['(']
  | rightParen => [')']
  | leftBrace => ['\x7b']
  | rightBrace => ['\x7d']
  | leftBracket => ['[']
  | rightBracket => [']']
  | comma => [',']
  | semicolon => [';']
  | colon => [':']
  | dot => ['.']

/-- What a token is, apart from where it stands. -/
inductive Token.Kind where
  | literal (value : Literal)
  | name (text : String)
  | keyword (word : Keyword)
  | symbol (mark : Symbol)
  | endOfText
  deriving Inhabited

/-- Line and column of a character, both counted from one. -/
structure Position where
  line : Nat
  column : Nat
  deriving Repr, DecidableEq, Inhabited

/-- A token with the position of its first character. -/
structure Token where
  kind : Token.Kind
  position : Position
  deriving Inhabited

/-- How an error message names a keyword. -/
def Keyword.shown : Keyword → String
  | letWord => "Let"
  | fnWord => "Fn"
  | returnWord => "Return"
  | ifWord => "If"
  | elseWord => "Else"
  | whileWord => "While"
  | forWord => "For"
  | inWord => "In"
  | breakWord => "Break"
  | continueWord => "Continue"

/-- How an error message names a symbol. -/
def Symbol.shown : Symbol → String
  | plus => "Plus"
  | minus => "Minus"
  | star => "Star"
  | slash => "Slash"
  | percent => "Percent"
  | assign => "Eq"
  | equal => "EqEq"
  | unequal => "BangEq"
  | less => "Lt"
  | lessEqual => "LtEq"
  | greater => "Gt"
  | greaterEqual => "GtEq"
  | both => "And"
  | either => "Or"
  | bang => "Bang"
  | pipe => "Pipe"
  | leftParen => "LParen"
  | rightParen => "RParen"
  | leftBrace => "LBrace"
  | rightBrace => "RBrace"
  | leftBracket => "LBracket"
  | rightBracket => "RBracket"
  | comma => "Comma"
  | semicolon => "Semicolon"
  | colon => "Colon"
  | dot => "Dot"

/-- How an error message names a constant. -/
def Literal.shown : Literal → String
  | null => "Null"
  | bool b => "Bool(" ++ (if b then "true" else "false") ++ ")"
  | int n => "Int(" ++ Decimal.integer n.toInt ++ ")"
  | float x => "Float(" ++ Decimal.token.write x ++ ")"
  | text s => "String(" ++ Text.quoted s ++ ")"

/-- How an error message names a token. -/
def Token.Kind.shown : Token.Kind → String
  | literal l => l.shown
  | name s => "Ident(" ++ Text.quoted s ++ ")"
  | keyword k => k.shown
  | symbol m => m.shown
  | endOfText => "end of input"

end MockupStudio.Script
