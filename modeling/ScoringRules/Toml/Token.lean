import ScoringRules.Text

/-!
# Tokens of a TOML document

A document is read as tokens by a fold of `Lexer.feed` over its characters. Comments leave no token
behind but the end of their line. A carriage return has to stand before a line feed and counts as
one with it; the other control characters except the tab may not occur in comments and quoted texts.
A word takes whatever does not end it, and whoever reads it as a key or a value judges its
characters.

- `Atom` are the tokens that stand for themselves, `Token` adds the brackets
- `tokenize?` reads a whole document
-/

namespace ScoringRules.Toml

inductive Bracket where
  | square
  | curly
deriving DecidableEq, Repr

inductive Atom where
  | blank (char : Char)
  | newline
  | equals
  | comma
  | stop
  | word (text : String)
  /-- Quoted text with its escapes replaced. A `block` is quoted by three marks and may span
  lines. -/
  | quoted (text : String) (block : Bool)
deriving DecidableEq, Repr

inductive Token where
  | opening (bracket : Bracket)
  | closing (bracket : Bracket)
  | atom (atom : Atom)
deriving DecidableEq, Repr

/-- How a text is quoted. Only basic texts have escapes. -/
inductive Quote where
  | basic
  | literal
deriving DecidableEq, Repr

def Quote.mark : Quote → Char
  | basic => '\x22'
  | literal => '\x27'

/-- The mark that starts an escape in basic texts. -/
def escapeMark : Char := '\x5c'

/-- What the lexer is in the middle of. Characters collected so far are held in reverse. -/
inductive Mode where
  | plain
  | word (reversed : List Char)
  | comment
  /-- After one quotation mark, which starts a text or a block. -/
  | openedOnce (quote : Quote)
  /-- After two quotation marks, which are an empty text or start a block. -/
  | openedTwice (quote : Quote)
  | text (quote : Quote) (reversed : List Char)
  /-- At the start of a block, where one newline is passed over. -/
  | blockStart (quote : Quote)
  /-- In a block, after a number of quotation marks that may end it. -/
  | block (quote : Quote) (reversed : List Char) (marks : Nat)
  | escape (inBlock : Bool) (reversed : List Char)
  /-- In the digits of a character code, of which `missing + 1` are to come. -/
  | code (inBlock : Bool) (reversed : List Char) (missing value : Nat)
  /-- After an escape at the end of a line of a block; `ended` tells whether the line has ended. -/
  | continuation (reversed : List Char) (ended : Bool)
deriving DecidableEq, Repr

def Mode.isUnquoted : Mode → Bool
  | plain | word _ => true
  | comment | openedOnce _ | openedTwice _ | text .. | blockStart _ | block .. | escape .. | code ..
  | continuation .. => false

structure Lexer where
  /-- The tokens so far, the last one first. -/
  reversed : List Token := []
  mode : Mode := .plain
  /-- Whether the last character was a carriage return. -/
  returned : Bool := false
deriving DecidableEq, Repr

def punctuation? (c : Char) : Option Token :=
  match c with
  | ' ' | '\t' => some (.atom (.blank c))
  | '\n' => some (.atom .newline)
  | '=' => some (.atom .equals)
  | ',' => some (.atom .comma)
  | '.' => some (.atom .stop)
  | '[' => some (.opening .square)
  | ']' => some (.closing .square)
  | '\x7b' => some (.opening .curly)
  | '\x7d' => some (.closing .curly)
  | _ => none

def quote? (c : Char) : Option Quote :=
  [Quote.basic, Quote.literal].find? fun quote => quote.mark = c

/-- A control character that may not occur in comments and quoted texts. -/
def IsForbidden (c : Char) : Prop := (c.toNat < 0x20 ∧ c ≠ '\t' ∧ c ≠ '\n') ∨ c = '\x7f'

instance : DecidablePred IsForbidden := fun c =>
  inferInstanceAs (Decidable ((c.toNat < 0x20 ∧ c ≠ '\t' ∧ c ≠ '\n') ∨ c = '\x7f'))

def escaped? (letter : Char) : Option Char :=
  if letter = escapeMark ∨ letter = Quote.basic.mark then some letter
  else
    match letter with
    | 'b' => some '\x08'
    | 't' => some '\t'
    | 'n' => some '\n'
    | 'f' => some '\x0c'
    | 'r' => some '\r'
    | 'e' => some '\x1b'
    | _ => none

/-- How many digits a character code has, by the letter that starts it. -/
def codeLength? : Char → Option Nat
  | 'x' => some 2
  | 'u' => some 4
  | 'U' => some 8
  | _ => none

/-- The mode in which a basic text goes on after an escape. -/
def resume (inBlock : Bool) (reversed : List Char) : Mode :=
  if inBlock then .block .basic reversed 0 else .text .basic reversed

namespace Lexer

/-- Adds a token and goes on between tokens. -/
def emit (lexer : Lexer) (token : Token) : Lexer :=
  { lexer with reversed := token :: lexer.reversed, mode := .plain }

/-- Adds a quoted text whose characters were collected in reverse. -/
def emitQuoted (lexer : Lexer) (reversed : List Char) (block : Bool) : Lexer :=
  lexer.emit (.atom (.quoted (String.ofList reversed.reverse) block))

/-- Reads a character between tokens. -/
def plain (lexer : Lexer) (c : Char) : Lexer :=
  match punctuation? c with
  | some token => lexer.emit token
  | none =>
      match quote? c with
      | some quote => { lexer with mode := .openedOnce quote }
      | none => { lexer with mode := if c = '#' then .comment else .word [c] }

/-- Reads a character of a word. Punctuation and comments end it. -/
def word (lexer : Lexer) (reversed : List Char) (c : Char) : Lexer :=
  if (punctuation? c).isSome ∨ c = '#' then
    (lexer.emit (.atom (.word (String.ofList reversed.reverse)))).plain c
  else { lexer with mode := .word (c :: reversed) }

/-- Reads a character of a quoted text on one line. -/
def text (lexer : Lexer) (quote : Quote) (reversed : List Char) (c : Char) : Option Lexer :=
  if c = quote.mark then some (lexer.emitQuoted reversed false)
  else if c = '\n' then none
  else if quote = .basic ∧ c = escapeMark then some { lexer with mode := .escape false reversed }
  else some { lexer with mode := .text quote (c :: reversed) }

/-- Reads a character of a block. Three marks end it, where up to two marks before these belong to
its text. -/
def block (lexer : Lexer) (quote : Quote) (reversed : List Char) (marks : Nat) (c : Char) : Lexer :=
  if c = quote.mark then
    if marks = 4 then lexer.emitQuoted (List.replicate 2 c ++ reversed) true
    else { lexer with mode := .block quote reversed (marks + 1) }
  else if 3 ≤ marks then
    (lexer.emitQuoted (List.replicate (marks - 3) quote.mark ++ reversed) true).plain c
  else
    let reversed := List.replicate marks quote.mark ++ reversed
    if quote = .basic ∧ c = escapeMark then { lexer with mode := .escape true reversed }
    else { lexer with mode := .block quote (c :: reversed) 0 }

/-- Reads the character after an escape mark. At the end of a line of a block it starts a
continuation. -/
def escape (lexer : Lexer) (inBlock : Bool) (reversed : List Char) (c : Char) : Option Lexer :=
  match escaped? c, codeLength? c with
  | some char, _ => some { lexer with mode := resume inBlock (char :: reversed) }
  | none, some length => some { lexer with mode := .code inBlock reversed (length - 1) 0 }
  | none, none =>
      if inBlock ∧ (c = ' ' ∨ c = '\t' ∨ c = '\n') then
        some { lexer with mode := .continuation reversed (c = '\n') }
      else none

/-- Reads a digit of a character code. The whole code has to be that of a character. -/
def code (lexer : Lexer) (inBlock : Bool) (reversed : List Char) (missing value : Nat) (c : Char) :
    Option Lexer := do
  let value := 16 * value + (← Text.digitValue? 16 c)
  match missing with
  | later + 1 => some { lexer with mode := .code inBlock reversed later value }
  | 0 =>
      if value.isValidChar then
        some { lexer with mode := resume inBlock (Char.ofNat value :: reversed) }
      else none

/-- Reads a character of a continuation, which passes over white space. -/
def continuation (lexer : Lexer) (reversed : List Char) (ended : Bool) (c : Char) : Option Lexer :=
  if c = '\n' then some { lexer with mode := .continuation reversed true }
  else if c = ' ' ∨ c = '\t' then some { lexer with mode := .continuation reversed ended }
  else if ended then some (lexer.block .basic reversed 0 c)
  else none

/-- Reads a character other than a carriage return. -/
def read (lexer : Lexer) (c : Char) : Option Lexer :=
  if IsForbidden c ∧ ¬ lexer.mode.isUnquoted then none
  else
    match lexer.mode with
    | .plain => some (lexer.plain c)
    | .word reversed => some (lexer.word reversed c)
    | .comment => some (if c = '\n' then lexer.emit (.atom .newline) else lexer)
    | .openedOnce quote =>
        if c = quote.mark then some { lexer with mode := .openedTwice quote }
        else lexer.text quote [] c
    | .openedTwice quote =>
        if c = quote.mark then some { lexer with mode := .blockStart quote }
        else some ((lexer.emitQuoted [] false).plain c)
    | .text quote reversed => lexer.text quote reversed c
    | .blockStart quote =>
        if c = '\n' then some { lexer with mode := .block quote [] 0 }
        else some (lexer.block quote [] 0 c)
    | .block quote reversed marks => some (lexer.block quote reversed marks c)
    | .escape inBlock reversed => lexer.escape inBlock reversed c
    | .code inBlock reversed missing value => lexer.code inBlock reversed missing value c
    | .continuation reversed ended => lexer.continuation reversed ended c

def feed (lexer : Lexer) (c : Char) : Option Lexer :=
  if lexer.returned then
    if c = '\n' then { lexer with returned := false }.read c else none
  else if c = '\r' then some { lexer with returned := true }
  else lexer.read c

/-- The tokens of a document that ends here, unless it ends in the middle of something. -/
def finish (lexer : Lexer) : Option (List Token) :=
  let tokens (lexer : Lexer) : Option (List Token) := some lexer.reversed.reverse
  if lexer.returned then none
  else
    match lexer.mode with
    | .plain | .comment => tokens lexer
    | .word reversed => tokens (lexer.emit (.atom (.word (String.ofList reversed.reverse))))
    | .openedTwice _ => tokens (lexer.emitQuoted [] false)
    | .block quote reversed marks =>
        if 3 ≤ marks then
          tokens (lexer.emitQuoted (List.replicate (marks - 3) quote.mark ++ reversed) true)
        else none
    | .openedOnce _ | .text _ _ | .blockStart _ | .escape _ _ | .code _ _ _ _ | .continuation _ _ =>
        none

end Lexer

/-- The tokens of a document, if it consists of tokens. A byte order mark at its start is passed
over. -/
def tokenize? (document : String) : Option (List Token) := do
  let chars :=
    match document.toList with
    | '\ufeff' :: later => later
    | chars => chars
  (← chars.foldlM Lexer.feed {}).finish

end ScoringRules.Toml
