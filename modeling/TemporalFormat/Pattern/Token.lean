/-!
# Patterns as token lists

A pattern is scanned character by character, and the scan is a small state machine. A quote is never
part of a token: it only switches between quoted and unquoted text. Quoted text is one literal
token. Outside quotes a token is a run of one character; it is literal unless the character is a
letter, and then it names a directive.

A token list is rendered from left to right: literals are copied, and every other token is resolved.
The resolver may fail or have effects: it runs once for each token that is not literal, and not at
all after a failure.
-/

set_option autoImplicit false

namespace TemporalFormat

/-- The letters that are reserved for directives are the ASCII letters, whether or not a directive
uses them. -/
def isPatternLetter (c : Char) : Bool :=
  c.isAlpha

/-- The character that opens and closes quoted text. -/
def quoteMark : Char :=
  '\''

/-- A part of a pattern that is written as one: a literal is copied, any other token names a
directive. The start counts characters of the pattern, so a quoted text starts after its quote. -/
structure Token where
  literal : Bool
  chars : List Char
  start : Nat
  deriving DecidableEq

/-- The characters of a token as a text. -/
def Token.text (t : Token) : String :=
  String.ofList t.chars

/-! ## Scanning -/

/-- What the scan of a pattern knows between two characters: the character that is being repeated,
the text of the token that is being read and the place where it starts, whether a quote is open, and
the tokens before. -/
structure Scan where
  current : Option Char := none
  buffer : List Char := []
  bufferStart : Nat := 0
  quoted : Bool := false
  tokens : List Token := []
  deriving DecidableEq

namespace Scan

/-- Quoted text is literal; outside quotes a run is literal unless it repeats a letter. -/
def pendingIsLiteral (s : Scan) : Bool :=
  s.quoted || !s.current.any isPatternLetter

/-- Ends the token that is being read, if it has any text. -/
def flush (s : Scan) : Scan :=
  if s.buffer.isEmpty then s
  else { s with
    buffer := []
    tokens := s.tokens ++ [⟨s.pendingIsLiteral, s.buffer, s.bufferStart⟩] }

/-- Adds a character to the token that is being read. -/
def push (s : Scan) (c : Char) : Scan :=
  { s with buffer := s.buffer ++ [c] }

/-- Reads the character at a place of the pattern. Quoted text starts after the quote itself. -/
def step (s : Scan) (position : Nat) (c : Char) : Scan :=
  if c = quoteMark then
    { s.flush with current := none, quoted := !s.quoted, bufferStart := position + 1 }
  else if s.quoted then s.push c
  else if some c = s.current then s.push c
  else { s.flush.push c with bufferStart := position, current := some c }

/-- Reads the characters that begin at a place of the pattern. -/
def run (s : Scan) (position : Nat) : List Char → Scan
  | [] => s
  | c :: rest => (s.step position c).run (position + 1) rest

end Scan

/-- The tokens of a pattern. Every text is a pattern: letters without a directive become tokens
too, and a quote that is not closed quotes the rest. -/
def tokenize (pattern : String) : List Token :=
  (Scan.run {} 0 pattern.toList).flush.tokens

/-! ## Rendering -/

/-- What one token adds to the output. -/
def Token.render {m : Type → Type} [Monad m] (resolve : String → m String) (t : Token) :
    m String :=
  if t.literal then pure t.text else resolve t.text

/-- The texts of the tokens, one after the other. -/
def render {m : Type → Type} [Monad m] (resolve : String → m String) : List Token → m String
  | [] => pure ""
  | t :: rest => do
    let first ← t.render resolve
    let others ← render resolve rest
    pure (first ++ others)

/-- Two token lists in a row are rendered one after the other, each by itself. -/
theorem render_append {m : Type → Type} [Monad m] [LawfulMonad m] (resolve : String → m String)
    (xs ys : List Token) :
    render resolve (xs ++ ys) =
      (do
        let first ← render resolve xs
        let others ← render resolve ys
        pure (first ++ others)) := by
  induction xs with
  | nil => simp only [List.nil_append, render, pure_bind, String.empty_append, bind_pure]
  | cons t rest ih =>
    simp only [List.cons_append, render, ih, bind_assoc, pure_bind, String.append_assoc]

end TemporalFormat
