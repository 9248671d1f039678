import FaultTreeExchange.Terminal.ControlSequence

/-!
# Styled messages

A message is made of spans, each in a style. A style is turned on by control sequences before the
span and off by another one behind it. Where a message goes to no terminal, only what is shown of it
is written; control sequences inside a span, complete or not, are left out with those around it.
-/

namespace FaultTreeExchange.Terminal

inductive Style where
  | plain
  /-- For the word that introduces an error. -/
  | label
  /-- For what is wrong. -/
  | faulty
  /-- For what is to be typed. -/
  | literal
  deriving DecidableEq, Repr

/-- The control sequences that turn a style on. -/
def Style.opening : Style → List Char
  | .plain => []
  | .label => "\x1b[1m\x1b[31m".toList
  | .faulty => "\x1b[33m".toList
  | .literal => "\x1b[1m".toList

/-- The control sequence that turns a style off. -/
def Style.closing : Style → List Char
  | .plain => []
  | _ => "\x1b[0m".toList

/-- A part of a message. -/
structure Span where
  style : Style
  text : String
  deriving DecidableEq, Repr

namespace Span

/-- A span without a style. -/
def plain (text : String) : Span := ⟨.plain, text⟩

/-- A span that introduces an error. -/
def label (text : String) : Span := ⟨.label, text⟩

def faulty (text : String) : Span := ⟨.faulty, text⟩

def literal (text : String) : Span := ⟨.literal, text⟩

/-- The span between its control sequences. -/
def encode (span : Span) : List Char :=
  span.style.opening ++ span.text.toList ++ span.style.closing

end Span

def plainText (message : List Span) : String :=
  String.ofList (shown (message.flatMap Span.encode))

end FaultTreeExchange.Terminal
