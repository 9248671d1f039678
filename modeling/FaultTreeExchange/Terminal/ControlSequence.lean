/-!
# Control sequences

Not every character of a text is shown on a terminal. Control characters are not, and an escape
character starts a sequence that is not shown either: a command of a few characters, a control
sequence with parameters, or a string with an end of its own. This module leaves of a text what is
shown of it.
-/

namespace FaultTreeExchange.Terminal

/-- The character that starts a sequence. -/
def escape : Char := '\x1b'

/-- Tabulator, line feed, form feed and carriage return: the control characters that are shown. -/
def isSpacing (c : Char) : Bool :=
  c = '\t' || c = '\n' || c = '\x0c' || c = '\r'

/-- A character that is shown outside of sequences. -/
def isShown (c : Char) : Bool :=
  isSpacing c || (' ' ≤ c && c ≠ '\x7f')

/-- A character at which every sequence is given up. -/
def isCancelling (c : Char) : Bool :=
  c = '\x18' || c = '\x1a'

/-- A character that may stand before the parameters or the final character of a sequence. -/
def isIntermediate (c : Char) : Bool :=
  ' ' ≤ c && c ≤ '/'

/-- A character of the parameters of a sequence. -/
def isParameter (c : Char) : Bool :=
  '0' ≤ c && c ≤ '?'

/-- A parameter character that may only be the first one. -/
def isPrivateMark (c : Char) : Bool :=
  '<' ≤ c && c ≤ '?'

/-- A character that ends a control sequence. -/
def isFinal (c : Char) : Bool :=
  '@' ≤ c && c ≤ '~'

/-- The byte that ends a string, alone or inside the encoding of a character. -/
def stringTerminator : UInt8 := 0x9C

/-- Whether the encoding of a character holds the byte that ends a string. -/
def endsString (c : Char) : Bool :=
  (String.utf8EncodeChar c).contains stringTerminator

/-- How far a sequence has been read. -/
inductive Sequence where
  /-- Behind the escape character. -/
  | escape
  /-- Behind the escape character and intermediate characters. -/
  | escapeIntermediate
  /-- Inside a control sequence, which `[` opens. -/
  | control
  /-- At the start of a device string, which `P` opens. -/
  | deviceStart
  | deviceParameters
  | deviceIntermediate
  /-- Inside a string for a device, a program or nobody. -/
  | string
  /-- Inside a command for the operating system, which `]` opens. -/
  | systemCommand
  deriving DecidableEq, Repr

namespace Sequence

/-- Whether spacing characters inside the sequence are shown. -/
def allowsSpacing : Sequence → Bool
  | .escape | .escapeIntermediate | .control => true
  | _ => false

/-- The sequence after a further character, unless that ends it. -/
def next (sequence : Sequence) (c : Char) : Option Sequence :=
  match sequence with
  | .escape =>
    if isIntermediate c then some .escapeIntermediate
    else if c = '[' then some .control
    else if c = ']' then some .systemCommand
    else if c = 'P' then some .deviceStart
    else if c = 'X' || c = '^' || c = '_' then some .string
    else if isParameter c || isFinal c then none
    else some .escape
  | .escapeIntermediate => if isParameter c || isFinal c then none else some .escapeIntermediate
  | .control => if isFinal c then none else some .control
  | .deviceStart =>
    if isIntermediate c then some .deviceIntermediate
    else if isParameter c then some .deviceParameters
    else if isFinal c then some .string
    else some .deviceStart
  | .deviceParameters =>
    if isIntermediate c then some .deviceIntermediate
    else if isPrivateMark c || isFinal c then some .string
    else some .deviceParameters
  | .deviceIntermediate =>
    if isParameter c || isFinal c then some .string else some .deviceIntermediate
  | .string => if endsString c then none else some .string
  | .systemCommand => if c = '\x07' then none else some .systemCommand

end Sequence

/-- How a character is taken. A spacing character inside a sequence interrupts it: what comes behind
is shown up to the next control character, at which the sequence goes on. A character outside ASCII
that is shown in between puts an end to the sequence. -/
inductive Mode where
  | text
  | within (sequence : Sequence)
  | interrupted (sequence : Sequence)
  deriving DecidableEq, Repr

namespace Mode

/-- The mode after a character of a sequence, and whether the character is shown. -/
def stepWithin (sequence : Sequence) (c : Char) : Mode × Bool :=
  if c = escape then (.within .escape, false)
  else if isCancelling c then (.text, false)
  else if sequence.allowsSpacing && isSpacing c then (.interrupted sequence, true)
  else
    match sequence.next c with
    | some sequence => (.within sequence, false)
    | none => (.text, false)

/-- The mode after a character, and whether the character is shown. -/
def step (mode : Mode) (c : Char) : Mode × Bool :=
  match mode with
  | .text =>
    if isShown c then (.text, true)
    else if c = escape then (.within .escape, false)
    else (.text, false)
  | .within sequence => stepWithin sequence c
  | .interrupted sequence =>
    if isShown c then (if c.toNat < 128 then .interrupted sequence else .text, true)
    else stepWithin sequence c

end Mode

/-- The characters of a text that are shown when its first one is taken in a given mode. -/
def shownFrom (mode : Mode) : List Char → List Char
  | [] => []
  | c :: rest =>
    match mode.step c with
    | (mode, true) => c :: shownFrom mode rest
    | (mode, false) => shownFrom mode rest

def shown (text : List Char) : List Char :=
  shownFrom .text text

end FaultTreeExchange.Terminal
