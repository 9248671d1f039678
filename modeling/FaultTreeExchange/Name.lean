import FaultTreeExchange.Text.Blank
import FaultTreeExchange.Text.Lowercase
import FaultTreeExchange.Text.Numeral

/-!
# Names

One rule holds for the names of fault trees, gates and events: a letter or `_` first, then letters,
numerals, `_` and single `-`, the last of them no `-`. Two names are the same name when their
lower-case forms are equal.
-/

namespace FaultTreeExchange

open FaultTreeExchange.Text

/-- What is wrong with a name. -/
inductive NameFlaw where
  | empty
  | startsWithDigit
  | startsWithoutLetter
  | holdsBlank
  | holdsPoint
  | holdsDoubleHyphen
  | endsWithHyphen
  | holdsOther
  deriving DecidableEq, Repr

def NameFlaw.message : NameFlaw → String
  | .empty => "name is empty"
  | .startsWithDigit => "name must not start with a digit"
  | .startsWithoutLetter => "name must start with a letter or '_'"
  | .holdsBlank => "name must not contain whitespace"
  | .holdsPoint => "name must not contain '.'"
  | .holdsDoubleHyphen => "name must not contain '--'"
  | .endsWithHyphen => "name must not end with '-'"
  | .holdsOther => "name contains characters outside letters, digits, '_' and '-'"

namespace Name

/-- The key under which a name is known: its lower-case form. -/
def key (name : String) : String :=
  lowercase name

/-- A character that a name may start with. -/
def isInitial (c : Char) : Bool :=
  isLetter c || c = '_'

/-- A character that may stand in a name. -/
def isAllowed (c : Char) : Bool :=
  isAlphanumeric c || c = '_' || c = '-'

/-- Whether two given characters follow each other somewhere in a text. -/
def holdsPair (first second : Char) : List Char → Bool
  | [] => false
  | c :: rest => (c = first && rest.head? = some second) || holdsPair first second rest

/-- Whether a text is a name by the rule. -/
def isValid (name : String) : Bool :=
  match name.toList with
  | [] => false
  | first :: rest =>
    isInitial first && rest.all isAllowed && (first :: rest).getLast? != some '-' &&
      !holdsPair '-' '-' (first :: rest)

/-- The first reason, in a fixed order, why a text is no name. -/
def flaw (name : String) : NameFlaw :=
  match name.toList with
  | [] => .empty
  | first :: rest =>
    if isDigit first then .startsWithDigit
    else if !isInitial first then .startsWithoutLetter
    else if (first :: rest).any isBlank then .holdsBlank
    else if (first :: rest).contains '.' then .holdsPoint
    else if holdsPair '-' '-' (first :: rest) then .holdsDoubleHyphen
    else if (first :: rest).getLast? = some '-' then .endsWithHyphen
    else .holdsOther

end Name
end FaultTreeExchange
