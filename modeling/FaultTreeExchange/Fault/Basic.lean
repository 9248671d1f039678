import FaultTreeExchange.Binary64.Shortest
import FaultTreeExchange.Name
import FaultTreeExchange.Token.Basic

/-!
# Faults

The reasons why a document is refused, and the words for each. There are three kinds: faults of the
document as a whole, faults of a statement or a name, and faults of the tree that the statements
describe.
-/

namespace FaultTreeExchange

/-- A fault of the order of a document: where its name stands. -/
inductive FormatFault where
  | emptyDocument
  | definitionBeforeName
  | secondName (first : String)
  deriving DecidableEq, Repr

def FormatFault.message : FormatFault → String
  | .emptyDocument => "missing fault tree name: the document is empty"
  | .definitionBeforeName => "missing fault tree name before the first definition"
  | .secondName first => s!"fault tree name is already defined as '{first}'"

/-- What a faulty name stands for. -/
inductive NameRole where
  | faultTree
  | gate
  | basicEvent
  | houseEvent
  deriving DecidableEq, Repr

def NameRole.label : NameRole → String
  | .faultTree => "fault tree"
  | .gate => "gate"
  | .basicEvent => "event"
  | .houseEvent => "house event"

/-- A fault of a statement or of a name. Where a fault quotes what was found, no token stands for
the end of the line. -/
inductive ParsingFault where
  | loneColon
  | unexpectedCharacter (found : Char)
  | unrecognizedStatement (text : String)
  | expected (wanted found : Option Token)
  | expectedName (found : Option Token)
  | expectedProbability (found : Option Token)
  | invalidProbability (literal : String)
  | probabilityOutOfRange (name : String) (value : Binary64)
  | expectedState (found : Option Token)
  | emptyFormula
  | expectedEventName (found : Option Token)
  | doubleNegation
  | negatedGroup
  | nestedFormula
  | nestedVote
  | arithmeticSign (found : ArithmeticSign)
  | mixedConnectives (first second : Connective)
  | longExclusiveOr
  | nestedParentheses
  | unclosedParenthesis (found : Option Token)
  | singleInParentheses
  | negatedChain
  | expectedThreshold (found : Option Token)
  | fractionalThreshold (literal : String)
  | unopenedParenthesis
  | adjacentNegation
  | missingConnective (name : String)
  | connectiveAfterGroup (found : Connective)
  | unexpected (found : Option Token)
  | invalidName (role : NameRole) (name : String) (flaw : NameFlaw)
  deriving DecidableEq, Repr

def ParsingFault.message : ParsingFault → String
  | .loneColon => "expected ':=' after ':'"
  | .unexpectedCharacter found => s!"unexpected character '{found}'"
  | .unrecognizedStatement text => s!"unrecognized statement '{text}'"
  | .expected wanted found =>
    s!"expected {Token.describe wanted}, got {Token.describe found}"
  | .expectedName found => s!"expected name, got {Token.describe found}"
  | .expectedProbability found => s!"expected probability value, got {Token.describe found}"
  | .invalidProbability literal => s!"invalid probability '{literal}'"
  | .probabilityOutOfRange name value =>
    s!"probability of '{name}' must be within [0, 1], got {value.render}"
  | .expectedState found =>
    s!"house event state must be 'true' or 'false', got {Token.describe found}"
  | .emptyFormula => "empty formula"
  | .expectedEventName found => s!"expected event name, got {Token.describe found}"
  | .doubleNegation => "double negation requires parentheses: write '~(~x)'"
  | .negatedGroup => "a negated group is only allowed as the whole formula"
  | .nestedFormula => "nested sub-formula requires an intermediate gate"
  | .nestedVote =>
    "a combination '@(...)' must be the whole formula; introduce an intermediate gate"
  | .arithmeticSign found => s!"arithmetic operator '{found.sign}' is not allowed in a formula"
  | .mixedConnectives first second =>
    s!"mixing '{first.sign}' and '{second.sign}' in one formula requires an intermediate gate"
  | .longExclusiveOr => "'^' takes exactly two arguments; introduce an intermediate gate"
  | .nestedParentheses => "redundant nested parentheses"
  | .unclosedParenthesis found =>
    s!"missing ')': expected ')', got {Token.describe found}"
  | .singleInParentheses =>
    "parentheses around a single argument; write '~(x)' for negation or drop them"
  | .negatedChain => "negation of a compound formula requires an intermediate gate"
  | .expectedThreshold found => s!"expected vote threshold, got {Token.describe found}"
  | .fractionalThreshold literal => s!"vote threshold must be an integer, got '{literal}'"
  | .unopenedParenthesis => "unbalanced ')'"
  | .adjacentNegation => "unexpected '~': adjacent negations must be grouped with parentheses"
  | .missingConnective name => s!"missing connective before '{name}'"
  | .connectiveAfterGroup found =>
    s!"connective '{found.sign}' cannot follow a grouped formula"
  | .unexpected found => s!"unexpected {Token.describe found}"
  | .invalidName role name flaw => s!"invalid {role.label} name '{name}': {flaw.message}"

/-- What a statement declares. -/
inductive DeclarationKind where
  | gate
  | basicEvent
  | houseEvent
  deriving DecidableEq, Repr

def DeclarationKind.label : DeclarationKind → String
  | .gate => "gate"
  | .basicEvent => "basic event"
  | .houseEvent => "house event"

/-- How many arguments a gate may have, where its count is wrong. -/
inductive OperandRule where
  | exactlyOne
  | exactlyTwo
  | atLeastTwo
  deriving DecidableEq, Repr

def OperandRule.label : OperandRule → String
  | .exactlyOne => "exactly one argument"
  | .exactlyTwo => "exactly two arguments"
  | .atLeastTwo => "at least two arguments"

/-- A fault of the tree that a document describes. -/
inductive TreeFault where
  | repeatedArgument (argument gate : String)
  | redefinition (name : String) (first : DeclarationKind) (line : Nat) (second : DeclarationKind)
  | operandCount (operator gate : String) (rule : OperandRule) (count : Nat)
  | threshold (gate : String) (minimum count : Nat)
  | cycle (gates : List String)
  /-- A cycle in a tree each of whose gates is an argument of some gate. -/
  | cycleWithoutTop (gates : List String)
  | noGates
  | noTop
  | severalTops (gates : List String)
  deriving DecidableEq, Repr

def TreeFault.cycleText (gates : List String) : String :=
  "cycle detected: " ++ " → ".intercalate gates

/-- Words for a tree each of whose gates is an argument. -/
def TreeFault.noTopText : String :=
  "no top event: every gate is an argument of another gate"

def TreeFault.message : TreeFault → String
  | .repeatedArgument argument gate =>
    s!"repeated argument '{argument}' in the formula of gate '{gate}'"
  | .redefinition name .gate line .gate =>
    s!"redefinition of gate '{name}': first defined at line {line}"
  | .redefinition name .basicEvent line .basicEvent =>
    s!"redefinition of the probability of '{name}': first assigned at line {line}"
  | .redefinition name .houseEvent line .houseEvent =>
    s!"redefinition of the state of '{name}': first assigned at line {line}"
  | .redefinition name first line second =>
    s!"redefinition of '{name}': declared as a {first.label} at line {line} " ++
      s!"and as a {second.label} here"
  | .operandCount operator gate rule count =>
    s!"{operator} gate '{gate}' takes {rule.label}, got {count}"
  | .threshold gate minimum count =>
    s!"vote gate '{gate}' requires 1 <= K < N, got K = {minimum} and N = {count}"
  | .cycle gates => TreeFault.cycleText gates
  | .cycleWithoutTop gates => s!"{TreeFault.noTopText} ({TreeFault.cycleText gates})"
  | .noGates => "no top event: the fault tree defines no gates"
  | .noTop => TreeFault.noTopText
  | .severalTops gates =>
    "multiple top events: " ++ ", ".intercalate gates ++
      " (allow multiple roots to translate a forest)"

/-- A reason why a document is refused. -/
inductive Fault where
  | format (fault : FormatFault)
  | parsing (fault : ParsingFault)
  | faultTree (fault : TreeFault)
  deriving DecidableEq, Repr

/-- The three kinds of faults. -/
inductive FaultKind where
  | format
  | parsing
  | faultTree
  deriving DecidableEq, Repr

def FaultKind.label : FaultKind → String
  | .format => "format"
  | .parsing => "parsing"
  | .faultTree => "fault tree"

def FaultKind.identifier : FaultKind → String
  | .format => "format"
  | .parsing => "parsing"
  | .faultTree => "fault_tree"

def Fault.kind : Fault → FaultKind
  | .format _ => .format
  | .parsing _ => .parsing
  | .faultTree _ => .faultTree

def Fault.message : Fault → String
  | .format fault => fault.message
  | .parsing fault => fault.message
  | .faultTree fault => fault.message

end FaultTreeExchange
