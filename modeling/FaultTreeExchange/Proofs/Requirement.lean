import FaultTreeExchange.Proofs.Building
import FaultTreeExchange.SourceFile
import Mathlib.Logic.Relation

/-!
# What a document has to satisfy

A document describes a sound fault tree when it meets six requirements. They speak of the statements
of the document and of the keys of names only; the positions, targets and marks of the tree do not
occur in them. Each fault that a tree can have reports one of them.
-/

namespace FaultTreeExchange
open Relation

/-- The operator can have this count of arguments. -/
def Operator.Takes (operator : Operator) (count : Nat) : Prop :=
  match operator with
  | .null | .not => count = 1
  | .xor => count = 2
  | .and | .or => 2 ≤ count
  | .atLeast minimum => 1 ≤ minimum ∧ minimum < count

instance (operator : Operator) (count : Nat) : Decidable (operator.Takes count) :=
  match operator with
  | .null | .not => inferInstanceAs (Decidable (count = 1))
  | .xor => inferInstanceAs (Decidable (count = 2))
  | .and | .or => inferInstanceAs (Decidable (2 ≤ count))
  | .atLeast minimum => inferInstanceAs (Decidable (1 ≤ minimum ∧ minimum < count))

lemma Operator.Takes.pos {operator : Operator} {count : Nat} (h : operator.Takes count) :
    0 < count := by
  unfold Operator.Takes at h
  cases operator <;> dsimp only at h <;> omega

namespace Document

/-- No formula names an event twice with one polarity. -/
def DistinctArguments (document : Document) : Prop :=
  ∀ definition ∈ document.gates, definition.DistinctArguments

def DistinctDeclarations (document : Document) : Prop :=
  document.declaredKeys.Nodup

/-- The name of the tree, all declared names, and the first spelling of each undeclared name are
valid. -/
structure ValidNames (document : Document) : Prop where
  tree : Name.isValid document.name = true
  declared : ∀ name ∈ document.declaredNames, Name.isValid name = true
  undeclared : ∀ name, IsFirst Name.key (document.references.map Reference.name) name →
    Name.key name ∉ document.declaredKeys → Name.isValid name = true

/-- Every operator can have as many arguments as it has. -/
def FittingOperands (document : Document) : Prop :=
  ∀ definition ∈ document.gates,
    definition.formula.operator.Takes definition.formula.arguments.length

/-- An argument of the first gate names the second one. -/
def RefersTo (document : Document) (first second : GateDefinition) : Prop :=
  first ∈ document.gates ∧ second ∈ document.gates ∧
    ∃ reference ∈ first.formula.arguments, Name.key reference.name = Name.key second.name

/-- No gate refers to itself, not even through others. -/
def Acyclic (document : Document) : Prop :=
  ∀ definition, ¬TransGen document.RefersTo definition definition

def topGates (document : Document) : List GateDefinition :=
  document.gates.filter fun definition =>
    document.references.all fun reference => Name.key reference.name ≠ Name.key definition.name

/-- There is a gate, and there is only one top gate where several are not allowed. -/
def HasTop (document : Document) (multiTop : Bool) : Prop :=
  document.gates ≠ [] ∧ (multiTop = false → document.topGates.length = 1)

end Document

/-- The requirements, in the order in which they are checked. -/
inductive Requirement where
  | distinctArguments
  | distinctDeclarations
  | validNames
  | fittingOperands
  | acyclic
  | top
  deriving DecidableEq, Repr

namespace Requirement

/-- The place of a requirement in the order of the checks. -/
def rank : Requirement → Nat
  | .distinctArguments => 1
  | .distinctDeclarations => 2
  | .validNames => 3
  | .fittingOperands => 4
  | .acyclic => 5
  | .top => 6

def Holds (document : Document) (multiTop : Bool) : Requirement → Prop
  | .distinctArguments => document.DistinctArguments
  | .distinctDeclarations => document.DistinctDeclarations
  | .validNames => document.ValidNames
  | .fittingOperands => document.FittingOperands
  | .acyclic => document.Acyclic
  | .top => document.HasTop multiTop

end Requirement

/-- The requirement that a fault reports as violated. -/
def Fault.requirement? : Fault → Option Requirement
  | .faultTree (.repeatedArgument _ _) => some .distinctArguments
  | .faultTree (.redefinition _ _ _ _) => some .distinctDeclarations
  | .parsing (.invalidName _ _ _) => some .validNames
  | .faultTree (.operandCount _ _ _ _) | .faultTree (.threshold _ _ _) => some .fittingOperands
  | .faultTree (.cycle _) | .faultTree (.cycleWithoutTop _) => some .acyclic
  | .faultTree .noGates | .faultTree .noTop | .faultTree (.severalTops _) => some .top
  | _ => none

structure Document.Sound (document : Document) (multiTop : Bool) : Prop where
  distinctArguments : document.DistinctArguments
  distinctDeclarations : document.DistinctDeclarations
  validNames : document.ValidNames
  fittingOperands : document.FittingOperands
  acyclic : document.Acyclic
  top : document.HasTop multiTop

lemma Document.sound_iff {document : Document} {multiTop : Bool} :
    document.Sound multiTop ↔ ∀ requirement : Requirement, requirement.Holds document multiTop := by
  constructor
  · intro h requirement
    cases requirement with
    | distinctArguments => exact h.distinctArguments
    | distinctDeclarations => exact h.distinctDeclarations
    | validNames => exact h.validNames
    | fittingOperands => exact h.fittingOperands
    | acyclic => exact h.acyclic
    | top => exact h.top
  · intro h
    exact ⟨h .distinctArguments, h .distinctDeclarations, h .validNames, h .fittingOperands,
      h .acyclic, h .top⟩

end FaultTreeExchange
