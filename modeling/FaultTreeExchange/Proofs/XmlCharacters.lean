import FaultTreeExchange.Binary64.Reading
import FaultTreeExchange.Name
import FaultTreeExchange.Proofs.TokenText
import FaultTreeExchange.Proofs.XmlReading
import Mathlib.Data.List.TakeWhile

/-!
# Characters of XML

A text may hold tabs, line ends, and every character from the blank on but two. The texts of names
and of numbers hold no others, and an element whose attributes do not is written without others.
-/

namespace FaultTreeExchange

open Text

namespace Xml

def isXmlChar (c : Char) : Bool :=
  c = '\t' || c = '\n' || c = '\r' ||
    (0x20 ≤ c.toNat && c.toNat ≠ 0xFFFE && c.toNat ≠ 0xFFFF)

def Legal (text : List Char) : Prop :=
  ∀ c ∈ text, isXmlChar c = true

variable {first second text : List Char} {name : String} {attributes : List (String × String)}

lemma legal_append_iff : Legal (first ++ second) ↔ Legal first ∧ Legal second :=
  List.forall_mem_append

lemma legal_cons_iff {c : Char} : Legal (c :: text) ↔ isXmlChar c = true ∧ Legal text :=
  List.forall_mem_cons

lemma legal_flatMap {α : Type} {items : List α} {written : α → List Char}
    (h : ∀ item ∈ items, Legal (written item)) : Legal (items.flatMap written) := by
  intro c hc
  obtain ⟨item, hitem, hmem⟩ := List.mem_flatMap.mp hc
  exact h item hitem c hmem

instance (text : List Char) : Decidable (Legal text) :=
  List.decidableBAll (fun c => isXmlChar c = true) text

/-! ### Elements -/

lemma legal_escape {c : Char} (h : isXmlChar c = true) : Legal (escape c) := by
  unfold escape
  split_ifs
  · decide
  · decide
  · decide
  · decide
  · decide
  · exact legal_cons_iff.mpr ⟨h, by decide⟩

def LegalAttributes (attributes : List (String × String)) : Prop :=
  ∀ entry ∈ attributes, Legal entry.1.toList ∧ Legal entry.2.toList

lemma legal_attributes (h : LegalAttributes attributes) :
    Legal (attributes.flatMap attributeText) := by
  refine legal_flatMap fun entry hentry => ?_
  obtain ⟨hkey, hvalue⟩ := h entry hentry
  have hescaped := legal_flatMap fun c hc => legal_escape (hvalue c hc)
  unfold attributeText
  simp only [legal_append_iff, legal_cons_iff]
  exact ⟨⟨⟨by decide, hkey⟩, by decide, by decide, hescaped⟩, by decide⟩

def LegalTag (tag : Tag) : Prop :=
  Legal tag.text

lemma legalTag_start (hname : Legal name.toList) (h : LegalAttributes attributes) :
    LegalTag (.start name attributes) := by
  unfold LegalTag Tag.text
  simp only [legal_append_iff, legal_cons_iff]
  exact ⟨⟨⟨by decide, hname⟩, legal_attributes h⟩, by decide⟩

lemma legalTag_empty (hname : Legal name.toList) (h : LegalAttributes attributes) :
    LegalTag (.empty name attributes) := by
  unfold LegalTag Tag.text
  simp only [legal_append_iff, legal_cons_iff]
  exact ⟨⟨⟨by decide, hname⟩, legal_attributes h⟩, by decide⟩

lemma legalTag_finish (hname : Legal name.toList) : LegalTag (.finish name) := by
  unfold LegalTag Tag.text
  simp only [legal_append_iff, legal_cons_iff]
  exact ⟨⟨by decide, by decide, hname⟩, by decide⟩

lemma legal_leaf (hname : Legal name.toList) (h : LegalAttributes attributes) :
    (leaf name attributes).EveryTag LegalTag :=
  everyTag_leaf (legalTag_empty hname h)

lemma legal_node {children : List Xml} (hname : Legal name.toList) (h : LegalAttributes attributes)
    (hchildren : ∀ child ∈ children, child.EveryTag LegalTag) :
    (node name attributes children).EveryTag LegalTag :=
  everyTag_node (legalTag_start hname h) (legalTag_finish hname) hchildren

theorem legal_render {root : Xml} (h : root.EveryTag LegalTag) : Legal root.render.toList := by
  unfold render
  rw [String.toList_ofList, legal_append_iff]
  refine ⟨by decide, legal_flatMap fun entry hentry => ?_⟩
  unfold line
  simp only [legal_append_iff, legal_cons_iff]
  refine ⟨⟨fun c hc => ?_, h 0 entry hentry⟩, by decide⟩
  rw [List.eq_of_mem_replicate hc]
  rfl

/-! ### Names and numbers -/

lemma isXmlChar_of_covers {table : RangeTable} {c : Char}
    (htable : ∀ range ∈ table, 0x20 ≤ range.1 ∧ (range.2 < 0xFFFE ∨ 0xFFFF < range.1))
    (h : table.covers c.toNat = true) : isXmlChar c = true := by
  obtain ⟨range, hrange, hlow, hhigh⟩ := RangeTable.exists_of_covers h
  have hbounds := htable range hrange
  have hcode : 0x20 ≤ c.toNat ∧ c.toNat ≠ 0xFFFE ∧ c.toNat ≠ 0xFFFF := by omega
  simp [isXmlChar, hcode]

lemma isXmlChar_of_isAllowed {c : Char} (h : Name.isAllowed c = true) : isXmlChar c = true := by
  unfold Name.isAllowed isAlphanumeric isLetter isNumeral at h
  simp only [Bool.or_eq_true, decide_eq_true_eq] at h
  rcases h with ((hletter | hnumeral) | rfl) | rfl
  · exact isXmlChar_of_covers (by decide +kernel) hletter
  · exact isXmlChar_of_covers (by decide +kernel) hnumeral
  · rfl
  · rfl

lemma legal_of_isValid (h : Name.isValid name = true) : Legal name.toList :=
  fun c hc => isXmlChar_of_isAllowed (Name.isAllowed_of_isValid h c hc)

lemma isXmlChar_of_isDigit {c : Char} (h : isDigit c = true) : isXmlChar c = true := by
  unfold isDigit at h
  rw [Bool.and_eq_true, decide_eq_true_eq, decide_eq_true_eq] at h
  have hlow : 48 ≤ c.toNat := h.1
  have hhigh : c.toNat ≤ 57 := h.2
  have hcode : 0x20 ≤ c.toNat ∧ c.toNat ≠ 0xFFFE ∧ c.toNat ≠ 0xFFFF := by omega
  simp [isXmlChar, hcode]

lemma legal_literalText {literal : Decimal.Literal} (h : Decimal.Literal.scan text = some literal) :
    Legal literal.text := by
  have hsigns : ['.', 'e', 'E', '+', '-'].all isXmlChar = true := by decide
  intro c hc
  rcases Token.mem_literalText h c hc with hdigit | hsign
  · exact isXmlChar_of_isDigit hdigit
  · exact List.all_eq_true.mp hsigns c hsign

lemma legal_of_isProbability {text : String} {value : Binary64}
    (htext : Binary64.ofText? text = some value) (hvalue : value.isProbability = true) :
    Legal text.toList := by
  have hunsigned : ∀ negative unsigned, Binary64.ofUnsigned? negative unsigned = some value →
      Legal unsigned := by
    intro negative unsigned h
    unfold Binary64.ofUnsigned? at h
    split_ifs at h
    · cases h
      cases hvalue
    · cases h
      cases negative <;> cases hvalue
    · obtain ⟨literal, hliteral, -⟩ := Option.map_eq_some_iff.mp h
      unfold Decimal.Literal.ofText? at hliteral
      rw [Option.filter_eq_some_iff, decide_eq_true_eq] at hliteral
      rw [← hliteral.2]
      exact legal_literalText hliteral.1
  unfold Binary64.ofText? at htext
  split at htext
  · rename_i rest hrest
    rw [hrest]
    exact legal_cons_iff.mpr ⟨rfl, hunsigned false rest htext⟩
  · rename_i rest hrest
    rw [hrest]
    exact legal_cons_iff.mpr ⟨rfl, hunsigned true rest htext⟩
  · exact hunsigned false _ htext

end Xml
end FaultTreeExchange
