import FaultTreeExchange.Xml.Basic
import Mathlib.Data.List.Nodup

/-!
# Reading XML texts

A reader for XML texts whose elements hold nothing but elements. A machine takes the characters one
after the other and yields the tags; a stack of open elements makes one root element of them. In what
it reads names and entities are those of XML, no attribute is repeated, and the tags match. Every
element with plain names is read back from its text, whatever its attributes hold.
-/

namespace FaultTreeExchange
namespace Xml

/-- A character that a name of XML may start with. Only ASCII names are read. -/
def isNameStart (c : Char) : Bool :=
  ('a' ≤ c && c ≤ 'z') || ('A' ≤ c && c ≤ 'Z') || c = '_'

def isNameChar (c : Char) : Bool :=
  isNameStart c || ('0' ≤ c && c ≤ '9') || c = '-' || c = '.'

def isSpace (c : Char) : Bool :=
  c = ' ' || c = '\t' || c = '\n' || c = '\r'

def entity? (name : List Char) : Option Char :=
  if name = "lt".toList then some '<'
  else if name = "gt".toList then some '>'
  else if name = "amp".toList then some '&'
  else if name = "apos".toList then some '\x27'
  else if name = "quot".toList then some '"'
  else none

/-! ### Characters to tags -/

/-- A start tag as far as it has been read. -/
structure OpenTag where
  name : List Char
  attributes : List (String × String)

/-- The tag with one attribute more. No attribute may be repeated. -/
def OpenTag.add? (tag : OpenTag) (key value : List Char) : Option OpenTag :=
  if String.ofList key ∈ tag.attributes.map Prod.fst then none
  else some { tag with attributes := tag.attributes ++ [(String.ofList key, String.ofList value)] }

/-- Where in a text the machine is. -/
inductive Mode where
  | between
  | opened
  | closing (name : List Char)
  | naming (name : List Char)
  /-- Behind the blank after a name or an attribute. -/
  | inside (tag : OpenTag)
  | keying (tag : OpenTag) (key : List Char)
  | assigned (tag : OpenTag) (key : List Char)
  | quoted (tag : OpenTag) (key value : List Char)
  | entity (tag : OpenTag) (key value name : List Char)
  /-- Behind the name or an attribute. -/
  | ended (tag : OpenTag)
  /-- Behind a `/` at the end of a tag. -/
  | slashed (tag : OpenTag)

/-- The mode after a character behind the name or an attribute, with the tag that it ends. -/
def OpenTag.next (tag : OpenTag) (c : Char) : Option (Mode × List Tag) :=
  if isSpace c then some (.inside tag, [])
  else if c = '/' then some (.slashed tag, [])
  else if c = '>' then some (.between, [.start (String.ofList tag.name) tag.attributes])
  else none

/-- The mode after a character, with the tag that it ends. -/
def Mode.step : Mode → Char → Option (Mode × List Tag)
  | .between, c =>
    if c = '<' then some (.opened, []) else if isSpace c then some (.between, []) else none
  | .opened, c =>
    if c = '/' then some (.closing [], [])
    else if isNameStart c then some (.naming [c], [])
    else none
  | .closing name, c =>
    if if name.isEmpty then isNameStart c else isNameChar c then some (.closing (name ++ [c]), [])
    else if c = '>' && !name.isEmpty then some (.between, [.finish (String.ofList name)])
    else none
  | .naming name, c =>
    if isNameChar c then some (.naming (name ++ [c]), []) else OpenTag.next ⟨name, []⟩ c
  | .inside tag, c =>
    if isNameStart c then some (.keying tag [c], []) else tag.next c
  | .keying tag key, c =>
    if isNameChar c then some (.keying tag (key ++ [c]), [])
    else if c = '=' then some (.assigned tag key, [])
    else none
  | .assigned tag key, c => if c = '"' then some (.quoted tag key [], []) else none
  | .quoted tag key value, c =>
    if c = '"' then (tag.add? key value).map fun tag => (.ended tag, [])
    else if c = '&' then some (.entity tag key value [], [])
    else if c = '<' then none
    else some (.quoted tag key (value ++ [c]), [])
  | .entity tag key value name, c =>
    if c = ';' then (entity? name).map fun c => (.quoted tag key (value ++ [c]), [])
    else some (.entity tag key value (name ++ [c]), [])
  | .ended tag, c => tag.next c
  | .slashed tag, c =>
    if c = '>' then some (.between, [.empty (String.ofList tag.name) tag.attributes]) else none

/-- The tags of a text from a mode on. The text has to end outside of all tags. -/
def scan : Mode → List Char → Option (List Tag)
  | .between, [] => some []
  | _, [] => none
  | mode, c :: rest =>
    (mode.step c).bind fun (next, tags) => (scan next rest).map fun others => tags ++ others

/-! ### Tags to elements -/

/-- An element whose end tag is still to come, with the elements before it. -/
structure OpenElement where
  tag : String
  attributes : List (String × String)
  before : List Xml

/-- Puts elements together. The ones at hand have one parent, the first element of the stack. -/
def assemble (siblings : List Xml) (stack : List OpenElement) : List Tag → Option (List Xml)
  | [] => if stack.isEmpty then some siblings else none
  | .empty name attributes :: rest =>
    assemble (siblings ++ [.leaf name attributes]) stack rest
  | .start name attributes :: rest =>
    assemble [] (⟨name, attributes, siblings⟩ :: stack) rest
  | .finish name :: rest =>
    match stack with
    | [] => none
    | parent :: stack =>
      if parent.tag = name then
        assemble (parent.before ++ [.node parent.tag parent.attributes siblings]) stack rest
      else none

/-- The root element of a text that starts with the declaration. -/
def read (text : String) : Option Xml :=
  if declaration.isPrefixOf text.toList then
    match (scan .between (text.toList.drop declaration.length)).bind (assemble [] []) with
    | some [root] => some root
    | _ => none
  else none

/-! ### Plain elements -/

def isName (name : String) : Bool :=
  match name.toList with
  | [] => false
  | first :: rest => isNameStart first && rest.all isNameChar

structure PlainAttributes (attributes : List (String × String)) : Prop where
  names : ∀ entry ∈ attributes, isName entry.1 = true
  distinct : (attributes.map Prod.fst).Nodup

def PlainTag : Tag → Prop
  | .start name attributes | .empty name attributes => isName name = true ∧ PlainAttributes attributes
  | .finish name => isName name = true

variable {mode next : Mode} {c : Char} {rest : List Char} {tag : OpenTag}

lemma scan_cons (h : mode.step c = some (next, [])) : scan mode (c :: rest) = scan next rest := by
  rw [scan, h]
  simp

lemma scan_cons_tag {ended : Tag} (h : mode.step c = some (next, [ended])) :
    scan mode (c :: rest) = (scan next rest).map fun tags => ended :: tags := by
  rw [scan, h]
  rfl

/-- A mode that collects characters takes a row of them at once. -/
lemma scan_collect (collect : List Char → Mode) {accepts : Char → Bool}
    (hstep : ∀ seen c, accepts c = true →
      (collect seen).step c = some (collect (seen ++ [c]), []))
    (seen chars : List Char) (hchars : chars.all accepts = true) :
    scan (collect seen) (chars ++ rest) = scan (collect (seen ++ chars)) rest := by
  induction chars generalizing seen with
  | nil => simp
  | cons c chars ih =>
    rw [List.all_cons, Bool.and_eq_true] at hchars
    rw [List.cons_append, scan_cons (hstep seen c hchars.1), ih _ hchars.2, List.append_assoc,
      List.singleton_append]

lemma exists_cons_of_isName {name : String} (h : isName name = true) :
    ∃ first others, name.toList = first :: others ∧ isNameStart first = true ∧
      others.all isNameChar = true := by
  unfold isName at h
  cases hname : name.toList with
  | nil => simp [hname] at h
  | cons first others =>
    rw [hname, Bool.and_eq_true] at h
    exact ⟨first, others, rfl, h⟩

lemma scan_name {name : String} (h : isName name = true) :
    scan .opened (name.toList ++ rest) = scan (.naming name.toList) rest := by
  obtain ⟨first, others, hname, hfirst, hothers⟩ := exists_cons_of_isName h
  have hslash : first ≠ '/' := by
    rintro rfl
    cases hfirst
  have hopened : Mode.opened.step first = some (.naming [first], []) := by
    simp [Mode.step, hslash, hfirst]
  have hnaming : ∀ seen c, isNameChar c = true →
      (Mode.naming seen).step c = some (.naming (seen ++ [c]), []) := by
    intro seen c hc
    simp [Mode.step, hc]
  rw [hname, List.cons_append, scan_cons hopened, scan_collect .naming hnaming [first] others hothers]
  rfl

lemma scan_key {key : String} (h : isName key = true) :
    scan (.inside tag) (key.toList ++ rest) = scan (.keying tag key.toList) rest := by
  obtain ⟨first, others, hkey, hfirst, hothers⟩ := exists_cons_of_isName h
  have hinside : (Mode.inside tag).step first = some (.keying tag [first], []) := by
    simp [Mode.step, hfirst]
  have hkeying : ∀ seen c, isNameChar c = true →
      (Mode.keying tag seen).step c = some (.keying tag (seen ++ [c]), []) := by
    intro seen c hc
    simp [Mode.step, hc]
  rw [hkey, List.cons_append, scan_cons hinside,
    scan_collect (.keying tag) hkeying [first] others hothers]
  rfl

lemma scan_closing {name : String} (h : isName name = true) :
    scan (.closing []) (name.toList ++ rest) = scan (.closing name.toList) rest := by
  obtain ⟨first, others, hname, hfirst, hothers⟩ := exists_cons_of_isName h
  have hclosing : (Mode.closing []).step first = some (.closing [first], []) := by
    simp [Mode.step, hfirst]
  have hcollect : ∀ seen c, isNameChar c = true →
      (Mode.closing (first :: seen)).step c = some (.closing (first :: (seen ++ [c])), []) := by
    intro seen c hc
    simp [Mode.step, hc]
  rw [hname, List.cons_append, scan_cons hclosing,
    scan_collect (fun seen => .closing (first :: seen)) hcollect [] others hothers]
  rfl

lemma scan_escape (key value : List Char) (c : Char) :
    scan (.quoted tag key value) (escape c ++ rest) =
      scan (.quoted tag key (value ++ [c])) rest := by
  have hentity : ∀ name, name.all (fun c => c ≠ ';') = true → entity? name = some c →
      scan (.quoted tag key value) ('&' :: name ++ ';' :: rest) =
        scan (.quoted tag key (value ++ [c])) rest := by
    intro name hname hc
    have hopen : (Mode.quoted tag key value).step '&' = some (.entity tag key value [], []) := by
      simp [Mode.step]
    have hcollect : ∀ seen c, decide (c ≠ ';') = true →
        (Mode.entity tag key value seen).step c =
          some (.entity tag key value (seen ++ [c]), []) := by
      intro seen c hne
      simp [Mode.step, of_decide_eq_true hne]
    have hclose : (Mode.entity tag key value name).step ';' =
        some (.quoted tag key (value ++ [c]), []) := by
      simp [Mode.step, hc]
    rw [List.cons_append, scan_cons hopen,
      scan_collect (.entity tag key value) hcollect [] name hname, List.nil_append,
      scan_cons hclose]
  unfold escape
  split_ifs with hlt hgt hamp hapos hquot
  · exact hentity "lt".toList rfl (hlt ▸ rfl)
  · exact hentity "gt".toList rfl (hgt ▸ rfl)
  · exact hentity "amp".toList rfl (hamp ▸ rfl)
  · exact hentity "apos".toList rfl (hapos ▸ rfl)
  · exact hentity "quot".toList rfl (hquot ▸ rfl)
  · refine scan_cons ?_
    simp [Mode.step, hquot, hamp, hlt]

lemma scan_value (key seen value : List Char) :
    scan (.quoted tag key seen) (value.flatMap escape ++ rest) =
      scan (.quoted tag key (seen ++ value)) rest := by
  induction value generalizing seen with
  | nil => simp
  | cons c value ih =>
    rw [List.flatMap_cons, List.append_assoc, scan_escape key seen c, ih, List.append_assoc,
      List.singleton_append]

lemma scan_attribute {entry : String × String} (hkey : isName entry.1 = true)
    (hnew : entry.1 ∉ tag.attributes.map Prod.fst) :
    scan (.ended tag) (attributeText entry ++ rest) =
      scan (.ended { tag with attributes := tag.attributes ++ [entry] }) rest := by
  have hblank : (Mode.ended tag).step ' ' = some (.inside tag, []) := by
    simp [Mode.step, OpenTag.next, isSpace]
  have hequals : (Mode.keying tag entry.1.toList).step '=' =
      some (.assigned tag entry.1.toList, []) := by
    simp [Mode.step, isNameChar, isNameStart]
  have hquote : (Mode.assigned tag entry.1.toList).step '"' =
      some (.quoted tag entry.1.toList [], []) := by
    simp [Mode.step]
  have hend : (Mode.quoted tag entry.1.toList entry.2.toList).step '"' =
      some (.ended { tag with attributes := tag.attributes ++ [entry] }, []) := by
    simp [Mode.step, OpenTag.add?, hnew]
  unfold attributeText
  simp only [List.cons_append, List.append_assoc, List.nil_append]
  rw [scan_cons hblank, scan_key hkey, scan_cons hequals, scan_cons hquote,
    scan_value, List.nil_append, scan_cons hend]

lemma scan_attributes (attributes : List (String × String)) (h : PlainAttributes attributes)
    (hnew : ∀ entry ∈ attributes, entry.1 ∉ tag.attributes.map Prod.fst) :
    scan (.ended tag) (attributes.flatMap attributeText ++ rest) =
      scan (.ended { tag with attributes := tag.attributes ++ attributes }) rest := by
  induction attributes generalizing tag with
  | nil => simp
  | cons entry others ih =>
    obtain ⟨hnames, hdistinct⟩ := h
    rw [List.forall_mem_cons] at hnames hnew
    rw [List.map_cons, List.nodup_cons] at hdistinct
    have hothers : ∀ other ∈ others,
        other.1 ∉ (tag.attributes ++ [entry]).map Prod.fst := by
      intro other hother hmem
      rw [List.map_append, List.mem_append] at hmem
      rcases hmem with hmem | hmem
      · exact hnew.2 other hother hmem
      · rw [List.map_singleton, List.mem_singleton] at hmem
        exact hdistinct.1 (hmem ▸ List.mem_map_of_mem hother)
    rw [List.flatMap_cons, List.append_assoc, scan_attribute hnames.1 hnew.1,
      ih ⟨hnames.2, hdistinct.2⟩ hothers, List.append_assoc, List.singleton_append]

lemma scan_naming_end {name text : List Char} (h : ∀ c ∈ text.head?, isNameChar c = false) :
    scan (.naming name) text = scan (.ended ⟨name, []⟩) text := by
  cases text with
  | nil => rfl
  | cons c text =>
    have hc : isNameChar c = false := h c rfl
    have hstep : (Mode.naming name).step c = (Mode.ended ⟨name, []⟩).step c := by
      simp [Mode.step, hc]
    rw [scan, scan, hstep]

lemma scan_start {name : String} {attributes : List (String × String)} {text : List Char}
    (hname : isName name = true) (hattributes : PlainAttributes attributes)
    (htext : ∀ c ∈ text.head?, isNameChar c = false) :
    scan .between ('<' :: name.toList ++ attributes.flatMap attributeText ++ text) =
      scan (.ended ⟨name.toList, attributes⟩) text := by
  have hopen : Mode.between.step '<' = some (.opened, []) := rfl
  have hhead : ∀ c ∈ (attributes.flatMap attributeText ++ text).head?, isNameChar c = false := by
    cases attributes with
    | nil => exact htext
    | cons entry others =>
      intro c hc
      cases hc
      rfl
  rw [List.append_assoc, List.cons_append, scan_cons hopen, scan_name hname, scan_naming_end hhead,
    scan_attributes attributes hattributes (by simp), List.nil_append]

theorem scan_tag {tag : Tag} (h : PlainTag tag) :
    scan .between (tag.text ++ rest) = (scan .between rest).map fun tags => tag :: tags := by
  cases tag with
  | start name attributes =>
    have hend : (Mode.ended ⟨name.toList, attributes⟩).step '>' =
        some (.between, [.start name attributes]) := by
      simp [Mode.step, OpenTag.next, isSpace]
    rw [Tag.text, List.append_assoc, scan_start h.1 h.2 (by simp [isNameChar, isNameStart])]
    exact scan_cons_tag hend
  | finish name =>
    have hopen : Mode.between.step '<' = some (.opened, []) := rfl
    have hslash : Mode.opened.step '/' = some (.closing [], []) := rfl
    obtain ⟨first, others, hname, -⟩ := exists_cons_of_isName h
    have hend : (Mode.closing name.toList).step '>' = some (.between, [.finish name]) := by
      have hne : name.toList.isEmpty = false := by rw [hname]; rfl
      simp [Mode.step, isNameChar, isNameStart, hne]
    rw [Tag.text]
    simp only [List.cons_append, List.append_assoc]
    rw [scan_cons hopen, scan_cons hslash, scan_closing h]
    exact scan_cons_tag hend
  | empty name attributes =>
    have hslash : (Mode.ended ⟨name.toList, attributes⟩).step '/' =
        some (.slashed ⟨name.toList, attributes⟩, []) := by
      simp [Mode.step, OpenTag.next, isSpace]
    have hend : (Mode.slashed ⟨name.toList, attributes⟩).step '>' =
        some (.between, [.empty name attributes]) := by
      simp [Mode.step]
    rw [Tag.text, List.append_assoc, scan_start h.1 h.2 (by simp [isNameChar, isNameStart])]
    simp only [List.cons_append, List.nil_append]
    rw [scan_cons hslash]
    exact scan_cons_tag hend

lemma scan_spaces (spaces : List Char) (h : spaces.all isSpace = true) :
    scan .between (spaces ++ rest) = scan .between rest := by
  refine scan_collect (fun _ => .between) (fun _ c hc => ?_) [] spaces h
  have hne : c ≠ '<' := by
    rintro rfl
    cases hc
  simp [Mode.step, hne, hc]

lemma scan_line {entry : Nat × Tag} (h : PlainTag entry.2) :
    scan .between (line entry ++ rest) = (scan .between rest).map fun tags => entry.2 :: tags := by
  unfold line
  rw [List.append_assoc, List.append_assoc, scan_spaces _ (by simp [isSpace]), scan_tag h,
    scan_spaces ['\n'] rfl]

lemma scan_lines (entries : List (Nat × Tag)) (h : ∀ entry ∈ entries, PlainTag entry.2) :
    scan .between (entries.flatMap line) = some (entries.map Prod.snd) := by
  induction entries with
  | nil => rfl
  | cons entry rest ih =>
    rw [List.forall_mem_cons] at h
    rw [List.flatMap_cons, scan_line h.1, ih h.2]
    rfl

/-! ### Assembling what has been taken apart -/

mutual

lemma assemble_tags (level : Nat) (root : Xml) (siblings : List Xml) (stack : List OpenElement)
    (rest : List Tag) :
    assemble siblings stack ((tags level root).map Prod.snd ++ rest) =
      assemble (siblings ++ [root]) stack rest := by
  cases root with
  | leaf tag attributes => rfl
  | node tag attributes children =>
    simp only [tags, List.cons_append, List.map_cons, List.map_append, List.append_assoc,
      List.map_nil, List.nil_append]
    rw [assemble, assemble_childTags (level + 1) children, assemble, if_pos rfl, List.nil_append]

lemma assemble_childTags (level : Nat) (children : List Xml) (siblings : List Xml)
    (stack : List OpenElement) (rest : List Tag) :
    assemble siblings stack ((childTags level children).map Prod.snd ++ rest) =
      assemble (siblings ++ children) stack rest := by
  cases children with
  | nil => simp [childTags]
  | cons child others =>
    rw [childTags, List.map_append, List.append_assoc, assemble_tags level child,
      assemble_childTags level others, List.append_assoc, List.singleton_append]

end

def EveryTag (property : Tag → Prop) (root : Xml) : Prop :=
  ∀ level, ∀ entry ∈ tags level root, property entry.2

variable {property : Tag → Prop} {name : String} {attributes : List (String × String)}
  {children : List Xml}

lemma everyTag_leaf (h : property (.empty name attributes)) :
    (leaf name attributes).EveryTag property := by
  intro level entry hentry
  rw [tags, List.mem_singleton] at hentry
  subst hentry
  exact h

lemma mem_childTags {level : Nat} {entry : Nat × Tag} (h : entry ∈ childTags level children) :
    ∃ child ∈ children, entry ∈ tags level child := by
  induction children with
  | nil => cases h
  | cons child others ih =>
    rw [childTags, List.mem_append] at h
    rcases h with hchild | hothers
    · exact ⟨child, List.mem_cons_self, hchild⟩
    · obtain ⟨other, hother, hmem⟩ := ih hothers
      exact ⟨other, List.mem_cons_of_mem _ hother, hmem⟩

lemma everyTag_node (hstart : property (.start name attributes)) (hfinish : property (.finish name))
    (hchildren : ∀ child ∈ children, child.EveryTag property) :
    (node name attributes children).EveryTag property := by
  intro level entry hentry
  rw [tags, List.cons_append, List.mem_cons, List.mem_append, List.mem_singleton] at hentry
  rcases hentry with rfl | hentry | rfl
  · exact hstart
  · obtain ⟨child, hchild, hmem⟩ := mem_childTags hentry
    exact hchildren child hchild (level + 1) entry hmem
  · exact hfinish

def Plain : Xml → Prop :=
  EveryTag PlainTag

lemma plain_leaf (hname : isName name = true) (hattributes : PlainAttributes attributes) :
    (leaf name attributes).Plain :=
  everyTag_leaf ⟨hname, hattributes⟩

lemma plain_node (hname : isName name = true) (hattributes : PlainAttributes attributes)
    (hchildren : ∀ child ∈ children, child.Plain) : (node name attributes children).Plain :=
  everyTag_node ⟨hname, hattributes⟩ hname hchildren

theorem read_render {root : Xml} (h : root.Plain) : read root.render = some root := by
  have hscan := scan_lines (root.tags 0) (h 0)
  have hassemble := assemble_tags 0 root [] [] []
  rw [List.append_nil, List.nil_append] at hassemble
  unfold read render
  rw [String.toList_ofList, if_pos (by simp), List.drop_left, hscan, Option.bind_some, hassemble]
  rfl

end Xml
end FaultTreeExchange
