import FaultTreeExchange.Json
import FaultTreeExchange.Proofs.Digits
import Mathlib.Data.List.Forall2

/-!
# Reading JSON texts

A reader for texts that hold one JSON value after the other, with whole numbers only. A machine takes
the characters and yields pieces, and a stack of open arrays and objects makes values of them. Every
value is read back from both of its layouts, and from rows of such texts on lines of their own.
-/

namespace FaultTreeExchange
namespace Json

open FaultTreeExchange.Text

inductive Mark where
  | openArray
  | closeArray
  | openObject
  | closeObject
  | comma
  | colon
  deriving DecidableEq, Repr

def Mark.char : Mark → Char
  | .openArray => '['
  | .closeArray => ']'
  | .openObject => '\x7b'
  | .closeObject => '\x7d'
  | .comma => ','
  | .colon => ':'

def Mark.ofChar? (c : Char) : Option Mark :=
  [openArray, closeArray, openObject, closeObject, comma, colon].find? fun mark => mark.char = c

/-- What a text is made of, apart from blanks. -/
inductive Piece where
  | number (value : Nat)
  | string (text : String)
  | mark (mark : Mark)
  deriving DecidableEq, Repr

def isSpace (c : Char) : Bool :=
  c = ' ' || c = '\t' || c = '\n' || c = '\r'

/-! ### Characters to pieces -/

/-- Where in a text the machine is. -/
inductive Mode where
  | between
  | digits (value : Nat)
  | quoted (text : List Char)
  /-- Behind a backslash. -/
  | escaped (text : List Char)
  /-- Among the four digits of the code of a character. -/
  | coded (text : List Char) (value missing : Nat)
  deriving DecidableEq

/-- The character that is written as a given one behind a backslash. -/
def unescape? (c : Char) : Option Char :=
  if c = '"' || c = '\\' || c = '/' then some c
  else if c = 'b' then some '\x08'
  else if c = 'f' then some '\x0c'
  else if c = 'n' then some '\n'
  else if c = 'r' then some '\r'
  else if c = 't' then some '\t'
  else none

def hexValue? (c : Char) : Option Nat :=
  if isDigit c then some (digitValue c)
  else if 'a' ≤ c && c ≤ 'f' then some (c.toNat - 'a'.toNat + 10)
  else if 'A' ≤ c && c ≤ 'F' then some (c.toNat - 'A'.toNat + 10)
  else none

/-- The mode after a character outside of all pieces, with the piece that it is. -/
def Mode.start (c : Char) : Option (Mode × List Piece) :=
  if isSpace c then some (.between, [])
  else if c = '"' then some (.quoted [], [])
  else if isDigit c then some (.digits (digitValue c), [])
  else (Mark.ofChar? c).map fun mark => (.between, [.mark mark])

/-- The mode after a character, with the pieces that it ends. No number starts with a needless zero. -/
def Mode.step : Mode → Char → Option (Mode × List Piece)
  | .between, c => start c
  | .digits value, c =>
    if isDigit c then
      if value = 0 then none else some (.digits (10 * value + digitValue c), [])
    else (start c).map fun (next, pieces) => (next, .number value :: pieces)
  | .quoted text, c =>
    if c = '"' then some (.between, [.string (String.ofList text)])
    else if c = '\\' then some (.escaped text, [])
    else if c.toNat < 32 then none
    else some (.quoted (text ++ [c]), [])
  | .escaped text, c =>
    if c = 'u' then some (.coded text 0 4, [])
    else (unescape? c).map fun c => (.quoted (text ++ [c]), [])
  | .coded text value missing, c =>
    (hexValue? c).bind fun digit =>
      let value := 16 * value + digit
      if missing = 1 then
        if value.isValidChar then some (.quoted (text ++ [Char.ofNat value]), []) else none
      else some (.coded text value (missing - 1), [])

/-- The pieces of a text from a mode on. -/
def scan : Mode → List Char → Option (List Piece)
  | .between, [] => some []
  | .digits value, [] => some [.number value]
  | _, [] => none
  | mode, c :: rest =>
    (mode.step c).bind fun (next, pieces) => (scan next rest).map fun others => pieces ++ others

variable {mode next : Mode} {c : Char} {rest : List Char}

lemma scan_cons (h : mode.step c = some (next, [])) : scan mode (c :: rest) = scan next rest := by
  rw [scan, h]
  simp

lemma scan_cons_piece {piece : Piece} (h : mode.step c = some (next, [piece])) :
    scan mode (c :: rest) = (scan next rest).map fun others => piece :: others := by
  rw [scan, h]
  rfl

/-! ### Strings and numbers -/

lemma hexValue?_hexDigit : ∀ value < 16, hexValue? (hexDigit value) = some value := by
  decide

lemma scan_escape (text : List Char) (c : Char) :
    scan (.quoted text) (escape c ++ rest) = scan (.quoted (text ++ [c])) rest := by
  have hopen : (Mode.quoted text).step '\\' = some (.escaped text, []) := by
    simp [Mode.step]
  have hletter : ∀ letter, letter ≠ 'u' → unescape? letter = some c →
      scan (.quoted text) (['\\', letter] ++ rest) = scan (.quoted (text ++ [c])) rest := by
    intro letter hne hletter
    have hclose : (Mode.escaped text).step letter = some (.quoted (text ++ [c]), []) := by
      simp [Mode.step, hne, hletter]
    rw [List.cons_append, List.cons_append, List.nil_append, scan_cons hopen, scan_cons hclose]
  unfold escape
  split_ifs with hquote hbackslash hfeed hreturn htab hback hform hcontrol
  · exact hletter '"' (by decide) (congrArg some hquote.symm)
  · exact hletter '\\' (by decide) (congrArg some hbackslash.symm)
  · exact hletter 'n' (by decide) (congrArg some hfeed.symm)
  · exact hletter 'r' (by decide) (congrArg some hreturn.symm)
  · exact hletter 't' (by decide) (congrArg some htab.symm)
  · exact hletter 'b' (by decide) (congrArg some hback.symm)
  · exact hletter 'f' (by decide) (congrArg some hform.symm)
  · have hcode : (Mode.escaped text).step 'u' = some (.coded text 0 4, []) := rfl
    have hzero : ∀ missing, missing ≠ 1 →
        (Mode.coded text 0 missing).step '0' = some (.coded text 0 (missing - 1), []) := by
      intro missing hmissing
      have hdigit : hexValue? '0' = some 0 := rfl
      simp [Mode.step, hdigit, hmissing]
    have hhigh : (Mode.coded text 0 2).step (hexDigit (c.toNat / 16)) =
        some (.coded text (c.toNat / 16) 1, []) := by
      simp [Mode.step, hexValue?_hexDigit (c.toNat / 16) (by omega)]
    have hvalue : 16 * (c.toNat / 16) + c.toNat % 16 = c.toNat := Nat.div_add_mod _ _
    have hvalid : c.toNat.isValidChar := Or.inl (by omega)
    have hlow : (Mode.coded text (c.toNat / 16) 1).step (hexDigit (c.toNat % 16)) =
        some (.quoted (text ++ [c]), []) := by
      simp [Mode.step, hexValue?_hexDigit (c.toNat % 16) (by omega), hvalue, hvalid]
    simp only [List.cons_append, List.nil_append]
    rw [scan_cons hopen, scan_cons hcode, scan_cons (hzero 4 (by decide)),
      scan_cons (hzero 3 (by decide)), scan_cons hhigh, scan_cons hlow]
  · refine scan_cons ?_
    simp [Mode.step, hquote, hbackslash, hcontrol]

lemma scan_escaped (seen text : List Char) :
    scan (.quoted seen) (text.flatMap escape ++ rest) = scan (.quoted (seen ++ text)) rest := by
  induction text generalizing seen with
  | nil => simp
  | cons c text ih =>
    rw [List.flatMap_cons, List.append_assoc, scan_escape, ih, List.append_assoc,
      List.singleton_append]

lemma scan_quote (text : String) :
    scan .between ((quote text).toList ++ rest) =
      (scan .between rest).map fun others => .string text :: others := by
  have hopen : Mode.between.step '"' = some (.quoted [], []) := rfl
  have hclose : (Mode.quoted text.toList).step '"' = some (.between, [.string text]) := by
    simp [Mode.step]
  unfold quote
  rw [String.toList_ofList, List.append_assoc, List.cons_append, scan_cons hopen, scan_escaped,
    List.nil_append]
  exact scan_cons_piece hclose

/-- No digit follows. -/
def NoDigit (rest : List Char) : Prop :=
  ∀ c ∈ rest.head?, isDigit c = false

lemma digit_eq : ∀ value < 10, isDigit (Nat.digitChar value) = true ∧
    digitValue (Nat.digitChar value) = value := by
  decide

lemma start_digit : ∀ value < 10, Mode.start (Nat.digitChar value) = some (.digits value, []) := by
  decide

lemma scan_toDigits (value : Nat) :
    scan .between (Nat.toDigits 10 value ++ rest) = scan (.digits value) rest := by
  induction value using Nat.strong_induction_on generalizing rest with
  | _ value ih =>
    by_cases hsmall : value < 10
    · rw [Nat.toDigits_of_lt_base hsmall, List.singleton_append]
      exact scan_cons (start_digit value hsmall)
    · obtain ⟨hdigit, hlast⟩ := digit_eq (value % 10) (Nat.mod_lt _ (by decide))
      have hstep : (Mode.digits (value / 10)).step (Nat.digitChar (value % 10)) =
          some (.digits value, []) := by
        have hne : value / 10 ≠ 0 := by omega
        simp [Mode.step, hdigit, hlast, hne, Nat.div_add_mod]
      rw [Nat.toDigits_of_base_le (by decide) (by omega), List.append_assoc, List.singleton_append,
        ih (value / 10) (by omega), scan_cons hstep]

lemma scan_digits (value : Nat) (h : NoDigit rest) :
    scan (.digits value) rest = (scan .between rest).map fun others => .number value :: others := by
  cases rest with
  | nil => rfl
  | cons c rest =>
    have hc : isDigit c = false := h c rfl
    have hbetween : Mode.between.step c = Mode.start c := rfl
    have hdigits : (Mode.digits value).step c =
        (Mode.start c).map fun (next, pieces) => (next, .number value :: pieces) := by
      simp [Mode.step, hc]
    rw [scan, scan, hbetween, hdigits]
    cases Mode.start c with
    | none => rfl
    | some found =>
      cases hrest : scan found.1 rest <;> simp [hrest]

/-! ### Layouts -/

/-- The text is a row of pieces wherever no digit follows it. -/
def Scans (text : List Char) (pieces : List Piece) : Prop :=
  ∀ rest, NoDigit rest →
    scan .between (text ++ rest) = (scan .between rest).map fun others => pieces ++ others

lemma scans_string (text : String) : Scans (quote text).toList [.string text] :=
  fun _ _ => scan_quote text

lemma scans_number (value : Nat) : Scans (toString value).toList [.number value] := by
  intro rest hrest
  rw [Nat.toString_eq_ofList_toDigits, String.toList_ofList, scan_toDigits, scan_digits value hrest]
  rfl

lemma scan_mark (mark : Mark) :
    scan .between (mark.char :: rest) =
      (scan .between rest).map fun others => .mark mark :: others := by
  cases mark <;> exact scan_cons_piece rfl

lemma scan_blanks {blanks : List Char} (h : ∀ c ∈ blanks, isSpace c = true) :
    scan .between (blanks ++ rest) = scan .between rest := by
  induction blanks with
  | nil => rfl
  | cons c blanks ih =>
    rw [List.forall_mem_cons] at h
    have hstep : Mode.between.step c = some (.between, []) := by
      simp [Mode.step, Mode.start, h.1]
    rw [List.cons_append, scan_cons hstep, ih h.2]

lemma noDigit_mark (mark : Mark) : NoDigit (mark.char :: rest) := by
  intro c hc
  cases mark <;> cases hc <;> rfl

lemma noDigit_blanks {blanks : List Char} (h : ∀ c ∈ blanks, isSpace c = true)
    (hrest : NoDigit rest) : NoDigit (blanks ++ rest) := by
  cases blanks with
  | nil => exact hrest
  | cons c blanks =>
    intro other hother
    cases hother
    have hspace : isSpace c = true := h c List.mem_cons_self
    unfold isSpace at hspace
    simp only [Bool.or_eq_true, decide_eq_true_eq] at hspace
    rcases hspace with ((rfl | rfl) | rfl) | rfl <;> rfl

lemma scans_intercalate {texts : List (List Char)} {pieces : List (List Piece)} {blanks : List Char}
    (hblanks : ∀ c ∈ blanks, isSpace c = true) (h : List.Forall₂ Scans texts pieces) :
    Scans ((',' :: blanks).intercalate texts) ([.mark .comma].intercalate pieces) := by
  induction h with
  | nil =>
    intro rest _
    cases hscan : scan .between rest <;> simp [hscan]
  | @cons text items texts pieces hitem hothers ih =>
    cases hothers with
    | nil =>
      simpa using hitem
    | @cons other others texts pieces hother htail =>
      intro rest hrest
      have hcomma : ∀ behind, scan .between (',' :: behind) =
          (scan .between behind).map fun others => .mark .comma :: others := fun _ =>
        scan_mark .comma
      have hend : ∀ behind, NoDigit (',' :: behind) := fun _ => noDigit_mark .comma
      rw [List.intercalate_cons_cons, List.intercalate_cons_cons]
      simp only [List.append_assoc, List.cons_append, List.nil_append]
      rw [hitem _ (hend _), hcomma, scan_blanks hblanks, ih rest hrest]
      cases scan .between rest <;> simp

lemma scans_brackets (opening closing : Mark) (before between behind : List Char)
    {texts : List (List Char)} {pieces : List (List Piece)}
    (hbefore : ∀ c ∈ before, isSpace c = true) (hbetween : ∀ c ∈ between, isSpace c = true)
    (hbehind : ∀ c ∈ behind, isSpace c = true) (h : List.Forall₂ Scans texts pieces) :
    Scans (opening.char :: before ++ (',' :: between).intercalate texts ++ behind ++ [closing.char])
      (.mark opening :: [.mark .comma].intercalate pieces ++ [.mark closing]) := by
  intro rest _
  have hclosing : NoDigit (behind ++ closing.char :: rest) :=
    noDigit_blanks hbehind (noDigit_mark closing)
  simp only [List.cons_append, List.append_assoc, List.nil_append]
  rw [scan_mark, scan_blanks hbefore, scans_intercalate hbetween h _ hclosing, scan_blanks hbehind,
    scan_mark]
  cases scan .between rest <;> simp

mutual

/-- The pieces that a value is made of. -/
def pieces : Json → List Piece
  | .number value => [.number value]
  | .string text => [.string text]
  | .array items =>
    .mark .openArray :: [.mark .comma].intercalate (itemPieces items) ++ [.mark .closeArray]
  | .object entries =>
    .mark .openObject :: [.mark .comma].intercalate (entryPieces entries) ++ [.mark .closeObject]

/-- The pieces of each item of an array. -/
def itemPieces : List Json → List (List Piece)
  | [] => []
  | item :: rest => pieces item :: itemPieces rest

/-- The pieces of each entry of an object. -/
def entryPieces : List (String × Json) → List (List Piece)
  | [] => []
  | (name, value) :: rest =>
    (.string name :: .mark .colon :: pieces value) :: entryPieces rest

end

lemma scans_entry (name : String) (blanks : List Char) {text : List Char} {pieces : List Piece}
    (hblanks : ∀ c ∈ blanks, isSpace c = true) (h : Scans text pieces) :
    Scans ((quote name).toList ++ ':' :: blanks ++ text) (.string name :: .mark .colon :: pieces) := by
  intro rest hrest
  have hcolon : ∀ behind, scan .between (':' :: behind) =
      (scan .between behind).map fun others => .mark .colon :: others := fun _ => scan_mark .colon
  simp only [List.append_assoc, List.cons_append]
  rw [scan_quote, hcolon, scan_blanks hblanks, h rest hrest]
  cases scan .between rest <;> rfl

variable {level : Nat} {opening closing : Mark} {before behind : String} {items : List String}
  {parts : List (List Piece)}

lemma scans_enclose (hbefore : before.toList = [opening.char]) (hbehind : behind.toList = [closing.char])
    (h : List.Forall₂ Scans (items.map String.toList) parts) :
    Scans (enclose before behind items).toList
      (.mark opening :: [.mark .comma].intercalate parts ++ [.mark closing]) := by
  have hscans := scans_brackets opening closing [] [] [] (by simp) (by simp) (by simp) h
  rw [List.append_nil] at hscans
  unfold enclose
  rw [String.toList_append, String.toList_append, String.toList_intercalate, hbefore, hbehind]
  exact hscans

lemma isSpace_of_mem_newLine (level : Nat) : ∀ c ∈ (newLine level).toList, isSpace c = true := by
  unfold newLine
  rw [String.toList_ofList, List.forall_mem_cons]
  refine ⟨rfl, fun c hc => ?_⟩
  rw [(List.mem_replicate.mp hc).2]
  rfl

lemma scans_encloseLines (hbefore : before.toList = [opening.char])
    (hbehind : behind.toList = [closing.char])
    (h : List.Forall₂ Scans (items.map String.toList) parts) :
    Scans (encloseLines level before behind items).toList
      (.mark opening :: [.mark .comma].intercalate parts ++ [.mark closing]) := by
  cases items with
  | nil =>
    cases h
    rw [encloseLines, String.toList_append, hbefore, hbehind]
    exact scans_brackets opening closing [] [] [] (by simp) (by simp) (by simp) .nil
  | cons item rest =>
    have hlines : encloseLines level before behind (item :: rest) =
        before ++ newLine (level + 1) ++ ("," ++ newLine (level + 1)).intercalate (item :: rest) ++
          newLine level ++ behind := rfl
    rw [hlines]
    simp only [String.toList_append, String.toList_intercalate, hbefore, hbehind]
    exact scans_brackets opening closing _ _ _ (isSpace_of_mem_newLine (level + 1))
      (isSpace_of_mem_newLine (level + 1)) (isSpace_of_mem_newLine level) h

mutual

lemma scans_compact (value : Json) : Scans value.compact.toList value.pieces := by
  cases value with
  | number value => exact scans_number value
  | string text => exact scans_string text
  | array items => exact scans_enclose rfl rfl (scans_compactItems items)
  | object entries => exact scans_enclose rfl rfl (scans_compactEntries entries)

lemma scans_compactItems (items : List Json) :
    List.Forall₂ Scans ((compactItems items).map String.toList) (itemPieces items) := by
  cases items with
  | nil => exact .nil
  | cons item rest => exact .cons (scans_compact item) (scans_compactItems rest)

lemma scans_compactEntries (entries : List (String × Json)) :
    List.Forall₂ Scans ((compactEntries entries).map String.toList) (entryPieces entries) := by
  cases entries with
  | nil => exact .nil
  | cons entry rest =>
    refine .cons ?_ (scans_compactEntries rest)
    rw [String.toList_append, String.toList_append]
    exact scans_entry entry.1 [] (by simp) (scans_compact entry.2)

end

mutual

lemma scans_prettyAt (level : Nat) (value : Json) :
    Scans (value.prettyAt level).toList value.pieces := by
  cases value with
  | number value => exact scans_number value
  | string text => exact scans_string text
  | array items => exact scans_encloseLines rfl rfl (scans_prettyItems (level + 1) items)
  | object entries => exact scans_encloseLines rfl rfl (scans_prettyEntries (level + 1) entries)

lemma scans_prettyItems (level : Nat) (items : List Json) :
    List.Forall₂ Scans ((prettyItems level items).map String.toList) (itemPieces items) := by
  cases items with
  | nil => exact .nil
  | cons item rest => exact .cons (scans_prettyAt level item) (scans_prettyItems level rest)

lemma scans_prettyEntries (level : Nat) (entries : List (String × Json)) :
    List.Forall₂ Scans ((prettyEntries level entries).map String.toList) (entryPieces entries) := by
  cases entries with
  | nil => exact .nil
  | cons entry rest =>
    refine .cons ?_ (scans_prettyEntries level rest)
    rw [String.toList_append, String.toList_append]
    exact scans_entry entry.1 [' '] (by simp [isSpace]) (scans_prettyAt level entry.2)

end

/-! ### Pieces to values -/

/-- An array or object that has not been closed yet. -/
inductive Frame where
  | array (items : List Json)
  | object (entries : List (String × Json))
  /-- An object whose last name has no value yet. -/
  | entry (entries : List (String × Json)) (name : String)

/-- What is to follow. -/
inductive Awaited where
  | value
  /-- A value, or the end of the array that has just been opened. -/
  | item
  | name
  /-- A name, or the end of the object that has just been opened. -/
  | member
  | colon
  /-- A comma, or the end of the array or object. -/
  | rest
  deriving DecidableEq

/-- The values that have been read, and what stands open behind them. -/
structure Reading where
  awaited : Awaited
  frames : List Frame
  values : List Json

namespace Reading

/-- The reading behind a value. -/
def put (reading : Reading) (value : Json) : Option Reading :=
  match reading.frames with
  | [] => some ⟨.value, [], reading.values ++ [value]⟩
  | .array items :: frames => some ⟨.rest, .array (items ++ [value]) :: frames, reading.values⟩
  | .entry entries name :: frames =>
    some ⟨.rest, .object (entries ++ [(name, value)]) :: frames, reading.values⟩
  | .object _ :: _ => none

def awaitsValue (reading : Reading) : Bool :=
  reading.awaited = .value || reading.awaited = .item

/-- The reading behind a bracket, a comma or a colon. -/
def mark (reading : Reading) : Mark → Option Reading
  | .openArray =>
    if reading.awaitsValue then some ⟨.item, .array [] :: reading.frames, reading.values⟩ else none
  | .openObject =>
    if reading.awaitsValue then some ⟨.member, .object [] :: reading.frames, reading.values⟩ else none
  | .colon => if reading.awaited = .colon then some { reading with awaited := .value } else none
  | .comma =>
    match reading.awaited, reading.frames with
    | .rest, .array _ :: _ => some { reading with awaited := .value }
    | .rest, .object _ :: _ => some { reading with awaited := .name }
    | _, _ => none
  | .closeArray =>
    match reading.frames with
    | .array items :: frames =>
      if reading.awaited = .item || reading.awaited = .rest then
        put { reading with frames } (.array items)
      else none
    | _ => none
  | .closeObject =>
    match reading.frames with
    | .object entries :: frames =>
      if reading.awaited = .member || reading.awaited = .rest then
        put { reading with frames } (.object entries)
      else none
    | _ => none

/-- The reading behind a piece. -/
def step (reading : Reading) : Piece → Option Reading
  | .number value => if reading.awaitsValue then reading.put (.number value) else none
  | .string text =>
    if reading.awaitsValue then reading.put (.string text)
    else
      match reading.frames with
      | .object entries :: frames =>
        if reading.awaited = .name || reading.awaited = .member then
          some ⟨.colon, .entry entries text :: frames, reading.values⟩
        else none
      | _ => none
  | .mark mark => reading.mark mark

end Reading

/-- The values that a text holds, one after the other. -/
def readAll (text : String) : Option (List Json) := do
  let pieces ← scan .between text.toList
  let reading ← pieces.foldlM Reading.step ⟨.value, [], []⟩
  if reading.frames.isEmpty then some reading.values else none

/-! ### Putting together what has been taken apart -/

namespace Reading

lemma foldlM_cons {reading next : Reading} {piece : Piece} (h : reading.step piece = some next)
    (rest : List Piece) : (piece :: rest).foldlM step reading = rest.foldlM step next := by
  rw [List.foldlM_cons, h]
  rfl

lemma foldlM_append {reading next : Reading} {pieces : List Piece}
    (h : pieces.foldlM step reading = some next) (rest : List Piece) :
    (pieces ++ rest).foldlM step reading = rest.foldlM step next := by
  rw [List.foldlM_append, h]
  rfl

lemma foldlM_singleton (reading : Reading) (piece : Piece) :
    [piece].foldlM step reading = reading.step piece := by
  rw [List.foldlM_cons]
  cases reading.step piece <;> rfl

mutual

lemma foldlM_pieces (value : Json) (reading : Reading) (h : reading.awaitsValue = true) :
    value.pieces.foldlM step reading = reading.put value := by
  cases value with
  | number value => simp [pieces, step, h]
  | string text => simp [pieces, step, h]
  | array items =>
    have hopen : reading.step (.mark .openArray) =
        some ⟨.item, .array [] :: reading.frames, reading.values⟩ := if_pos h
    rw [pieces, List.cons_append, foldlM_cons hopen]
    cases items with
    | nil => exact foldlM_singleton _ _
    | cons item rest =>
      rw [foldlM_append (foldlM_itemPieces (item :: rest) (List.cons_ne_nil _ _) .item [] _ _
        (Or.inr rfl)), foldlM_singleton]
      rfl
  | object entries =>
    have hopen : reading.step (.mark .openObject) =
        some ⟨.member, .object [] :: reading.frames, reading.values⟩ := if_pos h
    rw [pieces, List.cons_append, foldlM_cons hopen]
    cases entries with
    | nil => exact foldlM_singleton _ _
    | cons entry rest =>
      rw [foldlM_append (foldlM_entryPieces (entry :: rest) (List.cons_ne_nil _ _) .member [] _ _
        (Or.inr rfl)), foldlM_singleton]
      rfl

lemma foldlM_itemPieces (items : List Json) (hne : items ≠ []) (awaited : Awaited)
    (before : List Json) (frames : List Frame) (values : List Json)
    (h : awaited = .value ∨ awaited = .item) :
    ([.mark .comma].intercalate (itemPieces items)).foldlM step
        ⟨awaited, .array before :: frames, values⟩ =
      some ⟨.rest, .array (before ++ items) :: frames, values⟩ := by
  cases items with
  | nil => exact absurd rfl hne
  | cons item rest =>
    have hitem : item.pieces.foldlM step ⟨awaited, .array before :: frames, values⟩ =
        some ⟨.rest, .array (before ++ [item]) :: frames, values⟩ :=
      foldlM_pieces item _ (by simp [awaitsValue, h])
    cases rest with
    | nil =>
      rw [itemPieces, itemPieces, List.intercalate_singleton]
      exact hitem
    | cons second rest =>
      have hcomma : step ⟨.rest, .array (before ++ [item]) :: frames, values⟩ (.mark .comma) =
          some ⟨.value, .array (before ++ [item]) :: frames, values⟩ := rfl
      have hrest := foldlM_itemPieces (second :: rest) (List.cons_ne_nil _ _) .value
        (before ++ [item]) frames values (Or.inl rfl)
      rw [itemPieces] at hrest
      rw [itemPieces, itemPieces, List.intercalate_cons_cons, List.append_assoc, foldlM_append hitem,
        List.singleton_append, foldlM_cons hcomma, hrest, List.append_assoc, List.singleton_append]

lemma foldlM_entryPieces (entries : List (String × Json)) (hne : entries ≠ []) (awaited : Awaited)
    (before : List (String × Json)) (frames : List Frame) (values : List Json)
    (h : awaited = .name ∨ awaited = .member) :
    ([.mark .comma].intercalate (entryPieces entries)).foldlM step
        ⟨awaited, .object before :: frames, values⟩ =
      some ⟨.rest, .object (before ++ entries) :: frames, values⟩ := by
  cases entries with
  | nil => exact absurd rfl hne
  | cons entry rest =>
    have hname : step ⟨awaited, .object before :: frames, values⟩ (.string entry.1) =
        some ⟨.colon, .entry before entry.1 :: frames, values⟩ := by
      rcases h with rfl | rfl <;> rfl
    have hcolon : step ⟨.colon, .entry before entry.1 :: frames, values⟩ (.mark .colon) =
        some ⟨.value, .entry before entry.1 :: frames, values⟩ := rfl
    have hentry : (.string entry.1 :: .mark .colon :: entry.2.pieces).foldlM step
        ⟨awaited, .object before :: frames, values⟩ =
        some ⟨.rest, .object (before ++ [entry]) :: frames, values⟩ := by
      rw [foldlM_cons hname, foldlM_cons hcolon]
      exact foldlM_pieces entry.2 _ rfl
    cases rest with
    | nil =>
      rw [entryPieces, entryPieces, List.intercalate_singleton]
      exact hentry
    | cons second rest =>
      have hcomma : step ⟨.rest, .object (before ++ [entry]) :: frames, values⟩ (.mark .comma) =
          some ⟨.name, .object (before ++ [entry]) :: frames, values⟩ := rfl
      have hrest := foldlM_entryPieces (second :: rest) (List.cons_ne_nil _ _) .name
        (before ++ [entry]) frames values (Or.inl rfl)
      rw [entryPieces] at hrest
      rw [entryPieces, entryPieces, List.intercalate_cons_cons, List.append_assoc,
        foldlM_append hentry, List.singleton_append, foldlM_cons hcomma, hrest, List.append_assoc,
        List.singleton_append]

end

end Reading

/-! ### Rows of texts -/

/-- A line that holds one value, in either layout. -/
def IsLine (line : String) (value : Json) : Prop :=
  line = value.compact ++ "\n" ∨ line = value.pretty ++ "\n"

lemma scan_line {line : String} {value : Json} (h : IsLine line value) :
    scan .between (line.toList ++ rest) =
      (scan .between rest).map fun others => value.pieces ++ others := by
  have hscans : ∀ text : String, Scans text.toList value.pieces →
      scan .between ((text ++ "\n").toList ++ rest) =
        (scan .between rest).map fun others => value.pieces ++ others := by
    intro text htext
    have hblank : ∀ c ∈ ['\n'], isSpace c = true := List.forall_mem_singleton.mpr rfl
    have hend : NoDigit ('\n' :: rest) := by
      intro c hc
      cases hc
      rfl
    rw [String.toList_append, List.append_assoc]
    exact (htext _ hend).trans (congrArg _ (scan_blanks hblank))
  rcases h with rfl | rfl
  · exact hscans value.compact (scans_compact value)
  · exact hscans value.pretty (scans_prettyAt 0 value)

lemma scan_lines {lines : List String} {values : List Json} (h : List.Forall₂ IsLine lines values) :
    scan .between (String.join lines).toList = some (values.flatMap pieces) := by
  induction h with
  | nil => rfl
  | @cons line value lines values hline _ ih =>
    rw [String.join_cons, String.toList_append, scan_line hline, ih]
    rfl

lemma foldlM_flatMap_pieces (values others : List Json) :
    (others.flatMap pieces).foldlM Reading.step ⟨.value, [], values⟩ =
      some ⟨.value, [], values ++ others⟩ := by
  induction others generalizing values with
  | nil => simp
  | cons value others ih =>
    have hvalue : value.pieces.foldlM Reading.step ⟨.value, [], values⟩ =
        some ⟨.value, [], values ++ [value]⟩ := Reading.foldlM_pieces value _ rfl
    rw [List.flatMap_cons, Reading.foldlM_append hvalue, ih, List.append_assoc,
      List.singleton_append]

theorem readAll_join {lines : List String} {values : List Json}
    (h : List.Forall₂ IsLine lines values) : readAll (String.join lines) = some values := by
  have hvalues := foldlM_flatMap_pieces [] values
  rw [List.nil_append] at hvalues
  unfold readAll
  rw [scan_lines h, Option.bind_eq_bind, Option.bind_some, hvalues]
  rfl

end Json
end FaultTreeExchange
