import FaultTreeExchange.Name
import FaultTreeExchange.Proofs.TokenText

/-!
# Valid names and letter case

Lower case turns letters into letters and leaves every other character as it is. So the key of a
word tells whether the word is a valid name, and two words with one key are both valid names or
neither is.
-/

namespace FaultTreeExchange

namespace Text

/-! ### Runs of capital letters -/

/-- Whether one range of the table holds all code points from the first to the last. -/
def RangeTable.spans : RangeTable → Nat → Nat → Bool
  | [], _, _ => false
  | (low, high) :: rest, first, last =>
    low.ble first && (last.ble high || RangeTable.spans rest first last)

lemma RangeTable.covers_of_spans {table : RangeTable} {first last code : Nat}
    (h : table.spans first last = true) (hfirst : first ≤ code) (hlast : code ≤ last) :
    table.covers code = true := by
  induction table with
  | nil => cases h
  | cons range rest ih =>
    rw [RangeTable.spans, Bool.and_eq_true, Bool.or_eq_true, Nat.ble_eq, Nat.ble_eq] at h
    obtain ⟨hlow, hhigh⟩ := h
    rw [RangeTable.covers, if_neg (by omega), Bool.or_eq_true, decide_eq_true_eq]
    rcases hhigh with hhigh | hrest
    · exact Or.inl (hlast.trans hhigh)
    · exact Or.inr (ih hrest)

namespace CaseRun

/-- The run holds the code point. -/
def Holds (run : CaseRun) (code : Nat) : Prop :=
  run.first ≤ code ∧ code ≤ run.last ∧ (code - run.first) % run.step = 0

/-- Whether the table covers the code points of the run when they are moved to start elsewhere. A
run that no single range spans is looked through point by point. -/
def inside (run : CaseRun) (table : RangeTable) (start : Nat) : Bool :=
  table.spans start (start + (run.last - run.first)) ||
    (List.range ((run.last - run.first) / run.step + 1)).all fun count =>
      table.covers (start + count * run.step)

lemma covers_of_inside {run : CaseRun} {table : RangeTable} {start code : Nat}
    (h : run.inside table start = true) (hcode : run.Holds code) :
    table.covers (start + (code - run.first)) = true := by
  obtain ⟨hfirst, hlast, hstep⟩ := hcode
  rcases Bool.or_eq_true_iff.mp h with hspans | hpoints
  · exact RangeTable.covers_of_spans hspans (by omega) (by omega)
  · have hcount : (code - run.first) / run.step < (run.last - run.first) / run.step + 1 :=
      Nat.lt_succ_of_le (Nat.div_le_div_right (by omega))
    have hpoint := List.all_eq_true.mp hpoints _ (List.mem_range.mpr hcount)
    rwa [Nat.div_mul_cancel (Nat.dvd_of_mod_eq_zero hstep)] at hpoint

end CaseRun

lemma runs_inside_letterRanges : ∀ run ∈ lowercaseRuns,
    run.inside letterRanges run.first = true ∧ run.inside letterRanges run.image = true := by
  decide +kernel

lemma lowercaseCode_cases (runs : List CaseRun) (code : Nat) :
    lowercaseCode runs code = code ∨ ∃ run ∈ runs, run.Holds code ∧
      lowercaseCode runs code = run.image + (code - run.first) := by
  induction runs with
  | nil => exact Or.inl rfl
  | cons run rest ih =>
    unfold lowercaseCode
    by_cases hbelow : code < run.first
    · rw [if_pos hbelow]
      exact Or.inl rfl
    rw [if_neg hbelow]
    by_cases hholds : code ≤ run.last ∧ (code - run.first) % run.step = 0
    · rw [if_pos (by simp [hholds])]
      exact Or.inr ⟨run, List.mem_cons_self, ⟨by omega, hholds⟩, rfl⟩
    · rw [if_neg (by simpa using hholds)]
      rcases ih with hsame | ⟨found, hfound, hholds, heq⟩
      · exact Or.inl hsame
      · exact Or.inr ⟨found, List.mem_cons_of_mem _ hfound, hholds, heq⟩

lemma covers_of_lowercaseCode_ne {code : Nat} (h : lowercaseCode lowercaseRuns code ≠ code) :
    letterRanges.covers code = true ∧
      letterRanges.covers (lowercaseCode lowercaseRuns code) = true := by
  rcases lowercaseCode_cases lowercaseRuns code with hsame | ⟨run, hrun, hholds, heq⟩
  · exact absurd hsame h
  · obtain ⟨hfirst, himage⟩ := runs_inside_letterRanges run hrun
    have hcode := CaseRun.covers_of_inside hfirst hholds
    rw [Nat.add_sub_cancel' hholds.1] at hcode
    rw [heq]
    exact ⟨hcode, CaseRun.covers_of_inside himage hholds⟩

lemma isValidChar_of_covers {code : Nat} (h : letterRanges.covers code = true) :
    code.isValidChar := by
  have hranges : ∀ range ∈ letterRanges,
      range.2 < 0xD800 ∨ 0xDFFF < range.1 ∧ range.2 < 0x110000 := by
    decide +kernel
  obtain ⟨range, hrange, hlow, hhigh⟩ := RangeTable.exists_of_covers h
  have := hranges range hrange
  unfold Nat.isValidChar
  omega

lemma isLetter_ofNat {code : Nat} (h : letterRanges.covers code = true) :
    isLetter (Char.ofNat code) = true := by
  have hcode : (Char.ofNat code).toNat = code := by
    rw [Char.ofNat, dif_pos (isValidChar_of_covers h)]
    rfl
  rw [isLetter, hcode]
  exact h

/-! ### Images of characters -/

/-- The lower-case form of the character between its neighbours. -/
def lowercaseImage (before : List Char) (c : Char) (rest : List Char) : List Char :=
  if c = 'Σ' then [lowercaseSigma before rest] else lowercaseChar c

lemma lowercaseAfter_cons (before : List Char) (c : Char) (rest : List Char) :
    lowercaseAfter before (c :: rest) =
      lowercaseImage before c rest ++ lowercaseAfter (c :: before) rest :=
  rfl

/-- A character is its own image, or both it and the start of its image are letters. Only the dot of
a dotted capital letter follows the first character of an image. -/
lemma lowercaseImage_cases (before : List Char) (c : Char) (rest : List Char) :
    lowercaseImage before c rest = [c] ∨ isLetter c = true ∧
      ∃ first dots, lowercaseImage before c rest = first :: dots ∧ isLetter first = true ∧
        ∀ dot ∈ dots, dot = '\u0307' := by
  unfold lowercaseImage
  by_cases hsigma : c = 'Σ'
  · rw [if_pos hsigma]
    subst hsigma
    have hletters : isLetter 'Σ' = true ∧ isLetter 'ς' = true ∧ isLetter 'σ' = true := by
      decide +kernel
    refine Or.inr ⟨hletters.1, _, [], rfl, ?_, by simp⟩
    unfold lowercaseSigma
    split
    · exact hletters.2.1
    · exact hletters.2.2
  rw [if_neg hsigma]
  unfold lowercaseChar
  by_cases hdotted : c = 'İ'
  · rw [if_pos hdotted]
    subst hdotted
    exact Or.inr ⟨by decide +kernel, 'i', ['\u0307'], rfl, by decide +kernel, by simp⟩
  rw [if_neg hdotted]
  by_cases hsame : lowercaseCode lowercaseRuns c.toNat = c.toNat
  · rw [hsame, Char.ofNat_toNat]
    exact Or.inl rfl
  · obtain ⟨hletter, himage⟩ := covers_of_lowercaseCode_ne hsame
    exact Or.inr ⟨hletter, _, [], rfl, isLetter_ofNat himage, by simp⟩

/-- A sign that lower case neither changes nor brings in. -/
structure IsSign (sign : Char) : Prop where
  not_letter : isLetter sign = false
  ne_dot : sign ≠ '\u0307'

lemma isSign_hyphen : IsSign '-' := ⟨by decide +kernel, by decide⟩

lemma isSign_point : IsSign '.' := ⟨by decide +kernel, by decide⟩

section Signs

variable {sign : Char}

lemma lowercaseImage_sign_cases (h : IsSign sign) (before : List Char) (c : Char)
    (rest : List Char) :
    c = sign ∧ lowercaseImage before c rest = [sign] ∨
      c ≠ sign ∧ lowercaseImage before c rest ≠ [] ∧ sign ∉ lowercaseImage before c rest := by
  rcases lowercaseImage_cases before c rest with hsame | ⟨hletter, first, dots, heq, hfirst, hdots⟩
  · rw [hsame]
    by_cases hc : c = sign
    · exact Or.inl ⟨hc, by rw [hc]⟩
    · exact Or.inr ⟨hc, by simp, by simpa using Ne.symm hc⟩
  · have hne : ∀ letter, isLetter letter = true → letter ≠ sign := by
      rintro letter hletter rfl
      rw [h.not_letter] at hletter
      cases hletter
    rw [heq]
    refine Or.inr ⟨hne c hletter, by simp, ?_⟩
    rw [List.mem_cons, not_or]
    exact ⟨(hne first hfirst).symm, fun hmem => h.ne_dot (hdots sign hmem)⟩

lemma mem_lowercaseAfter_iff (h : IsSign sign) (before text : List Char) :
    sign ∈ lowercaseAfter before text ↔ sign ∈ text := by
  induction text generalizing before with
  | nil => simp [lowercaseAfter]
  | cons c rest ih =>
    rw [lowercaseAfter_cons, List.mem_append, List.mem_cons, ih]
    rcases lowercaseImage_sign_cases h before c rest with ⟨rfl, himage⟩ | ⟨hne, -, hnone⟩
    · simp [himage]
    · simp [hnone, hne.symm]

lemma head?_lowercaseAfter_iff (h : IsSign sign) (before text : List Char) :
    (lowercaseAfter before text).head? = some sign ↔ text.head? = some sign := by
  cases text with
  | nil => simp [lowercaseAfter]
  | cons c rest =>
    rw [lowercaseAfter_cons, List.head?_cons, Option.some.injEq]
    rcases lowercaseImage_sign_cases h before c rest with ⟨rfl, himage⟩ | ⟨hne, hsome, hnone⟩
    · simp [himage]
    · obtain ⟨first, others, heq⟩ := List.exists_cons_of_ne_nil hsome
      have hfirst : first ≠ sign := by
        rintro rfl
        exact hnone (heq ▸ List.mem_cons_self)
      simp [heq, hne, hfirst]

lemma getLast?_lowercaseAfter_iff (h : IsSign sign) (before text : List Char) :
    (lowercaseAfter before text).getLast? = some sign ↔ text.getLast? = some sign := by
  induction text generalizing before with
  | nil => simp [lowercaseAfter]
  | cons c rest ih =>
    rw [lowercaseAfter_cons]
    cases rest with
    | nil =>
      rcases lowercaseImage_sign_cases h before c [] with ⟨rfl, himage⟩ | ⟨hne, -, hnone⟩
      · simp [himage, lowercaseAfter]
      · rw [lowercaseAfter, List.append_nil, List.getLast?_singleton, Option.some.injEq]
        exact iff_of_false (fun hlast => hnone (List.mem_of_getLast? hlast)) hne
    | cons next others =>
      have hsome : lowercaseAfter (c :: before) (next :: others) ≠ [] := by
        rw [lowercaseAfter_cons]
        rcases lowercaseImage_sign_cases h (c :: before) next others with
          ⟨-, himage⟩ | ⟨-, himage, -⟩
        · simp [himage]
        · simp [himage]
      rw [List.getLast?_append_of_ne_nil _ hsome, ih, List.getLast?_cons_cons]

lemma holdsPair_append_of_notMem {image : List Char} (h : sign ∉ image) (rest : List Char) :
    Name.holdsPair sign sign (image ++ rest) = Name.holdsPair sign sign rest := by
  induction image with
  | nil => rfl
  | cons c others ih =>
    rw [List.mem_cons, not_or] at h
    rw [List.cons_append, Name.holdsPair, ih h.2]
    simp [Ne.symm h.1]

lemma holdsPair_lowercaseAfter (h : IsSign sign) (before text : List Char) :
    Name.holdsPair sign sign (lowercaseAfter before text) = Name.holdsPair sign sign text := by
  induction text generalizing before with
  | nil => rfl
  | cons c rest ih =>
    rw [lowercaseAfter_cons, Name.holdsPair]
    rcases lowercaseImage_sign_cases h before c rest with ⟨rfl, himage⟩ | ⟨hne, -, hnone⟩
    · rw [himage, List.singleton_append, Name.holdsPair, ih]
      simp only [head?_lowercaseAfter_iff h]
    · rw [holdsPair_append_of_notMem hnone, ih]
      simp [hne]

end Signs
end Text

open Text

/-! ### Words -/

namespace Name

/-- The name is written like a word of a statement. -/
def IsWord (name : String) : Prop :=
  ∃ first rest, name.toList = first :: rest ∧ (isAlphanumeric first || first = '_') = true ∧
    ∀ c ∈ rest, Token.continuesWord c = true

lemma isInitial_head_lowercaseAfter (before : List Char) (c : Char) (rest : List Char) :
    ∃ first others, lowercaseAfter before (c :: rest) = first :: others ∧
      isInitial first = isInitial c := by
  rw [lowercaseAfter_cons]
  rcases lowercaseImage_cases before c rest with hsame | ⟨hletter, first, dots, heq, hfirst, -⟩
  · exact ⟨c, _, by rw [hsame]; rfl, rfl⟩
  · exact ⟨first, _, by rw [heq]; rfl, by simp [isInitial, hletter, hfirst]⟩

/-- What makes a word a valid name, told by its first character and its signs. -/
def IsOrderly (text : List Char) : Prop :=
  (∃ first rest, text = first :: rest ∧ isInitial first = true) ∧ '.' ∉ text ∧
    text.getLast? ≠ some '-' ∧ holdsPair '-' '-' text = false

lemma isOrderly_lowercaseAfter_iff (text : List Char) :
    IsOrderly (lowercaseAfter [] text) ↔ IsOrderly text := by
  unfold IsOrderly
  rw [mem_lowercaseAfter_iff isSign_point, Ne, getLast?_lowercaseAfter_iff isSign_hyphen,
    holdsPair_lowercaseAfter isSign_hyphen]
  cases text with
  | nil => simp [lowercaseAfter]
  | cons c rest =>
    obtain ⟨first, others, heq, hinitial⟩ := isInitial_head_lowercaseAfter [] c rest
    simp [heq, hinitial]

lemma isValid_iff_isOrderly {name : String} (h : IsWord name) :
    isValid name = true ↔ IsOrderly name.toList := by
  obtain ⟨first, rest, heq, hfirst, hrest⟩ := h
  have hletters : isLetter '.' = false ∧ isNumeral '.' = false := by decide +kernel
  have hpoint : '.' ≠ first := by
    rintro rfl
    simp [isAlphanumeric, hletters] at hfirst
  have hallowed : rest.all isAllowed = true ↔ '.' ∉ rest := by
    rw [List.all_eq_true]
    constructor
    · intro hall hmem
      have := hall '.' hmem
      simp [isAllowed, isAlphanumeric, hletters] at this
    · intro hnone c hc
      have hne : c ≠ '.' := fun hpoint => hnone (hpoint ▸ hc)
      simpa [Token.continuesWord, isAllowed, hne] using hrest c hc
  unfold isValid IsOrderly
  rw [heq]
  simp only [Bool.and_eq_true, hallowed, List.mem_cons, hpoint, false_or, bne_iff_ne,
    Bool.not_eq_true', List.cons.injEq]
  constructor
  · rintro ⟨⟨⟨hinitial, hpoints⟩, hlast⟩, hpair⟩
    exact ⟨⟨first, rest, ⟨rfl, rfl⟩, hinitial⟩, hpoints, hlast, hpair⟩
  · rintro ⟨⟨_, _, ⟨rfl, rfl⟩, hinitial⟩, hpoints, hlast, hpair⟩
    exact ⟨⟨⟨hinitial, hpoints⟩, hlast⟩, hpair⟩

theorem isValid_eq_of_key_eq {name other : String} (hname : IsWord name) (hother : IsWord other)
    (h : key name = key other) : isValid name = isValid other := by
  have hlower : lowercaseAfter [] name.toList = lowercaseAfter [] other.toList :=
    String.ofList_injective h
  rw [Bool.eq_iff_iff, isValid_iff_isOrderly hname, isValid_iff_isOrderly hother,
    ← isOrderly_lowercaseAfter_iff, hlower, isOrderly_lowercaseAfter_iff]

end Name

namespace Token

variable {name : String}

lemma isWord_of_first {c : Char} {rest : List Char} (h : first c rest = .ok (.word name)) :
    Name.IsWord name := by
  unfold first at h
  split at h
  · cases h
  · split at h
    · rename_i hstart
      cases h
      refine ⟨c, rest.takeWhile continuesWord, String.toList_ofList, hstart, fun found hfound => ?_⟩
      exact List.mem_takeWhile_imp hfound
    · exact absurd rfl ((sign_eq_ok h).1 name)

theorem isWord_of_mem_scan {text : List Char} {tokens : List Token}
    (h : scan text = .ok tokens) (hname : .word name ∈ tokens) : Name.IsWord name := by
  obtain ⟨c, rest, -, hfirst⟩ := exists_first_of_mem_scan h hname
  exact isWord_of_first hfirst

end Token
end FaultTreeExchange
