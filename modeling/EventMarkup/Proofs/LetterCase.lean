import EventMarkup.Proofs.Identifiers
import EventMarkup.Text.Lowercase

/-!
# Identifiers in lower case

Lower case turns letters into letters, Roman numerals into Roman numerals and letters in circles
into letters in circles, and leaves every other character alone. So a text and its lower case are
identifiers together, but for one character: the lower case of the dotted capital I is an `i` and a
dot, and no identifier holds that dot.

* `casedKinds_tables`, `image?_kind`: a code point and its lower case are of one kind.
* `lowerChar_single`: so they may stand in the same places of an identifier.
* `isIdentifierChars_lowerChars`: which texts are identifiers in lower case.
-/
namespace EventMarkup.Text

/-! ## Ranges in order -/

/-- Whether ranges are in increasing order and start at a code point at least. -/
def increasingFrom (lo : Nat) : List CodeRange → Bool
  | [] => true
  | r :: rs => decide (lo ≤ r.1) && decide (r.1 ≤ r.2) && increasingFrom (r.2 + 1) rs

/-- Membership stops early, but misses nothing where ranges are in order. -/
theorem inRanges_of_mem {lo n : Nat} {rs : List CodeRange} (h : increasingFrom lo rs = true)
    {r : CodeRange} (hr : r ∈ rs) (hfirst : r.1 ≤ n) (hlast : n ≤ r.2) :
    lo ≤ n ∧ inRanges n rs = true := by
  induction rs generalizing lo with
  | nil => exact absurd hr List.not_mem_nil
  | cons s rs ih =>
    simp only [increasingFrom, Bool.and_eq_true, decide_eq_true_eq] at h
    obtain ⟨⟨hlo, hs⟩, hrest⟩ := h
    rcases List.mem_cons.mp hr with rfl | hr
    · exact ⟨by omega, by rw [inRanges, if_neg (by omega), if_pos hlast]⟩
    · obtain ⟨hn, hin⟩ := ih hrest hr
      exact ⟨by omega, by rw [inRanges, if_neg (by omega), if_neg (by omega), hin]⟩

/-- The code points of ranges, as the bits of a number. -/
def codeBits : List CodeRange → Nat
  | [] => 0
  | r :: rs => (1 <<< (r.2 + 1 - r.1) - 1) <<< r.1 ||| codeBits rs

theorem testBit_codeBits {rs : List CodeRange} {n : Nat} :
    (codeBits rs).testBit n = true ↔ ∃ r ∈ rs, r.1 ≤ n ∧ n ≤ r.2 := by
  induction rs with
  | nil => simp [codeBits]
  | cons r rs ih =>
    rw [codeBits, Nat.testBit_or, Bool.or_eq_true, ih, Nat.testBit_shiftLeft, Nat.one_shiftLeft,
      Nat.testBit_two_pow_sub_one, Bool.and_eq_true, decide_eq_true_eq, decide_eq_true_eq]
    simp only [List.mem_cons, exists_eq_or_imp]
    refine or_congr_left (and_congr_right fun hfirst => ?_)
    omega

theorem inRanges_of_testBit {rs : List CodeRange} (hrs : increasingFrom 0 rs = true) {n : Nat}
    (h : (codeBits rs).testBit n = true) : inRanges n rs = true := by
  obtain ⟨r, hr, hfirst, hlast⟩ := testBit_codeBits.mp h
  exact (inRanges_of_mem hrs hr hfirst hlast).2

/-! ## Kinds of characters that have a lower case -/

/-- Code points of the Roman numerals. -/
def romanNumerals : List CodeRange := [(0x2160, 0x217f)]

/-- Code points of the letters in circles, which are symbols and no letters. -/
def circledLetters : List CodeRange := [(0x24b6, 0x24e9)]

/-- The kinds of characters that have a lower case. -/
def casedKinds : List (List CodeRange) := [romanNumerals, circledLetters, letters]

namespace CaseRun

/-- How far the code points of a run are from its first. -/
def offsets (run : CaseRun) : List Nat :=
  (List.range (run.last - run.first + 1)).filter fun k => k % run.step = 0

/-- Whether a run and its image lie in ranges. -/
def within (rs : List CodeRange) (run : CaseRun) : Bool :=
  run.offsets.all fun k =>
    (codeBits rs).testBit (run.first + k) && (codeBits rs).testBit (run.image + k)

theorem inRanges_of_within {rs : List CodeRange} (hrs : increasingFrom 0 rs = true) {run : CaseRun}
    (h : run.within rs = true) {k : Nat} (hstep : k % run.step = 0)
    (hlast : run.first + k ≤ run.last) :
    inRanges (run.first + k) rs = true ∧ inRanges (run.image + k) rs = true := by
  have hk : k ∈ run.offsets :=
    List.mem_filter.mpr ⟨List.mem_range.mpr (by omega), decide_eq_true hstep⟩
  have hbits := List.all_eq_true.mp h k hk
  rw [Bool.and_eq_true] at hbits
  exact ⟨inRanges_of_testBit hrs hbits.1, inRanges_of_testBit hrs hbits.2⟩

theorem image?_eq_some {n m : Nat} {runs : List CaseRun} (h : image? n runs = some m) :
    ∃ run ∈ runs, ∃ k, k % run.step = 0 ∧ run.first + k ≤ run.last ∧ n = run.first + k ∧
      m = run.image + k := by
  induction runs with
  | nil => cases h
  | cons run runs ih =>
    rw [image?] at h
    split at h
    · cases h
    · split at h
      · split at h
        · rename_i hfirst hlast hstep
          exact ⟨run, List.mem_cons_self, n - run.first, hstep, by omega, by omega,
            (Option.some.inj h).symm⟩
        · cases h
      · obtain ⟨x, hx, hm⟩ := ih h
        exact ⟨x, List.mem_cons_of_mem run hx, hm⟩

end CaseRun

/-! ## What the tables hold -/

/-- Whether a range holds code points of characters only. -/
def isCharRange (r : CodeRange) : Bool :=
  decide (r.2 < 0xd800) || decide (0xdfff < r.1) && decide (r.2 < 0x110000)

/-- The facts about the tables that all the rest comes from. Each run of code points is of one kind
with its image. Roman numerals are numerals and no letters, letters in circles are neither. -/
theorem casedKinds_tables :
    casedKinds.all (fun rs => increasingFrom 0 rs && rs.all isCharRange) = true ∧
      lowercaseRuns.all (fun run => casedKinds.any run.within) = true ∧
      (apart romanNumerals letters = true ∧ increasingFrom 0 numerals = true ∧
        (0x2150, 0x2182) ∈ numerals) ∧
      apart circledLetters letters = true ∧ apart circledLetters numerals = true := by
  decide +kernel

/-- A code point and its lower case are of one kind, and the latter is that of a character. -/
theorem image?_kind {n m : Nat} (h : CaseRun.image? n lowercaseRuns = some m) :
    m.isValidChar ∧ ∃ rs ∈ casedKinds, inRanges n rs = true ∧ inRanges m rs = true := by
  obtain ⟨hkinds, hruns, -⟩ := casedKinds_tables
  obtain ⟨run, hrun, k, hstep, hlast, rfl, rfl⟩ := CaseRun.image?_eq_some h
  obtain ⟨rs, hrs, hwithin⟩ := List.any_eq_true.mp (List.all_eq_true.mp hruns run hrun)
  have hkind := List.all_eq_true.mp hkinds rs hrs
  rw [Bool.and_eq_true] at hkind
  obtain ⟨hordered, hchars⟩ := hkind
  obtain ⟨hn, hm⟩ := CaseRun.inRanges_of_within hordered hwithin hstep hlast
  obtain ⟨r, hr, hfirst, hlast⟩ := exists_of_inRanges hm
  have hrange := List.all_eq_true.mp hchars r hr
  simp only [isCharRange, Bool.or_eq_true, Bool.and_eq_true, decide_eq_true_eq] at hrange
  refine ⟨?_, rs, hrs, hn, hm⟩
  unfold Nat.isValidChar
  omega

/-! ## Identifiers -/

theorem roman_allowed {c : Char} (h : inRanges c.toNat romanNumerals = true) :
    isLetter c = false ∧ isIdentifierChar c = true := by
  obtain ⟨-, -, ⟨hletters, hordered, hnumerals⟩, -⟩ := casedKinds_tables
  obtain ⟨r, hr, hfirst, hlast⟩ := exists_of_inRanges h
  obtain rfl := List.mem_singleton.mp hr
  have hnumeral : inRanges c.toNat numerals = true :=
    (inRanges_of_mem hordered hnumerals (Nat.le_trans (by decide) hfirst)
      (Nat.le_trans hlast (by decide))).2
  exact ⟨not_inRanges_of_apart hletters h, by simp [isIdentifierChar, isAlphanumeric, hnumeral]⟩

theorem circled_refused {c : Char} (h : inRanges c.toNat circledLetters = true) :
    isLetter c = false ∧ isIdentifierChar c = false := by
  obtain ⟨-, -, -, hletters, hnumerals⟩ := casedKinds_tables
  have hletter : isLetter c = false := not_inRanges_of_apart hletters h
  have hnumeral := not_inRanges_of_apart hnumerals h
  have hmark (x : Char) (hx : inRanges x.toNat circledLetters = false) : c ≠ x := by
    rintro rfl
    exact Bool.false_ne_true (hx.symm.trans h)
  refine ⟨hletter, ?_⟩
  simp [isIdentifierChar, isAlphanumeric, hletter, hnumeral, hmark '-' (by decide),
    hmark '_' (by decide), hmark ':' (by decide), hmark '.' (by decide)]

theorem allowed_of_kind {rs : List CodeRange} (hrs : rs ∈ casedKinds) {c d : Char}
    (hc : inRanges c.toNat rs = true) (hd : inRanges d.toNat rs = true) :
    isLetter d = isLetter c ∧ isIdentifierChar d = isIdentifierChar c := by
  simp only [casedKinds, List.mem_cons, List.not_mem_nil, or_false] at hrs
  rcases hrs with rfl | rfl | rfl
  · obtain ⟨hcl, hci⟩ := roman_allowed hc
    obtain ⟨hdl, hdi⟩ := roman_allowed hd
    exact ⟨hdl.trans hcl.symm, hdi.trans hci.symm⟩
  · obtain ⟨hcl, hci⟩ := circled_refused hc
    obtain ⟨hdl, hdi⟩ := circled_refused hd
    exact ⟨hdl.trans hcl.symm, hdi.trans hci.symm⟩
  · have hletters : isLetter d = isLetter c := Eq.trans hd hc.symm
    exact ⟨hletters, (isIdentifierChar_of_isLetter hd).trans (isIdentifierChar_of_isLetter hc).symm⟩

/-- The one character whose lower case is two characters. -/
def dottedI : Char := '\u0130'

/-- Every other character has one as its lower case, which may stand in the same places. -/
theorem lowerChar_single {c : Char} (hc : c ≠ dottedI) :
    ∃ d, lowerChar c = [d] ∧ isLetter d = isLetter c ∧ isIdentifierChar d = isIdentifierChar c ∧
      (d = '#' ↔ c = '#') := by
  rw [lowerChar, if_neg (show c ≠ '\u0130' from hc)]
  cases himage : CaseRun.image? c.toNat lowercaseRuns with
  | none => exact ⟨c, rfl, rfl, rfl, Iff.rfl⟩
  | some m =>
    obtain ⟨hvalid, rs, hrs, hn, hm⟩ := image?_kind himage
    have hm' : (Char.ofNat m).toNat = m := by
      rw [Char.ofNat, dif_pos hvalid]
      rfl
    have hd : inRanges (Char.ofNat m).toNat rs = true := by rwa [hm']
    have hsign : casedKinds.all (fun rs => !inRanges '#'.toNat rs) = true := by decide
    have hout : inRanges '#'.toNat rs = false := by
      simpa using List.all_eq_true.mp hsign rs hrs
    obtain ⟨hletter, hchar⟩ := allowed_of_kind hrs hn hd
    refine ⟨_, rfl, hletter, hchar, iff_of_false (fun h => ?_) fun h => ?_⟩
    · rw [h, hout] at hd
      cases hd
    · rw [h, hout] at hn
      cases hn

theorem all_lowerChar (c : Char) :
    (lowerChar c).all isIdentifierChar = (isIdentifierChar c && decide (c ≠ dottedI)) := by
  by_cases hc : c = dottedI
  · subst hc
    decide +kernel
  · obtain ⟨d, hd, -, hchar, -⟩ := lowerChar_single hc
    simp [hd, hchar, hc]

theorem all_lowerChars (cs : List Char) :
    (lowerChars cs).all isIdentifierChar = true ↔
      cs.all isIdentifierChar = true ∧ dottedI ∉ cs := by
  simp only [lowerChars, List.all_flatMap, all_lowerChar, List.all_eq_true, Bool.and_eq_true,
    decide_eq_true_eq, forall_and, ← List.forall_mem_ne', ne_eq]

/-- A text is an identifier in lower case just if it is one and holds no dotted capital I. -/
theorem isIdentifierChars_lowerChars (cs : List Char) :
    isIdentifierChars (lowerChars cs) = true ↔
      isIdentifierChars cs = true ∧ dottedI ∉ cs := by
  cases cs with
  | nil => simp [lowerChars, isIdentifierChars]
  | cons c cs =>
    by_cases hc : c = dottedI
    · subst hc
      -- the dot is refused behind any letter
      refine iff_of_false (fun h => ?_) fun h => h.2 List.mem_cons_self
      exact ((all_lowerChars _).mp (List.all_eq_true.mpr (isIdentifierChars_all h))).2
        List.mem_cons_self
    · obtain ⟨d, hd, hletter, -, -⟩ := lowerChar_single hc
      have hlower : lowerChars (c :: cs) = d :: lowerChars cs := by
        rw [lowerChars, List.flatMap_cons, hd]
        rfl
      rw [hlower, isIdentifierChars_cons, isIdentifierChars_cons, hletter, all_lowerChars,
        List.mem_cons, not_or, and_assoc]
      simp only [Ne.symm hc, not_false_eq_true, true_and]

end EventMarkup.Text
