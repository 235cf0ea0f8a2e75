import EventMarkup.Proofs.LetterCase

/-!
# Links within the page

A destination is looked at in lower case. Whether it is an identifier behind its number sign shows
there as it does in the destination itself, but for the dotted capital I.

* `Link.isOtherPage_eq_false_iff`: which destinations are no other page.
* `fragment_links_iff`: so an identifier without a dotted capital I is a fragment, and the link to
  it says so.
-/
namespace EventMarkup

open Render

namespace Link

theorem dropMarker_lowerChars (cs : List Char) :
    dropMarker (Text.lowerChars cs) = Text.lowerChars (dropMarker cs) := by
  cases cs with
  | nil => rfl
  | cons c cs =>
    rw [dropMarker]
    by_cases hsign : c = '#'
    · subst hsign
      rfl
    · rw [if_neg hsign]
      by_cases hdotted : c = Text.dottedI
      · subst hdotted
        rfl
      · obtain ⟨d, hd, -, -, hiff⟩ := Text.lowerChar_single hdotted
        have hlower : Text.lowerChars (c :: cs) = d :: Text.lowerChars cs := by
          rw [Text.lowerChars, List.flatMap_cons, hd]
          rfl
        rw [hlower, dropMarker, if_neg (mt hiff.mp hsign)]

theorem dropMarker_of_isIdentifierChars {cs : List Char} (h : Text.isIdentifierChars cs = true) :
    dropMarker cs = cs := by
  cases cs with
  | nil => rfl
  | cons c cs =>
    have hsign : c ≠ '#' := by
      rintro rfl
      exact absurd (Text.isIdentifierChars_cons.mp h).1 (by decide)
    rw [dropMarker, if_neg hsign]

theorem dottedI_mem_dropMarker {cs : List Char} :
    Text.dottedI ∈ dropMarker cs ↔ Text.dottedI ∈ cs := by
  cases cs with
  | nil => rfl
  | cons c cs =>
    rw [dropMarker]
    split
    · rename_i hsign
      subst hsign
      exact (List.mem_cons.trans (or_iff_right (by decide))).symm
    · rfl

/-- A destination is no other page just if it names none and is an identifier behind its number
sign, without a dotted capital I. -/
theorem isOtherPage_eq_false_iff (href : String) :
    isOtherPage href = false ↔ namesPage (Text.lowerChars href.toList) = false ∧
      Text.isIdentifierChars (dropMarker href.toList) = true ∧ Text.dottedI ∉ href.toList := by
  rw [isOtherPage, Bool.or_eq_false_iff, Bool.not_eq_false', dropMarker_lowerChars,
    Text.isIdentifierChars_lowerChars, dottedI_mem_dropMarker]

theorem destination_of_isIdentifier {href : String} (hscheme : isExternal href = false)
    (hpage : namesPage (Text.lowerChars href.toList) = false)
    (h : Text.isIdentifier href = true) :
    destination href = if Text.dottedI ∈ href.toList then href else "#" ++ href := by
  have hmarker := dropMarker_of_isIdentifierChars h
  have hother : isOtherPage href = true ↔ Text.dottedI ∈ href.toList := by
    rw [← Bool.not_eq_false, isOtherPage_eq_false_iff, hmarker]
    simp only [hpage, show Text.isIdentifierChars href.toList = true from h, true_and, not_not]
  rw [destination_eq, hmarker, String.ofList_toList]
  simp only [hscheme, Bool.false_eq_true, false_or, hother]

end Link

theorem Render.get?_href (st : Style) (href : String) (m : Mapping) (target : Value) :
    (linkAttributes st href m target).get? "href" = some (Link.destination href) :=
  (text_link st .initial ∅ m "href" href target).trans (get?_linkOwn st href m target).1

/-- **Links within the page.** Let a destination start with no scheme and name no page, whatever the
case of its letters. It is no other page if and only if it is an identifier behind its number sign
and holds no dotted capital I. So a link to an identifier, as whatever becomes of a name is, gets a
number sign in front unless a dotted capital I is in it; with one it is written as it is. -/
theorem fragment_links_iff {href : String} (hscheme : Link.isExternal href = false)
    (hpage : Link.namesPage (Text.lowerChars href.toList) = false) :
    let fragment := String.ofList (Link.dropMarker href.toList)
    let dotted := Text.dottedI ∈ href.toList
    (Link.isOtherPage href = false ↔ Text.isIdentifier fragment = true ∧ ¬dotted) ∧
      (∀ name, Text.toIdentifier name = href → href ≠ "" → Text.isIdentifier href = true) ∧
      (Text.isIdentifier href = true → ∀ k : Sink, k.vocabulary = .everything →
        k.state.headMode = false → ∀ m target, ∃ a : Attributes,
          k.Prints (.link href m target) [k.style.startTag "a" a] ∧
            a.get? "href" = some (if dotted then href else "#" ++ href)) := by
  intro fragment dotted
  refine ⟨?_, fun name hname hne => ?_, fun hid k hv hs m target => ?_⟩
  · rw [Link.isOtherPage_eq_false_iff, Text.isIdentifier, String.toList_ofList]
    exact and_iff_right hpage
  · rw [← hname]
    exact Text.isIdentifier_toIdentifier fun htrim =>
      hne (hname.symm.trans (Text.toIdentifier_of_blank htrim))
  · refine ⟨linkAttributes k.style href m target, (Sink.flow_writes hv hs rfl rfl).prints, ?_⟩
    rw [get?_href, Link.destination_of_isIdentifier hscheme hpage hid]

/-- In lower case the capital and the numeral are others, and it is an identifier still. -/
theorem romanChapter_fragment :
    let href := "Kapitel_\u2167"
    let k := Sink.inMemory .usual
    (Link.isExternal href = false ∧ Link.namesPage (Text.lowerChars href.toList) = false ∧
      Text.isIdentifier href = true ∧ k.vocabulary = .everything ∧ k.state.headMode = false) ∧
      Text.lowerChars href.toList = "kapitel_\u2177".toList ∧
      Link.isOtherPage href = false ∧
      ∃ a : Attributes, k.Prints (.link href ∅ .absent) [k.style.startTag "a" a] ∧
        a.get? "href" = some ("#" ++ href) := by
  intro href k
  have hscheme : Link.isExternal href = false := by decide +kernel
  have hpage : Link.namesPage (Text.lowerChars href.toList) = false := by decide +kernel
  have hid : Text.isIdentifier href = true := by decide +kernel
  have hfragment : Text.isIdentifier (String.ofList (Link.dropMarker href.toList)) = true := by
    decide +kernel
  have hplain : Text.dottedI ∉ href.toList := by decide
  obtain ⟨hiff, -, hlinks⟩ := fragment_links_iff hscheme hpage
  obtain ⟨a, hwrites, hhref⟩ := hlinks hid k rfl rfl ∅ .absent
  rw [if_neg hplain] at hhref
  exact ⟨⟨hscheme, hpage, hid, rfl, rfl⟩, by decide +kernel, hiff.mpr ⟨hfragment, hplain⟩, a,
    hwrites, hhref⟩

/-- A dotted capital I is an identifier, and an anchor with that name shows it as it is. But it is
taken for another page, and the link to it shows no number sign. -/
theorem dottedFragment_unmarked :
    let href := "\u0130"
    let k := Sink.inMemory .usual
    (Link.isExternal href = false ∧ Link.namesPage (Text.lowerChars href.toList) = false ∧
      Text.isIdentifier (String.ofList (Link.dropMarker href.toList)) = true) ∧
      Link.isOtherPage href = true ∧
      (k.event (.anchor (some href) ∅)).after.value = .ok "<a name=\"\u0130\">" ∧
      (k.event (.link href ∅ .absent)).after.value = .ok "<a href=\"\u0130\">" := by
  decide +kernel

end EventMarkup
