import EventMarkup.Proofs.Escaping
import EventMarkup.Proofs.LineEndings
import EventMarkup.Proofs.Links
import EventMarkup.Proofs.Trimmed

/-!
# Identifiers

A name becomes an identifier, and what is one already stays what it is. An identifier holds no blank
and none of the characters that markup writes as entities, so an anchor shows it as it is, and a
link with a number sign in front leads to it.

* `Text.isAlphanumeric_not_blank`: what the tables of characters have to do with each other.
* `Text.isIdentifierChars_identifierChars`: what becomes of a name is an identifier.
* `Text.identifierChars_of_isIdentifierChars`: an identifier becomes itself.
* `anchors_found`: so what an anchor is named a link finds.
-/
namespace EventMarkup

open Render

namespace Text

/-! ## Tables of characters -/

theorem exists_of_inRanges {n : Nat} {rs : List CodeRange} (h : inRanges n rs = true) :
    ∃ r ∈ rs, r.1 ≤ n ∧ n ≤ r.2 := by
  induction rs with
  | nil => cases h
  | cons r rs ih =>
    rw [inRanges] at h
    split at h
    · cases h
    · split at h
      · exact ⟨r, List.mem_cons_self, by omega, by omega⟩
      · obtain ⟨x, hx, hn⟩ := ih h
        exact ⟨x, List.mem_cons_of_mem r hx, hn⟩

/-- Whether no code point lies in ranges of both lists. -/
def apart (rs ss : List CodeRange) : Bool :=
  rs.all fun r => ss.all fun s => decide (r.2 < s.1) || decide (s.2 < r.1)

theorem not_inRanges_of_apart {n : Nat} {rs ss : List CodeRange} (h : apart rs ss = true)
    (hn : inRanges n rs = true) : inRanges n ss = false := by
  rw [Bool.eq_false_iff]
  intro hs
  obtain ⟨r, hr, hrn⟩ := exists_of_inRanges hn
  obtain ⟨s, hs, hsn⟩ := exists_of_inRanges hs
  have hapart := List.all_eq_true.mp (List.all_eq_true.mp h r hr) s hs
  rw [Bool.or_eq_true, decide_eq_true_eq, decide_eq_true_eq] at hapart
  omega

theorem isAlphanumeric_not_blank {c : Char} (h : isAlphanumeric c = true) : isBlank c = false := by
  have hletters : apart letters blanks = true := by decide +kernel
  have hnumerals : apart numerals blanks = true := by decide +kernel
  rw [isAlphanumeric, Bool.or_eq_true] at h
  rcases h with hl | hn
  · exact not_inRanges_of_apart hletters hl
  · exact not_inRanges_of_apart hnumerals hn

/-! ## Identifiers -/

theorem isIdentifierChar_not_blank {c : Char} (h : isIdentifierChar c = true) :
    isBlank c = false := by
  simp only [isIdentifierChar, Bool.or_eq_true, decide_eq_true_eq] at h
  rcases h with (((h | rfl) | rfl) | rfl) | rfl
  · exact isAlphanumeric_not_blank h
  all_goals decide

theorem isIdentifierChar_of_isLetter {c : Char} (h : isLetter c = true) :
    isIdentifierChar c = true := by
  simp [isIdentifierChar, isAlphanumeric, h]

theorem identifierUnit_of {c : Char} (h : isIdentifierChar c = true) : identifierUnit c = [c] := by
  have hspace : c ≠ ' ' := by
    rintro rfl
    exact absurd h (by decide)
  rw [identifierUnit, if_neg hspace, if_pos h]

theorem flatMap_identifierUnit_all (cs : List Char) :
    (cs.flatMap identifierUnit).all isIdentifierChar = true := by
  rw [List.all_flatMap, List.all_eq_true]
  intro c _
  unfold identifierUnit
  split
  · decide
  · split
    · rename_i h
      simpa using h
    · rfl

theorem isIdentifierChars_cons {c : Char} {rest : List Char} :
    isIdentifierChars (c :: rest) = true ↔
      isLetter c = true ∧ rest.all isIdentifierChar = true := by
  rw [isIdentifierChars, List.all_cons, Bool.and_eq_true, Bool.and_eq_true]
  exact ⟨fun h => ⟨h.1, h.2.2⟩, fun h => ⟨h.1, isIdentifierChar_of_isLetter h.1, h.2⟩⟩

theorem isIdentifierChars_all {cs : List Char} (h : isIdentifierChars cs = true) :
    ∀ c ∈ cs, isIdentifierChar c = true := by
  cases cs with
  | nil => cases h
  | cons c rest =>
    obtain ⟨hc, hrest⟩ := isIdentifierChars_cons.mp h
    exact List.forall_mem_cons.mpr
      ⟨isIdentifierChar_of_isLetter hc, List.all_eq_true.mp hrest⟩

theorem isIdentifierChars_identifierChars {cs : List Char} (h : cs ≠ []) :
    isIdentifierChars (identifierChars cs) = true := by
  cases cs with
  | nil => exact absurd rfl h
  | cons c rest =>
    rw [identifierChars]
    by_cases hc : isLetter c = true
    · rw [if_pos hc, List.nil_append, List.flatMap_cons,
        identifierUnit_of (isIdentifierChar_of_isLetter hc)]
      exact isIdentifierChars_cons.mpr ⟨hc, flatMap_identifierUnit_all rest⟩
    · rw [if_neg hc]
      exact isIdentifierChars_cons.mpr ⟨by decide, flatMap_identifierUnit_all (c :: rest)⟩

theorem identifierChars_of_isIdentifierChars {cs : List Char} (h : isIdentifierChars cs = true) :
    identifierChars cs = cs := by
  have hunits : cs.flatMap identifierUnit = cs := by
    rw [List.flatMap_congr fun c hc => identifierUnit_of (isIdentifierChars_all h c hc)]
    exact List.flatMap_singleton' cs
  cases cs with
  | nil => rfl
  | cons c rest =>
    rw [identifierChars, if_pos (isIdentifierChars_cons.mp h).1, hunits]
    rfl

theorem trimChars_of_isIdentifierChars {cs : List Char} (h : isIdentifierChars cs = true) :
    trimChars cs = cs := by
  have hblank (c : Char) (hc : c ∈ cs) : isBlank c = false :=
    isIdentifierChar_not_blank (isIdentifierChars_all h c hc)
  have htrimmed : Trimmed cs :=
    ⟨fun c hc => hblank c (List.mem_of_mem_head? hc),
      fun c hc => hblank c (List.mem_of_getLast? hc)⟩
  exact htrimmed.trimChars

/-! ## Names -/

theorem toIdentifier_of_blank {name : String} (h : trim name = "") : toIdentifier name = "" := by
  rw [trim, String.ofList_eq_empty_iff] at h
  rw [toIdentifier, h]
  rfl

theorem isIdentifier_toIdentifier {name : String} (h : trim name ≠ "") :
    isIdentifier (toIdentifier name) = true := by
  rw [trim, Ne, String.ofList_eq_empty_iff] at h
  rw [isIdentifier, toIdentifier, String.toList_ofList]
  exact isIdentifierChars_identifierChars h

/-- Nothing becomes of a name just if there is nothing in it but blanks. -/
theorem toIdentifier_eq_empty_iff {name : String} : toIdentifier name = "" ↔ trim name = "" := by
  refine ⟨fun h => ?_, toIdentifier_of_blank⟩
  by_contra hname
  have hid := isIdentifier_toIdentifier hname
  rw [h] at hid
  cases hid

theorem toIdentifier_of_isIdentifier {name : String} (h : isIdentifier name = true) :
    toIdentifier name = name := by
  rw [toIdentifier, trimChars_of_isIdentifierChars h, identifierChars_of_isIdentifierChars h,
    String.ofList_toList]

theorem toIdentifier_toIdentifier (name : String) :
    toIdentifier (toIdentifier name) = toIdentifier name := by
  by_cases h : trim name = ""
  · rw [toIdentifier_of_blank h]
    rfl
  · exact toIdentifier_of_isIdentifier (isIdentifier_toIdentifier h)

theorem toIdentifier_all (name : String) :
    ∀ c ∈ (toIdentifier name).toList, isIdentifierChar c = true := by
  by_cases h : trim name = ""
  · rw [toIdentifier_of_blank h]
    exact fun _ hc => (List.not_mem_nil hc).elim
  · exact isIdentifierChars_all (isIdentifier_toIdentifier h)

/-! ## Text as it is -/

/-- The characters that do not come out as they are: those that markup writes as entities, and the
ends of lines. -/
def changed : List Char := ['&', '<', '>', '\x22', '\x27', '\n', '\r']

theorem isIdentifierChar_unchanged {c : Char} (h : isIdentifierChar c = true) : c ∉ changed := by
  intro hc
  have hnone : changed.all (fun x => !isIdentifierChar x) = true := by decide
  have hchar := List.all_eq_true.mp hnone c hc
  rw [h] at hchar
  cases hchar

theorem toIdentifier_unchanged (name : String) :
    ∀ c ∈ (toIdentifier name).toList, c ∉ changed :=
  fun c hc => isIdentifierChar_unchanged (toIdentifier_all name c hc)

section
variable {s : String} (h : ∀ c ∈ s.toList, c ∉ changed)
include h

theorem escape_unchanged : escape s = s := by
  have hspecials : changed = specials ++ ['\n', '\r'] := rfl
  refine (escape_eq_self_iff s).mpr fun c hc hspecial => h c hc ?_
  rw [hspecials]
  exact List.mem_append_left _ hspecial

theorem isOneLine_unchanged : isOneLine s.toList = true := by
  rw [isOneLine, List.all_eq_true]
  intro c hc
  have hchar := h c hc
  simp_all [changed]

end

end Text

/-! ## Anchors and links to them -/

namespace Link

theorem isExternal_fragment (s : String) : isExternal ("#" ++ s) = false := by
  have hlower : Text.lowerChars ("#" ++ s).toList = '#' :: Text.lowerChars s.toList := by
    rw [String.toList_append]
    rfl
  rw [isExternal, hlower]
  rfl

theorem destination_fragment (s : String) : destination ("#" ++ s) = "#" ++ s := by
  have hmarker : dropMarker ("#" ++ s).toList = s.toList := by
    rw [String.toList_append]
    rfl
  rw [destination_eq, hmarker, String.ofList_toList, ite_self]

end Link

/-- The tag of an anchor without attributes of its own, and of a link to it. -/
def anchorTag (e : String) : String := if e = "" then "<a>" else "<a name=\"" ++ e ++ "\">"

def linkTag (e : String) : String := "<a href=\"#" ++ e ++ "\">"

section
variable {st : Style} (hq : st.qualifier = none)
include hq

theorem Style.startTag_one {name value : String} (h : ∀ c ∈ value.toList, c ∉ Text.changed) :
    st.startTag "a" ((∅ : Attributes).insert name value) =
      "<a " ++ name ++ "=\"" ++ value ++ "\">" := by
  rw [Style.startTag, hq]
  show "<" ++ "a" ++ (" " ++ name ++ "=\"" ++ Text.escape value ++ "\"" ++ "") ++ ">" = _
  rw [Text.escape_unchanged h, String.append_empty]
  simp only [String.append_assoc]
  rfl

theorem Style.startTag_anchor (name : String) :
    st.startTag "a" (anchorAttributes st (some name) ∅) = anchorTag (Text.toIdentifier name) := by
  have hchars := Text.toIdentifier_unchanged name
  rw [anchorAttributes, Style.admitted_empty, anchorTag]
  show st.startTag "a" (if Text.toIdentifier name = "" then ∅
    else (∅ : Attributes).insert "name" (Text.toIdentifier name)) = _
  split
  · rw [Style.startTag, hq]
    rfl
  · exact Style.startTag_one hq hchars

theorem Style.startTag_link {s : String} (h : ∀ c ∈ s.toList, c ∉ Text.changed) :
    st.startTag "a" (linkAttributes st ("#" ++ s) ∅ .absent) = linkTag s := by
  have hmarked : ∀ c ∈ ("#" ++ s).toList, c ∉ Text.changed := by
    rw [String.toList_append]
    exact List.forall_mem_append.mpr ⟨List.forall_mem_singleton.mpr (by decide), h⟩
  have hattributes : linkAttributes st ("#" ++ s) ∅ .absent =
      (∅ : Attributes).insert "href" ("#" ++ s) := by
    rw [linkAttributes, Style.admitted_empty]
    show linkDestination st ("#" ++ s) = _
    rw [linkDestination, Link.isExternal_fragment, Link.destination_fragment]
    rfl
  rw [hattributes, Style.startTag_one hq hmarked, ← String.append_assoc]
  rfl

end

section
variable (l : Text.LineEnding) {e : String} (h : ∀ c ∈ e.toList, c ∉ Text.changed)
include h

theorem normalize_anchorTag : Text.normalize l (anchorTag e) = anchorTag e := by
  refine Text.normalize_oneLine l ?_
  unfold anchorTag
  split
  · decide
  · rw [String.toList_append, String.toList_append, Text.isOneLine_append, Text.isOneLine_append,
      Text.isOneLine_unchanged h]
    decide

theorem normalize_linkTag : Text.normalize l (linkTag e) = linkTag e := by
  refine Text.normalize_oneLine l ?_
  rw [linkTag, String.toList_append, String.toList_append, Text.isOneLine_append,
    Text.isOneLine_append, Text.isOneLine_unchanged h]
  decide

end

/-- **Anchors are found.** Of a name there is left nothing just if there are only blanks in it, and
else an identifier. An identifier stays what it is, so what is left of a name does. Outside of a
head and without a qualifier, an anchor shows just that as its name, if there is any, and a link to
it with a number sign in front shows just that as its destination, whatever it looks like. Both are
sent as they are, however lines end, and so they come into an open buffer. -/
theorem anchors_found (name : String) :
    let e := Text.toIdentifier name
    (e = "" ↔ Text.trim name = "") ∧ (e ≠ "" → Text.isIdentifier e = true) ∧
      (Text.isIdentifier name = true → e = name) ∧ Text.toIdentifier e = e ∧
      ∀ k : Sink, k.vocabulary = .everything → k.style.qualifier = none →
        k.state.headMode = false →
        k.Prints (.anchor (some name) ∅) [anchorTag e] ∧
          k.Prints (.link ("#" ++ e) ∅ .absent) [linkTag e] ∧
          (∀ t ∈ [anchorTag e, linkTag e], Text.normalize k.style.lineEnding t = t) ∧
          (k.destination.OpenBuffer →
            (k.event (.anchor (some name) ∅)).after.destination.text =
              k.destination.text ++ anchorTag e ∧
            (k.event (.link ("#" ++ e) ∅ .absent)).after.destination.text =
              k.destination.text ++ linkTag e) := by
  intro e
  have hchars := Text.toIdentifier_unchanged name
  refine ⟨Text.toIdentifier_eq_empty_iff, fun h => ?_, Text.toIdentifier_of_isIdentifier,
    Text.toIdentifier_toIdentifier name, fun k hv hq hs => ?_⟩
  · exact Text.isIdentifier_toIdentifier fun hname => h (Text.toIdentifier_of_blank hname)
  · have hanchor : k.Prints (.anchor (some name) ∅) [anchorTag e] := by
      rw [← Style.startTag_anchor hq name]
      exact (Sink.flow_writes hv hs rfl rfl).prints
    have hlink : k.Prints (.link ("#" ++ e) ∅ .absent) [linkTag e] := by
      rw [← Style.startTag_link hq hchars]
      exact (Sink.flow_writes hv hs rfl rfl).prints
    have hanchorTag := normalize_anchorTag k.style.lineEnding hchars
    have hlinkTag := normalize_linkTag k.style.lineEnding hchars
    refine ⟨hanchor, hlink, ?_, fun hb => ?_⟩
    · exact List.forall_mem_cons.mpr ⟨hanchorTag, List.forall_mem_singleton.mpr hlinkTag⟩
    · exact ⟨(hanchor.one hanchorTag hb).2, (hlink.one hlinkTag hb).2⟩

/-- What is left of a name may look like a mail address or a page. -/
theorem addressLike_found :
    let e := "mailto:me_at_home.html"
    let k := Sink.inMemory .usual
    (Text.isIdentifier e = true ∧ k.vocabulary = .everything ∧ k.style.qualifier = none ∧
      k.state.headMode = false) ∧
      Text.toIdentifier "  mailto:me at (home).html\t" = e ∧ Text.toIdentifier e = e ∧
      k.Prints (.anchor (some "  mailto:me at (home).html\t") ∅)
        ["<a name=\"mailto:me_at_home.html\">"] ∧
      k.Prints (.link "#mailto:me_at_home.html" ∅ .absent)
        ["<a href=\"#mailto:me_at_home.html\">"] ∧
      (k.event (.link "#mailto:me_at_home.html" ∅ .absent)).after.destination.text =
        "<a href=\"#mailto:me_at_home.html\">" := by
  intro e k
  have hname : Text.toIdentifier "  mailto:me at (home).html\t" = e := by decide +kernel
  have hid : Text.isIdentifier e = true := by decide +kernel
  obtain ⟨-, -, -, -, hwrites⟩ := anchors_found "  mailto:me at (home).html\t"
  obtain ⟨-, -, hsame, -, -⟩ := anchors_found e
  obtain ⟨hanchor, hlink, -, hbuffer⟩ := hwrites k rfl rfl rfl
  obtain ⟨-, htext⟩ := hbuffer ⟨rfl, rfl⟩
  rw [hname] at hanchor hlink htext
  exact ⟨⟨hid, rfl, rfl, rfl⟩, hname, hsame hid, hanchor, hlink, htext.trans rfl⟩

end EventMarkup
