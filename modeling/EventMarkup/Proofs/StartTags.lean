import EventMarkup.Proofs.Entities
import EventMarkup.Proofs.Fragments
import EventMarkup.Text.Blank

/-!
# Reading start tags back

`Tag.read?` takes a start tag apart: the name goes up to the first space or closing bracket; an
attribute follows a space, its name goes up to the sign of equality and its value from quote to
quote, with the entities in it decoded; the tag ends with a bracket, after a slash if it closes
itself.

* `read?_opening`: if names are legible, a tag that was written is read back as what it was written
  for, whatever the values of its attributes and whatever comes after it.
* `opening_legible`: so the text of a tag tells its name, its attributes in order and whether it
  closes itself.
-/
namespace EventMarkup

namespace Tag

/-- A start tag, or one that closes itself. -/
def opening (q : Option String) (name : String) (a : Attributes) (closed : Bool) : String :=
  if closed then single q name a else start q name a

/-! ## The reader -/

structure Contents where
  name : String
  attributes : List (String × String)
  closed : Bool
  deriving DecidableEq, Repr

/-- Reads the name of an attribute, its value in quotes, and returns what comes after them. -/
def readAttribute? (cs : List Char) : Option ((String × String) × List Char) :=
  match cs.dropWhile (· ≠ '=') with
  | '=' :: '\x22' :: inner =>
    match inner.dropWhile (· ≠ '\x22') with
    | [] => none
    | _ :: rest =>
      some ((String.ofList (cs.takeWhile (· ≠ '=')),
        String.ofList (Text.decodeChars (inner.takeWhile (· ≠ '\x22')))), rest)
  | _ => none

theorem length_of_readAttribute? {cs rest : List Char} {e : String × String}
    (h : readAttribute? cs = some (e, rest)) : rest.length < cs.length := by
  unfold readAttribute? at h
  split at h
  · rename_i inner hinner
    split at h
    · cases h
    · rename_i c rest' hrest
      cases h
      have hi := (List.dropWhile_sublist (fun c => decide (c ≠ '=')) (l := cs)).length_le
      have hr := (List.dropWhile_sublist (fun c => decide (c ≠ '\x22')) (l := inner)).length_le
      rw [hinner] at hi
      rw [hrest] at hr
      simp only [List.length_cons] at hi hr
      omega
  · cases h

/-- Reads attributes to the end of their tag; tells whether the tag closes itself. -/
def readAttributes? (cs : List Char) : Option ((List (String × String) × Bool) × List Char) :=
  match cs with
  | '>' :: rest => some (([], false), rest)
  | ' ' :: '/' :: '>' :: rest => some (([], true), rest)
  | ' ' :: inner =>
    match _h : readAttribute? inner with
    | none => none
    | some (e, rest) => (readAttributes? rest).map fun r => ((e :: r.1.1, r.1.2), r.2)
  | _ => none
termination_by cs.length
decreasing_by
  have := length_of_readAttribute? _h
  simp only [List.length_cons]
  omega

/-- Whether a character may be part of the name that a tag begins with. -/
def inName (c : Char) : Bool := c ≠ ' ' && c ≠ '>'

/-- Reads a start tag and returns what comes after it. -/
def read? : List Char → Option (Contents × List Char)
  | '<' :: cs =>
    (readAttributes? (cs.dropWhile inName)).map fun r =>
      (⟨String.ofList (cs.takeWhile inName), r.1.1, r.1.2⟩, r.2)
  | _ => none

/-! ## What is written is read -/

/-- Whether a text may be a name in a tag: it is not empty and holds neither blanks nor the signs
that a reader goes by. -/
def isLegible (s : String) : Bool :=
  s ≠ "" && s.toList.all fun c =>
    !Text.isBlank c && c ≠ '\x22' && c ≠ '=' && c ≠ '/' && c ≠ '<' && c ≠ '>'

structure Legible (q : Option String) (name : String) (m : Mapping) : Prop where
  qualifier : ∀ p ∈ q, isLegible p = true
  name : isLegible name = true
  attributes : ∀ n ∈ m.keys, isLegible n = true

/-- Up to a character that fails a test, where all characters before it pass. -/
theorem takeWhile_upTo {p : Char → Bool} {xs : List Char} {c : Char} (hxs : xs.all p = true)
    (hc : p c = false) (rest : List Char) :
    (xs ++ c :: rest).takeWhile p = xs ∧ (xs ++ c :: rest).dropWhile p = c :: rest := by
  rw [List.all_eq_true] at hxs
  rw [List.takeWhile_append_of_pos hxs, List.dropWhile_append_of_pos hxs]
  simp [hc]

theorem isLegible_all {s : String} (h : isLegible s = true) :
    ∀ c ∈ s.toList, c ≠ ' ' ∧ c ≠ '=' ∧ c ≠ '/' ∧ c ≠ '>' := by
  simp only [isLegible, Bool.and_eq_true, List.all_eq_true] at h
  intro c hc
  have hall := h.2 c hc
  simp only [decide_eq_true_eq, Bool.not_eq_true'] at hall
  refine ⟨?_, hall.1.1.1.2, hall.1.1.2, hall.2⟩
  rintro rfl
  exact absurd hall.1.1.1.1.1 (by decide)

theorem readAttribute?_attributeText {n : String} (hn : isLegible n = true) (v : String)
    (rest : List Char) :
    readAttribute? (n.toList ++ '=' :: '\x22' :: ((Text.escape v).toList ++ '\x22' :: rest)) =
      some ((n, v), rest) := by
  have hname : n.toList.all (fun c => decide (c ≠ '=')) = true := by
    rw [List.all_eq_true]
    exact fun c hc => by simpa using (isLegible_all hn c hc).2.1
  have hvalue : (Text.escape v).toList.all (fun c => decide (c ≠ '\x22')) = true := by
    have hb := escape_bare v
    rw [List.all_eq_true] at hb ⊢
    intro c hc
    have := hb c hc
    simp_all [isBareChar]
  obtain ⟨ht, hd⟩ := takeWhile_upTo (c := '=') hname (by decide)
    ('\x22' :: ((Text.escape v).toList ++ '\x22' :: rest))
  obtain ⟨ht', hd'⟩ := takeWhile_upTo (c := '\x22') hvalue (by decide) rest
  have hdec : Text.decodeChars (Text.escape v).toList = v.toList := by
    rw [Text.escape, String.toList_ofList, Text.decodeChars_escapeChars]
  simp only [readAttribute?, ht, hd, ht', hd', hdec, String.ofList_toList]

theorem attributeText_append (n v : String) (rest : List Char) :
    (attributeText n v).toList ++ rest =
      ' ' :: (n.toList ++ '=' :: '\x22' :: ((Text.escape v).toList ++ '\x22' :: rest)) := by
  simp [attributeText]

theorem readAttributes?_attributeText {n : String} (hn : isLegible n = true) (v : String)
    (rest : List Char) :
    readAttributes? ((attributeText n v).toList ++ rest) =
      (readAttributes? rest).map fun r => (((n, v) :: r.1.1, r.1.2), r.2) := by
  have hread := readAttribute?_attributeText hn v rest
  -- the name begins with a character that is no slash, so the tag does not end here
  obtain ⟨c, cs, hcs⟩ : ∃ c cs, n.toList = c :: cs := by
    cases h : n.toList with
    | nil => simp [String.toList_eq_nil_iff.mp h, isLegible] at hn
    | cons c cs => exact ⟨c, cs, rfl⟩
  have hc : c ≠ '/' := (isLegible_all hn c (by simp [hcs])).2.2.1
  rw [attributeText_append, readAttributes?.eq_def]
  rw [hcs] at hread ⊢
  simp only [List.cons_append] at hread ⊢
  split
  · simp_all
  · simp_all
  · split <;> simp_all
  · simp_all

/-- How a start tag ends. -/
def ending (closed : Bool) : String := if closed then " />" else ">"

theorem readAttributes?_ending (closed : Bool) (rest : List Char) :
    readAttributes? ((ending closed).toList ++ rest) = some (([], closed), rest) := by
  cases closed <;> simp [ending, readAttributes?]

theorem readAttributes?_attributes {a : Attributes} (ha : ∀ n ∈ a.keys, isLegible n = true)
    (closed : Bool) (rest : List Char) :
    readAttributes? ((attributes a).toList ++ ((ending closed).toList ++ rest)) =
      some ((a.entries, closed), rest) := by
  obtain ⟨entries, hd⟩ := a
  simp only [OrderedMap.keys, attributes] at ha ⊢
  clear hd
  induction entries with
  | nil => simpa using readAttributes?_ending closed rest
  | cons e entries ih =>
    rw [List.map_cons, List.forall_mem_cons] at ha
    rw [List.foldr_cons, String.toList_append, List.append_assoc,
      readAttributes?_attributeText ha.1, ih ha.2]
    rfl

theorem qualified_inName {q : Option String} {name : String}
    (hq : ∀ p ∈ q, isLegible p = true) (hn : isLegible name = true) :
    (qualified q name).toList.all inName = true := by
  have hlegible : ∀ {s : String}, isLegible s = true → s.toList.all inName = true := by
    intro s hs
    rw [List.all_eq_true]
    intro c hc
    obtain ⟨hspace, -, -, hclose⟩ := isLegible_all hs c hc
    simp [inName, hspace, hclose]
  unfold qualified
  split
  · exact hlegible hn
  · rename_i p
    split
    · exact hlegible hn
    · have hcolon : ":".toList.all inName = true := by decide
      simp only [String.toList_append, List.all_append, hlegible (hq p rfl), hcolon,
        hlegible hn, Bool.and_self]

section
variable {q q' : Option String} {name name' : String} {m m' : Mapping}

theorem opening_append (q : Option String) (name : String) (a : Attributes) (closed : Bool)
    (rest : List Char) : (opening q name a closed).toList ++ rest =
      '<' :: ((qualified q name).toList ++
        ((attributes a).toList ++ ((ending closed).toList ++ rest))) := by
  cases closed <;> simp [opening, start, single, ending]

/-- A tag is read back as what it was written for, whatever comes after it. -/
theorem read?_opening (h : Legible q name m) (closed : Bool) (rest : List Char) :
    read? ((opening q name (.ofMapping m) closed).toList ++ rest) =
      some (⟨qualified q name, m.entries.map fun e => (e.1, e.2.toText), closed⟩, rest) := by
  -- behind the name stands the space of an attribute or the end of the tag
  obtain ⟨c, tail, htail, hc⟩ : ∃ c tail, (attributes (.ofMapping m)).toList ++
      ((ending closed).toList ++ rest) = c :: tail ∧ inName c = false := by
    unfold attributes
    cases (Attributes.ofMapping m).entries with
    | nil =>
      cases closed with
      | false => exact ⟨'>', rest, by simp [ending], by decide⟩
      | true => exact ⟨' ', '/' :: '>' :: rest, by simp [ending], by decide⟩
    | cons e entries =>
      rw [List.foldr_cons, String.toList_append, List.append_assoc, attributeText_append]
      exact ⟨_, _, rfl, by decide⟩
  have ha : ∀ n ∈ (Attributes.ofMapping m).keys, isLegible n = true := by
    simpa [Attributes.ofMapping, OrderedMap.map, OrderedMap.keys] using h.attributes
  have hread := readAttributes?_attributes ha closed rest
  obtain ⟨ht, hd⟩ := takeWhile_upTo (qualified_inName h.qualifier h.name) hc tail
  rw [htail] at hread
  rw [opening_append, htail]
  simp only [read?, ht, hd, hread, Option.map_some, String.ofList_toList]
  rfl

/-- Tags with legible names that are written alike are alike. -/
theorem opening_inj (h : Legible q name m) (h' : Legible q' name' m') {closed closed' : Bool}
    (he : opening q name (.ofMapping m) closed = opening q' name' (.ofMapping m') closed') :
    qualified q name = qualified q' name' ∧
      Attributes.ofMapping m = Attributes.ofMapping m' ∧ closed = closed' := by
  have hread := read?_opening h closed []
  rw [he, read?_opening h' closed' []] at hread
  simp only [Option.some.injEq, Prod.mk.injEq, Contents.mk.injEq] at hread
  obtain ⟨⟨hq, ha, hc⟩, -⟩ := hread
  exact ⟨hq.symm, OrderedMap.ext ha.symm, hc.symm⟩

end

/-- **Start tags can be read back.** A tag with legible names is read as its qualified name, its
attributes with the texts of their values, in order, and whether it closes itself; the values may be
any, and so may what comes after the tag. Two such tags that are written alike agree in all this. -/
theorem opening_legible (q : Option String) (name : String) (m : Mapping) (closed : Bool)
    (h : Legible q name m) :
    (∀ rest, read? ((opening q name (.ofMapping m) closed).toList ++ rest) =
        some (⟨qualified q name, m.entries.map fun e => (e.1, e.2.toText), closed⟩, rest)) ∧
      ∀ q' name' m' closed', Legible q' name' m' →
        opening q' name' (.ofMapping m') closed' = opening q name (.ofMapping m) closed →
          qualified q' name' = qualified q name ∧
            Attributes.ofMapping m' = Attributes.ofMapping m ∧ closed' = closed :=
  ⟨read?_opening h closed, fun _ _ _ _ h' he => opening_inj h' h he⟩

/-- An alternative text that looks like the end of its tag, and a width. -/
def hostileImage : Mapping := .ofList [("alt", .text "\x22 /><b>&quot;"), ("width", .integer 5)]

theorem hostileImage_read :
    Legible (some "x") "img" hostileImage ∧
      read? ((opening (some "x") "img" (.ofMapping hostileImage) true).toList ++ "<p>".toList) =
        some (⟨"x:img", [("alt", "\x22 /><b>&quot;"), ("width", "5")], true⟩, "<p>".toList) := by
  have h : Legible (some "x") "img" hostileImage := by
    refine ⟨fun p hp => ?_, by decide, by decide⟩
    obtain rfl := Option.some.inj hp
    decide
  refine ⟨h, ?_⟩
  rw [(opening_legible (some "x") "img" hostileImage true h).1 "<p>".toList]
  decide

end Tag

end EventMarkup
