import EventMarkup.Proofs.LineEndings
import EventMarkup.Session
import EventMarkup.Source

/-!
# Lines and their endings

The lines of a text do not tell how they end. Line endings may be made uniform without one being
lost: where all become CR, no LF is left that could pass for the second half of one. So a page is
read alike from a text and from a file, whose line endings all become line feeds.

* `Text.replaceLineEndings_eq_leftmost`: what is replaced are the leftmost line endings, each as
  long as can be.
* `Text.lines_normalize`: the lines of a text stay.
* `Source.fileText_eq_ok_iff`: which files can be read, and what they give.
* `line_endings_unseen`: what follows for a page.
-/
namespace EventMarkup

namespace Text

/-- The characters with every line ending replaced, from the left and the longer one first. -/
def replaceLeftmost (sep : List Char) : List Char → List Char
  | [] => []
  | '\r' :: '\n' :: rest => sep ++ replaceLeftmost sep rest
  | '\r' :: rest => sep ++ replaceLeftmost sep rest
  | '\n' :: rest => sep ++ replaceLeftmost sep rest
  | c :: rest => c :: replaceLeftmost sep rest

theorem replaceLineEndings_eq_leftmost (sep cs : List Char) :
    replaceLineEndings sep cs = replaceLeftmost sep cs := by
  fun_induction replaceLeftmost sep cs with
  | case1 => rfl
  | case2 rest ih => simp [replaceLineEndings, lineUnit, ih]
  | case3 rest hnext ih =>
    have hhead : rest.head? ≠ some '\n' := by
      intro h
      obtain ⟨rest', rfl⟩ := List.head?_eq_some_iff.mp h
      exact hnext rest' rfl
    simp [replaceLineEndings, lineUnit, ih, hhead]
  | case4 rest ih => simp [replaceLineEndings, lineUnit, ih]
  | case5 c rest _ hcr hlf ih =>
    have hunit : lineUnit sep c rest.head? = [c] := by
      rw [lineUnit, if_neg hlf, if_neg hcr]
    rw [replaceLineEndings, hunit, ih]
    rfl

/-! ## Lines -/

/-- With CR for every line ending there is no LF left that could follow one. -/
theorem feed_notMem_replace_cr (cs : List Char) :
    '\n' ∉ replaceLineEndings LineEnding.cr.chars cs := by
  induction cs with
  | nil => exact List.not_mem_nil
  | cons c cs ih =>
    rw [replaceLineEndings, List.mem_append, not_or]
    refine ⟨?_, ih⟩
    unfold lineUnit
    split
    · decide
    · rename_i hlf
      split
      · split <;> decide
      · simpa using Ne.symm hlf

/-- A line ending ends one line, unless it is a CR that becomes half of one. -/
theorem lineChars_ending (e : LineEnding) {cs : List Char}
    (h : e = .cr → cs.head? ≠ some '\n') : lineChars (e.chars ++ cs) = [] :: lineChars cs := by
  cases e with
  | lf => simp [LineEnding.chars, lineChars, isTerminator]
  | crlf => simp [LineEnding.chars, lineChars, isTerminator]
  | cr => simp [LineEnding.chars, lineChars, isTerminator, h rfl]

theorem lineChars_replaceLineEndings (e : LineEnding) (cs : List Char) :
    lineChars (replaceLineEndings e.chars cs) = lineChars cs := by
  induction cs with
  | nil => rfl
  | cons c cs ih =>
    have hending : lineChars (e.chars ++ replaceLineEndings e.chars cs) = [] :: lineChars cs := by
      rw [lineChars_ending, ih]
      rintro rfl hhead
      exact feed_notMem_replace_cr cs (List.mem_of_head? hhead)
    rw [replaceLineEndings, lineUnit, lineChars]
    split
    · rename_i hc
      rw [hending]
      simp [hc, isTerminator]
    · split
      · rename_i hc
        split
        · rename_i hhead
          simpa [hc, hhead] using ih
        · rename_i hhead
          rw [hending]
          simp [hc, hhead, isTerminator]
      · rename_i hc
        simp [lineChars, hc, ih]

/-- The lines of a text do not depend on its line endings. -/
theorem lines_normalize (e : LineEnding) (t : String) : lines (normalize e t) = lines t := by
  rw [lines, normalize, String.toList_ofList, lineChars_replaceLineEndings]
  rfl

end Text

namespace Source

/-! ## Files -/

/-- Whether the file at a path can be opened and read, and its octets are a text in an encoding. -/
def Contains (host : Host) (disk : Disk) (path encoding t : String) : Prop :=
  Text.Charset.hasNull encoding = false ∧ Path.hasNull path = false ∧
    ∃ bytes codec, host.openInput disk path = .ok bytes ∧ host.codec? encoding = some codec ∧
      host.refuses .readInput path = none ∧ codec.decode bytes = .ok t

section
variable {host : Host} {disk : Disk} {path encoding : String}

/-- A file is read just if it contains a text, and gives that text with line feeds. -/
theorem fileText_eq_ok_iff {u : String} : fileText disk path encoding host = .ok u ↔
    ∃ t, Contains host disk path encoding t ∧ Text.normalize .lf t = u := by
  cases hlabel : Text.Charset.hasNull encoding with
  | true => simp [fileText, Contains, hlabel]
  | false =>
    cases hpath : Path.hasNull path with
    | true => simp [fileText, Contains, hlabel, hpath]
    | false =>
      cases hopen : host.openInput disk path with
      | error cause => simp [fileText, Contains, hlabel, hpath, hopen]
      | ok bytes =>
        cases hcodec : host.codec? encoding with
        | none => simp [fileText, Contains, hlabel, hpath, hopen, hcodec]
        | some codec =>
          cases hrefused : host.refuses .readInput path with
          | some cause => simp [fileText, Contains, hlabel, hpath, hopen, hcodec, hrefused]
          | none =>
            cases hdecode : codec.decode bytes with
            | ok t => simp [fileText, Contains, hlabel, hpath, hopen, hcodec, hrefused, hdecode]
            | error f =>
              cases f <;>
                simp [fileText, Contains, hlabel, hpath, hopen, hcodec, hrefused, hdecode]

theorem result_file_iff {u : String} : ((file path).read disk encoding host).result = .ok u ↔
    ∃ t, Contains host disk path encoding t ∧ Text.normalize .lf t = u := by
  rw [← fileText_eq_ok_iff, read]
  cases fileText disk path encoding host <;> simp [Outcome.fail]

end

end Source

open Wiki

/-- **Line endings are not seen.** A text with all its line endings replaced by one has the same
lines, so a cursor goes through it alike, counting included; every list of readers finds the same
blocks in it or refuses it alike; and in any session it makes the same page. What is read from a
file is like the text that the file contains. -/
theorem line_endings_unseen (e : Text.LineEnding) (t : String) :
    let u := Text.normalize e t
    u.toList = Text.replaceLeftmost e.chars t.toList ∧
      Text.lines u = Text.lines t ∧
      Cursor.ofText u = .ofText t ∧
      (∀ readers, readBlocks readers (.ofText u) = readBlocks readers (.ofText t)) ∧
      (∀ (s : Session) readers, s.page readers u = s.page readers t) ∧
      ∀ host disk path encoding, Source.Contains host disk path encoding t →
        ((Source.file path).read disk encoding host).result = .ok (Text.normalize .lf t) ∧
          Cursor.ofText (Text.normalize .lf t) = .ofText t := by
  intro u
  have hcursor (e : Text.LineEnding) : Cursor.ofText (Text.normalize e t) = .ofText t := by
    rw [Cursor.ofText, Text.lines_normalize]
    rfl
  have hread (readers : List BlockReader) :
      readBlocks readers (.ofText u) = readBlocks readers (.ofText t) := by rw [hcursor]
  have hpage (s : Session) (readers : List BlockReader) : s.page readers u = s.page readers t := by
    rw [Session.page, hread]
    rfl
  have hchars : u.toList = Text.replaceLeftmost e.chars t.toList := by
    rw [← Text.replaceLineEndings_eq_leftmost]
    exact String.toList_ofList
  refine ⟨hchars, Text.lines_normalize e t, hcursor e, hread, hpage, ?_⟩
  exact fun host disk path encoding h =>
    ⟨Source.result_file_iff.mpr ⟨t, h, rfl⟩, hcursor .lf⟩

/-- A disk with a file in which each line ends in another way; a next line character ends a line
and stays. -/
def mixedDisk : Disk :=
  { files := [(["page.txt"], [0x61, 0x0d, 0x0a, 0x62, 0x85, 0x0d, 0x63, 0x0a])] }

theorem mixedDisk_read :
    ((Source.file "page.txt").read mixedDisk "latin-1").result = .ok "a\nb\u0085\nc\n" ∧
      Cursor.ofText "a\nb\u0085\nc\n" = ⟨[], ["a", "b", "", "c"], false⟩ := by
  have hcontains : Source.Contains {} mixedDisk "page.txt" "latin-1" "a\r\nb\u0085\rc\n" :=
    ⟨by decide, by decide, _, Text.Charset.latin1, rfl, rfl, rfl, rfl⟩
  obtain ⟨-, -, -, -, -, hfile⟩ := line_endings_unseen .crlf "a\r\nb\u0085\rc\n"
  exact hfile {} mixedDisk "page.txt" "latin-1" hcontains

end EventMarkup
