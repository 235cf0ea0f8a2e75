import EventMarkup.Proofs.CommandRuns

/-!
# Exit codes

A run ends with the exit code of what went wrong, or with none if that is reported as no error of
the library (`Command.Unreported`): a null character in a path or in the label of an encoding, an
encoding that there is not, octets that a codec refuses as a whole, as UTF-16 does those that do not
tell their order, and a line ending that is asked for but not named. In all other cases it can be
told from the options, the input and the output which code it is (`Command.Verdict`, `exit_codes`).
-/
namespace EventMarkup

open Disk

namespace Command

/-- Whether something goes wrong with a run that is reported as no error of the library. -/
inductive Unreported (host : Host) (disk : Disk) (input : String) (s : Settings) : Prop where
  | logPath (null : ¬s.LogPathSound)
  | lineEnding (unnamed : s.lineEnding = some none)
  | input {o : Options} (options : s.options = .ok o)
      (unreported : Source.Unreported host disk input o.encoding)
  | outputPath {o : Options} {t path : String} (ready : Ready host disk input s o t)
      (output : s.outputPath = some path) (null : Path.hasNull path = true)

/-- Which exit code a run deserves. -/
inductive Verdict (host : Host) (disk : Disk) (input : String) (s : Settings) : Nat → Prop where
  | delivered {o : Options} {t : String} {items : List Item}
      (ready : Ready host disk input s o t) (delivers : Delivers host disk s o t items) :
      Verdict host disk input s 0
  | invalid {f : Fault} (options : s.options = .error f) : Verdict host disk input s 3
  | unread {o : Options} (options : s.options = .ok o)
      (unread : ∀ t, ¬Source.Contains host disk input o.encoding t) : Verdict host disk input s 4
  | undelivered {o : Options} {t : String} (ready : Ready host disk input s o t)
      (lost : ∀ items, ¬Delivers host disk s o t items) : Verdict host disk input s 7

section
variable {host : Host} {disk : Disk} {input : String} {s : Settings}

/-! ## One verdict -/

theorem Ready.unique {o o' : Options} {t t' : String} (h : Ready host disk input s o t)
    (h' : Ready host disk input s o' t') : o = o' ∧ t = t' := by
  obtain rfl : o = o' := Except.ok.inj (h.options.symm.trans h'.options)
  obtain ⟨-, -, bytes, codec, hopened, hknown, -, htext⟩ := h.input
  obtain ⟨-, -, bytes', codec', hopened', hknown', -, htext'⟩ := h'.input
  obtain rfl : bytes = bytes' := Except.ok.inj (hopened.symm.trans hopened')
  obtain rfl : codec = codec' := Option.some.inj (hknown.symm.trans hknown')
  exact ⟨rfl, Except.ok.inj (htext.symm.trans htext')⟩

theorem Ready.readable {o o' : Options} {t : String} (h : Ready host disk input s o t)
    (options : s.options = .ok o') : Source.Contains host disk input o'.encoding t := by
  obtain rfl : o = o' := Except.ok.inj (h.options.symm.trans options)
  exact h.input

theorem Verdict.unique {m n : Nat} (hm : Verdict host disk input s m)
    (hn : Verdict host disk input s n) : m = n := by
  cases hm with
  | delivered ready delivers =>
    cases hn with
    | delivered => rfl
    | invalid options => cases ready.options.symm.trans options
    | unread options unread => exact absurd (ready.readable options) (unread _)
    | undelivered ready' lost =>
      obtain ⟨rfl, rfl⟩ := ready.unique ready'
      exact absurd delivers (lost _)
  | invalid options =>
    cases hn with
    | invalid => rfl
    | delivered ready => cases options.symm.trans ready.options
    | unread options' => cases options.symm.trans options'
    | undelivered ready => cases options.symm.trans ready.options
  | unread options unread =>
    cases hn with
    | unread => rfl
    | delivered ready => exact absurd (ready.readable options) (unread _)
    | invalid options' => cases options.symm.trans options'
    | undelivered ready => exact absurd (ready.readable options) (unread _)
  | undelivered ready lost =>
    cases hn with
    | undelivered => rfl
    | delivered ready' delivers =>
      obtain ⟨rfl, rfl⟩ := ready.unique ready'
      exact absurd delivers (lost _)
    | invalid options => cases ready.options.symm.trans options
    | unread options unread => exact absurd (ready.readable options) (unread _)

/-! ## What is reported -/

theorem Ready.reported {o : Options} {t : String} (h : Ready host disk input s o t)
    (hlog : s.LogPathSound)
    (houtput : ∀ path ∈ s.outputPath, Path.hasNull path = false) :
    ¬Unreported host disk input s := by
  rintro (hnull | hunnamed | ⟨options, hunreported⟩ | ⟨-, output, null⟩)
  · exact hnull hlog
  · cases h.options.symm.trans (options_unnamed hunnamed)
  · obtain ⟨f, hf, -⟩ := Source.unreported_iff.mp hunreported
    cases hf.symm.trans (Source.fileText_eq_ok_iff.mpr ⟨t, h.readable options, rfl⟩)
  · cases null.symm.trans (houtput _ output)

theorem invalid_reported {f : Fault} (h : s.options = .error f) (hlog : s.LogPathSound)
    (hnamed : s.lineEnding ≠ some none) : ¬Unreported host disk input s := by
  rintro (hnull | hunnamed | ⟨options, -⟩ | ⟨ready, -, -⟩)
  · exact hnull hlog
  · exact hnamed hunnamed
  · cases h.symm.trans options
  · cases h.symm.trans ready.options

theorem unread_reported {o : Options} {f : Fault} (h : s.options = .ok o)
    (hf : Source.fileText disk input o.encoding host = .error f)
    (hkind : f.report.kind.isOwn = true) (hlog : s.LogPathSound) :
    ¬Unreported host disk input s := by
  rintro (hnull | hunnamed | ⟨options, hunreported⟩ | ⟨ready, -, -⟩)
  · exact hnull hlog
  · cases h.symm.trans (options_unnamed hunnamed)
  · obtain rfl := Except.ok.inj (h.symm.trans options)
    obtain ⟨f', hf', hkind'⟩ := Source.unreported_iff.mp hunreported
    obtain rfl := Except.error.inj (hf.symm.trans hf')
    cases hkind.symm.trans hkind'
  · cases hf.symm.trans (Source.fileText_eq_ok_iff.mpr ⟨_, ready.readable h, rfl⟩)

/-! ## Verdicts -/

/-- A run ends with the exit code that it deserves, or with none for something that is not reported.
-/
theorem Course.verdict {log? : Option Place} {d : Disk} {r : Except Fault Unit}
    (h : Course host log? disk input s r d) (hlog : s.LogPathSound) :
    ((∃ f, Ending.of r = .fault f) ∧ Unreported host disk input s) ∨
      (∃ code, Ending.of r = .exit code ∧ Verdict host disk input s code) ∧
        ¬Unreported host disk input s := by
  cases h with
  | refused options kept =>
    rcases options_kind options with ⟨hunnamed, rfl⟩ | ⟨hnamed, hkind⟩
    · exact .inl ⟨⟨_, rfl⟩, .lineEnding hunnamed⟩
    · exact .inr ⟨⟨3, Ending.of_own hkind rfl, .invalid options⟩,
        invalid_reported options hlog hnamed⟩
  | unread options text kept =>
    rcases Source.fileText_cases text with ⟨hkind, hunreported⟩ | hkind
    · exact .inl ⟨⟨_, Ending.of_foreign hkind⟩, .input options hunreported⟩
    · refine .inr ⟨⟨4, Ending.of_own hkind rfl, .unread options fun t ht => ?_⟩,
        unread_reported options text (by rw [hkind]; rfl) hlog⟩
      cases text.symm.trans (Source.fileText_eq_ok_iff.mpr ⟨t, ht, rfl⟩)
  | nullPath ready output null kept => exact .inl ⟨⟨_, rfl⟩, .outputPath ready output null⟩
  | failed ready sound lost kind =>
    exact .inr ⟨⟨7, Ending.of_own kind rfl, .undelivered ready lost⟩, ready.reported hlog sound⟩
  | delivered ready sound delivers holds =>
    exact .inr ⟨⟨0, rfl, .delivered ready delivers⟩, ready.reported hlog sound⟩

variable (host disk) in
/-- In one of the six sets a page is delivered to a file just if that can be opened, the set covers
the markup and the device passes the octets. -/
theorem delivers_filed_iff {o : Options} {t w path : String} {c : Text.Charset}
    (houtput : s.outputPath = some path) (hlabel : Text.Charset.ofLabel? o.encoding = some c)
    (hw : RendersAs o 0 t w) :
    (∃ items, Delivers host disk s o t items) ↔
      (∃ place, host.find disk .openOutput path = .ok place) ∧ c.covers w = true ∧
        (host.file path).Passes (c.items false (Wiki.pieces o t)) := by
  have hcovers := Wiki.join_pieces hw ▸ c.covers_join_iff (Wiki.pieces o t)
  have hcodec : host.codec? o.encoding = some c.codec := Host.codec?_of_label hlabel
  constructor
  · rintro ⟨items, hdelivers⟩
    cases hdelivers with
    | shown output => cases houtput.symm.trans output
    | written output opened known encoded passes =>
      obtain rfl := Option.some.inj (houtput.symm.trans output)
      obtain rfl := Option.some.inj (hcodec.symm.trans known)
      obtain ⟨hall, rfl⟩ := Text.Charset.codec_writes_iff.mp encoded
      exact ⟨⟨_, opened⟩, hcovers.mpr hall, passes⟩
  · rintro ⟨⟨place, opened⟩, hcovered, passes⟩
    exact ⟨_, .written houtput opened hcodec
      (Text.Charset.codec_writes_iff.mpr ⟨hcovers.mp hcovered, rfl⟩) passes⟩

end

end Command

open Command in
/-- **Exit codes.** Let the arguments of a run be accepted, on any host, and look at the disk once
the log is set up.

* The run ends with a fault, which is no exit code, just if something goes wrong that is reported as
  no error of the library.
* Otherwise it ends with the exit code that it deserves: 3 for options that are not valid, 4 for an
  input that cannot be opened, read or decoded, 7 for an output that cannot be opened or does not
  take the page, and 0 if the page arrives.
* If the output is a file in one of the six sets, the page arrives just if the file can be opened,
  the set covers the markup and the device behind the file takes the octets.
* Only a host that drops the separator from a flag reads a line ending that is not named. -/
theorem exit_codes (host : Host) (time : String) (disk : Disk) {arguments : List String}
    {input : String} {s : Settings} (hread : Command.read arguments host = .run input s) :
    let r := run time disk arguments host
    let d := logged host time disk s
    ((∃ f, r.ending = .fault f) ↔ Unreported host d input s) ∧
      (¬Unreported host d input s → ∀ code, r.ending = .exit code ↔ Verdict host d input s code) ∧
      (∀ o t w c path, s.outputPath = some path → Text.Charset.ofLabel? o.encoding = some c →
        RendersAs o 0 t w →
        ((∃ items, Delivers host d s o t items) ↔
          (∃ place, host.find d .openOutput path = .ok place) ∧ c.covers w = true ∧
            (host.file path).Passes (c.items false (Wiki.pieces o t)))) ∧
      (host.dropsSeparator = false → s.lineEnding ≠ some none) := by
  intro r d
  have hr : r = perform time disk input s host := by simp only [r, run, hread]
  have hdelivers (o : Options) (t w : String) (c : Text.Charset) (path : String)
      (houtput : s.outputPath = some path) (hlabel : Text.Charset.ofLabel? o.encoding = some c)
      (hw : RendersAs o 0 t w) := delivers_filed_iff host d houtput hlabel hw
  have hnamed : host.dropsSeparator = false → s.lineEnding ≠ some none :=
    fun h => read_named h hread
  rcases perform_course host time disk input s with
    ⟨hnull, hending, -⟩ | ⟨hlog, -, result, hending, hcourse⟩
  · have hunreported : Unreported host d input s := .logPath hnull
    rw [hr]
    exact ⟨⟨fun _ => hunreported, fun _ => ⟨_, hending⟩⟩, fun h => absurd hunreported h, hdelivers,
        hnamed⟩
  · rw [hr, hending]
    rcases hcourse.verdict hlog with ⟨hfault, hunreported⟩ | ⟨⟨code, hcode, hverdict⟩, hreported⟩
    · exact ⟨⟨fun _ => hunreported, fun _ => hfault⟩, fun h => absurd hunreported h, hdelivers,
        hnamed⟩
    · rw [hcode]
      refine ⟨⟨?_, fun h => absurd h hreported⟩, fun _ code' => ⟨?_, fun h => ?_⟩, hdelivers,
        hnamed⟩
      · rintro ⟨f, hf⟩
        cases hf
      · intro h
        cases h
        exact hverdict
      · rw [hverdict.unique h]

def foreignArguments : List String :=
  ["page.txt", "-o", "out.html", "--encoding", "latin-1", "--namespace", "€"]

def foreignSettings : Command.Settings :=
  { input := some "page.txt"
    output := some (.text "out.html")
    changes := { encoding := some "latin-1", qualifier := some (some (.text "€")) } }

open Command in
/-- The tags of the page have a qualifier that Latin-1 has no octet for. -/
theorem foreignQualifier_undelivered :
    let r := run "now" staleDisk foreignArguments
    let d := logged {} "now" staleDisk foreignSettings
    r.ending = .exit 7 ∧ ¬Unreported {} d "page.txt" foreignSettings ∧
      Verdict {} d "page.txt" foreignSettings 7 := by
  intro r d
  have hread : Command.read foreignArguments = .run "page.txt" foreignSettings := rfl
  have hending : r.ending = .exit 7 := by decide +kernel
  obtain ⟨hfault, hverdict, -⟩ := exit_codes {} "now" staleDisk hread
  have hreported : ¬Unreported {} d "page.txt" foreignSettings := by
    intro h
    obtain ⟨f, hf⟩ := hfault.mpr h
    cases hending.symm.trans hf
  exact ⟨hending, hreported, (hverdict hreported 7).mp hending⟩

/-- A disk with a page in UTF-16 that lacks its mark. -/
def unmarkedDisk : Disk :=
  { files := [(["page.txt"], [0x61, 0x00, 0x62, 0x00])] }

open Command in
/-- The octets cannot be decoded, and no exit code says so. -/
theorem unmarkedPage_unreported :
    let arguments := ["page.txt", "--encoding", "utf-16"]
    let r := run "now" unmarkedDisk arguments
    (∃ s, Command.read arguments = .run "page.txt" s) ∧
      r.ending = .fault (.undecoded "UTF-16 stream does not start with BOM") ∧
      ∀ code, r.ending ≠ .exit code := by
  intro arguments r
  have hending : r.ending = .fault (.undecoded "UTF-16 stream does not start with BOM") := by
    decide
  refine ⟨⟨_, rfl⟩, hending, fun code hcode => ?_⟩
  cases hending.symm.trans hcode

/-- A page that may not be read, and a standard output that is full. -/
example :
    let disk : Disk := { files := [(["page.txt"], [0x61])] }
    let denied : Host :=
      { refuses := fun act _ =>
          if act = .openInput then some (.system "PermissionError" 13 "Permission denied")
          else none }
    let full : Host :=
      { stream := fun _ =>
          { refusesFlush := fun _ => some (.system "OSError" 28 "No space left on device") } }
    (Command.run "now" disk ["page.txt"] denied).ending = .exit 4 ∧
      (Command.run "now" disk ["page.txt"] full).ending = .exit 7 := by
  decide +kernel

end EventMarkup
