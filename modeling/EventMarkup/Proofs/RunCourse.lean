import EventMarkup.Proofs.RunProgress
import EventMarkup.Proofs.UniformLines

/-!
# The course of a run

A run checks its options, reads its input, opens its output and writes the page, in this order, and
stops where it fails. So a run that fails before it opens its output leaves that as it was, and one
that comes to its end leaves the page there (`Command.Course`, `Command.perform_course`).
-/
namespace EventMarkup

open Disk

theorem Wiki.pieces_normalize (o : Options) (e : Text.LineEnding) (t : String) :
    pieces o (Text.normalize e t) = pieces o t := by
  have hcursor : Cursor.ofText (Text.normalize e t) = .ofText t := by
    rw [Cursor.ofText, Text.lines_normalize]
    rfl
  rw [pieces, hcursor]
  rfl

namespace Command

/-! ## The course of a run -/

/-- Whether a run gets as far as to open its output, with options and with the text of its input. -/
structure Ready (host : Host) (disk : Disk) (input : String) (s : Settings) (o : Options)
    (t : String) : Prop where
  options : s.options = .ok o
  input : Source.Contains host disk input o.encoding t

/-- Whether a run brings the page of a text to its output, as items. The standard output must take
the pieces of the page; a file must be opened, and take them as its codec writes them. -/
inductive Delivers (host : Host) (disk : Disk) (s : Settings) (o : Options) (t : String) :
    List Item → Prop where
  | shown (output : s.outputPath = none)
      (passes : (host.stream .textLayer).Passes ((Wiki.pieces o t).map .text)) :
      Delivers host disk s o t ((Wiki.pieces o t).map .text)
  | written {path : String} {place : Place} {codec : Codec} {items : List Item}
      (output : s.outputPath = some path) (opened : host.find disk .openOutput path = .ok place)
      (known : host.codec? o.encoding = some codec)
      (encoded : codec.Writes #[] (Wiki.pieces o t) items)
      (passes : (host.file path).Passes items) : Delivers host disk s o t items

/-- How a run goes on from a disk with its log set up: to what result, and which disk it leaves
behind. A run that stops before its output is open leaves that as it was. -/
inductive Course (host : Host) (log? : Option Place) (disk : Disk) (input : String)
    (s : Settings) : Except Fault Unit → Disk → Prop where
  | refused {f : Fault} {disk' : Disk} (options : s.options = .error f)
      (kept : AgreesOff log? disk disk') : Course host log? disk input s (.error f) disk'
  | unread {o : Options} {f : Fault} {disk' : Disk} (options : s.options = .ok o)
      (text : Source.fileText disk input o.encoding host = .error f)
      (kept : AgreesOff log? disk disk') : Course host log? disk input s (.error f) disk'
  | nullPath {o : Options} {t path : String} {disk' : Disk} (ready : Ready host disk input s o t)
      (output : s.outputPath = some path) (null : Path.hasNull path = true)
      (kept : AgreesOff log? disk disk') : Course host log? disk input s (.error .nullInPath) disk'
  | failed {o : Options} {t : String} {f : Fault} {disk' : Disk}
      (ready : Ready host disk input s o t)
      (sound : ∀ path ∈ s.outputPath, Path.hasNull path = false)
      (lost : ∀ items, ¬Delivers host disk s o t items) (kind : f.report.kind = .output) :
      Course host log? disk input s (.error f) disk'
  | delivered {o : Options} {t : String} {items : List Item} {disk' : Disk}
      (ready : Ready host disk input s o t)
      (sound : ∀ path ∈ s.outputPath, Path.hasNull path = false)
      (delivers : Delivers host disk s o t items)
      (holds : ∀ path ∈ s.outputPath, ∀ place, disk.find path = .ok place → log? ≠ some place →
        disk'.HasFile path place (items.flatMap Item.bytes)) :
      Course host log? disk input s (.ok ()) disk'

/-! ## Deliveries -/

section
variable {host : Host} {disk : Disk} {s : Settings} {o : Options} {t : String} {items : List Item}

theorem delivers_standard_iff (houtput : s.outputPath = none) :
    Delivers host disk s o t items ↔
      (Destination.standard host o).Takes #[] (Wiki.pieces o t) items ∧
        { Destination.standard host o with sent := items.toArray }.flushFailure? = none := by
  rw [Destination.standard_flushFailure]
  constructor
  · intro h
    cases h with
    | shown output passes =>
      exact ⟨Destination.text_takes_iff.mpr ⟨rfl, passes.taken⟩, passes.flushed⟩
    | written output => cases houtput.symm.trans output
  · rintro ⟨htakes, hflushed⟩
    obtain ⟨rfl, htaken⟩ := Destination.text_takes_iff.mp htakes
    exact .shown houtput ⟨htaken, hflushed⟩

theorem delivers_written_iff {path : String} {place : Place} {codec : Codec}
    (houtput : s.outputPath = some path) (hfound : host.find disk .openOutput path = .ok place)
    (hcodec : host.codec? o.encoding = some codec) :
    let d := Destination.filed host o path place codec
    Delivers host disk s o t items ↔
      d.Takes #[] (Wiki.pieces o t) items ∧
        { d with sent := items.toArray }.flushFailure? = none := by
  intro d
  constructor
  · intro h
    cases h with
    | shown output => cases houtput.symm.trans output
    | written output opened known encoded passes =>
      obtain rfl := Option.some.inj (houtput.symm.trans output)
      obtain rfl := Except.ok.inj (hfound.symm.trans opened)
      obtain rfl := Option.some.inj (hcodec.symm.trans known)
      exact ⟨Destination.file_takes_iff.mpr ⟨encoded, passes.taken⟩, passes.flushed⟩
  · rintro ⟨htakes, hflushed⟩
    obtain ⟨hencoded, htaken⟩ := Destination.file_takes_iff.mp htakes
    exact .written houtput hfound hcodec hencoded ⟨htaken, hflushed⟩

end

section
variable {host : Host} {log? : Option Place} {disk : Disk} {p : Progress}
  (h : p.Keeps log? disk) {input : String} {s : Settings} {o : Options} {t : String}
  (hready : Ready host disk input s o t)
include hready

theorem renderText_shown (houtput : s.outputPath = none) (time : String) :
    let r := renderText time p s o (Text.normalize .lf t) host
    Course host log? disk input s r.2 r.1.disk := by
  have hnone (path : String) : path ∉ s.outputPath := by rw [houtput]; exact Option.not_mem_none _
  have hcreate : Sink.create p.disk .everything (some (.full o)) (target s) host =
      ⟨p.disk, [.sinkCreated none], .ok (.fresh o (.standard host o))⟩ := by
    rw [target, houtput]
    exact Sink.create_standard host p.disk
  have hpage := Session.page_arrives o (Destination.standard_reports host o) rfl rfl
    (Text.normalize .lf t)
  rw [Wiki.pieces_normalize] at hpage
  rw [renderText_created host time p s o _ rfl hcreate]
  rcases hpage with ⟨items, htakes, hflushed, hsent, hclosed, -⟩ | ⟨hlost, f, hlast, hkind⟩
  · rw [hsent, hclosed]
    exact .delivered hready (fun path hp => absurd hp (hnone path))
      ((delivers_standard_iff houtput).mpr ⟨htakes, hflushed⟩)
      (fun path hp => absurd hp (hnone path))
  · rw [hlast]
    refine .failed hready (fun path hp => absurd hp (hnone path)) (fun items hdelivers => ?_) hkind
    obtain ⟨htakes, hflushed⟩ := (delivers_standard_iff houtput).mp hdelivers
    exact hlost items htakes hflushed

include h

theorem renderText_filed {path : String} (houtput : s.outputPath = some path)
    (hpath : Path.hasNull path = false) (time : String) :
    let r := renderText time p s o (Text.normalize .lf t) host
    Course host log? disk input s r.2 r.1.disk := by
  obtain ⟨hnull, -, -, codec, -, hcodec, -⟩ := hready.input
  have htarget : target s = .file path := by rw [target, houtput]
  have hsound : ∀ p ∈ s.outputPath, Path.hasNull p = false := by
    rw [houtput]
    rintro _ ⟨⟩
    exact hpath
  cases hfind : host.find p.disk .openOutput path with
  | error cause =>
    rw [renderText_refused host time p s o _
      (htarget ▸ Sink.create_lost host p.disk hnull hpath hfind)]
    refine .failed hready hsound (fun items hdelivers => ?_) rfl
    cases hdelivers with
    | shown output => cases houtput.symm.trans output
    | written output opened =>
      obtain rfl := Option.some.inj (houtput.symm.trans output)
      cases hfind.symm.trans (h.disk.tree.find_host_iff.mpr opened)
  | ok place =>
    have hfound := h.disk.tree.find_host_iff.mp hfind
    have hpage := Session.page_arrives o (Destination.filed_reports host o path place codec) rfl rfl
      (Text.normalize .lf t)
    rw [Wiki.pieces_normalize] at hpage
    rw [renderText_created host time p s o _ rfl
      (htarget ▸ Sink.create_found host p.disk hnull hpath hfind hcodec)]
    rcases hpage with ⟨items, htakes, hflushed, hsent, hclosed, hafter⟩ | ⟨hlost, f, hlast, hkind⟩
    · rw [hsent, hclosed]
      refine .delivered hready hsound
        ((delivers_written_iff houtput hfound hcodec).mpr ⟨htakes, hflushed⟩) ?_
      rw [houtput]
      rintro _ ⟨⟩ place' hplace' hne
      obtain rfl := Except.ok.inj ((Host.find_eq_ok_iff.mp hfound).1.symm.trans hplace')
      have hopened : ({ p with disk := p.disk.put place [] } : Progress).Keeps log?
          (p.disk.put place []) := ⟨h.log, .refl _ _⟩
      refine ((hopened.note time _).note time _).delivered rfl (Host.find_eq_ok_iff.mp hfind).1 hne
        (fun d => ?_) time _
      rw [hafter]
      exact (Destination.store_flushed rfl hflushed d).trans (by simp [Destination.octets])
    · rw [hlast]
      refine .failed hready hsound (fun items hdelivers => ?_) hkind
      obtain ⟨htakes, hflushed⟩ := (delivers_written_iff houtput hfound hcodec).mp hdelivers
      exact hlost items htakes hflushed

/-- A run with a text goes on to open its output and to write the page there. -/
theorem renderText_course (time : String) :
    let r := renderText time p s o (Text.normalize .lf t) host
    Course host log? disk input s r.2 r.1.disk := by
  cases houtput : s.outputPath with
  | none => exact renderText_shown hready houtput time
  | some path =>
    cases hpath : Path.hasNull path with
    | false => exact renderText_filed h hready houtput hpath time
    | true =>
      have htarget : target s = .file path := by rw [target, houtput]
      rw [renderText_refused host time p s o _
        (htarget ▸ Sink.create_nullPath host p.disk hready.input.1 hpath)]
      exact .nullPath hready houtput hpath h.disk

end

/-- Nothing that happens to the file of the log matters to the course of a run. -/
theorem Course.after {host : Host} {log? : Option Place} {disk d d' : Disk} {input : String}
    {s : Settings} {r : Except Fault Unit} (h : Course host log? disk input s r d)
    (hd : AgreesOff log? d d') : Course host log? disk input s r d' := by
  cases h with
  | refused options kept => exact .refused options (kept.trans hd)
  | unread options text kept => exact .unread options text (kept.trans hd)
  | nullPath ready output null kept => exact .nullPath ready output null (kept.trans hd)
  | failed ready sound lost kind => exact .failed ready sound lost kind
  | delivered ready sound delivers holds =>
    refine .delivered ready sound delivers fun path hpath place hplace hne => ?_
    have hfile := holds path hpath place hplace hne
    exact ⟨hd.tree.find hfile.found, (hd.octets _ hne).trans hfile.holds⟩

section
variable (host : Host) (time : String) (p : Progress)

theorem note_log (ns : List Notice) : (p.note time ns).log.file = p.log.file :=
  ((Progress.Keeps.start p).note time ns).log

theorem renderText_log (s : Settings) (o : Options) (text : String) :
    (renderText time p s o text host).1.log.file = p.log.file := by
  simp only [renderText]
  split
  · exact note_log time _ _
  · rw [note_log]
    exact (note_log time _ _).trans (note_log time _ _)

/-- A run follows its course. -/
theorem render_course (input : String) (s : Settings) :
    let r := render time p input s host
    r.1.log.file = p.log.file ∧ Course host p.log.file p.disk input s r.2 r.1.disk := by
  simp only [render]
  cases hoptions : s.options with
  | error f => exact ⟨rfl, .refused hoptions (.refl _ _)⟩
  | ok o =>
    cases htext : Source.fileText p.disk input o.encoding host with
    | error f =>
      have hread : (Source.file input).read p.disk o.encoding host = .fail p.disk f := by
        simp only [Source.read, htext]
      simp only [hread]
      exact ⟨rfl, .unread hoptions htext (.refl _ _)⟩
    | ok u =>
      have hread : (Source.file input).read p.disk o.encoding host =
          ⟨p.disk, [.fileRead u.length (Path.normal input)], .ok u⟩ := by
        simp only [Source.read, htext]
      obtain ⟨t, hcontains, rfl⟩ := Source.fileText_eq_ok_iff.mp htext
      have hkeeps := (Progress.Keeps.start p).note time
        [.fileRead (Text.normalize .lf t).length (Path.normal input)]
      have hcourse := renderText_course hkeeps ⟨hoptions, hcontains⟩ time
      have hlog := (renderText_log host time _ s o (Text.normalize .lf t)).trans hkeeps.log
      have hthrough : p.through time ((Source.file input).read p.disk o.encoding host) =
          p.note time [.fileRead (Text.normalize .lf t).length (Path.normal input)] := by
        rw [hread]
        rfl
      simp only [hthrough]
      simp only [hread]
      generalize renderText time _ s o (Text.normalize .lf t) host = r at hcourse hlog ⊢
      obtain ⟨q, result⟩ := r
      cases result with
      | error f => exact ⟨hlog, hcourse⟩
      | ok u =>
        -- the log is told once more of a run that went well
        have hlast := (Progress.Keeps.start q).note time [.rendered input (outputName s)]
        dsimp only at hlog
        rw [hlog] at hlast
        exact ⟨hlast.log, hcourse.after hlast.disk⟩

end

/-! ## From the log to the end -/

/-- How a run ends that came to a result. -/
def Ending.of : Except Fault Unit → Ending
  | .ok _ => .exit 0
  | .error f => if f.report.kind.isOwn then .exit f.report.kind.exitCode else .fault f

/-- The disk of a run once its log is set up. -/
def logged (host : Host) (time : String) (disk : Disk) (s : Settings) : Disk :=
  (Log.configure time disk (threshold s) s.logPath s.trace host).after

theorem conclude_course {host : Host} (time : String) {p : Progress} {log? : Option Place}
    {disk : Disk} {input : String} {s : Settings} {r : Except Fault Unit}
    (hlog : p.log.file = log?) (h : Course host log? disk input s r p.disk) :
    (conclude time p r).ending = .of r ∧
      Course host log? disk input s r (conclude time p r).disk := by
  cases r with
  | ok u => exact ⟨rfl, h⟩
  | error f =>
    have hlast := (Progress.Keeps.start p).note time (errorNotices f.report)
    rw [hlog] at hlast
    simp only [conclude, Ending.of]
    split
    · exact ⟨rfl, h.after hlast.disk⟩
    · exact ⟨rfl, h⟩

/-- A run sets up its log and goes on from there, or ends at once if that cannot be. -/
theorem perform_course (host : Host) (time : String) (disk : Disk) (input : String)
    (s : Settings) :
    let r := perform time disk input s host
    (¬s.LogPathSound ∧ r.ending = .fault .nullInPath ∧ r.disk = disk) ∨
      s.LogPathSound ∧ AgreesOff (s.logPlace? host disk) disk (logged host time disk s) ∧
        ∃ result, r.ending = .of result ∧
          Course host (s.logPlace? host disk) (logged host time disk s) input s result r.disk := by
  rcases configure_cases host time disk s with
    ⟨hnull, hsetUp⟩ | ⟨hsound, l, disk', hsetUp, hfile, hkept⟩
  · exact .inl ⟨hnull, by simp only [perform, hsetUp]; exact ⟨rfl, rfl⟩⟩
  · refine .inr ⟨hsound, ?_, ?_⟩
    · rw [logged, hsetUp]
      exact hkept
    · obtain ⟨hlog, hcourse⟩ := render_course host time { log := l, disk := disk' } input s
      obtain ⟨hending, hcourse⟩ := conclude_course time (hlog.trans hfile) (hfile ▸ hcourse)
      simp only [perform, logged, hsetUp]
      exact ⟨_, hending, hcourse⟩

end Command

end EventMarkup
