import EventMarkup.Proofs.RunFaults

/-!
# Runs of the command line

A run touches its output last, so a run that ends for its options or its input leaves the output as
it was, and one that ends well leaves the page there, on whatever host (`output_written_last`).
Whether a run is strict is of no consequence (`Command.perform_strict`).
-/
namespace EventMarkup

open Disk

theorem exists_rendersAs (o : Options) (t : String) : ∃ w, ∀ guards, RendersAs o guards t w := by
  obtain ⟨blocks, c, hread, -⟩ := Wiki.readBlocks_neat t
  exact ⟨_, fun guards => rendersAs_markup o guards hread⟩

/-- What a file contains does not depend on files elsewhere. -/
theorem Source.Contains.of_agrees {host : Host} {place? : Option Place} {d d' : Disk}
    {path encoding t : String} (h : Contains host d' path encoding t)
    (hd : AgreesOff place? d d') (hne : ∀ place, d.find path = .ok place → place? ≠ some place) :
    Contains host d path encoding t := by
  obtain ⟨hlabel, hpath, bytes, codec, hopened, hrest⟩ := h
  obtain ⟨hbytes, hallowed⟩ := Host.openInput_eq_ok_iff.mp hopened
  have hbefore := (hd.read_iff hne bytes).mp hbytes
  exact ⟨hlabel, hpath, bytes, codec, Host.openInput_eq_ok_iff.mpr ⟨hbefore, hallowed⟩, hrest⟩

/-- A codec of one of the six sets writes texts so that they are read as one. -/
theorem Text.Charset.decode_written {c : Charset} {ts : List String} {items : List Item}
    (h : c.codec.Writes #[] ts items) :
    let bytes := items.flatMap Item.bytes
    c.decode bytes = .ok (String.join ts) ∧
      (c.mark = [] → c.encode true (String.join ts) = .ok bytes) := by
  obtain ⟨hcovers, rfl⟩ := codec_writes_iff.mp h
  refine ⟨c.decode_items_once hcovers, fun hmark => ?_⟩
  rw [c.encode_eq, if_pos ((c.covers_join_iff ts).mpr hcovers), if_pos rfl]
  cases ts with
  | nil =>
    rw [hmark]
    rfl
  | cons t ts => rw [c.octets_items_once hcovers]

namespace Command

/-! ## Strict runs -/

section
variable (host : Host) (time : String) (s : Settings) (strict : Bool)

theorem renderText_strict (p : Progress) (o : Options) (text : String) :
    renderText time p { s with strict } o text host = renderText time p s o text host := by
  have htarget : target { s with strict } = target s := rfl
  cases hcreate : Sink.create p.disk .everything (some (.full o)) (target s) host with
  | mk disk ns result =>
    cases result with
    | error f => simp only [renderText, htarget, hcreate]
    | ok k =>
      obtain ⟨d, rfl⟩ := Sink.create_fresh (congrArg Outcome.result hcreate)
      rw [renderText_created host time p s o text rfl hcreate,
        renderText_created host time p { s with strict } o text rfl hcreate]

/-- It is of no consequence to a run whether it is strict. -/
theorem perform_strict (disk : Disk) (input : String) :
    perform time disk input { s with strict } host = perform time disk input s host := by
  have hrender (p : Progress) :
      render time p input { s with strict } host = render time p input s host := by
    have hoptions : ({ s with strict } : Settings).options = s.options := rfl
    have hname : outputName { s with strict } = outputName s := rfl
    simp only [render, hoptions, hname, renderText_strict]
  have hthreshold : threshold { s with strict } = threshold s := rfl
  have hpath : ({ s with strict } : Settings).logPath = s.logPath := rfl
  simp only [perform, hrender, hthreshold, hpath]

end

end Command

open Command in
/-- **The output is written last.** Let a command line name an output that is not the file of its
log. On any host:

* If the run ends for its options or its input, with exit code 3 or 4, then no file is touched but
  that of the log, and the output is there or not as before and holds the same.
* No run ends with exit code 6: every page can be read.
* If the run ends well, the output holds the page: the octets that its codec writes of the pieces
  that a sink with these options makes of the text that the input contained once the log was set up,
  and so as it was before if the input is not the file of the log. In one of the six sets they are
  read as the markup of the page, and are the encoding of it if the set has no mark.
* The same command line, strict or not, makes the same run. -/
theorem output_written_last (host : Host) (time : String) (disk : Disk) {arguments : List String}
    {input path : String} {s : Settings} (hread : Command.read arguments host = .run input s)
    (houtput : s.outputPath = some path)
    (hlog : ∀ place, disk.find path = .ok place → s.logPlace? host disk ≠ some place) :
    let r := run time disk arguments host
    (r.ending = .exit 3 ∨ r.ending = .exit 4 → AgreesOff (s.logPlace? host disk) disk r.disk ∧
      ∀ bytes, r.disk.read path = .ok bytes ↔ disk.read path = .ok bytes) ∧
    r.ending ≠ .exit 6 ∧
    (r.ending = .exit 0 → ∃ o t w codec items, s.options = .ok o ∧
      Source.Contains host (logged host time disk s) input o.encoding t ∧
      ((∀ place, disk.find input = .ok place → s.logPlace? host disk ≠ some place) →
        Source.Contains host disk input o.encoding t) ∧
      (∀ guards, RendersAs o guards t w) ∧ String.join (Wiki.pieces o t) = w ∧
      host.codec? o.encoding = some codec ∧ codec.Writes #[] (Wiki.pieces o t) items ∧
      let bytes := items.flatMap Item.bytes
      r.disk.read path = .ok bytes ∧
      ∀ c, Text.Charset.ofLabel? o.encoding = some c →
        c.decode bytes = .ok w ∧ (c.mark = [] → c.encode true w = .ok bytes)) ∧
    ∀ strict arguments', Command.read arguments' host = .run input { s with strict } →
      run time disk arguments' host = r := by
  intro r
  have hr : r = perform time disk input s host := by simp only [r, run, hread]
  have hstrict : ∀ strict arguments', Command.read arguments' host = .run input { s with strict } →
      run time disk arguments' host = r := by
    intro strict arguments' hread'
    rw [hr, ← perform_strict host time s strict disk input]
    simp only [run, hread']
  rcases perform_course host time disk input s with
    ⟨-, hending, -⟩ | ⟨-, hlogged, result, hending, hcourse⟩
  · rw [← hr] at hending
    refine ⟨?_, ?_, ?_, hstrict⟩ <;> rw [hending]
    · rintro (h | h) <;> cases h
    · intro h
      cases h
    · intro h
      cases h
  · rw [← hr] at hending hcourse
    rw [hending]
    refine ⟨fun h => ?_, hcourse.not_parsing, fun h => ?_, hstrict⟩
    · have hkept := hlogged.trans (hcourse.kept h)
      exact ⟨hkept, hkept.read_iff hlog⟩
    · obtain ⟨o, t, codec, place, items, hready, hcodec, hwrites, hfound, hholds⟩ :=
        hcourse.finished h houtput
      obtain ⟨w, hw⟩ := exists_rendersAs o t
      have hjoin := Wiki.join_pieces (hw 0)
      have hplace := hlog place (hlogged.tree.find_iff.mp hfound)
      refine ⟨o, t, w, codec, items, hready.options, hready.input, hready.input.of_agrees hlogged,
        hw, hjoin, hcodec, hwrites, (hholds hplace).read, fun c hc => ?_⟩
      obtain rfl := Option.some.inj ((Host.codec?_of_label hc).symm.trans hcodec)
      rw [← hjoin]
      exact Text.Charset.decode_written hwrites

/-- A disk with a page in Latin-1 and an older output. -/
def staleDisk : Disk :=
  { files := [(["page.txt"], [0x4b, 0xe4, 0x73, 0x65]), (["out.html"], [0x6f, 0x6c, 0x64])] }

def staleArguments : List String :=
  ["page.txt", "-o", "out.html", "--encoding", "latin-1", "--strict", "--log-file", "x.log"]

def staleSettings : Command.Settings :=
  { input := some "page.txt"
    output := some (.text "out.html")
    strict := true
    changes := { encoding := some "latin-1" }
    logFile := some (.text "x.log") }

open Command in
theorem staleOutput_rewritten :
    let r := run "now" staleDisk staleArguments
    staleDisk.read "out.html" = .ok [0x6f, 0x6c, 0x64] ∧ r.ending = .exit 0 ∧
      (∃ o t w bytes, staleSettings.options = .ok o ∧
        Source.Contains {} staleDisk "page.txt" o.encoding t ∧ RendersAs o 1 t w ∧
        r.disk.read "out.html" = .ok bytes ∧ Text.Charset.latin1.encode true w = .ok bytes) ∧
      run "now" staleDisk (staleArguments.erase "--strict") = r := by
  intro r
  have hread : Command.read staleArguments = .run "page.txt" staleSettings := rfl
  have hloose : Command.read (staleArguments.erase "--strict") =
      .run "page.txt" { staleSettings with strict := false } := rfl
  have hplaces : staleDisk.read "out.html" = .ok [0x6f, 0x6c, 0x64] ∧ r.ending = .exit 0 ∧
      staleDisk.find "page.txt" = .ok ["page.txt"] ∧
      staleDisk.find "out.html" = .ok ["out.html"] ∧
      staleSettings.logPlace? {} staleDisk = some ["x.log"] := by decide +kernel
  obtain ⟨hbefore, hending, hinput, houtput, hlog⟩ := hplaces
  have hapart {path : String} {place : Place} (hne : ["x.log"] ≠ place)
      (hfind : staleDisk.find path = .ok place) (found : Place) :
      staleDisk.find path = .ok found → staleSettings.logPlace? {} staleDisk ≠ some found := by
    intro hfound
    obtain rfl := Except.ok.inj (hfind.symm.trans hfound)
    rw [hlog]
    exact fun h => hne (Option.some.inj h)
  obtain ⟨-, -, hdone, hstrict⟩ :=
    output_written_last {} "now" staleDisk hread rfl (hapart (by decide) houtput)
  obtain ⟨o, t, w, codec, items, hoptions, -, hcontains, hw, -, -, -, hbytes, hset⟩ := hdone hending
  have htext := hcontains (hapart (by decide) hinput)
  have hlabel : staleSettings.options.toOption.bind
      (fun o => Text.Charset.ofLabel? o.encoding) = some .latin1 := by decide +kernel
  rw [hoptions] at hlabel
  exact ⟨hbefore, hending, ⟨o, t, w, _, hoptions, htext, hw 1, hbytes, (hset .latin1 hlabel).2 rfl⟩,
    hstrict false _ hloose⟩

/-- The Western code page, as far as it agrees with Latin-1, and its euro sign. -/
def western : Codec where
  decode bytes := .ok <| String.ofList <| bytes.map fun b =>
    if b = 0x80 then '€' else Char.ofNat b.toNat
  encode _ t := .ok <| t.toList.map fun c => if c = '€' then 0x80 else UInt8.ofNat c.toNat

/-- A host that knows a seventh set, and leaves the separator to a flag as its word. -/
def westernHost : Host where
  dropsSeparator := false
  others label := if label = "cp1252" then some western else none

example :
    let r := Command.run "now" { files := [(["page.txt"], [0x80])] }
      ["page.txt", "--output=--", "--encoding", "cp1252"] westernHost
    r.ending = .exit 0 ∧
      r.disk.read "--" = .ok [0x3c, 0x70, 0x3e, 0x80, 0x3c, 0x2f, 0x70, 0x3e] := by
  decide +kernel

end EventMarkup
