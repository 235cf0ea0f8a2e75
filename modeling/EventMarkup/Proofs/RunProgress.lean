import EventMarkup.Proofs.LogFile
import EventMarkup.Proofs.RunPages

/-!
# Runs in progress

A run tells its log what goes on, and that leaves alone all files but the log's own
(`Command.Progress.Keeps.note`). So what is delivered to an emptied file stays there
(`Command.Progress.Keeps.delivered`). A run gets its output or is refused it, and then renders its
page as if it were not strict (`Command.renderText_created`).
-/
namespace EventMarkup

open Disk

namespace Disk

/-- Whether the file at a path has a place and holds some octets. -/
structure HasFile (d : Disk) (path : String) (place : Place) (bytes : List UInt8) : Prop where
  found : d.find path = .ok place
  holds : d.octets? place = some bytes

theorem HasFile.read {d : Disk} {path : String} {place : Place} {bytes : List UInt8}
    (h : d.HasFile path place bytes) : d.read path = .ok bytes := by
  simp only [Disk.read, h.found, bind, Except.bind, h.holds]
  rfl

/-- What is written over an emptied file stays there, whatever happens elsewhere before and after.
-/
theorem hasFile_overwritten {place? : Option Place} {place : Place} {path : String}
    {bytes : List UInt8} {d d₁ d₂ : Disk} (hne : place? ≠ some place)
    (hfind : d.find path = .ok place) (h₁ : AgreesOff place? (d.put place []) d₁)
    (h₂ : AgreesOff place? (d₁.overwrite place bytes) d₂) : d₂.HasFile path place bytes := by
  have hempty : d₁.octets? place = some [] := by rw [h₁.octets place hne, octets?_put]
  refine ⟨h₂.tree.find (find_put (h₁.tree.find (find_put hfind place [])) place _), ?_⟩
  rw [h₂.octets place hne, overwrite, octets?_put, hempty]
  simp

theorem SameTree.find_host_iff {d d' : Disk} (h : d.SameTree d') {host : Host} {act : FileAct}
    {path : String} {place : Place} :
    host.find d' act path = .ok place ↔ host.find d act path = .ok place := by
  rw [Host.find_eq_ok_iff, Host.find_eq_ok_iff, h.find_iff]

end Disk

/-! ## Getting an output -/

namespace Sink

section
variable (host : Host) (disk : Disk) {o : Options}

theorem create_standard : create disk .everything (some (.full o)) (.stream .textLayer) host =
    ⟨disk, [.sinkCreated none], .ok (.fresh o (.standard host o))⟩ := rfl

variable (hnull : Text.Charset.hasNull o.encoding = false)
include hnull

theorem create_nullPath {path : String} (hpath : Path.hasNull path = true) :
    create disk .everything (some (.full o)) (.file path) host = .fail disk .nullInPath := by
  simp only [create, chooseOptions, SinkOptions.toBasic, Destination.acquire, hnull, hpath,
    Bool.false_eq_true, if_false, if_true]
  rfl

theorem create_lost {path : String} {cause : Cause} (hpath : Path.hasNull path = false)
    (hfind : host.find disk .openOutput path = .error cause) :
    create disk .everything (some (.full o)) (.file path) host =
      .fail disk (.output (some path) .write cause) := by
  simp only [create, chooseOptions, SinkOptions.toBasic, Destination.acquire, hnull, hpath, hfind,
    Bool.false_eq_true, if_false]
  rfl

theorem create_found {path : String} {place : Place} {codec : Codec}
    (hpath : Path.hasNull path = false) (hfind : host.find disk .openOutput path = .ok place)
    (hcodec : host.codec? o.encoding = some codec) :
    create disk .everything (some (.full o)) (.file path) host = ⟨disk.put place [],
      [.sinkCreated (some path)], .ok (.fresh o (.filed host o path place codec))⟩ := by
  simp only [create, chooseOptions, SinkOptions.toBasic, Destination.acquire, hnull, hpath, hfind,
    hcodec, Bool.false_eq_true, if_false]
  rfl

end

end Sink

namespace Command

/-! ## Runs in progress -/

/-- Whether a run in progress has its log in some place and left alone the rest of a disk. -/
structure Progress.Keeps (log? : Option Place) (disk : Disk) (p : Progress) : Prop where
  log : p.log.file = log?
  disk : AgreesOff log? disk p.disk

section
variable {log? : Option Place} {disk : Disk} {p : Progress} (h : p.Keeps log? disk)
include h

theorem Progress.Keeps.note (time : String) (ns : List Notice) :
    (p.note time ns).Keeps log? disk := by
  obtain ⟨hfile, hdisk⟩ := p.log.tellAll_agrees time p.disk (ns.map Notice.record)
  rw [h.log] at hfile hdisk
  exact ⟨hfile, h.disk.trans hdisk⟩

theorem Progress.Keeps.delivered {place : Place} {path : String} {bytes : List UInt8}
    {d : Disk} {out : Destination} (hdisk : disk = d.put place [])
    (hfind : d.find path = .ok place) (hne : log? ≠ some place)
    (hstore : ∀ disk, out.store disk = disk.overwrite place bytes) (time : String)
    (ns : List Notice) : ((p.deliver out).note time ns).disk.HasFile path place bytes := by
  have hover : (p.deliver out).Keeps log? (p.disk.overwrite place bytes) := by
    refine ⟨h.log, ?_⟩
    rw [Progress.deliver, hstore]
    exact .refl _ _
  exact Disk.hasFile_overwritten hne hfind (hdisk ▸ h.disk) (hover.note time ns).disk

end

theorem Progress.Keeps.start (p : Progress) : p.Keeps p.log.file p.disk := ⟨rfl, .refl _ _⟩

/-! ## Rendering -/

section
variable (host : Host) (time : String) (p : Progress) (s : Settings) (o : Options) (text : String)

theorem renderText_refused {f : Fault}
    (hcreate : Sink.create p.disk .everything (some (.full o)) (target s) host =
      .fail p.disk f) : renderText time p s o text host = (p, .error f) := by
  simp only [renderText, hcreate]
  rfl

/-- A run whose output is open renders its page as if it were not strict. -/
theorem renderText_created {disk : Disk} {ns : List Notice} {k : Sink}
    (hv : k.vocabulary = .everything)
    (hcreate : Sink.create p.disk .everything (some (.full o)) (target s) host =
      ⟨disk, ns, .ok k⟩) :
    let page := (Session.start k 0).page Wiki.BlockReader.usual text
    let closed := page.after.sink.close
    renderText time p s o text host =
      (((({ p with disk } : Progress).note time ns).note time page.notices).deliver
          closed.after.destination |>.note time closed.notices,
        lastFault page.result closed.result) := by
  intro page closed
  obtain ⟨hnotices, hresult, hclosing⟩ := renderPage_strict hv s.strict text
  simp only [renderText, hcreate, Progress.through]
  generalize renderPage k s.strict text = guarded at hnotices hresult hclosing ⊢
  obtain ⟨after, notices, result⟩ := guarded
  obtain rfl : notices = page.notices := hnotices
  obtain rfl : result = page.result := hresult
  have hclosed (failed : Bool) (hok : failed = false → page.result = .ok ()) :
      (after.leave failed).notices = closed.notices ∧ (after.leave failed).result = closed.result ∧
        (after.leave failed).after.sink = closed.after := by
    obtain ⟨gs, hleave⟩ := hclosing failed hok
    rw [hleave]
    exact ⟨rfl, rfl, rfl⟩
  cases hr : page.result with
  | error f =>
    obtain ⟨h₁, h₂, h₃⟩ := hclosed true fun h => by cases h
    simp only [h₁, h₂, h₃]
  | ok u =>
    obtain ⟨h₁, h₂, h₃⟩ := hclosed false fun _ => hr
    simp only [h₁, h₂, h₃]

end

end Command

end EventMarkup
