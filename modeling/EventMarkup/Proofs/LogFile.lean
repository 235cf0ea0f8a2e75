import EventMarkup.Command.Run
import EventMarkup.Proofs.Files

/-!
# The file of the log

Whatever a log is told, it writes to its own file and nowhere else: the disk stays as it was off the
place of that file (`Disk.AgreesOff`, `Log.tellAll_agrees`). On the command line a log can always be
set up, unless the path of its file holds a null character (`Command.configure_cases`).
-/
namespace EventMarkup

namespace Disk

/-- Whether two disks have the same directories, and the same files off a place if there is one. -/
structure AgreesOff (place? : Option Place) (d d' : Disk) : Prop where
  tree : d.SameTree d'
  octets (place : Place) : place? ≠ some place → d'.octets? place = d.octets? place

theorem AgreesOff.refl (place? : Option Place) (d : Disk) : AgreesOff place? d d :=
  ⟨⟨rfl, rfl⟩, fun _ _ => rfl⟩

theorem append_agrees (d : Disk) (place : Place) (bytes : List UInt8) :
    AgreesOff (some place) d (d.append place bytes) :=
  ⟨d.sameTree_put place _, fun _ h => d.octets?_put_of_ne (fun he => h (congrArg some he.symm)) _⟩

section
variable {place? : Option Place} {d d' d'' : Disk} (h : AgreesOff place? d d')
include h

theorem AgreesOff.trans (h' : AgreesOff place? d' d'') : AgreesOff place? d d'' :=
  ⟨⟨h'.tree.home.trans h.tree.home, h'.tree.directories.trans h.tree.directories⟩,
    fun place hne => (h'.octets place hne).trans (h.octets place hne)⟩

/-- A file is there and holds the same on both disks, if it is not the one at the place. -/
theorem AgreesOff.read_iff {path : String}
    (hne : ∀ place, d.find path = .ok place → place? ≠ some place) (bytes : List UInt8) :
    d'.read path = .ok bytes ↔ d.read path = .ok bytes := by
  cases hfind : d.find path with
  | ok place =>
    rw [read, read, hfind, h.tree.find hfind]
    simp only [bind, Except.bind, h.octets place (hne place hfind)]
  | error cause =>
    have hlost : ∀ place, d'.find path ≠ .ok place := by
      intro place hplace
      rw [h.tree.find_iff, hfind] at hplace
      cases hplace
    cases hfind' : d'.find path with
    | ok place => exact absurd hfind' (hlost place)
    | error cause' =>
      rw [read, read, hfind, hfind']
      constructor <;> intro hbytes <;> cases hbytes

end

end Disk

namespace Log

open Disk

/-! ## Telling a log -/

/-- What a log is told comes to its own file. -/
theorem tell_agrees (time : String) (l : Log) (disk : Disk) (r : Record) :
    (l.tell time disk r).1.file = l.file ∧ AgreesOff l.file disk (l.tell time disk r).2 := by
  unfold tell
  split
  · refine ⟨rfl, ?_⟩
    cases hfile : l.file with
    | none => exact .refl _ _
    | some place => exact disk.append_agrees place _
  · exact ⟨rfl, .refl _ _⟩

theorem tellAll_agrees (time : String) (l : Log) (disk : Disk) (rs : List Record) :
    (l.tellAll time disk rs).1.file = l.file ∧
      AgreesOff l.file disk (l.tellAll time disk rs).2 := by
  induction rs generalizing l disk with
  | nil => exact ⟨rfl, .refl _ _⟩
  | cons r rs ih =>
    obtain ⟨hfile, hdisk⟩ := l.tell_agrees time disk r
    obtain ⟨hfile', hdisk'⟩ := ih (l.tell time disk r).1 (l.tell time disk r).2
    rw [hfile] at hfile' hdisk'
    exact ⟨hfile', hdisk.trans hdisk'⟩

/-- The file that a log gets is one that can be opened. -/
theorem attach_agrees {l : Log} (hl : l.file = none) (host : Host) (disk : Disk) (path : String) :
    let place? := (host.find disk .openLog (Path.absolute disk.home path)).toOption
    (l.attach disk path host).1.file = place? ∧
      AgreesOff place? disk (l.attach disk path host).2.1 := by
  intro place?
  unfold attach
  dsimp only [place?]
  cases host.find disk .openLog (Path.absolute disk.home path) with
  | error cause => exact ⟨hl, .refl _ _⟩
  | ok place => exact ⟨rfl, disk.append_agrees place _⟩

section
variable {t : Threshold} {traced : Bool} {rank : Int} (ht : rankFor t traced = .ok rank)
  (time : String) (disk : Disk) (host : Host)
include ht

theorem configure_none :
    configure time disk t none traced host = .done disk { threshold := rank, traced } := by
  simp only [configure, ht]

theorem configure_null {path : String} (hnull : Path.hasNull path = true) :
    configure time disk t (some path) traced host = .fail disk .nullInPath := by
  have hne : path ≠ "" := by
    rintro rfl
    cases hnull
  simp only [configure, ht, hnull, if_true]

/-- A log whose file is asked for by a path that can be one is set up, whether or not it gets the
file. -/
theorem configure_path {path : String} (hne : path ≠ "") (hnull : Path.hasNull path = false) :
    let place? := (host.find disk .openLog (Path.absolute disk.home path)).toOption
    ∃ l disk', configure time disk t (some path) traced host = .done disk' l ∧
      l.file = place? ∧ AgreesOff place? disk disk' := by
  intro place?
  obtain ⟨hfile, hattached⟩ :=
    attach_agrees (l := { threshold := rank, traced }) rfl host disk path
  rw [configure, ht]
  simp only [hnull, Bool.false_eq_true, if_false]
  generalize attach _ disk path host = attached at hfile hattached
  obtain ⟨l, disk', n⟩ := attached
  obtain ⟨hfile', htold⟩ := l.tell_agrees time disk' n.record
  dsimp only at hfile hattached
  rw [hfile] at hfile' htold
  exact ⟨_, _, rfl, hfile', hattached.trans htold⟩

end

end Log

namespace Command

open Disk

/-! ## Setting a log up -/

/-- The place of the file for the log, if it has one. -/
def Settings.logPlace? (s : Settings) (host : Host) (disk : Disk) : Option Place :=
  s.logPath.bind fun path =>
    (host.find disk .openLog (Path.absolute disk.home path)).toOption

/-- Whether the path of the file for the log can be one at all. -/
def Settings.LogPathSound (s : Settings) : Prop := ∀ path ∈ s.logPath, Path.hasNull path = false

theorem logPath_ne_empty (s : Settings) : s.logPath ≠ some "" := by
  intro h
  obtain ⟨w, -, hw⟩ := Option.bind_eq_some_iff.mp h
  cases w with
  | nothing => cases hw
  | text t =>
    rw [Word.path?] at hw
    split at hw
    · cases hw
    · rename_i ht
      exact ht (Option.some.inj hw)

/-- The command line names no threshold that a log refuses. -/
theorem threshold_resolves (s : Settings) :
    ∃ rank, Log.rankFor (threshold s) s.trace = .ok rank := by
  unfold Log.rankFor
  split
  · exact ⟨_, rfl⟩
  · rw [threshold]
    cases s.logLevel with
    | none => exact ⟨30, by decide⟩
    | some level => cases level <;> exact ⟨_, rfl⟩

/-- The log of a run is set up, with its file if that can be opened, or the path of the file holds a
null character. -/
theorem configure_cases (host : Host) (time : String) (disk : Disk) (s : Settings) :
    let setUp := Log.configure time disk (threshold s) s.logPath s.trace host
    ¬s.LogPathSound ∧ setUp = .fail disk .nullInPath ∨
      s.LogPathSound ∧ ∃ l disk', setUp = .done disk' l ∧ l.file = s.logPlace? host disk ∧
        AgreesOff (s.logPlace? host disk) disk disk' := by
  obtain ⟨rank, hrank⟩ := threshold_resolves s
  generalize threshold s = t at hrank
  unfold Settings.LogPathSound Settings.logPlace?
  cases hpath : s.logPath with
  | none =>
    exact .inr ⟨fun _ h => absurd h (Option.not_mem_none _), _, disk,
      Log.configure_none hrank time disk host, rfl, .refl _ _⟩
  | some path =>
    have hne : path ≠ "" := fun h => logPath_ne_empty s (h ▸ hpath)
    cases hnull : Path.hasNull path with
    | true =>
      refine .inl ⟨fun h => ?_, Log.configure_null hrank time disk host hnull⟩
      rw [h path rfl] at hnull
      cases hnull
    | false =>
      rw [Option.bind_some]
      refine .inr ⟨?_, Log.configure_path hrank time disk host hne hnull⟩
      rintro _ ⟨⟩
      exact hnull

end Command

end EventMarkup
