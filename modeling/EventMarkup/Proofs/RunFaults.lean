import EventMarkup.Proofs.RunCourse
import EventMarkup.Proofs.RunSettings

/-!
# Faults of runs

Which faults of a run are errors of the library, and so reported with an exit code. A file that
cannot be read is reported as such but for the reasons of `Source.Unreported`. What a course ends
with settles what it left of the output (`Command.Course.kept`, `Command.Course.finished`).
-/
namespace EventMarkup

open Disk

theorem ReportKind.exitCode_ne_zero (k : ReportKind) : k.exitCode ≠ 0 := by
  unfold exitCode
  repeat' split
  all_goals decide

namespace Source

/-- Whether a file cannot be read for a reason that is not reported as such: the label of the
encoding is none, or holds a null character as the path may, or the octets as a whole are refused.
-/
inductive Unreported (host : Host) (disk : Disk) (path encoding : String) : Prop where
  | nullInLabel (null : Text.Charset.hasNull encoding = true)
  | nullInPath (null : Path.hasNull path = true)
  | unknownLabel {bytes : List UInt8} (opened : host.openInput disk path = .ok bytes)
      (unknown : host.codec? encoding = none)
  | refused {bytes : List UInt8} {codec : Codec} {reason : String}
      (opened : host.openInput disk path = .ok bytes) (known : host.codec? encoding = some codec)
      (sound : host.refuses .readInput path = none)
      (refused : codec.decode bytes = .error (.refused reason))

variable {host : Host} {disk : Disk} {path encoding : String}

/-- What a file that cannot be read is reported as. -/
theorem fileText_cases {f : Fault} (h : fileText disk path encoding host = .error f) :
    f.report.kind.isOwn = false ∧ Unreported host disk path encoding ∨ f.report.kind = .file := by
  unfold fileText at h
  split at h
  · rename_i hnull
    cases h
    exact .inl ⟨rfl, .nullInLabel hnull⟩
  · split at h
    · rename_i hnull
      cases h
      exact .inl ⟨rfl, .nullInPath hnull⟩
    · split at h
      · cases h
        exact .inr rfl
      · rename_i bytes hopened
        split at h
        · rename_i hunknown
          cases h
          exact .inl ⟨rfl, .unknownLabel hopened hunknown⟩
        · rename_i codec hknown
          split at h
          · cases h
            exact .inr rfl
          · cases h
          · rename_i hsound hrefused
            cases h
            exact .inl ⟨rfl, .refused hopened hknown hsound hrefused⟩
          · cases h
            exact .inr rfl

theorem unreported_iff : Unreported host disk path encoding ↔
    ∃ f, fileText disk path encoding host = .error f ∧ f.report.kind.isOwn = false := by
  constructor
  · intro h
    -- null characters are refused before the file is opened
    cases hlabel : Text.Charset.hasNull encoding with
    | true => exact ⟨.nullInLabel, by simp [fileText, hlabel], rfl⟩
    | false =>
      cases hpath : Path.hasNull path with
      | true => exact ⟨.nullInPath, by simp [fileText, hlabel, hpath], rfl⟩
      | false =>
        cases h with
        | nullInLabel null => cases hlabel.symm.trans null
        | nullInPath null => cases hpath.symm.trans null
        | unknownLabel opened unknown =>
          exact ⟨.unknownEncoding encoding,
            by simp [fileText, hlabel, hpath, opened, unknown], rfl⟩
        | @refused _ _ reason opened known sound refused =>
          exact ⟨.undecoded reason,
            by simp [fileText, hlabel, hpath, opened, known, sound, refused], rfl⟩
  · rintro ⟨f, hf, hkind⟩
    rcases fileText_cases hf with ⟨-, h⟩ | h
    · exact h
    · rw [h] at hkind
      cases hkind

end Source

namespace Command

namespace Ending

theorem of_own {f : Fault} {k : ReportKind} (h : f.report.kind = k) (hk : k.isOwn = true) :
    Ending.of (.error f) = .exit k.exitCode := by
  simp only [Ending.of, h, hk, if_true]

theorem of_foreign {f : Fault} (h : f.report.kind.isOwn = false) :
    Ending.of (.error f) = .fault f := by
  simp only [Ending.of, h, Bool.false_eq_true, if_false]

theorem of_eq_zero {r : Except Fault Unit} (h : Ending.of r = .exit 0) : r = .ok () := by
  cases r with
  | ok u => rfl
  | error f =>
    simp only [Ending.of] at h
    split at h
    · exact absurd (Ending.exit.inj h) (ReportKind.exitCode_ne_zero _)
    · cases h

end Ending

section
variable {host : Host} {log? : Option Place} {disk d : Disk} {input : String} {s : Settings}
  {r : Except Fault Unit} (h : Course host log? disk input s r d)
include h

/-- A run that ends for its options or its input leaves alone all files but that of the log. -/
theorem Course.kept (hr : Ending.of r = .exit 3 ∨ Ending.of r = .exit 4) :
    AgreesOff log? disk d := by
  cases h with
  | refused options kept => exact kept
  | unread options text kept => exact kept
  | nullPath ready output null kept => exact kept
  | failed ready sound lost kind =>
    rw [Ending.of_own kind rfl] at hr
    rcases hr with hr | hr <;> cases hr
  | delivered => rcases hr with hr | hr <;> cases hr

/-- No run ends for a page that cannot be read. -/
theorem Course.not_parsing : Ending.of r ≠ .exit 6 := by
  intro hr
  cases h with
  | refused options kept =>
    rcases options_kind options with ⟨-, rfl⟩ | ⟨-, hkind⟩
    · cases hr
    · cases (Ending.of_own hkind rfl).symm.trans hr
  | unread options text kept =>
    rcases Source.fileText_cases text with ⟨hkind, -⟩ | hkind
    · cases (Ending.of_foreign hkind).symm.trans hr
    · cases (Ending.of_own hkind rfl).symm.trans hr
  | failed ready sound lost kind => cases (Ending.of_own kind rfl).symm.trans hr
  | nullPath => cases hr
  | delivered => cases hr

/-- A run that ends well has its page in its output, as its codec writes the pieces of it. -/
theorem Course.finished {path : String} (hr : Ending.of r = .exit 0)
    (houtput : s.outputPath = some path) : ∃ o t codec place items, Ready host disk input s o t ∧
      host.codec? o.encoding = some codec ∧ codec.Writes #[] (Wiki.pieces o t) items ∧
      disk.find path = .ok place ∧
      (log? ≠ some place → d.HasFile path place (items.flatMap Item.bytes)) := by
  obtain rfl := Ending.of_eq_zero hr
  cases h with
  | delivered ready sound delivers holds =>
    cases delivers with
    | shown output => cases houtput.symm.trans output
    | written output opened known encoded passes =>
      obtain rfl := Option.some.inj (houtput.symm.trans output)
      have hfound := (Host.find_eq_ok_iff.mp opened).1
      exact ⟨_, _, _, _, _, ready, known, encoded, hfound, holds path output _ hfound⟩

end

end Command

end EventMarkup
