import EventMarkup.Proofs.SinkUse

/-!
# Files on a disk

What is written to a file is read from it (`Disk.read_put`), because the way to a file does not lead
through the contents of files (`Disk.find_put`). A file that was emptied first holds what was
written over it and nothing else (`Disk.read_overwrite`), and a sink that writes to a file has
emptied it (`Sink.create_file`).
-/
namespace EventMarkup

namespace Disk

theorem octets?_put (d : Disk) (place : Place) (bytes : List UInt8) :
    (d.put place bytes).octets? place = some bytes := by
  obtain ⟨home, directories, files⟩ := d
  simp only [put, octets?]
  induction files with
  | nil => simp [replace]
  | cons file files ih =>
    obtain ⟨p, old⟩ := file
    by_cases hp : p = place
    · simp [replace, hp]
    · have hne : (place == p) = false := beq_false_of_ne (Ne.symm hp)
      simp [replace, hp, List.lookup_cons, hne, ih]

theorem octets?_put_of_ne (d : Disk) {place other : Place} (h : other ≠ place)
    (bytes : List UInt8) : (d.put place bytes).octets? other = d.octets? other := by
  obtain ⟨home, directories, files⟩ := d
  simp only [put, octets?]
  induction files with
  | nil => simp [replace, h]
  | cons file files ih =>
    obtain ⟨p, old⟩ := file
    by_cases hp : p = place
    · subst hp
      simp [replace, List.lookup_cons, beq_false_of_ne h]
    · simp only [replace, if_neg hp, List.lookup_cons, ih]

/-! ## Ways to a file -/

/-- Whether two disks have the same directories. -/
structure SameTree (d d' : Disk) : Prop where
  home : d'.home = d.home
  directories : d'.directories = d.directories

theorem SameTree.symm {d d' : Disk} (h : d.SameTree d') : d'.SameTree d :=
  ⟨h.home.symm, h.directories.symm⟩

theorem sameTree_put (d : Disk) (place : Place) (bytes : List UInt8) :
    d.SameTree (d.put place bytes) := ⟨rfl, rfl⟩

section
variable {d d' : Disk} (ht : d.SameTree d')
include ht

/-- What is in the files does not matter to a path that leads somewhere. -/
theorem SameTree.follow {here found : Place} {components : List String}
    (h : d.follow here components = .ok found) : d'.follow here components = .ok found := by
  induction components generalizing here with
  | nil => exact h
  | cons name rest ih =>
    have hdirectory : d'.isDirectory here = d.isDirectory here := by
      rw [isDirectory, isDirectory, ht.home, ht.directories]
    simp only [Disk.follow, hdirectory] at h ⊢
    by_cases hhere : d.isDirectory here = true
    · by_cases hlong : isTooLong name = true
      · rw [if_pos hhere, if_pos hlong] at h
        cases h
      · rw [if_pos hhere, if_neg hlong] at h ⊢
        exact ih h
    · rw [if_neg hhere] at h
      cases h

theorem SameTree.reach {here found : Place} {components : List String}
    (h : d.reach here components = .ok found) : d'.reach here components = .ok found := by
  unfold Disk.reach at h ⊢
  cases hfollow : d.follow here components with
  | error f =>
    rw [hfollow] at h
    cases h
  | ok p =>
    have hdirectory : d'.isDirectory p = d.isDirectory p := by
      rw [isDirectory, isDirectory, ht.home, ht.directories]
    rw [hfollow] at h
    rw [ht.follow hfollow]
    simp only [bind, Except.bind, hdirectory] at h ⊢
    exact h

theorem SameTree.find {path : String} {found : Place} (h : d.find path = .ok found) :
    d'.find path = .ok found := by
  unfold Disk.find at h ⊢
  by_cases hlong : isTooLongPath path = true
  · rw [if_pos hlong] at h
    cases h
  · rw [if_neg hlong] at h ⊢
    rw [ht.home]
    exact ht.reach h

theorem SameTree.find_iff {path : String} {found : Place} :
    d'.find path = .ok found ↔ d.find path = .ok found :=
  ⟨ht.symm.find, ht.find⟩

end

theorem find_put {d : Disk} {path : String} {found : Place} (h : d.find path = .ok found)
    (place : Place) (bytes : List UInt8) : (d.put place bytes).find path = .ok found :=
  (d.sameTree_put place bytes).find h

theorem read_put {d : Disk} {path : String} {place : Place} (h : d.find path = .ok place)
    (bytes : List UInt8) : (d.put place bytes).read path = .ok bytes := by
  simp only [read, find_put h, bind, Except.bind, octets?_put]
  rfl

theorem read_overwrite {d : Disk} {path : String} {place : Place} (h : d.find path = .ok place)
    (bytes : List UInt8) : ((d.put place []).overwrite place bytes).read path = .ok bytes := by
  simp only [overwrite, octets?_put, Option.getD_some, List.drop_nil, List.append_nil]
  exact read_put (find_put h place []) bytes

end Disk

/-! ## What a host adds -/

namespace Host

theorem find_eq_ok_iff {host : Host} {disk : Disk} {act : FileAct} {path : String}
    {place : Place} : host.find disk act path = .ok place ↔
      disk.find path = .ok place ∧ host.refuses act path = none := by
  unfold find
  cases disk.find path <;> cases host.refuses act path <;> simp

theorem openInput_eq_ok_iff {host : Host} {disk : Disk} {path : String} {bytes : List UInt8} :
    host.openInput disk path = .ok bytes ↔
      disk.read path = .ok bytes ∧ host.refuses .openInput path = none := by
  unfold openInput
  cases disk.read path <;> cases host.refuses .openInput path <;> simp

theorem codec?_of_label {host : Host} {label : String} {c : Text.Charset}
    (h : Text.Charset.ofLabel? label = some c) : host.codec? label = some c.codec :=
  Codec.named?_of_label h

end Host

/-! ## Sinks that write to a file -/

theorem Destination.acquire_file {host : Host} {disk : Disk} {path label : String}
    {d : Destination} (h : (acquire disk (.file path) label host).result = .ok d) :
    ∃ place codec, host.find disk .openOutput path = .ok place ∧
      Text.Charset.hasNull label = false ∧ host.codec? label = some codec ∧
      acquire disk (.file path) label host = .done (disk.put place [])
        { channel := .file path place codec, encoding := label, device := host.file path } := by
  simp only [acquire] at h ⊢
  cases hnull : Text.Charset.hasNull label with
  | true =>
    simp only [hnull, if_true] at h
    cases h
  | false =>
    cases hpath : Path.hasNull path with
    | true =>
      simp only [hnull, hpath, if_true] at h
      cases h
    | false =>
      simp only [hnull, hpath, Bool.false_eq_true, if_false] at h ⊢
      cases hplace : host.find disk .openOutput path with
      | error f =>
        rw [hplace] at h
        cases h
      | ok place =>
        cases hlabel : host.codec? label with
        | none =>
          rw [hplace, hlabel] at h
          cases h
        | some codec => exact ⟨place, codec, rfl, trivial, rfl, rfl⟩

theorem Destination.store_flushed {d : Destination} {path : String} {place : Place} {codec : Codec}
    (h : d.channel = .file path place codec) (hflush : d.flushFailure? = none) (disk : Disk) :
    d.store disk = disk.overwrite place d.octets := by
  rw [store, h]
  simp only [hflush]
  rfl

/-- Once it is closed, a sink over a file that can be flushed has its octets written there. -/
theorem Sink.store_close {k : Sink} {path : String} {place : Place} {codec : Codec}
    (h : k.destination.channel = .file path place codec)
    (hflush : k.destination.flushFailure? = none) (disk : Disk) :
    k.close.after.destination.store disk = disk.overwrite place k.destination.octets := by
  rw [close_after]
  exact Destination.store_flushed (d := { k.destination with closed := true }) h hflush disk

theorem Sink.create_file {disk : Disk} {o : Options} {path : String} {c : Text.Charset} {k : Sink}
    (hlabel : Text.Charset.ofLabel? o.encoding = some c)
    (h : (create disk .everything (some (.full o)) (.file path)).result = .ok k) :
    ∃ place, disk.find path = .ok place ∧ Text.Charset.hasNull o.encoding = false ∧
      k = fresh o { channel := .file path place c, encoding := o.encoding } ∧
      (create disk .everything (some (.full o)) (.file path)).after = disk.put place [] := by
  have hcreate : create disk .everything (some (.full o)) (.file path) =
      (Destination.acquire disk (.file path) o.encoding).bind fun disk d =>
        ⟨disk, creationNotices .everything d, .ok (fresh o d)⟩ := rfl
  cases hd : (Destination.acquire disk (.file path) o.encoding).result with
  | error f =>
    rw [hcreate, Outcome.bind, hd] at h
    cases h
  | ok d =>
    obtain ⟨place, codec, hplace, hnull, hcodec, hacquire⟩ := Destination.acquire_file hd
    obtain rfl := Option.some.inj ((Host.codec?_of_label hlabel).symm.trans hcodec)
    rw [hcreate, hacquire] at h ⊢
    cases h
    exact ⟨place, (Host.find_eq_ok_iff.mp hplace).1, hnull, rfl, rfl⟩

end EventMarkup
