import EventMarkup.Command.Run

/-!
# Settings of a run

What the arguments ask for is not always valid. Options that are not are reported so, unless a line
ending is asked for and not named (`Command.options_kind`), which happens only where a flag loses
the separator (`Command.read_named`).
-/
namespace EventMarkup.Command

/-! ## Named line endings -/

/-- A flag with words to it names the line ending if it is one for that. -/
theorem Settings.apply_named {s s' : Settings} {f : Flag} {words : List Word}
    (h : s.apply f words = some s') (hwords : .nothing ∉ words)
    (hs : s.lineEnding ≠ some none) : s'.lineEnding ≠ some none := by
  unfold apply at h
  split at h
  case h_4 t =>
    obtain ⟨e, -, rfl⟩ := Option.map_eq_some_iff.mp h
    simp
  case h_5 => simp at hwords
  case h_15 =>
    obtain ⟨l, -, rfl⟩ := Option.map_eq_some_iff.mp h
    exact hs
  all_goals cases h
  all_goals exact hs

theorem walk_named {host : Host} (hkept : host.dropsSeparator = false) {s s' : Settings}
    {spare : Bool} {l : List Argument} {input : String} (h : walk host s spare l = .run input s')
    (hs : s.lineEnding ≠ some none) : s'.lineEnding ≠ some none := by
  have hword (v : String) : Word.nothing ∉ [attachedWord host v] := by
    simp [attachedWord, hkept]
  have hfinish {s : Settings} {spare : Bool} (h : finish s spare = .run input s')
      (hs : s.lineEnding ≠ some none) : s'.lineEnding ≠ some none := by
    unfold finish at h
    split at h <;> cases h
    exact hs
  fun_induction walk host s spare l
  case case1 | case4 | case6 => exact hfinish h hs
  case case2 ih | case3 ih | case5 ih => exact ih h hs
  case case8 happly ih => exact ih h (Settings.apply_named happly (hword _) hs)
  case case12 happly ih => exact ih h (Settings.apply_named happly (by simp) hs)
  case case14 happly ih => exact ih h (Settings.apply_named happly (by simp) hs)
  case case15 happly _ ih => exact ih h (Settings.apply_named happly (by simp) hs)
  all_goals cases h

/-- Where a separator stays with its flag, a line ending that is asked for is named. -/
theorem read_named {host : Host} (hkept : host.dropsSeparator = false) {given : List String}
    {input : String} {s : Settings} (h : read given host = .run input s) :
    s.lineEnding ≠ some none := by
  unfold read at h
  split at h
  · cases h
  · split at h
    · rename_i hwalk
      cases h
      exact walk_named hkept hwalk (by simp)
    · rename_i hother
      exact absurd h (hother _ _)

/-! ## Options -/

/-- Options that are not valid are reported so, unless it is the line ending that is not named. -/
theorem options_kind {s : Settings} {f : Fault} (h : s.options = .error f) :
    s.lineEnding = some none ∧ f = .unnamedLineEnding ∨
      s.lineEnding ≠ some none ∧ f.report.kind = .validation := by
  have hinvalid {changes : OptionChanges}
      (hc : (Options.usual.update changes).mapError .arguments = .error f) :
      f.report.kind = .validation := by
    cases hupdate : Options.usual.update changes with
    | error g =>
      rw [hupdate] at hc
      cases hc
      rfl
    | ok o =>
      rw [hupdate] at hc
      cases hc
  unfold Settings.options Settings.optionChanges at h
  split at h
  · rename_i hending
    exact .inr ⟨by simp [hending], hinvalid h⟩
  · rename_i hending
    cases h
    exact .inl ⟨hending, rfl⟩
  · rename_i e hending
    exact .inr ⟨by simp [hending], hinvalid h⟩

theorem options_unnamed {s : Settings} (h : s.lineEnding = some none) :
    s.options = .error .unnamedLineEnding := by
  simp only [Settings.options, Settings.optionChanges, h]
  rfl

end EventMarkup.Command
