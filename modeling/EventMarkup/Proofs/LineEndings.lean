import EventMarkup.Text.LineEnding

/-!
# Uniform line endings

Making line endings uniform touches nothing but line endings (`filter_normalize`), and may be done
piece by piece just where no line ending is cut in two (`normalize_append_iff`).
-/
namespace EventMarkup.Text

/-- Whether characters hold no line ending. -/
def isOneLine (cs : List Char) : Bool := cs.all fun c => c != '\n' && c != '\r'

@[simp] theorem isOneLine_append (cs ds : List Char) :
    isOneLine (cs ++ ds) = (isOneLine cs && isOneLine ds) := List.all_append

theorem filter_lineUnit {p : Char → Bool} (hlf : p '\n' = false) (hcr : p '\r' = false)
    (e : LineEnding) (c : Char) (next : Option Char) :
    (lineUnit e.chars c next).filter p = [c].filter p := by
  have hsep : e.chars.filter p = [] := by
    cases e <;> simp [LineEnding.chars, hlf, hcr]
  unfold lineUnit
  split
  · rename_i hc
    simp [hc, hsep, hlf]
  · split
    · rename_i hc
      split <;> simp [hc, hsep, hcr]
    · rfl

/-- Characters that belong to no line ending stay, in order. -/
theorem filter_normalize {p : Char → Bool} (hlf : p '\n' = false) (hcr : p '\r' = false)
    (e : LineEnding) (s : String) : (normalize e s).toList.filter p = s.toList.filter p := by
  rw [normalize, String.toList_ofList]
  induction s.toList with
  | nil => rfl
  | cons c cs ih =>
    rw [replaceLineEndings, List.filter_append, filter_lineUnit hlf hcr, ih, ← List.filter_append]
    rfl

theorem mem_normalize {c : Char} (hlf : c ≠ '\n') (hcr : c ≠ '\r') (e : LineEnding) (t : String) :
    c ∈ (normalize e t).toList ↔ c ∈ t.toList := by
  have hfilter := filter_normalize (p := fun d => d == c) (beq_false_of_ne hlf.symm)
    (beq_false_of_ne hcr.symm) e t
  have hmem (cs : List Char) : c ∈ cs ↔ c ∈ cs.filter fun d => d == c := by simp
  rw [hmem, hfilter, ← hmem]

/-- Whether a line ending is cut in two between characters and others behind them. -/
def CutsLineEnding (cs ds : List Char) : Prop :=
  cs.getLast? = some '\r' ∧ ds.head? = some '\n'

theorem replaceLineEndings_append_of_not_cut (sep : List Char) {cs ds : List Char}
    (h : ¬CutsLineEnding cs ds) : replaceLineEndings sep (cs ++ ds) =
      replaceLineEndings sep cs ++ replaceLineEndings sep ds := by
  induction cs with
  | nil => rfl
  | cons c cs ih =>
    have hunit : lineUnit sep c (cs ++ ds).head? = lineUnit sep c cs.head? := by
      cases cs with
      | nil =>
        by_cases hc : c = '\r'
        · have hd : ds.head? ≠ some '\n' := fun hd => h ⟨by simp [hc], hd⟩
          simp [lineUnit, hd]
        · simp [lineUnit, hc]
      | cons => rfl
    have hrest : ¬CutsLineEnding cs ds := by
      cases cs with
      | nil => simp [CutsLineEnding]
      | cons => exact h
    rw [List.cons_append, replaceLineEndings, replaceLineEndings, hunit, ih hrest,
      List.append_assoc]

theorem replaceLineEndings_append (sep : List Char) (cs : List Char) {ds : List Char}
    (h : ds.head? ≠ some '\n') : replaceLineEndings sep (cs ++ ds) =
      replaceLineEndings sep cs ++ replaceLineEndings sep ds :=
  replaceLineEndings_append_of_not_cut sep fun hcut => h hcut.2

/-- Line endings become uniform piece by piece just if none of them is cut in two: one that is cut
counts twice. -/
theorem replaceLineEndings_append_iff (e : LineEnding) (cs ds : List Char) :
    replaceLineEndings e.chars (cs ++ ds) =
      replaceLineEndings e.chars cs ++ replaceLineEndings e.chars ds ↔ ¬CutsLineEnding cs ds := by
  refine ⟨?_, replaceLineEndings_append_of_not_cut e.chars⟩
  rintro h ⟨hcr, hlf⟩
  obtain ⟨front, rfl⟩ := List.getLast?_eq_some_iff.mp hcr
  obtain ⟨rest, rfl⟩ := List.head?_eq_some_iff.mp hlf
  have hlone : replaceLineEndings e.chars ['\r'] = e.chars := by
    simp [replaceLineEndings, lineUnit]
  have hfeed : replaceLineEndings e.chars ('\n' :: rest) =
      e.chars ++ replaceLineEndings e.chars rest := by simp [replaceLineEndings, lineUnit]
  have hpair : replaceLineEndings e.chars ('\r' :: '\n' :: rest) =
      replaceLineEndings e.chars ('\n' :: rest) := by
    simp [replaceLineEndings, lineUnit]
  have hfront (ds : List Char) : replaceLineEndings e.chars (front ++ '\r' :: ds) =
      replaceLineEndings e.chars front ++ replaceLineEndings e.chars ('\r' :: ds) :=
    replaceLineEndings_append e.chars front (by simp)
  rw [List.append_assoc, List.singleton_append, hfront, hfront, hpair, hlone, hfeed] at h
  have hlength := congrArg List.length h
  have hpositive : 0 < e.chars.length := by cases e <;> simp [LineEnding.chars]
  simp only [List.length_append] at hlength
  omega

theorem normalize_append (e : LineEnding) (s : String) {t : String}
    (h : t.toList.head? ≠ some '\n') : normalize e (s ++ t) = normalize e s ++ normalize e t := by
  rw [normalize, String.toList_append, replaceLineEndings_append e.chars s.toList h,
    String.ofList_append]
  rfl

theorem normalize_append_iff (e : LineEnding) (s t : String) :
    normalize e (s ++ t) = normalize e s ++ normalize e t ↔
      ¬CutsLineEnding s.toList t.toList := by
  rw [← replaceLineEndings_append_iff e, normalize, normalize, normalize, String.toList_append,
    ← String.ofList_append, String.ofList_inj]

theorem replaceLineEndings_eq_nil {e : LineEnding} {cs : List Char}
    (h : replaceLineEndings e.chars cs = []) : cs = [] := by
  have hsep : e.chars ≠ [] := by cases e <;> simp [LineEnding.chars]
  induction cs with
  | nil => rfl
  | cons c cs ih =>
    -- only the first half of a line ending is dropped, and the second half follows it
    rw [replaceLineEndings, List.append_eq_nil_iff] at h
    obtain ⟨hunit, hrest⟩ := h
    rw [ih hrest] at hunit
    simp only [lineUnit, List.head?_nil, reduceCtorEq, if_false] at hunit
    split at hunit
    · exact absurd hunit hsep
    · split at hunit
      · exact absurd hunit hsep
      · cases hunit

theorem normalize_eq_empty_iff (e : LineEnding) (s : String) : normalize e s = "" ↔ s = "" := by
  rw [normalize, String.ofList_eq_empty_iff, ← String.toList_eq_nil_iff]
  refine ⟨replaceLineEndings_eq_nil, fun h => ?_⟩
  rw [h]
  rfl

/-! ## Texts without line endings -/

theorem replaceLineEndings_oneLine_append (sep : List Char) {cs : List Char}
    (h : isOneLine cs = true) (ds : List Char) :
    replaceLineEndings sep (cs ++ ds) = cs ++ replaceLineEndings sep ds := by
  induction cs with
  | nil => rfl
  | cons c cs ih =>
    simp only [isOneLine, List.all_cons, Bool.and_eq_true, bne_iff_ne] at h
    have hunit : lineUnit sep c (cs ++ ds).head? = [c] := by simp [lineUnit, h.1]
    rw [List.cons_append, replaceLineEndings, hunit, ih h.2]
    rfl

/-- A text without line endings in front stays as it is. -/
theorem normalize_oneLine_append (e : LineEnding) {s : String} (h : isOneLine s.toList = true)
    (t : String) : normalize e (s ++ t) = s ++ normalize e t := by
  rw [normalize, String.toList_append, replaceLineEndings_oneLine_append e.chars h,
    String.ofList_append, String.ofList_toList]
  rfl

theorem normalize_oneLine (e : LineEnding) {s : String} (h : isOneLine s.toList = true) :
    normalize e s = s := by
  have happend := normalize_oneLine_append e h ""
  have hempty : normalize e "" = "" := by simp [normalize, replaceLineEndings]
  rwa [hempty, String.append_empty] at happend

theorem map_normalize_oneLine (e : LineEnding) {q : Option String}
    (h : ∀ s ∈ q, isOneLine s.toList = true) : q.map (normalize e) = q := by
  cases q with
  | none => rfl
  | some s => rw [Option.map_some, normalize_oneLine e (h s rfl)]

theorem isOneLine_head {cs : List Char} (h : isOneLine cs = true) : cs.head? ≠ some '\n' := by
  intro hc
  have hmem := List.all_eq_true.mp h _ (List.mem_of_mem_head? hc)
  simp at hmem

end EventMarkup.Text
