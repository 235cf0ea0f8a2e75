import EventMarkup.Proofs.Escaping
import EventMarkup.Proofs.HeadText
import EventMarkup.Proofs.PageMarkup

/-!
# Texts in two pieces

A text may be sent in two pieces, as it is escaped character by character. Only for a line ending
does it matter what follows: where a carriage return and its line feed are parted, two line endings
are written for one. In head mode texts are collected as they are.

* `cutsLineEnding_escapeChars`: escaping parts no line ending and joins none.
* `Sink.text_writes`: what a text without attributes writes, and that it leaves the state alone.
* `split_text_agrees_iff`: when two pieces come to the same as the whole text.
-/
namespace EventMarkup

namespace Text

/-! ## Line endings in escaped text -/

theorem entity_oneLine {c : Char} (h : c ∈ specials) : isOneLine (entity c) = true := by
  have hall : entities.all (fun e => isOneLine e.2) = true := by decide
  exact List.all_eq_true.mp hall _ (entity_mem h)

section
variable {c : Char} (hc : c = '\n' ∨ c = '\r')
include hc

theorem entity_lineEnding : entity c = [c] := by
  rcases hc with rfl | rfl <;> decide

theorem lineEnding_mem_entity {x : Char} (h : c ∈ entity x) : x = c := by
  by_cases hx : x ∈ specials
  · have hplain := List.all_eq_true.mp (entity_oneLine hx) c h
    rcases hc with rfl | rfl <;> simp at hplain
  · rw [entity_of_not_mem hx, List.mem_singleton] at h
    exact h.symm

theorem head?_escapeChars (cs : List Char) :
    (escapeChars cs).head? = some c ↔ cs.head? = some c := by
  cases cs with
  | nil => exact Iff.rfl
  | cons x cs =>
    rw [escapeChars_cons, List.head?_append_of_ne_nil _ (entity_ne_nil x), List.head?_cons,
      Option.some_inj]
    refine ⟨fun h => lineEnding_mem_entity hc (List.mem_of_head? h), ?_⟩
    rintro rfl
    rw [entity_lineEnding hc]
    rfl

theorem getLast?_escapeChars (cs : List Char) :
    (escapeChars cs).getLast? = some c ↔ cs.getLast? = some c := by
  rcases List.eq_nil_or_concat cs with rfl | ⟨init, x, rfl⟩
  · exact Iff.rfl
  · have hlast : escapeChars [x] = entity x := List.flatMap_singleton ..
    rw [List.concat_eq_append, escapeChars_append, hlast,
      List.getLast?_append_of_ne_nil _ (entity_ne_nil x), List.getLast?_concat, Option.some_inj]
    refine ⟨fun h => lineEnding_mem_entity hc (List.mem_of_getLast? h), ?_⟩
    rintro rfl
    rw [entity_lineEnding hc]
    rfl

end

/-- Escaping parts no line ending and joins none. -/
theorem cutsLineEnding_escapeChars (cs ds : List Char) :
    CutsLineEnding (escapeChars cs) (escapeChars ds) ↔ CutsLineEnding cs ds :=
  and_congr (getLast?_escapeChars (.inr rfl) cs) (head?_escapeChars (.inl rfl) ds)

theorem normalize_escape_append_iff (e : LineEnding) (s t : String) :
    normalize e (escape (s ++ t)) = normalize e (escape s) ++ normalize e (escape t) ↔
      ¬CutsLineEnding s.toList t.toList := by
  rw [escape_append, normalize_append_iff, toList_escape, toList_escape,
    cutsLineEnding_escapeChars]

end Text

/-! ## Text events -/

section
variable {k : Sink} (hv : k.vocabulary = .everything)
include hv

/-- Outside of a head a text without attributes writes itself, escaped, and leaves the state as it
is, also if it cannot be written. -/
theorem Sink.text_writes (hs : k.state.headMode = false) (t : String) :
    k.Writes (.text t ∅) [Text.escape t] ∧ (k.event (.text t ∅)).after.state = k.state := by
  have hrespond : Render.respond k.style k.state (.text t ∅) =
      .write k.state [Text.escape t] := by
    simp [Render.respond, Render.text, hs, Render.textTags_empty, Render.tagged]
  refine ⟨?_, ?_⟩
  · have hwrites := event_writes (e := .text t ∅) hv rfl
    rwa [hrespond] at hwrites
  · rw [event_eq_perform hv rfl, hrespond, perform]
    split <;> rfl

theorem Sink.text_collected (hs : k.state.headMode = true) (t : String) :
    k.event (.text t ∅) = .done (k.withHead (k.state.headBuffer ++ [t])) () :=
  event_flow hv rfl hs

end

/-- **A text may be sent in two pieces**, without attributes, unless a line ending is cut in two.

Outside of a head the pieces write themselves, escaped, whatever the destination, and so does the
whole text. With their line endings made uniform both ways come to one text just if the first piece
does not end with the carriage return of a line feed that the second begins with. An open buffer
takes all of them, and holds one text just in this case; the state is as it was before.

In a head both ways go well and write nothing, and the head text is the same. -/
theorem split_text_agrees_iff {k : Sink} (hv : k.vocabulary = .everything) (a b : String) :
    let first := k.event (.text a ∅)
    let second := first.after.event (.text b ∅)
    let whole := k.event (.text (a ++ b) ∅)
    let written := fun ps : List String =>
      String.join (ps.map (Text.normalize k.style.lineEnding))
    let cut := a.toList.getLast? = some '\r' ∧ b.toList.head? = some '\n'
    (k.state.headMode = false →
      k.Writes (.text a ∅) [Text.escape a] ∧ first.after.Writes (.text b ∅) [Text.escape b] ∧
        k.Writes (.text (a ++ b) ∅) [Text.escape (a ++ b)] ∧
        (written [Text.escape a, Text.escape b] = written [Text.escape (a ++ b)] ↔ ¬cut) ∧
        second.after.state = k.state ∧ whole.after.state = k.state ∧
        (k.destination.OpenBuffer →
          first.result = .ok () ∧ second.result = .ok () ∧ whole.result = .ok () ∧
            (second.after.value = whole.after.value ↔ ¬cut))) ∧
      (k.state.headMode = true →
        first.result = .ok () ∧ second.result = .ok () ∧ whole.result = .ok () ∧
          second.after.destination = k.destination ∧ whole.after.destination = k.destination ∧
          second.after.state.headText = whole.after.state.headText) := by
  intro first second whole written cut
  have hv' : first.after.vocabulary = .everything := (Sink.event_vocabulary k _).trans hv
  have hstyle : first.after.style = k.style := Sink.event_style k _
  refine ⟨fun hs => ?_, fun hs => ?_⟩
  · obtain ⟨hfirst, hstate⟩ := Sink.text_writes hv hs a
    obtain ⟨hsecond, hend⟩ := Sink.text_writes hv' (hstate ▸ hs) b
    obtain ⟨hwhole, hsame⟩ := Sink.text_writes hv hs (a ++ b)
    have hwritten : written [Text.escape a, Text.escape b] = written [Text.escape (a ++ b)] ↔
        ¬cut := by
      have hpieces : written [Text.escape a, Text.escape b] =
          Text.normalize k.style.lineEnding (Text.escape a) ++
            Text.normalize k.style.lineEnding (Text.escape b) := by simp [written]
      have hone : written [Text.escape (a ++ b)] =
          Text.normalize k.style.lineEnding (Text.escape (a ++ b)) := by simp [written]
      rw [hpieces, hone, eq_comm]
      exact Text.normalize_escape_append_iff k.style.lineEnding a b
    refine ⟨hfirst, hsecond, hwhole, hwritten, hend.trans hstate, hsame, fun hb => ?_⟩
    have hk : k.Ready := ⟨hv, hb⟩
    obtain ⟨hok, hready, -⟩ := hk.event (e := .text a ∅) rfl
    obtain ⟨hok', hready', -⟩ := hready.event (e := .text b ∅) rfl
    obtain ⟨hok'', hready'', -⟩ := hk.event (e := .text (a ++ b) ∅) rfl
    refine ⟨hok, hok', hok'', ?_⟩
    have hsplit : second.after.destination.text =
        k.destination.text ++ written [Text.escape a, Text.escape b] := by
      rw [(hsecond.buffer hready.buffer).2, (hfirst.buffer hb).2, hstyle]
      simp [written, String.append_assoc]
    rw [hready'.value, hready''.value, Except.ok.injEq, hsplit, (hwhole.buffer hb).2,
      String.append_right_inj]
    exact hwritten
  · have hfirst : first = .done (k.withHead (k.state.headBuffer ++ [a])) () :=
      Sink.text_collected hv hs a
    have hwhole : whole = .done (k.withHead (k.state.headBuffer ++ [a ++ b])) () :=
      Sink.text_collected hv hs (a ++ b)
    have hsecond : second = .done (k.withHead (k.state.headBuffer ++ [a] ++ [b])) () := by
      have hhead : first.after.state.headMode = true := by rw [hfirst]; exact hs
      have hcollected : second = _ := Sink.text_collected hv' hhead b
      rw [hcollected, hfirst]
      rfl
    have htext : String.join (k.state.headBuffer ++ [a] ++ [b]) =
        String.join (k.state.headBuffer ++ [a ++ b]) := by simp
    rw [hfirst, hsecond, hwhole]
    exact ⟨rfl, rfl, rfl, rfl, rfl, htext⟩

/-- A carriage return and its line feed come to two line endings if they are sent apart, and what
looks like an entity may be parted anywhere. -/
theorem partedLines_disagree :
    let k := Sink.inMemory .usual
    let value := fun ts : List String =>
      (final Sink.event k (ts.map fun t => Event.text t ∅)).value
    k.vocabulary = .everything ∧ k.state.headMode = false ∧ k.destination.OpenBuffer ∧
      value ["a\r", "\nb"] ≠ value ["a\r\nb"] ∧ value ["&am", "p;\r"] = value ["&amp;\r"] := by
  intro k value
  have hv : k.vocabulary = .everything := rfl
  have hs : k.state.headMode = false := rfl
  have hb : k.destination.OpenBuffer := ⟨rfl, rfl⟩
  obtain ⟨-, -, -, -, -, -, hbuffer⟩ := (split_text_agrees_iff hv "a\r" "\nb").1 hs
  obtain ⟨-, -, -, hparted⟩ := hbuffer hb
  obtain ⟨-, -, -, -, -, -, hbuffer⟩ := (split_text_agrees_iff hv "&am" "p;\r").1 hs
  obtain ⟨-, -, -, hentity⟩ := hbuffer hb
  exact ⟨hv, hs, hb, fun h => hparted.mp h (by decide), hentity.mpr (by decide)⟩

end EventMarkup
