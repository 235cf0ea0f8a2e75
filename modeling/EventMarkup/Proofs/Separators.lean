import EventMarkup.Proofs.Closing
import EventMarkup.Proofs.HeadText
import EventMarkup.Proofs.LineEndings
import EventMarkup.Proofs.Renewal

/-!
# The separator of lines

A sink writes every line ending of what it is sent as one and the same separator, and nothing else
of what it writes depends on which one that is. So the text under a separator is the text under line
feeds with each line feed replaced (`separator_only_replaces`), for whatever is asked of a session:
sessions that differ in the separator stay so, but for the line breaks that a head keeps
(`Sink.respelled_simulation`).

The replacement works on single characters, so it may be done piece by piece. Where the text under
line feeds has no carriage return, what comes of it holds line breaks in separators only
(`Text.separated_spellChars`), and a second pass over it changes nothing (`Text.normalize_spell`).
-/
namespace EventMarkup

/-! ## Line feeds replaced -/

namespace Text

/-- The characters with every line feed replaced. -/
def spellChars (sep : List Char) (cs : List Char) : List Char :=
  cs.flatMap fun c => if c = '\n' then sep else [c]

/-- The text with every line feed written as a line ending. -/
def spell (e : LineEnding) (t : String) : String := String.ofList (spellChars e.chars t.toList)

/-- Whether the character between two stretches of text is in an occurrence of a line ending. -/
def InSeparator (e : LineEnding) (before : List Char) (c : Char) (after : List Char) : Prop :=
  ∃ front xs ys back, before = front ++ xs ∧ e.chars = xs ++ c :: ys ∧ after = ys ++ back

/-- Whether each carriage return and line feed is in an occurrence of a line ending. -/
def Separated (e : LineEnding) (cs : List Char) : Prop :=
  ∀ before c after, cs = before ++ c :: after → c = '\r' ∨ c = '\n' → InSeparator e before c after

theorem InSeparator.behind {e : LineEnding} {before after : List Char} {c : Char}
    (h : InSeparator e before c after) (cs : List Char) : InSeparator e (cs ++ before) c after := by
  obtain ⟨front, xs, ys, back, rfl, hsep, hback⟩ := h
  exact ⟨cs ++ front, xs, ys, back, (List.append_assoc ..).symm, hsep, hback⟩

@[simp] theorem spellChars_nil (sep : List Char) : spellChars sep [] = [] := rfl

theorem spellChars_cons (sep : List Char) (c : Char) (cs : List Char) :
    spellChars sep (c :: cs) = (if c = '\n' then sep else [c]) ++ spellChars sep cs := rfl

theorem spellChars_append (sep cs ds : List Char) :
    spellChars sep (cs ++ ds) = spellChars sep cs ++ spellChars sep ds := List.flatMap_append

theorem spell_append (e : LineEnding) (t u : String) :
    spell e (t ++ u) = spell e t ++ spell e u := by
  rw [spell, String.toList_append, spellChars_append, String.ofList_append, spell, spell]

theorem spell_join (e : LineEnding) (ts : List String) :
    spell e (String.join ts) = String.join (ts.map (spell e)) := by
  induction ts with
  | nil => rfl
  | cons t ts ih => rw [String.join_cons, spell_append, ih, List.map_cons, String.join_cons]

theorem lineUnit_spell (sep : List Char) (c : Char) (next : Option Char) :
    lineUnit sep c next = spellChars sep (lineUnit LineEnding.lf.chars c next) := by
  unfold lineUnit
  split
  · simp [spellChars, LineEnding.chars]
  · split
    · split <;> simp [spellChars, LineEnding.chars]
    · rename_i hfeed _
      simp [spellChars, hfeed]

theorem normalize_eq_spell (e : LineEnding) (t : String) :
    normalize e t = spell e (normalize .lf t) := by
  have hchars (cs : List Char) : replaceLineEndings e.chars cs =
      spellChars e.chars (replaceLineEndings LineEnding.lf.chars cs) := by
    induction cs with
    | nil => rfl
    | cons c cs ih =>
      rw [replaceLineEndings, replaceLineEndings, spellChars_append, ← lineUnit_spell, ih]
  rw [normalize, hchars, spell, normalize, String.toList_ofList]

/-! ## What holds separators only -/

theorem normalize_lf_no_return (t : String) : '\r' ∉ (normalize .lf t).toList := by
  rw [normalize, String.toList_ofList]
  induction t.toList with
  | nil => exact List.not_mem_nil
  | cons c cs ih =>
    rw [replaceLineEndings, List.mem_append, not_or]
    refine ⟨?_, ih⟩
    unfold lineUnit
    split
    · simp [LineEnding.chars]
    · split
      · split <;> simp [LineEnding.chars]
      · rename_i hreturn
        simpa [eq_comm] using hreturn

/-- Where there was no carriage return, respelled line feeds stand in separators only. -/
theorem separated_spellChars (e : LineEnding) {cs : List Char} (h : '\r' ∉ cs) :
    Separated e (spellChars e.chars cs) := by
  intro before c after hsplit hc
  induction cs generalizing before with
  | nil => simp at hsplit
  | cons x xs ih =>
    rw [List.mem_cons, not_or] at h
    obtain ⟨hx, hxs⟩ := h
    rw [spellChars_cons, List.append_eq_append_iff] at hsplit
    -- the character stands behind what the first one became, or in it
    rcases hsplit with ⟨rest, hbefore, hrest⟩ | ⟨rest, hfirst, hafter⟩
    · exact hbefore ▸ (ih hxs rest hrest).behind _
    · cases rest with
      | nil =>
        rw [List.append_nil] at hfirst
        rw [← hfirst, ← List.append_nil (ite ..)]
        exact (ih hxs [] hafter.symm).behind _
      | cons d ys =>
        obtain ⟨rfl, hback⟩ := List.cons.inj hafter
        by_cases hfeed : x = '\n'
        · rw [if_pos hfeed] at hfirst
          exact ⟨[], before, ys, _, rfl, hfirst, hback⟩
        · rw [if_neg hfeed] at hfirst
          have hmem : c ∈ [x] := by rw [hfirst]; simp
          rcases hc with rfl | rfl
          · exact absurd (List.mem_singleton.mp hmem) hx
          · exact absurd (List.mem_singleton.mp hmem).symm hfeed

/-- What holds separators only stays as it is when its line endings are made uniform again. -/
theorem replaceLineEndings_spellChars (e : LineEnding) {cs : List Char} (h : '\r' ∉ cs) :
    replaceLineEndings e.chars (spellChars e.chars cs) = spellChars e.chars cs := by
  induction cs with
  | nil => rfl
  | cons c cs ih =>
    rw [List.mem_cons, not_or] at h
    have hrest := ih h.2
    rw [spellChars_cons]
    by_cases hfeed : c = '\n'
    · rw [if_pos hfeed]
      cases e with
      | lf | crlf => simp_all [LineEnding.chars, replaceLineEndings, lineUnit]
      | cr =>
        have hhead : (spellChars ['\r'] cs).head? ≠ some '\n' := by
          intro hhead
          have hmem := List.mem_of_mem_head? hhead
          simp only [spellChars, List.mem_flatMap] at hmem
          obtain ⟨d, -, hd⟩ := hmem
          split at hd
          · simp at hd
          · rename_i hd'
            exact hd' (List.mem_singleton.mp hd).symm
        simp_all [LineEnding.chars, replaceLineEndings, lineUnit]
    · rw [if_neg hfeed, List.singleton_append, replaceLineEndings, hrest, lineUnit, if_neg hfeed,
        if_neg (Ne.symm h.1)]
      rfl

theorem normalize_spell (e : LineEnding) {t : String} (h : '\r' ∉ t.toList) :
    normalize e (spell e t) = spell e t := by
  rw [normalize, spell, String.toList_ofList, replaceLineEndings_spellChars e h]

end Text

/-! ## Sinks with another separator -/

def Options.separating (o : Options) (e : Text.LineEnding) : Options := { o with lineEnding := e }

@[simp] theorem Options.separating_lineEnding (o : Options) (e : Text.LineEnding) :
    (o.separating e).style.lineEnding = e := rfl

def SinkOptions.separating (e : Text.LineEnding) : SinkOptions → SinkOptions
  | basic o => basic { o with lineEnding := e }
  | full o => full (o.separating e)

/-- The item with every line feed of its text written as a line ending. -/
def Item.respelled (e : Text.LineEnding) : Item → Item
  | text t => text (Text.spell e t)
  | octets bytes => octets bytes

def Destination.respelled (e : Text.LineEnding) (d : Destination) : Destination :=
  { d with sent := d.sent.map (Item.respelled e) }

/-- The sink with another separator, the items of its target respelled, and another head buffer. -/
def Sink.respelled (e : Text.LineEnding) (head : List String) (k : Sink) : Sink :=
  { k.withHead head with
    options := k.options.separating e
    destination := k.destination.respelled e }

theorem Destination.text_respelled (e : Text.LineEnding) {d : Destination} :
    (d.respelled e).text = Text.spell e d.text := by
  have hitem : Item.chars ∘ Item.respelled e = Text.spell e ∘ Item.chars := by
    funext i
    cases i <;> rfl
  simp only [text, respelled, Array.toList_map, Text.spell_join, List.map_map, hitem]

/-- The separator shows in no event but a line break. -/
theorem Render.respond_separating (st : Style) (e : Text.LineEnding) (s : RenderState) {v : Event}
    (hv : ∀ m, v ≠ .lineBreak m) : respond { st with lineEnding := e } s v = respond st s v := by
  cases v with
  | lineBreak m => exact absurd rfl (hv m)
  | _ => rfl

/-- With another separator and another head buffer an event asks for the same, and leaves another
head buffer. -/
theorem Render.respond_respelled (st : Style) (e : Text.LineEnding) (s : RenderState)
    (b : List String) (v : Event) :
    ∃ b', respond { st with lineEnding := e } (s.withHead b) v = (respond st s v).withHead b' := by
  by_cases hv : ∃ m, v = .lineBreak m
  · obtain ⟨m, rfl⟩ := hv
    have hmode : (s.withHead b).headMode = s.headMode := rfl
    simp only [respond, lineBreak, hmode]
    split <;> exact ⟨_, rfl⟩
  · rw [respond_separating st e _ (not_exists.mp hv)]
    exact respond_withHead st s v b

namespace Sink

variable (e : Text.LineEnding) {k : Sink}

theorem style_respelled (b : List String) (k : Sink) :
    (k.respelled e b).style = { k.style with lineEnding := e } := by
  obtain ⟨vocabulary, options, destination, state⟩ := k
  cases options <;> cases vocabulary <;> rfl

theorem send_respelled {d : Destination} (h : d.channel = .buffer) (t : String) :
    send e (d.respelled e) t = (send .lf d t).within (.respelled e) := by
  cases hc : d.closed with
  | true => rw [send_closed .lf hc, send_closed e (d := d.respelled e) hc]; rfl
  | false =>
    have hopen : d.OpenBuffer := ⟨h, hc⟩
    have hrespelled : (d.respelled e).OpenBuffer := ⟨h, hc⟩
    rw [hopen.send, hrespelled.send, Text.normalize_eq_spell]
    simp [Destination.respelled, Item.respelled, Outcome.done, Outcome.within]

section
variable (hk : k.destination.channel = .buffer) (hlf : k.style.lineEnding = .lf)
include hk hlf

theorem perform_respelled (b b' : List String) (r : Reaction) :
    (k.respelled e b).perform (r.withHead b') = (k.perform r).within (.respelled e b') := by
  have hsent : sendAll (k.respelled e b).style.lineEnding (k.respelled e b).destination
      (r.withHead b').pieces =
      (sendAll k.style.lineEnding k.destination r.pieces).within (.respelled e) := by
    rw [style_respelled, hlf]
    exact sendAll_map hk (send_respelled e) r.pieces
  simp only [perform, hsent, Outcome.within]
  split <;> rfl

theorem event_respelled (b : List String) (v : Event) :
    ∃ b', (k.respelled e b).event v = (k.event v).within (.respelled e b') := by
  obtain ⟨b', hr⟩ := Render.respond_respelled k.style e k.state b v
  have hstate : (k.respelled e b).state = k.state.withHead b := rfl
  have hvocabulary : (k.respelled e b).vocabulary = k.vocabulary := rfl
  simp only [event, style_respelled, hstate, hvocabulary, Render.lookupFault?_withHead, hr,
    perform_respelled e hk hlf]
  -- an event that never reaches its reaction keeps the head buffer, others get the new one
  split
  · split
    · exact ⟨b, rfl⟩
    · exact ⟨b', rfl⟩
  · exact ⟨b, rfl⟩

end

theorem inMemory_respelled (o : Options) (e : Text.LineEnding) :
    inMemory (o.separating e) = (inMemory (o.separating .lf)).respelled e [] := by
  have hempty : (inMemory (o.separating .lf)).destination.respelled e =
      { channel := .buffer, encoding := o.encoding } := by
    simp [Destination.respelled, inMemory, fresh, Options.separating]
  rw [respelled, hempty]
  rfl

/-- Whether one sink writes line feeds to its own buffer, and another one is the same with another
separator, but for what a head keeps. -/
def Respelled (k k' : Sink) : Prop :=
  k.destination.channel = .buffer ∧ k.style.lineEnding = .lf ∧ ∃ b, k' = k.respelled e b

/-- With another separator a sink does the same, and its target gets the same respelled. -/
theorem respelled_simulation : Simulation (Respelled e) where
  vocabulary := by
    rintro k _ ⟨-, -, b, rfl⟩
    rfl
  event := by
    rintro k _ ⟨hk, hlf, b, rfl⟩ v
    obtain ⟨b', hv⟩ := event_respelled e hk hlf b v
    have hkept := k.event_kept v
    rw [hv]
    exact ⟨⟨hkept.buffered hk, hkept.style ▸ hlf, b', rfl⟩, rfl, rfl⟩
  write := by
    rintro k _ ⟨hk, hlf, b, rfl⟩ t
    have hkept := (Use.write k t).kept
    have hwrite : (k.respelled e b).write t = (k.write t).within (.respelled e b) := by
      simp only [write, style_respelled, hlf]
      have hsend := send_respelled e hk t
      simp only [respelled, hsend]
      rfl
    rw [hwrite]
    exact ⟨⟨hkept.buffered hk, hkept.style ▸ hlf, b, rfl⟩, rfl, rfl⟩
  flush := by
    rintro k _ ⟨hk, hlf, b, rfl⟩
    have hkept := (Use.flush k).kept
    have hflush : (k.respelled e b).flush = k.flush.within (.respelled e b) := by
      have hmap := Destination.flush_map hk (·.map (Item.respelled e))
      simp only [flush, respelled, Destination.respelled, hmap]
      rfl
    rw [hflush]
    exact ⟨⟨hkept.buffered hk, hkept.style ▸ hlf, b, rfl⟩, rfl, rfl⟩
  close := by
    rintro k _ ⟨hk, hlf, b, rfl⟩
    have hclose : (k.respelled e b).close = k.close.within (.respelled e b) := by
      have hmap := Destination.close_map hk (·.map (Item.respelled e))
      simp only [close, respelled, Destination.respelled, hmap]
      rfl
    rw [hclose]
    exact ⟨⟨k.close_buffered hk, k.close_after ▸ hlf, b, rfl⟩, rfl, rfl⟩
  reset := by
    rintro k _ ⟨hk, hlf, b, rfl⟩
    exact ⟨hk, hlf, [], rfl⟩
  consume := by
    rintro k _ ⟨hk, hlf, b, rfl⟩
    have hkept := (Use.consume k).kept
    refine ⟨hkept.buffered hk, hkept.style ▸ hlf, ?_⟩
    obtain ⟨vocabulary, options, destination, state⟩ := k
    cases vocabulary <;> exact ⟨_, rfl⟩

end Sink

/-- What a style with line feeds writes has no carriage return. -/
theorem Style.flat_no_return {st : Style} (h : st.lineEnding = .lf) (ts : List String) :
    '\r' ∉ (st.flat ts).toList := by
  rw [flat, h]
  induction ts with
  | nil => exact List.not_mem_nil
  | cons t ts ih =>
    rw [List.map_cons, String.join_cons, String.toList_append, List.mem_append, not_or]
    exact ⟨Text.normalize_lf_no_return t, ih⟩

/-- **A separator only replaces line endings.** Ask anything of a session over its own buffer that
separates lines by line feeds, and the same of one with another separator. The text of the second is
that of the first with every line feed written as the separator, and each carriage return and line
feed in it is in an occurrence of the separator. A sink with the same separator that is sent this
text in one piece writes it as it is. -/
theorem separator_only_replaces (o : Options) (e : Text.LineEnding) (guards : Nat)
    (as : List Session.Action) :
    let feeds := (Session.start (.inMemory (o.separating .lf)) guards).run as
    let separated := (Session.start (.inMemory (o.separating e)) guards).run as
    let again := (Session.start (.inMemory (o.separating e)) 0)
    ∃ t, feeds.sink.value = .ok t ∧ separated.sink.value = .ok (Text.spell e t) ∧
      Text.Separated e (Text.spell e t).toList ∧
      (again.act (.write (Text.spell e t))).after.sink.value = .ok (Text.spell e t) := by
  intro feeds separated again
  have hstart : (Session.start (.inMemory (o.separating .lf)) guards).Over (Sink.Respelled e)
      (.start (.inMemory (o.separating e)) guards) :=
    ⟨rfl, rfl, rfl, [], Sink.inMemory_respelled o e⟩
  have hover : feeds.Over (Sink.Respelled e) separated :=
    (Sink.respelled_simulation e).run hstart as
  obtain ⟨hchannel, -, b, hseparated⟩ := hover.sink
  have hlive : (Sink.inMemory (o.separating .lf)).Live (o.separating .lf).style :=
    ⟨Sink.inMemory_ready _, rfl, Int.le_refl 0⟩
  have hnone : '\r' ∉ feeds.sink.destination.text.toList := by
    have hwritten := (Session.run_written (s := .start (.inMemory (o.separating .lf)) guards)
      hlive as).2
    rw [hwritten]
    exact Style.flat_no_return rfl _
  have hagain : (Sink.inMemory (o.separating e)).Live (o.separating e).style :=
    ⟨Sink.inMemory_ready _, rfl, Int.le_refl 0⟩
  refine ⟨feeds.sink.destination.text, Sink.value_buffered hchannel, ?_, ?_, ?_⟩
  · rw [hseparated, Sink.value_buffered (by exact hchannel)]
    exact congrArg _ (Destination.text_respelled e)
  · rw [Text.spell, String.toList_ofList]
    exact Text.separated_spellChars e hnone
  · obtain ⟨hlive', htext⟩ := hagain.write (Text.spell e feeds.sink.destination.text)
    refine (Sink.value_buffered hlive'.ready.buffer.channel).trans (congrArg _ ?_)
    rw [htext, Style.flat, List.map_singleton, Options.separating_lineEnding,
      Text.normalize_spell e hnone]
    simp [Sink.inMemory, Sink.fresh, Destination.text]

-- a line ending that is split between two pieces counts as two
example :
    let s := Session.start (.inMemory (Options.usual.separating .crlf)) 0
    (s.run [.write "a\r", .write "\nb\r\n"]).sink.value = .ok "a\r\n\r\nb\r\n" := by decide

end EventMarkup
