import EventMarkup.Proofs.Buffer
import EventMarkup.Proofs.Files
import EventMarkup.Proofs.Octets
import EventMarkup.Proofs.PlainSession
import EventMarkup.Proofs.SinkUse

/-!
# Files, streams and buffers agree

Events and texts can be written to a file, to a stream of octets or to a sink's own buffer. What an
action writes depends on the state of the sink alone, and which of it arrives on the character set
(`Session.Recording.act`). So a file and a stream stay twins all along a run, in what they fail with
too (`Session.Twins.run`), and a buffer keeps the text of which the stream has the encoding for as
long as nothing fails (`Session.Copies.run`).

`outputs_agree` puts this together, with what is read back from the file.
-/
namespace EventMarkup

/-! ## Writing actions -/

def Fault.placed (path : String) : Fault → Fault
  | output _ act cause => output (some path) act cause
  | f => f

namespace Session

/-- Whether an action is an event or a text to be written. -/
def Action.isWriting : Action → Bool
  | event _ | write _ => true
  | _ => false

/-- What a writing action makes the sink do. -/
def reaction (s : Session) : Action → Reaction
  | .event e => Render.respond s.sink.style s.sink.state e
  | .write t => .write s.sink.state [t]
  | _ => .become s.sink.state

def answers (s : Session) : List Action → List (Except Fault Answer)
  | [] => []
  | a :: as => (s.act a).result :: (s.act a).after.answers as

theorem run_append (s : Session) (as bs : List Action) : s.run (as ++ bs) = (s.run as).run bs := by
  induction as generalizing s with
  | nil => rfl
  | cons a as ih => exact ih _

theorem answers_append (s : Session) (as bs : List Action) :
    s.answers (as ++ bs) = s.answers as ++ (s.run as).answers bs := by
  induction as generalizing s with
  | nil => rfl
  | cons a as ih => exact congrArg _ (ih _)

end Session

theorem Sink.write_eq_perform (k : Sink) (t : String) :
    k.write t = k.perform (.write k.state [t]) := by
  simp only [write, perform, Reaction.write, sendAll, send]
  split
  · rfl
  · simp only [Destination.write]
    split <;> rfl

namespace Session

theorem Action.isClosing_of_isWriting {a : Action} (h : a.isWriting = true) :
    a.isClosing = false := by
  cases a with
  | close | leave => cases h
  | _ => rfl

theorem destination_close (s : Session) (as : List Action) :
    (s.run (as ++ [.close])).sink.destination =
      { (s.run as).sink.destination with closed := true } := by
  rw [run_append, run, run, act_closing _ (a := .close) rfl, Sink.close_after]

theorem Plain.act_writing {st : Style} {s : Session} (h : s.Plain st)
    (hc : 0 ≤ s.sink.state.cellIndex) {a : Action} (ha : a.isWriting = true) :
    s.act a = ((s.sink.perform (s.reaction a)).within fun k => ⟨[], k⟩).map fun _ => .nothing := by
  cases a with
  | event e =>
    rw [Session.act, h.event_eq, Sink.event_eq_perform h.vocabulary (Render.lookupFault?_none hc e)]
    rfl
  | write t =>
    rw [Session.act, onSink, Sink.write_eq_perform, h.guards]
    rfl
  | _ => cases ha

/-! ## Sessions that write octets -/

/-- The texts that a writing action sends, with their line endings made uniform. -/
def sent (s : Session) (a : Action) : List String :=
  (s.reaction a).pieces.map (Text.normalize s.sink.style.lineEnding)

/-- A session without guards over a destination that encodes each text on its own. -/
structure Recording (c : Text.Charset) (st : Style) (s : Session) : Prop where
  plain : s.Plain st
  cells : 0 ≤ s.sink.state.cellIndex
  encodes : s.sink.destination.Encodes c

section
variable {c : Text.Charset} {st : Style} {s : Session} (h : s.Recording c st)
include h

/-- A writing action writes its texts up to the first that cannot be encoded. -/
theorem Recording.act {a : Action} (ha : a.isWriting = true) :
    (s.act a).after.Recording c st ∧
      (s.act a).after.sink.destination.path = s.sink.destination.path ∧
      (s.act a).after.sink.destination.octets =
        s.sink.destination.octets ++ c.written (s.sent a) ∧
      (s.act a).after.sink.state = (if (c.refused? (s.sent a)).isSome then (s.reaction a).early
        else (s.reaction a).late) ∧
      (s.act a).result =
        (s.sink.destination.answer (c.refused? (s.sent a))).map fun _ => .nothing := by
  have hact := h.plain.act_writing h.cells ha
  obtain ⟨hresult, ⟨items, hkept⟩, hoctets, hstate⟩ := h.encodes.perform (s.reaction a)
  have hcells : 0 ≤ (s.act a).after.sink.state.cellIndex :=
    Sink.Use.keeps (P := fun k => 0 ≤ k.state.cellIndex) (fun _ _ hu hk => hu.cellIndex_nonneg hk)
      (s.act_used (Action.isClosing_of_isWriting ha)) h.cells
  have hdestination : (s.act a).after.sink.destination =
      { s.sink.destination with sent := items } := by rw [hact]; exact hkept
  refine ⟨⟨h.plain.act a, hcells, ?_⟩, ?_, ?_, ?_, ?_⟩
  · rw [hdestination]
    exact h.encodes.keep items
  · rw [hdestination]
    rfl
  · rw [hact]
    exact hoctets
  · rw [hact]
    exact hstate
  · rw [hact]
    exact congrArg (Except.map fun _ => Answer.nothing) hresult

theorem Recording.close : (s.act .close).result = .ok .nothing := by
  rw [Session.act, Session.close, h.plain.guards]
  simp only [closeUnder, Sink.close, Destination.close, h.encodes.closed,
    h.encodes.flush s.sink.destination.sent]
  rfl

end

/-- Two sessions in the same state that wrote the same octets, one to a file at a path and one to a
stream. -/
structure Twins (c : Text.Charset) (st : Style) (path : String) (f s : Session) : Prop where
  file : f.Recording c st
  stream : s.Recording c st
  path : f.sink.destination.path = some path
  borrowed : s.sink.destination.path = none
  state : f.sink.state = s.sink.state
  octets : f.sink.destination.octets = s.sink.destination.octets

/-- A session without guards over its own buffer, in the same state as one that wrote the encoding
of its text. -/
structure Copies (c : Text.Charset) (st : Style) (m s : Session) : Prop where
  plain : m.Plain st
  buffer : m.sink.destination.OpenBuffer
  stream : s.Recording c st
  state : m.sink.state = s.sink.state
  text : c.encodeChars m.sink.destination.text.toList = some s.sink.destination.octets

section
variable {c : Text.Charset} {st : Style} {path : String} {f s m : Session}

theorem Plain.reaction_eq (hf : f.Plain st) (hs : s.Plain st) (h : f.sink.state = s.sink.state)
    (a : Action) : f.reaction a = s.reaction a := by
  cases a <;> simp only [reaction, hf.style, hs.style, h]

theorem Plain.sent_eq (hf : f.Plain st) (hs : s.Plain st) (h : f.sink.state = s.sink.state)
    (a : Action) : f.sent a = s.sent a := by
  rw [sent, sent, hf.reaction_eq hs h, hf.style, hs.style]

/-- What a writing action on a stream of octets in memory can fail with. -/
def WritesOrRefuses (r : Except Fault Answer) : Prop :=
  r = .ok .nothing ∨ ∃ u, r = .error (.output none .write (.unencodable u))

theorem Twins.act (h : Twins c st path f s) {a : Action} (ha : a.isWriting = true) :
    Twins c st path (f.act a).after (s.act a).after ∧
      (f.act a).result = (s.act a).result.mapError (.placed path) ∧
      WritesOrRefuses (s.act a).result := by
  obtain ⟨hfile, hpath, hf, hfstate, hfresult⟩ := h.file.act ha
  obtain ⟨hstream, hborrowed, hs, hsstate, hsresult⟩ := h.stream.act ha
  have hreaction : f.reaction a = s.reaction a :=
    h.file.plain.reaction_eq h.stream.plain h.state a
  have hsent : f.sent a = s.sent a := h.file.plain.sent_eq h.stream.plain h.state a
  refine ⟨⟨hfile, hstream, hpath.trans h.path, hborrowed.trans h.borrowed, ?_, ?_⟩, ?_, ?_⟩
  · rw [hfstate, hsstate, hsent, hreaction]
  · rw [hf, hs, hsent, h.octets]
  · rw [hfresult, hsresult, hsent]
    cases c.refused? (s.sent a) with
    | none => rfl
    | some u =>
      simp only [Destination.answer, Destination.failure, h.path]
      rfl
  · rw [hsresult]
    cases c.refused? (s.sent a) with
    | none => exact Or.inl rfl
    | some u =>
      refine Or.inr ⟨u, ?_⟩
      simp only [Destination.answer, Destination.failure, h.borrowed]
      rfl

theorem Twins.run (h : Twins c st path f s) {as : List Action}
    (has : ∀ a ∈ as, a.isWriting = true) :
    Twins c st path (f.run as) (s.run as) ∧
      f.answers as = (s.answers as).map (.mapError (.placed path)) ∧
      ∀ r ∈ s.answers as, WritesOrRefuses r := by
  induction as generalizing f s with
  | nil => exact ⟨h, rfl, fun _ hr => (List.not_mem_nil hr).elim⟩
  | cons a as ih =>
    rw [List.forall_mem_cons] at has
    obtain ⟨hnext, hanswer, hform⟩ := h.act has.1
    obtain ⟨hend, hanswers, hforms⟩ := ih hnext has.2
    refine ⟨hend, ?_, ?_⟩
    · rw [answers, answers, hanswer, hanswers, List.map_cons]
    · rw [answers, List.forall_mem_cons]
      exact ⟨hform, hforms⟩

/-- An action that does not fail writes the encoding of what comes into the buffer. -/
theorem Copies.act (h : Copies c st m s) {a : Action} (ha : a.isWriting = true)
    (hok : (s.act a).result.isOk = true) : Copies c st (m.act a).after (s.act a).after := by
  obtain ⟨hstream, -, hoctets, hstate, hresult⟩ := h.stream.act ha
  -- a buffer takes every text, so both do the same only as long as nothing is refused
  have hcovered : c.refused? (s.sent a) = none := by
    cases hu : c.refused? (s.sent a) with
    | none => rfl
    | some u =>
      rw [hresult, hu] at hok
      cases hok
  have hreaction : m.reaction a = s.reaction a := h.plain.reaction_eq h.stream.plain h.state a
  have hsent : m.sent a = s.sent a := h.plain.sent_eq h.stream.plain h.state a
  have hact := h.plain.act_writing (h.state ▸ h.stream.cells) ha
  obtain ⟨hgood, hbuffer, htext⟩ := h.buffer.perform (m.reaction a)
  have hafter : (m.act a).after.sink = (m.sink.perform (m.reaction a)).after := by rw [hact]; rfl
  refine ⟨h.plain.act a, ?_, hstream, ?_, ?_⟩
  · rw [hafter]
    exact hbuffer
  · rw [hafter, Sink.perform_ok hgood, hstate, hcovered, hreaction]
    rfl
  · have hjoin : c.encodeChars (String.join (m.sent a)).toList = some (c.written (s.sent a)) := by
      rw [hsent]
      exact c.encodeChars_join hcovered
    rw [hafter, htext, hoctets, String.toList_append]
    exact c.encodeChars_append h.text hjoin

theorem Copies.run (h : Copies c st m s) {as : List Action} (has : ∀ a ∈ as, a.isWriting = true)
    (hok : ∀ r ∈ s.answers as, r.isOk = true) : Copies c st (m.run as) (s.run as) := by
  induction as generalizing m s with
  | nil => exact h
  | cons a as ih =>
    rw [List.forall_mem_cons] at has
    rw [answers, List.forall_mem_cons] at hok
    exact ih (h.act has.1 hok.1) has.2 hok.2

/-! ## Once all is closed -/

theorem octets_close (s : Session) (as : List Action) :
    (s.run (as ++ [.close])).sink.destination.octets = (s.run as).sink.destination.octets := by
  rw [destination_close]
  rfl

theorem Twins.answers_close (h : Twins c st path f s) {as : List Action}
    (has : ∀ a ∈ as, a.isWriting = true) :
    f.answers (as ++ [.close]) = (s.answers (as ++ [.close])).map (.mapError (.placed path)) ∧
      ∀ r ∈ s.answers (as ++ [.close]), WritesOrRefuses r := by
  obtain ⟨hend, hanswers, hforms⟩ := h.run has
  simp only [answers_append, answers, hanswers, hend.file.close, hend.stream.close,
    List.map_append, List.forall_mem_append]
  exact ⟨rfl, hforms, List.forall_mem_singleton.mpr (Or.inl rfl)⟩

/-- A file that was emptied for a session and closed by it holds what the session wrote. -/
theorem store_close {f : Session} {place : Place} {codec : Codec}
    (h : f.sink.destination.channel = .file path place codec) {as : List Action}
    (has : ∀ a ∈ as, a.isWriting = true)
    (hflush : (f.run as).sink.destination.flushFailure? = none) (disk : Disk) :
    (f.run (as ++ [.close])).sink.destination.store disk =
      disk.overwrite place (f.run as).sink.destination.octets := by
  obtain ⟨items, state, hkept⟩ :=
    f.run_kept fun a ha => Action.isClosing_of_isWriting (has a ha)
  rw [run_append, run, run, act_closing _ (a := .close) rfl]
  have hchannel : (f.run as).sink.destination.channel = .file path place codec := by
    rw [hkept]
    exact h
  exact Sink.store_close hchannel hflush disk

theorem Copies.value_close (h : Copies c st m s) (hmark : c.mark = []) {as : List Action}
    (has : ∀ a ∈ as, a.isWriting = true)
    (hok : ∀ r ∈ s.answers (as ++ [.close]), r.isOk = true) :
    ∃ t, (m.run (as ++ [.close])).sink.value = .ok t ∧
      c.encode true t = .ok (s.run (as ++ [.close])).sink.destination.octets := by
  simp only [answers_append, List.forall_mem_append] at hok
  have hend := h.run has hok.1
  refine ⟨(m.run as).sink.destination.text, ?_, ?_⟩
  · simp only [Sink.value, Destination.value, m.destination_close as, hend.buffer.channel]
    rfl
  · simp only [Text.Charset.encode, hend.text, hmark, octets_close]
    rfl

end

theorem twins_start {o : Options} {c : Text.Charset} {path : String} {place : Place}
    (hnull : Text.Charset.hasNull o.encoding = false)
    (hlabel : Text.Charset.ofLabel? o.encoding = some c) (hmark : c.mark = []) :
    Twins c o.style path
      (start (.fresh o { channel := .file path place c, encoding := o.encoding }) 0)
      (start (.fresh o { channel := .stream .memoryOctets, encoding := o.encoding }) 0) where
  file := ⟨⟨rfl, rfl, rfl⟩, Int.le_refl 0, Destination.encodes_file hmark path place _⟩
  stream := ⟨⟨rfl, rfl, rfl⟩, Int.le_refl 0, Destination.encodes_memory hnull hlabel hmark⟩
  path := rfl
  borrowed := rfl
  state := rfl
  octets := rfl

end Session

/-- **Files, streams and buffers agree.** In a character set without a mark (UTF-8, Latin-1, ASCII
or UTF-16 of a known byte order), let the same events and texts be written to a file, to a stream of
octets in memory and to a sink's own buffer, and let all three be closed.

File and stream answer alike at each step, only that a fault of the file tells its path, and nothing
fails but for a text that cannot be encoded. What is read from the file is what the stream received;
if nothing failed, it is the encoding of the text in the buffer. An action adds the octets of its
texts up to the first that cannot be encoded, of which it adds none. -/
theorem outputs_agree (disk : Disk) (path : String) (o : Options) {c : Text.Charset} {k : Sink}
    (hlabel : Text.Charset.ofLabel? o.encoding = some c) (hmark : c.mark = [])
    (hopen : (Sink.create disk .everything (some (.full o)) (.file path)).result = .ok k)
    (as : List Session.Action) (has : ∀ a ∈ as, a.isWriting = true) :
    let emptied := (Sink.create disk .everything (some (.full o)) (.file path)).after
    let file := Session.start k 0
    let stream :=
      Session.start (.fresh o { channel := .stream .memoryOctets, encoding := o.encoding }) 0
    let own := Session.start (.inMemory o) 0
    let whole := as ++ [.close]
    let received := (stream.run whole).sink.destination.octets
    file.answers whole = (stream.answers whole).map (.mapError (.placed path)) ∧
      (∀ r ∈ stream.answers whole,
        r = .ok .nothing ∨ ∃ u, r = .error (.output none .write (.unencodable u))) ∧
      ((file.run whole).sink.destination.store emptied).read path = .ok received ∧
      ((∀ r ∈ stream.answers whole, r.isOk = true) →
        ∃ t, (own.run whole).sink.value = .ok t ∧ c.encode true t = .ok received) ∧
      ∀ a, a.isWriting = true → ((stream.run as).act a).after.sink.destination.octets =
        (stream.run as).sink.destination.octets ++ c.written ((stream.run as).sent a) := by
  intro emptied file stream own whole received
  obtain ⟨place, hplace, hnull, rfl, hemptied⟩ := Sink.create_file hlabel hopen
  have htwins : Session.Twins c o.style path file stream :=
    Session.twins_start hnull hlabel hmark
  have hcopies : Session.Copies c o.style own stream :=
    ⟨Session.start_plain o, ⟨rfl, rfl⟩, htwins.stream, rfl, rfl⟩
  have hend : Session.Twins c o.style path (file.run as) (stream.run as) := (htwins.run has).1
  obtain ⟨hanswers, hforms⟩ := htwins.answers_close has
  refine ⟨hanswers, hforms, ?_, hcopies.value_close hmark has, fun a ha => ?_⟩
  · have hstore : (file.run whole).sink.destination.store emptied =
        emptied.overwrite place (file.run as).sink.destination.octets :=
      Session.store_close rfl has (hend.file.encodes.flush _) emptied
    have hdisk : emptied = disk.put place [] := hemptied
    rw [hstore, hend.octets, ← stream.octets_close as, hdisk]
    exact Disk.read_overwrite hplace received
  · obtain ⟨-, -, hoctets, -⟩ := hend.stream.act ha
    exact hoctets

def latin : Options := { Options.usual with encoding := "latin-1", encoding_ne := by decide }

/-- A run with a picture that Latin-1 cannot name, in a figure. -/
def pictured : List Session.Action :=
  [.write "é\n", .event (.figure (some ∅)), .event (.figureGraphics "€.png" (some ∅)),
    .event .figureEnd]

theorem pictured_agrees :
    let created := Sink.create {} .everything (some (.full latin)) (.file "out.html")
    let k := Sink.fresh latin
      { channel := .file "out.html" ["out.html"] Text.Charset.latin1, encoding := "latin-1" }
    let own := Session.start (.inMemory latin) 0
    created.result = .ok k ∧
      ((Session.start k 0).answers (pictured ++ [.close])).map Except.isOk =
        [true, true, false, true, true] ∧
      (((Session.start k 0).run (pictured ++ [.close])).sink.destination.store created.after).read
          "out.html" =
        .ok (Text.Charset.latin1.octetsOf "é\n<div class=\"figure\"><p align=\"center\"></div>") ∧
      ∃ t, (own.run [.write "é\n", .close]).sink.value = .ok t ∧
        Text.Charset.latin1.encode true t = .ok [0xe9, 0x0a] := by
  intro created k own
  have hlabel : Text.Charset.ofLabel? latin.encoding = some .latin1 := by decide
  have hopen : created.result = .ok k := by rfl
  obtain ⟨hanswers, -, hread, -⟩ :=
    outputs_agree {} "out.html" latin hlabel rfl hopen pictured (by decide)
  obtain ⟨-, -, -, hown, -⟩ :=
    outputs_agree {} "out.html" latin hlabel rfl hopen [.write "é\n"] (by decide)
  refine ⟨hopen, ?_, ?_, ?_⟩
  · rw [hanswers]
    decide +kernel
  · rw [hread]
    decide +kernel
  · obtain ⟨t, ht, hencoded⟩ := hown (by decide)
    refine ⟨t, ht, hencoded.trans ?_⟩
    decide

end EventMarkup
