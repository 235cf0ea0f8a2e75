import EventMarkup.Proofs.Decoding
import EventMarkup.Proofs.Files
import EventMarkup.Proofs.Output
import EventMarkup.Proofs.SinkUse

/-!
# Marks in a stream

A stream of octets gets each piece of markup encoded on its own, with a mark of its own if the
character set has one; a file is one encoded stream with one mark. So a file reads back as the text
of the run, and what a stream received does so if the set has no mark or there is one piece at most:
each further mark is read as a character (`stream_reads_back_iff`).

A destination that takes texts in either way holds their octets (`Destination.Took`), and a run goes
well on it just if the set covers its output (`Sink.run_took`).
-/
namespace EventMarkup

/-! ## Texts that were taken -/

namespace Text.Charset

variable (c : Charset)

/-- The item that a text becomes, with a mark or without one. -/
def item (marked : Bool) (t : String) : Item :=
  .octets ((if marked then c.mark else []) ++ c.octetsOf t)

/-- The items that texts become, with a mark in front of each or of the first alone. -/
def items (each : Bool) : List String → List Item
  | [] => []
  | t :: ts => c.item true t :: ts.map (c.item each)

theorem items_append (each : Bool) (ts : List String) (t : String) :
    c.items each (ts ++ [t]) = c.items each ts ++ [c.item (each || ts.isEmpty) t] := by
  cases ts with
  | nil => rw [List.isEmpty_nil, Bool.or_true]; rfl
  | cons u ts => simp [items]

/-- Texts with a mark each are read with the mark of each but the first as a character. -/
theorem decode_items_each {ts : List String} (h : ∀ t ∈ ts, c.covers t = true) :
    c.decode ((c.items true ts).flatMap Item.bytes) = .ok (String.intercalate c.joint ts) := by
  have hitems : (c.items true ts).flatMap Item.bytes =
      ts.flatMap fun t => c.mark ++ c.octetsOf t := by
    cases ts <;> simp [items, item, Item.bytes, List.flatMap_map]
  rw [hitems, c.decode_each h]

/-- Texts with one mark in front of all come to the mark and the octets of the whole. -/
theorem octets_items_once {t : String} {ts : List String} (h : ∀ u ∈ t :: ts, c.covers u = true) :
    (c.items false (t :: ts)).flatMap Item.bytes =
      c.mark ++ c.octetsOf (String.join (t :: ts)) := by
  rw [(c.octetsOf_join h).2]
  simp [items, item, Item.bytes, List.flatMap_map]

/-- Texts with one mark in front of all are read as they are. -/
theorem decode_items_once {ts : List String} (h : ∀ t ∈ ts, c.covers t = true) :
    c.decode ((c.items false ts).flatMap Item.bytes) = .ok (String.join ts) := by
  cases ts with
  | nil => exact c.decode_each h
  | cons t ts => rw [c.octets_items_once h, c.decode_octetsOf (c.octetsOf_join h).1]

end Text.Charset

theorem length_intercalate (s t : String) (ts : List String) :
    (String.intercalate s (t :: ts)).length =
      (String.join (t :: ts)).length + ts.length * s.length := by
  induction ts generalizing t with
  | nil => simp
  | cons u ts ih =>
    rw [String.intercalate_cons_cons, String.join_cons, String.length_append, String.length_append,
      String.length_append, ih, List.length_cons, Nat.succ_mul]
    omega

theorem intercalate_empty (t : String) (ts : List String) :
    String.intercalate "" (t :: ts) = String.join (t :: ts) := by
  induction ts generalizing t with
  | nil => simp
  | cons u ts ih => rw [String.intercalate_cons_cons, ih, String.append_empty, ← String.join_cons]

/-- What stands between texts shows unless it is empty or there is nothing to stand between. -/
theorem intercalate_eq_join_iff (s : String) (ts : List String) :
    String.intercalate s ts = String.join ts ↔ s = "" ∨ ts.length ≤ 1 := by
  cases ts with
  | nil => simp
  | cons t ts =>
    refine ⟨fun heq => ?_, fun h => ?_⟩
    · have hlength := length_intercalate s t ts
      rw [heq] at hlength
      have hnone : ts.length * s.length = 0 := by omega
      rcases Nat.mul_eq_zero.mp hnone with hts | hs
      · exact Or.inr (by rw [List.length_cons, hts])
      · exact Or.inl (String.length_eq_zero_iff.mp hs)
    · rcases h with rfl | hts
      · exact intercalate_empty t ts
      · obtain rfl : ts = [] := List.length_eq_zero_iff.mp (by simpa using hts)
        simp

/-- An open destination that took texts which a set covers, and encodes them with a mark for each
or one for all. -/
structure Destination.Took (c : Text.Charset) (each : Bool) (ts : List String) (d : Destination) :
    Prop where
  closed : d.closed = false
  item (sent : Array Item) (t : String) : { d with sent := sent }.item t =
    if c.covers t then .ok (c.item (each || sent.isEmpty) t)
    else .error (d.failure .write (.unencodable (c.unencodable t)))
  sent : d.sent.toList = c.items each ts
  covered : ∀ t ∈ ts, c.covers t = true

namespace Destination

variable {c : Text.Charset}

theorem took_file (path : String) (place : Place) (label : String) :
    Took c false [] { channel := .file path place c, encoding := label } := by
  refine ⟨rfl, fun sent t => ?_, rfl, fun _ ht => (List.not_mem_nil ht).elim⟩
  simp only [item, Bool.false_eq_true, if_false, c.codec_encode]
  cases c.covers t <;> simp [Text.Charset.item, failure, Destination.path]

theorem took_memory {label : String} (hnull : Text.Charset.hasNull label = false)
    (hlabel : Text.Charset.ofLabel? label = some c) :
    Took c true [] { channel := .stream .memoryOctets, encoding := label } := by
  refine ⟨rfl, fun sent t => ?_, rfl, fun _ ht => (List.not_mem_nil ht).elim⟩
  simp only [item, streamItem, Stream.memoryOctets, hnull, Codec.named?_of_label hlabel,
    c.codec_encode]
  cases c.covers t <;> simp [Text.Charset.item, failure, Destination.path]

namespace Took

variable {each : Bool} {ts : List String} {d : Destination} (h : d.Took c each ts)
include h

theorem send (l : Text.LineEnding) (t : String) :
    let u := Text.normalize l t
    ((Sink.send l d t).result = .ok () ↔ c.covers u = true) ∧
      (c.covers u = true → (Sink.send l d t).after.Took c each (ts ++ [u])) := by
  intro u
  have hempty : d.sent.isEmpty = ts.isEmpty := by
    rw [← Array.isEmpty_toList, h.sent]
    cases ts <;> rfl
  have hsend : Sink.send l d t =
      if c.covers u then .done { d with sent := d.sent.push (c.item (each || ts.isEmpty) u) } ()
      else .fail d (d.failure .write (.unencodable (c.unencodable u))) := by
    have hitem : d.item u = if c.covers u then .ok (c.item (each || d.sent.isEmpty) u)
        else .error (d.failure .write (.unencodable (c.unencodable u))) := h.item d.sent u
    rw [Sink.send, if_neg (by simp [h.closed]), write, hitem, hempty]
    cases c.covers u <;> rfl
  rw [hsend]
  cases hu : c.covers u with
  | false => simp [Outcome.fail]
  | true =>
    refine ⟨⟨fun _ => rfl, fun _ => rfl⟩, fun _ => ⟨h.closed, h.item, ?_, ?_⟩⟩
    · rw [c.items_append, ← h.sent]
      exact Array.toList_push
    · rw [List.forall_mem_append]
      exact ⟨h.covered, List.forall_mem_singleton.mpr hu⟩

theorem sendAll (l : Text.LineEnding) (us : List String) :
    let vs := us.map (Text.normalize l)
    ((Sink.sendAll l d us).result = .ok () ↔ ∀ v ∈ vs, c.covers v = true) ∧
      ((∀ v ∈ vs, c.covers v = true) → (Sink.sendAll l d us).after.Took c each (ts ++ vs)) := by
  induction us generalizing d ts with
  | nil => exact ⟨⟨fun _ _ hv => (List.not_mem_nil hv).elim, fun _ => rfl⟩,
      fun _ => (List.append_nil ts).symm ▸ h⟩
  | cons u us ih =>
    obtain ⟨hresult, htook⟩ := h.send l u
    simp only [List.map_cons, List.forall_mem_cons, Sink.sendAll, Outcome.bind]
    cases hu : c.covers (Text.normalize l u) with
    | false =>
      cases hr : (Sink.send l d u).result with
      | error f => simp
      | ok => exact absurd (hresult.mp hr) (by simp [hu])
    | true =>
      have hsent := hresult.mpr hu
      obtain ⟨hrest, htookRest⟩ := ih (htook hu)
      rw [List.append_assoc] at htookRest
      simp only [hsent, true_and]
      exact ⟨hrest, htookRest⟩

end Took

end Destination

/-! ## Runs -/

theorem Sink.final_kept (k : Sink) (es : List Event) : k.Kept (final Sink.event k es) := by
  induction es generalizing k with
  | nil => exact ⟨_, _, rfl⟩
  | cons e es ih => exact (k.event_kept e).trans (ih _)

section
variable {c : Text.Charset} {each : Bool} {ts : List String} {k : Sink}
  (h : k.destination.Took c each ts) (hv : k.vocabulary = .everything)
  (hc : 0 ≤ k.state.cellIndex)
include h hv hc

theorem Sink.event_took (e : Event) :
    let us := (Render.respond k.style k.state e).pieces.map (Text.normalize k.style.lineEnding)
    ((k.event e).result = .ok () ↔ ∀ u ∈ us, c.covers u = true) ∧
      ((∀ u ∈ us, c.covers u = true) → (k.event e).after.destination.Took c each (ts ++ us)) := by
  intro us
  obtain ⟨hresult, htook⟩ :=
    h.sendAll k.style.lineEnding (Render.respond k.style k.state e).pieces
  rw [event_eq_perform hv (Render.lookupFault?_none hc e)]
  simp only [us, ← hresult, perform] at htook ⊢
  cases hr : (Sink.sendAll k.style.lineEnding k.destination
      (Render.respond k.style k.state e).pieces).result with
  | error f => simp
  | ok => exact ⟨⟨fun _ => rfl, fun _ => rfl⟩, fun _ => htook hr⟩

theorem Sink.run_took (es : List Event) :
    let us := (Render.output k.style k.state es).map (Text.normalize k.style.lineEnding)
    ((∀ x ∈ steps Sink.event k es, x.outcome.result = .ok ()) ↔ ∀ u ∈ us, c.covers u = true) ∧
      ((∀ u ∈ us, c.covers u = true) →
        (final Sink.event k es).destination.Took c each (ts ++ us)) := by
  induction es generalizing k ts with
  | nil =>
    exact ⟨⟨fun _ _ hu => (List.not_mem_nil hu).elim, fun _ _ hx => (List.not_mem_nil hx).elim⟩,
      fun _ => (List.append_nil ts).symm ▸ h⟩
  | cons e es ih =>
    obtain ⟨hresult, htook⟩ := event_took h hv hc e
    have hv' := (event_vocabulary k e).trans hv
    have hstyle := event_style k e
    simp only [steps_cons, List.forall_mem_cons, Render.output, List.map_append,
      List.forall_mem_append, ← hresult]
    cases hr : (k.event e).result with
    | error f => simp
    | ok =>
      obtain ⟨hrest, htookRest⟩ := ih (htook (hresult.mp hr)) hv' (event_cellIndex hc e)
      rw [event_state hr, hstyle, List.append_assoc] at htookRest
      rw [event_state hr, hstyle] at hrest
      simp only [true_and, hrest]
      exact htookRest

end

/-- A sink that renders all events over a stream of octets in memory. -/
def Sink.overOctets (o : Options) : Sink :=
  .fresh o { channel := .stream .memoryOctets, encoding := o.encoding }

/-- **A stream reads back where there is no mark to repeat.** Let events be sent to a stream of
octets in memory, in any of the six character sets, and none of them fail. Read in the same set, the
octets are the pieces of the run with the mark of the set between them, as a character. So they are
the text that a sink's own buffer gets if and only if the set has no mark or there is one piece at
most. A file fails with none of the same events, and always reads back as that text. -/
theorem stream_reads_back_iff (o : Options) {c : Text.Charset}
    (hnull : Text.Charset.hasNull o.encoding = false)
    (hlabel : Text.Charset.ofLabel? o.encoding = some c) (es : List Event)
    (hok : ∀ x ∈ steps Sink.event (.overOctets o) es, x.outcome.result = .ok ()) :
    let stream := final Sink.event (.overOctets o) es
    let pieces := (Render.output o.style .initial es).map (Text.normalize o.lineEnding)
    ∃ t, (final Sink.event (.inMemory o) es).value = .ok t ∧
      c.decode stream.destination.octets = .ok (String.intercalate c.joint pieces) ∧
      (c.decode stream.destination.octets = .ok t ↔ c.mark = [] ∨ pieces.length ≤ 1) ∧
      ∀ disk path k,
        (Sink.create disk .everything (some (.full o)) (.file path)).result = .ok k →
        (∀ x ∈ steps Sink.event k es, x.outcome.result = .ok ()) ∧
          ∃ bytes, ((final Sink.event k es).close.after.destination.store
              (Sink.create disk .everything (some (.full o)) (.file path)).after).read path =
              .ok bytes ∧
            c.decode bytes = .ok t := by
  intro stream pieces
  have hcells : (0 : Int) ≤ 0 := Int.le_refl 0
  obtain ⟨hcovered, htook⟩ := Sink.run_took (k := .overOctets o)
    (Destination.took_memory hnull hlabel) rfl hcells es
  have hpieces : ∀ u ∈ pieces, c.covers u = true := hcovered.mp hok
  obtain ⟨-, hready, htext⟩ :=
    (Sink.inMemory_ready o).run (Render.columnsFound_of_nonneg hcells es)
  have hvalue : (final Sink.event (.inMemory o) es).value = .ok (String.join pieces) := by
    have hempty : (Sink.inMemory o).destination.text = "" := rfl
    rw [hready.value, htext, hempty, String.empty_append]
    rfl
  have hstream : c.decode stream.destination.octets = .ok (String.intercalate c.joint pieces) := by
    rw [Destination.octets, (htook hpieces).sent]
    exact c.decode_items_each hpieces
  refine ⟨_, hvalue, hstream, ?_, fun disk path k hk => ?_⟩
  · rw [hstream, Except.ok.injEq, intercalate_eq_join_iff, c.joint_eq_empty_iff]
  · obtain ⟨place, hplace, -, rfl, hemptied⟩ := Sink.create_file hlabel hk
    obtain ⟨hcovered', htook'⟩ := Sink.run_took
      (k := .fresh o { channel := .file path place c, encoding := o.encoding })
      (Destination.took_file path place _) rfl hcells es
    refine ⟨hcovered'.mpr hpieces, _, ?_, c.decode_items_once hpieces⟩
    have hoctets : (final Sink.event _ es).destination.octets = _ :=
      congrArg (List.flatMap Item.bytes) (htook' hpieces).sent
    obtain ⟨items, s, hkept⟩ := Sink.final_kept
      (.fresh o { channel := .file path place c, encoding := o.encoding }) es
    rw [Sink.store_close (by rw [hkept]; rfl) (by rw [hkept]; rfl), hoctets, hemptied]
    exact Disk.read_overwrite hplace _

example : ["utf-8", "utf-8-sig", "latin-1", "ascii", "utf-16", "utf-16-le"].map
    Text.Charset.ofLabel? = [some .utf8, some .utf8Marked, some .latin1, some .ascii, some .utf16,
      some .utf16le] := by decide +kernel

def wide : Options := { Options.usual with encoding := "utf-16", encoding_ne := by decide }

def threePieces : List Event :=
  [.elementStart .paragraph ∅, .text "a" ∅, .elementEnd .paragraph]

theorem threePieces_readBack :
    let created := Sink.create {} .everything (some (.full wide)) (.file "out.html")
    let k := Sink.fresh wide
      { channel := .file "out.html" ["out.html"] Text.Charset.utf16, encoding := "utf-16" }
    (∀ x ∈ steps Sink.event (.overOctets wide) threePieces, x.outcome.result = .ok ()) ∧
      created.result = .ok k ∧
      ∃ bytes, ((final Sink.event k threePieces).close.after.destination.store created.after).read
          "out.html" = .ok bytes ∧
        Text.Charset.utf16.decode bytes = .ok "<p>a</p>" := by
  intro created k
  have hok : ∀ x ∈ steps Sink.event (.overOctets wide) threePieces, x.outcome.result = .ok () := by
    decide +kernel
  obtain ⟨t, ht, -, -, hfile⟩ := stream_reads_back_iff wide (c := .utf16) (by decide) (by decide)
    threePieces hok
  obtain ⟨-, bytes, hread, hdecoded⟩ := hfile {} "out.html" k rfl
  have hvalue : (final Sink.event (.inMemory wide) threePieces).value = .ok "<p>a</p>" := by decide
  obtain rfl : "<p>a</p>" = t := Except.ok.inj (hvalue.symm.trans ht)
  exact ⟨hok, rfl, bytes, hread, hdecoded⟩

/-- Three pieces in UTF-16 come to a stream with three marks, of which two are read as characters
that are not in the text. -/
theorem markedStream_garbled :
    let stream := final Sink.event (.overOctets wide) threePieces
    (∀ x ∈ steps Sink.event (.overOctets wide) threePieces, x.outcome.result = .ok ()) ∧
      (final Sink.event (.inMemory wide) threePieces).value = .ok "<p>a</p>" ∧
      Text.Charset.utf16.decode stream.destination.octets = .ok "<p>\ufeffa\ufeff</p>" ∧
      Text.Charset.utf16.decode stream.destination.octets ≠ .ok "<p>a</p>" := by
  decide +kernel

end EventMarkup
