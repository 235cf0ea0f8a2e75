import EventMarkup.Proofs.Marks

/-!
# What arrives

Texts that are sent to a destination arrive up to the first that it does not take, and it takes them
all just if it takes each after those before (`Sink.sendAll_takes`). For a file this means that its
codec writes the texts and the device behind it takes the octets (`Destination.file_takes_iff`). A
codec of one of the six sets writes the texts that the set covers, with one mark
(`Text.Charset.codec_writes_iff`).
-/
namespace EventMarkup

/-! ## Codecs -/

/-- Whether a codec writes texts as items, one after the other, behind what has been sent. -/
inductive Codec.Writes (codec : Codec) : Array Item → List String → List Item → Prop where
  | nil {sent : Array Item} : Writes codec sent [] []
  | cons {sent : Array Item} {t : String} {bytes : List UInt8} {ts : List String}
      {items : List Item} (encoded : codec.encode sent t = .ok bytes)
      (rest : Writes codec (sent.push (.octets bytes)) ts items) :
      Writes codec sent (t :: ts) (.octets bytes :: items)

namespace Text.Charset

variable {c : Charset}

theorem codec_encode_ok_iff {sent : Array Item} {t : String} {bytes : List UInt8} :
    c.codec.encode sent t = .ok bytes ↔
      c.covers t = true ∧ .octets bytes = c.item sent.isEmpty t := by
  rw [codec_encode]
  cases c.covers t with
  | false => simp
  | true =>
    rw [if_pos rfl, Except.ok.injEq, item, Item.octets.injEq, eq_comm]
    exact (and_iff_right rfl).symm

/-- Behind the first item no mark is written. -/
theorem codec_writes_later {sent : Array Item} (hsent : sent.isEmpty = false) {ts : List String}
    {items : List Item} : c.codec.Writes sent ts items ↔
      (∀ t ∈ ts, c.covers t = true) ∧ items = ts.map (c.item false) := by
  constructor
  · intro h
    induction h with
    | nil => simp
    | cons encoded _ ih =>
      obtain ⟨hcovers, hitem⟩ := codec_encode_ok_iff.mp encoded
      obtain ⟨hrest, rfl⟩ := ih (by simp)
      rw [List.forall_mem_cons, List.map_cons, hitem, hsent]
      exact ⟨⟨hcovers, hrest⟩, rfl⟩
  · rintro ⟨hcovers, rfl⟩
    induction ts generalizing sent with
    | nil => exact .nil
    | cons t ts ih =>
      rw [List.forall_mem_cons] at hcovers
      refine .cons (codec_encode_ok_iff.mpr ⟨hcovers.1, ?_⟩) (ih (by simp) hcovers.2)
      rw [hsent]
      rfl

theorem codec_writes_iff {ts : List String} {items : List Item} :
    c.codec.Writes #[] ts items ↔
      (∀ t ∈ ts, c.covers t = true) ∧ items = c.items false ts := by
  cases ts with
  | nil =>
    refine ⟨fun h => ?_, fun ⟨_, h⟩ => h ▸ .nil⟩
    cases h
    simp [items]
  | cons t ts =>
    rw [List.forall_mem_cons]
    constructor
    · intro h
      cases h with
      | cons encoded rest =>
        obtain ⟨hcovers, hitem⟩ := codec_encode_ok_iff.mp encoded
        obtain ⟨hrest, rfl⟩ := (codec_writes_later (by simp)).mp rest
        exact ⟨⟨hcovers, hrest⟩, by rw [hitem]; rfl⟩
    · rintro ⟨⟨hcovers, hrest⟩, rfl⟩
      exact .cons (codec_encode_ok_iff.mpr ⟨hcovers, rfl⟩)
        ((codec_writes_later (by simp)).mpr ⟨hrest, rfl⟩)

end Text.Charset

/-! ## Devices -/

/-- Whether a device takes items, one after the other, behind what has been sent. -/
inductive Device.Takes (v : Device) : Array Item → List Item → Prop where
  | nil {sent : Array Item} : Takes v sent []
  | cons {sent : Array Item} {i : Item} {items : List Item} (taken : v.refuses sent i = none)
      (rest : Takes v (sent.push i) items) : Takes v sent (i :: items)

/-- Whether a device takes items from the first to the last and can be flushed then. -/
structure Device.Passes (v : Device) (items : List Item) : Prop where
  taken : v.Takes #[] items
  flushed : v.refusesFlush items.toArray = none

/-! ## Destinations -/

namespace Destination

/-- Whether a destination takes texts as items, one after the other, behind what has been sent. -/
inductive Takes (d : Destination) : Array Item → List String → List Item → Prop where
  | nil {sent : Array Item} : Takes d sent [] []
  | cons {sent : Array Item} {t : String} {i : Item} {ts : List String} {items : List Item}
      (item : { d with sent := sent }.item t = .ok i) (rest : Takes d (sent.push i) ts items) :
      Takes d sent (t :: ts) (i :: items)

theorem offer_ok_iff {d : Destination} {i j : Item} :
    d.offer i = .ok j ↔ d.device.refuses d.sent i = none ∧ i = j := by
  unfold offer
  cases d.device.refuses d.sent i <;> simp

section
variable {path label : String} {place : Place} {codec : Codec} {device : Device}
  {others : String → Option Codec} {sent : Array Item}

theorem file_item_ok_iff {t : String} {i : Item} :
    item { channel := .file path place codec, encoding := label, device, sent } t = .ok i ↔
      ∃ bytes, codec.encode sent t = .ok bytes ∧ i = .octets bytes ∧
        device.refuses sent i = none := by
  simp only [item, Bool.false_eq_true, if_false]
  cases codec.encode sent t with
  | error cause => simp
  | ok bytes =>
    rw [offer_ok_iff]
    constructor
    · rintro ⟨htaken, rfl⟩
      exact ⟨bytes, rfl, rfl, htaken⟩
    · rintro ⟨_, ⟨⟩, rfl, htaken⟩
      exact ⟨htaken, rfl⟩

theorem file_takes_iff {ts : List String} {items : List Item} :
    Takes { channel := .file path place codec, encoding := label, device } sent ts items ↔
      codec.Writes sent ts items ∧ device.Takes sent items := by
  constructor
  · intro h
    induction h with
    | nil => exact ⟨.nil, .nil⟩
    | cons item _ ih =>
      obtain ⟨bytes, hencoded, rfl, htaken⟩ := file_item_ok_iff.mp item
      exact ⟨.cons hencoded ih.1, .cons htaken ih.2⟩
  · rintro ⟨hwrites, htakes⟩
    induction hwrites with
    | nil => exact .nil
    | cons encoded _ ih =>
      cases htakes with
      | cons taken rest => exact .cons (file_item_ok_iff.mpr ⟨_, encoded, rfl, taken⟩) (ih rest)

theorem text_item_ok_iff {t : String} {i : Item} :
    item { channel := .stream .textLayer, encoding := label, device, others, sent } t = .ok i ↔
      i = .text t ∧ device.refuses sent i = none := by
  have hitem : item { channel := .stream .textLayer, encoding := label, device, others, sent } t =
      offer { channel := .stream .textLayer, encoding := label, device, others, sent } (.text t) :=
    rfl
  rw [hitem, offer_ok_iff]
  constructor
  · rintro ⟨htaken, rfl⟩
    exact ⟨rfl, htaken⟩
  · rintro ⟨rfl, htaken⟩
    exact ⟨htaken, rfl⟩

theorem text_takes_iff {ts : List String} {items : List Item} :
    Takes { channel := .stream .textLayer, encoding := label, device, others } sent ts items ↔
      items = ts.map .text ∧ device.Takes sent items := by
  constructor
  · intro h
    induction h with
    | nil => exact ⟨rfl, .nil⟩
    | cons item _ ih =>
      obtain ⟨rfl, htaken⟩ := text_item_ok_iff.mp item
      exact ⟨by rw [ih.1]; rfl, .cons htaken ih.2⟩
  · rintro ⟨rfl, htakes⟩
    induction ts generalizing sent with
    | nil => exact .nil
    | cons t ts ih =>
      cases htakes with
      | cons taken rest => exact .cons (text_item_ok_iff.mpr ⟨rfl, taken⟩) (ih rest)

end

end Destination

/-! ## Sending -/

namespace Sink

variable {d : Destination} (hopen : d.closed = false)
include hopen

theorem send_takes (l : Text.LineEnding) (sent : Array Item) (t : String) :
    send l { d with sent := sent } t =
      match { d with sent := sent }.item (Text.normalize l t) with
      | .ok i => .done { d with sent := sent.push i } ()
      | .error f => .fail { d with sent := sent } f := by
  rw [send, if_neg (by simp [hopen])]
  cases hitem : { d with sent := sent }.item (Text.normalize l t) <;>
    simp only [Destination.write, hitem]

/-- Texts are sent well just if the destination takes them, and then they are what it received. -/
theorem sendAll_takes (l : Text.LineEnding) (sent : Array Item) (ts : List String) :
    let r := sendAll l { d with sent := sent } ts
    (r.result = .ok () ↔ ∃ items, d.Takes sent (ts.map (Text.normalize l)) items) ∧
      ∀ items, d.Takes sent (ts.map (Text.normalize l)) items →
        r.after = { d with sent := sent ++ items } := by
  induction ts generalizing sent with
  | nil =>
    refine ⟨⟨fun _ => ⟨[], .nil⟩, fun _ => rfl⟩, fun items h => ?_⟩
    cases h
    simp [sendAll, Outcome.done]
  | cons t ts ih =>
    simp only [sendAll, send_takes hopen, List.map_cons]
    cases hitem : { d with sent := sent }.item (Text.normalize l t) with
    | error f =>
      have hnone (items : List Item) :
          ¬d.Takes sent (Text.normalize l t :: ts.map (Text.normalize l)) items := by
        intro h
        cases h with
        | cons item rest => cases hitem.symm.trans item
      refine ⟨⟨fun h => ?_, ?_⟩, fun _ h => absurd h (hnone _)⟩
      · cases h
      · rintro ⟨items, h⟩
        exact absurd h (hnone items)
    | ok i =>
      obtain ⟨hresult, hafter⟩ := ih (sent.push i)
      refine ⟨hresult.trans ⟨?_, ?_⟩, fun items h => ?_⟩
      · rintro ⟨items, h⟩
        exact ⟨i :: items, .cons hitem h⟩
      · rintro ⟨items, h⟩
        cases h with
        | cons item rest =>
          obtain rfl := Except.ok.inj (hitem.symm.trans item)
          exact ⟨_, rest⟩
      · cases h with
        | cons item rest =>
          obtain rfl := Except.ok.inj (hitem.symm.trans item)
          refine (hafter _ rest).trans ?_
          simp

end Sink

end EventMarkup
