import EventMarkup.Proofs.Octets
import Mathlib.Data.List.Basic
import Mathlib.Data.List.TakeWhile

/-!
# Octets read back

Each of the six character sets reads its own octets back: what it covers is the text again
(`Text.Charset.decode_octetsOf`), behind the mark of the set if it has one. A mark is itself the
encoding of a character, so one that stands further back is read as that character.
-/
namespace EventMarkup.Text.Charset

/-! ## Octets of characters -/

section
variable {c : Charset}

theorem encodeChars_eq {cs : List Char} {bytes : List UInt8} (h : c.encodeChars cs = some bytes) :
    (∀ d ∈ cs, (c.octets? d).isSome) ∧ bytes = cs.flatMap fun d => (c.octets? d).getD [] := by
  induction cs generalizing bytes with
  | nil =>
    cases h
    exact ⟨fun _ hd => (List.not_mem_nil hd).elim, rfl⟩
  | cons d cs ih =>
    simp only [encodeChars] at h
    split at h
    · rename_i first rest hfirst hrest
      cases h
      obtain ⟨hall, hbytes⟩ := ih hrest
      rw [List.forall_mem_cons, List.flatMap_cons, hfirst, ← hbytes]
      exact ⟨⟨rfl, hall⟩, rfl⟩
    · cases h

end

/-! ## One octet a character -/

theorem toNat_octet {d : Char} (h : d.toNat < 256) : (UInt8.ofNat d.toNat).toNat = d.toNat := by
  rw [UInt8.toNat_ofNat', Nat.mod_eq_of_lt h]

theorem decodeSingle_octets {limit : Nat} (hlimit : limit ≤ 256) {cs : List Char}
    (h : ∀ d ∈ cs, d.toNat < limit) :
    decodeSingle (cs.map fun d => UInt8.ofNat d.toNat) limit = .ok (String.ofList cs) := by
  have hbelow : ∀ b ∈ cs.map (fun d => UInt8.ofNat d.toNat), b.toNat < limit := by
    intro b hb
    obtain ⟨d, hd, rfl⟩ := List.mem_map.mp hb
    rw [toNat_octet (Nat.lt_of_lt_of_le (h d hd) hlimit)]
    exact h d hd
  have hall : (cs.map fun d => UInt8.ofNat d.toNat).takeWhile (fun b => b.toNat < limit) =
      cs.map fun d => UInt8.ofNat d.toNat :=
    List.takeWhile_eq_self_iff.mpr fun b hb => decide_eq_true (hbelow b hb)
  have hback : (cs.map fun d => UInt8.ofNat d.toNat).map (fun b => Char.ofNat b.toNat) = cs := by
    rw [List.map_map]
    refine (List.map_congr_left fun d hd => ?_).trans (List.map_id cs)
    rw [Function.comp_apply, toNat_octet (Nat.lt_of_lt_of_le (h d hd) hlimit), Char.ofNat_toNat]
    rfl
  rw [decodeSingle, hall, if_neg (Nat.lt_irrefl _), hback]

theorem decodeSingle_covered (c : Charset) {limit : Nat} (hlimit : limit ≤ 256)
    (hc : ∀ d, c.octets? d = if d.toNat < limit then some [UInt8.ofNat d.toNat] else none)
    {cs : List Char} (h : ∀ d ∈ cs, (c.octets? d).isSome) :
    decodeSingle (cs.flatMap fun d => (c.octets? d).getD []) limit = .ok (String.ofList cs) := by
  have hbelow : ∀ d ∈ cs, d.toNat < limit := by
    intro d hd
    have hsome := h d hd
    rw [hc] at hsome
    by_contra hnot
    rw [if_neg hnot] at hsome
    cases hsome
  have hoctets : (cs.flatMap fun d => (c.octets? d).getD []) =
      cs.map fun d => UInt8.ofNat d.toNat := by
    rw [List.map_eq_flatMap]
    refine List.flatMap_congr fun d hd => ?_
    rw [hc, if_pos (hbelow d hd), Option.getD_some]
  rw [hoctets, decodeSingle_octets hlimit hbelow]

/-! ## UTF-8 -/

theorem mk_flatMap_utf8EncodeChar (cs : List Char) :
    ByteArray.mk (cs.flatMap String.utf8EncodeChar).toArray = (String.ofList cs).toByteArray := by
  rw [String.toByteArray_ofList]
  exact ByteArray.ext (List.data_toByteArray ..).symm

theorem decodeUtf8_octets (cs : List Char) :
    decodeUtf8 (cs.flatMap String.utf8EncodeChar) = .ok (String.ofList cs) := by
  have hvalid : String.fromUTF8? (String.ofList cs).toByteArray = some (String.ofList cs) := by
    rw [String.fromUTF8?, dif_pos (String.ofList cs).isValidUTF8]
    rfl
  rw [decodeUtf8, mk_flatMap_utf8EncodeChar, hvalid]

theorem decodeUtf8_eq_ok_iff {bytes : List UInt8} {s : String} :
    decodeUtf8 bytes = .ok s ↔ bytes = s.toList.flatMap String.utf8EncodeChar := by
  constructor
  · intro h
    unfold decodeUtf8 at h
    split at h
    · rename_i t ht
      cases h
      obtain ⟨hvalid, hs⟩ := Option.dite_none_right_eq_some.mp ht
      have hbytes : s.toByteArray = ⟨bytes.toArray⟩ := by
        rw [← Option.some.inj hs]
        rfl
      rw [← String.ofList_toList (s := s), ← mk_flatMap_utf8EncodeChar] at hbytes
      have hdata := congrArg (fun b => b.data.toList) hbytes
      exact hdata.symm
    · split at h <;> cases h
  · rintro rfl
    rw [decodeUtf8_octets, String.ofList_toList]

/-! ## UTF-16 -/

theorem littleUnit_octets {n : Nat} (h : n < 0x10000) :
    littleUnit (UInt8.ofNat (n % 256)) (UInt8.ofNat (n / 256)) = n := by
  simp only [littleUnit, UInt8.toNat_ofNat']
  omega

/-- A character is no half of a surrogate pair. -/
theorem toNat_cases (c : Char) : c.toNat < 0xd800 ∨ 0xe000 ≤ c.toNat ∧ c.toNat < 0x110000 := by
  have hvalid : c.toNat.isValidChar := c.valid
  unfold Nat.isValidChar at hvalid
  omega

section
variable {unit : UInt8 → UInt8 → Nat} {a b c d : UInt8} {n m : Nat} (hn : unit a b = n)
include hn

theorem utf16Chars_unit (hlow : isLow n = false) (hhigh : isHigh n = false) (pos : Nat)
    (rest : List UInt8) : utf16Chars unit pos (a :: b :: rest) =
      (utf16Chars unit (pos + 2) rest).map (Char.ofNat n :: ·) := by
  rw [utf16Chars.eq_def]
  simp only [hn, hlow, hhigh, Bool.false_eq_true, if_false]

theorem utf16Chars_pair (hm : unit c d = m) (hfirst : isLow n = false) (hhigh : isHigh n = true)
    (hlow : isLow m = true) (pos : Nat) (rest : List UInt8) :
    utf16Chars unit pos (a :: b :: c :: d :: rest) = (utf16Chars unit (pos + 4) rest).map
      (Char.ofNat (0x10000 + (n - 0xd800) * 0x400 + (m - 0xdc00)) :: ·) := by
  rw [utf16Chars.eq_def]
  simp only [hn, hm, hfirst, hhigh, hlow, Bool.false_eq_true, if_false, if_true]

end

theorem utf16Chars_append (c : Char) (bytes : List UInt8) (pos : Nat) :
    ∃ pos', utf16Chars littleUnit pos (utf16Octets c ++ bytes) =
      (utf16Chars littleUnit pos' bytes).map (c :: ·) := by
  have hc := toNat_cases c
  have hback := Char.ofNat_toNat c
  generalize hn : c.toNat = n at hc hback
  by_cases hsmall : n < 0x10000
  · have hlow : isLow n = false := by simp [isLow]; omega
    have hhigh : isHigh n = false := by simp [isHigh]; omega
    have hunit := utf16Chars_unit (littleUnit_octets hsmall) hlow hhigh pos bytes
    simp only [utf16Octets, hn, hsmall, if_true]
    exact ⟨pos + 2, by rw [← hback]; exact hunit⟩
  · -- the two halves of the pair tell the character apart again
    have hhigh : isHigh (0xd800 + (n - 0x10000) / 0x400) = true := by simp [isHigh]; omega
    have hfirst : isLow (0xd800 + (n - 0x10000) / 0x400) = false := by simp [isLow]; omega
    have hlow : isLow (0xdc00 + (n - 0x10000) % 0x400) = true := by simp [isLow]; omega
    have hvalue : 0x10000 + (0xd800 + (n - 0x10000) / 0x400 - 0xd800) * 0x400 +
        (0xdc00 + (n - 0x10000) % 0x400 - 0xdc00) = n := by omega
    have hpair := utf16Chars_pair
      (littleUnit_octets (n := 0xd800 + (n - 0x10000) / 0x400) (by omega))
      (littleUnit_octets (n := 0xdc00 + (n - 0x10000) % 0x400) (by omega))
      hfirst hhigh hlow pos bytes
    rw [hvalue, hback] at hpair
    simp only [utf16Octets, hn, hsmall, if_false]
    exact ⟨pos + 4, hpair⟩

theorem utf16Chars_octets (cs : List Char) (pos : Nat) :
    utf16Chars littleUnit pos (cs.flatMap utf16Octets) = .ok cs := by
  induction cs generalizing pos with
  | nil => rfl
  | cons c cs ih =>
    obtain ⟨pos', hfirst⟩ := utf16Chars_append c (cs.flatMap utf16Octets) pos
    rw [List.flatMap_cons, hfirst, ih]
    rfl

/-! ## All sets -/

section
variable (c : Charset) {t : String} (h : c.covers t = true)
include h

theorem decode_octetsOf : c.decode (c.mark ++ c.octetsOf t) = .ok t := by
  obtain ⟨hall, hbytes⟩ := encodeChars_eq (c.encodeChars_of_covers h)
  have ht := String.ofList_toList (s := t)
  rw [hbytes]
  cases c with
  | utf8 =>
    have hread := decodeUtf8_octets t.toList
    rwa [ht] at hread
  | utf8Marked =>
    have hread := decodeUtf8_octets t.toList
    rwa [ht] at hread
  | latin1 =>
    have hread := latin1.decodeSingle_covered (Nat.le_refl 256) (fun _ => rfl) hall
    rwa [ht] at hread
  | ascii =>
    have hread := ascii.decodeSingle_covered (by decide) (fun _ => rfl) hall
    rwa [ht] at hread
  | utf16le =>
    have hread := utf16Chars_octets t.toList 0
    simp only [octets?, Option.getD_some, mark, List.nil_append, decode, decodeUtf16,
      List.drop_zero, hread, ht]
  | utf16 =>
    have hread := utf16Chars_octets t.toList 2
    simp only [octets?, Option.getD_some, mark, List.cons_append, List.nil_append, decode,
      decodeUtf16, List.drop_succ_cons, List.drop_zero, hread, ht]

end

/-! ## Marks further back -/

variable (c : Charset)

/-- What the mark of a set is read as behind other text: a character, or nothing without a mark. -/
def joint : String := if c.mark = [] then "" else "\ufeff"

theorem joint_eq_empty_iff : c.joint = "" ↔ c.mark = [] := by
  unfold joint
  split <;> simp_all

theorem covers_joint : c.covers c.joint = true ∧ c.octetsOf c.joint = c.mark := by
  cases c <;> decide

theorem octetsOf_append {t u : String} (ht : c.covers t = true) (hu : c.covers u = true) :
    c.covers (t ++ u) = true ∧ c.octetsOf (t ++ u) = c.octetsOf t ++ c.octetsOf u := by
  have hboth := c.encodeChars_append (c.encodeChars_of_covers ht) (c.encodeChars_of_covers hu)
  rw [← String.toList_append] at hboth
  exact ⟨by rw [covers, hboth]; rfl, by rw [octetsOf, hboth]; rfl⟩

theorem octetsOf_join {ts : List String} (h : ∀ t ∈ ts, c.covers t = true) :
    c.covers (String.join ts) = true ∧ c.octetsOf (String.join ts) = ts.flatMap c.octetsOf := by
  induction ts with
  | nil => exact ⟨rfl, rfl⟩
  | cons t ts ih =>
    rw [List.forall_mem_cons] at h
    obtain ⟨hcovers, hoctets⟩ := ih h.2
    obtain ⟨hall, happend⟩ := c.octetsOf_append h.1 hcovers
    rw [String.join_cons, List.flatMap_cons, ← hoctets]
    exact ⟨hall, happend⟩

theorem covers_iff (t : String) : c.covers t = true ↔ ∀ d ∈ t.toList, (c.octets? d).isSome := by
  constructor
  · exact fun h => (encodeChars_eq (c.encodeChars_of_covers h)).1
  · rw [covers]
    induction t.toList with
    | nil => exact fun _ => rfl
    | cons d cs ih =>
      intro h
      rw [List.forall_mem_cons] at h
      obtain ⟨first, hfirst⟩ := Option.isSome_iff_exists.mp h.1
      obtain ⟨rest, hrest⟩ := Option.isSome_iff_exists.mp (ih h.2)
      simp only [encodeChars, hfirst, hrest, Option.isSome_some]

theorem covers_join_iff (ts : List String) :
    c.covers (String.join ts) = true ↔ ∀ t ∈ ts, c.covers t = true := by
  induction ts with
  | nil => exact ⟨fun _ _ h => absurd h List.not_mem_nil, fun _ => rfl⟩
  | cons t ts ih =>
    rw [String.join_cons, List.forall_mem_cons, ← ih, covers_iff, covers_iff, covers_iff,
      String.toList_append, List.forall_mem_append]

theorem octetsOf_intercalate (t : String) {ts : List String}
    (h : ∀ u ∈ t :: ts, c.covers u = true) :
    c.covers (String.intercalate c.joint (t :: ts)) = true ∧
      c.mark ++ c.octetsOf (String.intercalate c.joint (t :: ts)) =
        (t :: ts).flatMap fun u => c.mark ++ c.octetsOf u := by
  induction ts generalizing t with
  | nil =>
    rw [String.intercalate_singleton, List.flatMap_singleton]
    exact ⟨h t (List.mem_cons_self ..), rfl⟩
  | cons u ts ih =>
    rw [List.forall_mem_cons] at h
    obtain ⟨hcovers, hrest⟩ := ih u h.2
    obtain ⟨hjoint, hmark⟩ := c.covers_joint
    obtain ⟨hfirst, htj⟩ := c.octetsOf_append h.1 hjoint
    obtain ⟨hall, happend⟩ := c.octetsOf_append hfirst hcovers
    rw [String.intercalate_cons_cons]
    refine ⟨hall, ?_⟩
    rw [happend, htj, hmark, List.append_assoc, hrest]
    exact (List.append_assoc ..).symm

/-- Texts that are encoded one by one, each with a mark, are read with a character between them. -/
theorem decode_each {ts : List String} (h : ∀ t ∈ ts, c.covers t = true) :
    c.decode (ts.flatMap fun t => c.mark ++ c.octetsOf t) =
      .ok (String.intercalate c.joint ts) := by
  cases ts with
  | nil =>
    cases c with
    | utf8 | utf8Marked => exact decodeUtf8_octets []
    | _ => rfl
  | cons t ts =>
    obtain ⟨hcovers, hoctets⟩ := c.octetsOf_intercalate t h
    rw [← hoctets, c.decode_octetsOf hcovers]

end EventMarkup.Text.Charset
