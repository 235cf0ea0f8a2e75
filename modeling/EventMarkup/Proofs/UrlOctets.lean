import EventMarkup.Proofs.Decoding
import EventMarkup.Text.Percent

/-!
# The octets of a URL

A URL stands for octets: an escape, which is `%` and two hexadecimal digits, stands for one, and
every other character for its UTF-8 form. A `%` that begins no escape stands for itself.

* `urlOctets_percentChars`: encoding a text leaves the octets that it stands for as they are. A
  percent sign that is kept never meets digits that it did not meet before.
* `urlOctets_eq_utf8_iff`: the octets are those of the text itself just if no escape is in it.
* `encodeUrl_readable_iff`: what an encoded text holds, and when it can be read back.
-/
namespace EventMarkup.Text

/-! ## Escapes -/

/-- The value of a hexadecimal digit, in either case. -/
def hexValue? (c : Char) : Option Nat :=
  if '0' ≤ c ∧ c ≤ '9' then some (c.toNat - 48)
  else if 'a' ≤ c ∧ c ≤ 'f' then some (c.toNat - 87)
  else if 'A' ≤ c ∧ c ≤ 'F' then some (c.toNat - 55)
  else none

/-- The octet that two hexadecimal digits write. -/
def hexOctet? (a b : Char) : Option UInt8 :=
  match hexValue? a, hexValue? b with
  | some m, some n => some (UInt8.ofNat (16 * m + n))
  | _, _ => none

/-- Whether `%` and two hexadecimal digits stand in a row somewhere. -/
def HasEscape (cs : List Char) : Prop :=
  ∃ a b, (hexOctet? a b).isSome ∧ ['%', a, b] <:+: cs

/-- The octets that a URL stands for, from left to right. -/
def urlOctets : List Char → List UInt8
  | '%' :: a :: b :: rest =>
    match hexOctet? a b with
    | some octet => octet :: urlOctets rest
    | none => String.utf8EncodeChar '%' ++ urlOctets (a :: b :: rest)
  | c :: rest => String.utf8EncodeChar c ++ urlOctets rest
  | [] => []

theorem hexValue?_upperHexDigit {n : Nat} (h : n < 16) : hexValue? (upperHexDigit n) = some n := by
  have hall : ∀ n : Fin 16, hexValue? (upperHexDigit n) = some n.val := by decide
  exact hall ⟨n, h⟩

theorem hexOctet?_digits (b : UInt8) :
    hexOctet? (upperHexDigit (b.toNat / 16)) (upperHexDigit (b.toNat % 16)) = some b := by
  have hb := b.toNat_lt
  have hsum : 16 * (b.toNat / 16) + b.toNat % 16 = b.toNat := by omega
  rw [hexOctet?, hexValue?_upperHexDigit (by omega), hexValue?_upperHexDigit (by omega)]
  simp only [hsum, UInt8.ofNat_toNat]

/-! ## What a URL stands for -/

/-- The octet that the first two characters write, if both are hexadecimal digits. -/
def leadingOctet? : List Char → Option UInt8
  | a :: b :: _ => hexOctet? a b
  | _ => none

/-- A character that begins no escape stands for itself. -/
theorem urlOctets_plain {c : Char} {cs : List Char} (h : c = '%' → leadingOctet? cs = none) :
    urlOctets (c :: cs) = String.utf8EncodeChar c ++ urlOctets cs := by
  rw [urlOctets.eq_def]
  split
  · rename_i a b rest heq
    obtain ⟨rfl, rfl⟩ := List.cons.inj heq
    have hnone : hexOctet? a b = none := h rfl
    rw [hnone]
  · rename_i heq
    obtain ⟨rfl, rfl⟩ := List.cons.inj heq
    rfl
  · rename_i heq
    cases heq

theorem urlOctets_escape {a b : Char} {octet : UInt8} (h : hexOctet? a b = some octet)
    (cs : List Char) : urlOctets ('%' :: a :: b :: cs) = octet :: urlOctets cs := by
  rw [urlOctets, h]

/-- A URL is read one escape or one other character at a time. -/
theorem url_induction {P : List Char → Prop} (nil : P [])
    (escape : ∀ a b octet rest, hexOctet? a b = some octet → P rest → P ('%' :: a :: b :: rest))
    (plain : ∀ c rest, (c = '%' → leadingOctet? rest = none) → P rest → P (c :: rest)) :
    ∀ cs, P cs := by
  intro cs
  fun_induction urlOctets cs with
  | case1 a b rest octet hoctet ih => exact escape a b octet rest hoctet ih
  | case2 a b rest hnone ih => exact plain _ _ (fun _ => hnone) ih
  | case3 c rest hshort ih =>
    refine plain c rest (fun hc => ?_) ih
    match rest with
    | [] | [_] => rfl
    | a :: b :: rest => exact absurd rfl (hshort a b rest hc)
  | case4 => exact nil

theorem urlOctets_percentOctets (bs : List UInt8) (cs : List Char) :
    urlOctets (bs.flatMap percentOctet ++ cs) = bs ++ urlOctets cs := by
  induction bs with
  | nil => rfl
  | cons b bs ih =>
    rw [List.flatMap_cons, List.append_assoc, List.cons_append, ← ih]
    exact urlOctets_escape (hexOctet?_digits b) _

/-! ## Encoding -/

theorem isUrlChar_of_hexValue? {c : Char} {n : Nat} (h : hexValue? c = some n) :
    isUrlChar c = true := by
  have hdigit (h : '0' ≤ c ∧ c ≤ '9') : c.isDigit = true :=
    Bool.and_eq_true_iff.mpr ⟨decide_eq_true h.1, decide_eq_true h.2⟩
  have hlower (h : 'a' ≤ c ∧ c ≤ 'f') : c.isLower = true :=
    have hz : c ≤ 'z' := Char.le_trans h.2 (by decide)
    Bool.and_eq_true_iff.mpr ⟨decide_eq_true h.1, decide_eq_true hz⟩
  have hupper (h : 'A' ≤ c ∧ c ≤ 'F') : c.isUpper = true :=
    have hz : c ≤ 'Z' := Char.le_trans h.2 (by decide)
    decide_eq_true ⟨h.1, hz⟩
  have halphanum : ((c.isUpper || c.isLower) || c.isDigit) = true := by
    rw [Bool.or_eq_true, Bool.or_eq_true]
    unfold hexValue? at h
    split at h
    · rename_i hc
      exact .inr (hdigit hc)
    · split at h
      · rename_i hc
        exact .inl (.inr (hlower hc))
      · split at h
        · rename_i hc
          exact .inl (.inl (hupper hc))
        · cases h
  exact Bool.or_eq_true_iff.mpr (.inl halphanum)

theorem percentUnit_of_urlChar {c : Char} (h : isUrlChar c = true) : percentUnit c = [c] := by
  rw [percentUnit, if_pos h]

theorem percentUnit_of_not_urlChar {c : Char} (h : isUrlChar c = false) :
    percentUnit c = (String.utf8EncodeChar c).flatMap percentOctet := by
  rw [percentUnit, h]
  rfl

theorem percentChars_cons (c : Char) (cs : List Char) :
    percentChars (c :: cs) = percentUnit c ++ percentChars cs := List.flatMap_cons

theorem leadingOctet?_cons (a : Char) (cs : List Char) :
    leadingOctet? (a :: cs) = cs.head?.bind (hexOctet? a) := by
  cases cs <;> rfl

theorem isUrlChar_of_hexOctet? {a b : Char} {octet : UInt8} (h : hexOctet? a b = some octet) :
    isUrlChar a = true ∧ isUrlChar b = true := by
  unfold hexOctet? at h
  split at h
  · rename_i m n ha hb
    exact ⟨isUrlChar_of_hexValue? ha, isUrlChar_of_hexValue? hb⟩
  · cases h

theorem hexOctet?_eq_none {a b : Char} (h : isUrlChar a = false ∨ isUrlChar b = false) :
    hexOctet? a b = none := by
  cases hoctet : hexOctet? a b with
  | none => rfl
  | some octet =>
    obtain ⟨ha, hb⟩ := isUrlChar_of_hexOctet? hoctet
    simp [ha, hb] at h

theorem hexOctet?_percent (a : Char) : hexOctet? a '%' = none := by
  unfold hexOctet?
  cases hexValue? a <;> rfl

/-- The first character that is written: the first of the text, or the start of its escape. -/
theorem head?_percentChars (cs : List Char) :
    (percentChars cs).head? = cs.head?.map fun c => if isUrlChar c then c else '%' := by
  cases cs with
  | nil => rfl
  | cons c cs =>
    rw [percentChars_cons, List.head?_cons, Option.map_some]
    cases hc : isUrlChar c with
    | true =>
      rw [percentUnit_of_urlChar hc]
      rfl
    | false =>
      obtain ⟨b, bs, hbytes⟩ := List.exists_cons_of_ne_nil (String.utf8EncodeChar_ne_nil (c := c))
      rw [percentUnit_of_not_urlChar hc, hbytes]
      rfl

/-- Encoding brings no hexadecimal digits to the front and takes none away from there. -/
theorem leadingOctet?_percentChars (cs : List Char) :
    leadingOctet? (percentChars cs) = leadingOctet? cs := by
  cases cs with
  | nil => rfl
  | cons a cs =>
    rw [percentChars_cons, leadingOctet?_cons a cs]
    cases ha : isUrlChar a with
    | true =>
      rw [percentUnit_of_urlChar ha, List.singleton_append, leadingOctet?_cons, head?_percentChars]
      cases cs with
      | nil => rfl
      | cons b cs =>
        rw [List.head?_cons, Option.map_some, Option.bind_some, Option.bind_some]
        cases hb : isUrlChar b with
        | true => rfl
        | false =>
          rw [hexOctet?_eq_none (.inr hb)]
          exact hexOctet?_percent a
    | false =>
      obtain ⟨o, os, hbytes⟩ := List.exists_cons_of_ne_nil (String.utf8EncodeChar_ne_nil (c := a))
      rw [percentUnit_of_not_urlChar ha, hbytes]
      cases cs with
      | nil => rfl
      | cons b cs => exact (hexOctet?_eq_none (.inl ha)).symm

theorem urlOctets_percentUnit {c : Char} {cs : List Char} (h : c = '%' → leadingOctet? cs = none) :
    urlOctets (percentUnit c ++ cs) = String.utf8EncodeChar c ++ urlOctets cs := by
  cases hc : isUrlChar c with
  | true =>
    rw [percentUnit_of_urlChar hc]
    exact urlOctets_plain h
  | false => rw [percentUnit_of_not_urlChar hc, urlOctets_percentOctets]

/-- Encoding a text leaves the octets that it stands for as they are. -/
theorem urlOctets_percentChars (cs : List Char) : urlOctets (percentChars cs) = urlOctets cs := by
  have hsign : isUrlChar '%' = true := by decide
  induction cs using url_induction with
  | nil => rfl
  | escape a b octet rest hoctet ih =>
    obtain ⟨ha, hb⟩ := isUrlChar_of_hexOctet? hoctet
    have hkept : percentChars ('%' :: a :: b :: rest) = '%' :: a :: b :: percentChars rest := by
      simp only [percentChars_cons, percentUnit_of_urlChar ha, percentUnit_of_urlChar hb,
        percentUnit_of_urlChar hsign, List.singleton_append]
    rw [hkept, urlOctets_escape hoctet, urlOctets_escape hoctet, ih]
  | plain c rest h ih =>
    have hrest : c = '%' → leadingOctet? (percentChars rest) = none := by
      rwa [leadingOctet?_percentChars]
    rw [percentChars_cons, urlOctets_percentUnit hrest, urlOctets_plain h, ih]

/-! ## Escapes in a text -/

theorem hasEscape_cons_iff {c : Char} {cs : List Char} (h : c = '%' → leadingOctet? cs = none) :
    HasEscape (c :: cs) ↔ HasEscape cs := by
  constructor
  · rintro ⟨a, b, hoctet, hinfix⟩
    refine ⟨a, b, hoctet, (List.infix_cons_iff.mp hinfix).resolve_left ?_⟩
    rintro ⟨rest, hrest⟩
    obtain ⟨rfl, rfl⟩ := List.cons.inj hrest
    have hnone : hexOctet? a b = none := h rfl
    rw [hnone] at hoctet
    cases hoctet
  · rintro ⟨a, b, hoctet, hinfix⟩
    exact ⟨a, b, hoctet, List.infix_cons hinfix⟩

theorem urlOctets_of_no_escape {cs : List Char} (h : ¬HasEscape cs) :
    urlOctets cs = cs.flatMap String.utf8EncodeChar := by
  induction cs using url_induction with
  | nil => rfl
  | escape a b octet rest hoctet =>
    exact absurd ⟨a, b, by rw [hoctet]; rfl, ['%', a, b].prefix_append rest |>.isInfix⟩ h
  | plain c rest hplain ih =>
    rw [hasEscape_cons_iff hplain] at h
    rw [urlOctets_plain hplain, ih h, List.flatMap_cons]

theorem length_urlOctets (cs : List Char) :
    (urlOctets cs).length ≤ (cs.flatMap String.utf8EncodeChar).length ∧
      (HasEscape cs → (urlOctets cs).length < (cs.flatMap String.utf8EncodeChar).length) := by
  induction cs using url_induction with
  | nil => exact ⟨Nat.le_refl _, fun ⟨a, b, _, h⟩ => by simp at h⟩
  | escape a b octet rest hoctet ih =>
    have hlength (c : Char) : 0 < (String.utf8EncodeChar c).length :=
      List.length_pos_iff.mpr String.utf8EncodeChar_ne_nil
    have ha := hlength a
    have hb := hlength b
    simp only [urlOctets_escape hoctet, List.flatMap_cons, List.length_append, List.length_cons]
    omega
  | plain c rest h ih =>
    rw [hasEscape_cons_iff h, urlOctets_plain h, List.flatMap_cons, List.length_append,
      List.length_append]
    exact ⟨Nat.add_le_add_left ih.1 _, fun hescape => Nat.add_lt_add_left (ih.2 hescape) _⟩

theorem urlOctets_eq_utf8_iff (cs : List Char) :
    urlOctets cs = cs.flatMap String.utf8EncodeChar ↔ ¬HasEscape cs := by
  refine ⟨fun h hescape => ?_, urlOctets_of_no_escape⟩
  have hlt := (length_urlOctets cs).2 hescape
  rw [h] at hlt
  exact Nat.lt_irrefl _ hlt

/-! ## Encoded texts -/

theorem toList_encodeUrl (s : String) : (encodeUrl s).toList = percentChars s.toList :=
  String.toList_ofList

theorem isUrlChar_of_mem_percentChars {c : Char} {cs : List Char} (h : c ∈ percentChars cs) :
    isUrlChar c = true := by
  obtain ⟨d, -, hc⟩ := List.mem_flatMap.mp h
  cases hd : isUrlChar d with
  | true =>
    rw [percentUnit_of_urlChar hd, List.mem_singleton] at hc
    exact hc ▸ hd
  | false =>
    rw [percentUnit_of_not_urlChar hd] at hc
    obtain ⟨b, -, hb⟩ := List.mem_flatMap.mp hc
    obtain ⟨hhigh, hlow⟩ := isUrlChar_of_hexOctet? (hexOctet?_digits b)
    simp only [percentOctet, List.mem_cons, List.not_mem_nil, or_false] at hb
    rcases hb with rfl | rfl | rfl
    · decide
    · exact hhigh
    · exact hlow

theorem percentChars_eq_self {cs : List Char} (h : ∀ c ∈ cs, isUrlChar c = true) :
    percentChars cs = cs := by
  rw [percentChars, List.flatMap_congr fun c hc => percentUnit_of_urlChar (h c hc)]
  exact List.flatMap_singleton' cs

theorem encodeUrl_encodeUrl (s : String) : encodeUrl (encodeUrl s) = encodeUrl s := by
  rw [encodeUrl, toList_encodeUrl, percentChars_eq_self fun c => isUrlChar_of_mem_percentChars]
  rfl

theorem encodeUrl_append (s t : String) : encodeUrl (s ++ t) = encodeUrl s ++ encodeUrl t := by
  rw [encodeUrl, String.toList_append, percentChars, List.flatMap_append, String.ofList_append]
  rfl

/-- **A text in a URL.** It consists of ASCII letters and digits and of reserved and unreserved
marks. Encoding it once more changes nothing, and texts are encoded piece by piece. The octets that
it stands for are the UTF-8 form of the text just if no percent sign in the text comes before two
hexadecimal digits. -/
theorem encodeUrl_readable_iff (s : String) :
    (∀ c ∈ (encodeUrl s).toList,
      c.isAlphanum = true ∨ c ∈ "-_.!~*\x27();/?:@&=+$,#%[]".toList) ∧
      encodeUrl (encodeUrl s) = encodeUrl s ∧
      (∀ t, encodeUrl (s ++ t) = encodeUrl s ++ encodeUrl t) ∧
      (Charset.decodeUtf8 (urlOctets (encodeUrl s).toList) = .ok s ↔ ¬HasEscape s.toList) := by
  have hmarks : urlMarks = "-_.!~*\x27();/?:@&=+$,#%[]".toList := by decide
  refine ⟨fun c hc => ?_, encodeUrl_encodeUrl s, encodeUrl_append s, ?_⟩
  · rw [toList_encodeUrl] at hc
    have hkept := isUrlChar_of_mem_percentChars hc
    rwa [isUrlChar, Bool.or_eq_true, List.contains_iff_mem, hmarks] at hkept
  · rw [Charset.decodeUtf8_eq_ok_iff, toList_encodeUrl, urlOctets_percentChars,
      urlOctets_eq_utf8_iff]

/-- A percent sign that is kept may come to stand before an escape, and is told from it. -/
example : encodeUrl "50%é" = "50%%C3%A9" ∧
    urlOctets "50%%C3%A9".toList = "50%é".toList.flatMap String.utf8EncodeChar := by decide

end EventMarkup.Text
