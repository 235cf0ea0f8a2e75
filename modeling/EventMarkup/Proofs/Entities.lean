import EventMarkup.Text.Escape

/-!
# Decoding entities

`decodeChars` reads text from left to right and turns each of the five entities back into the
character that it stands for. Everything else stays, an ampersand that begins no entity too.

* `decode_escape`: decoding undoes escaping, whatever the text looks like.
-/
namespace EventMarkup.Text

/-- The characters with the five entities decoded. -/
def decodeChars : List Char → List Char
  | '&' :: 'a' :: 'm' :: 'p' :: ';' :: rest => '&' :: decodeChars rest
  | '&' :: 'l' :: 't' :: ';' :: rest => '<' :: decodeChars rest
  | '&' :: 'g' :: 't' :: ';' :: rest => '>' :: decodeChars rest
  | '&' :: 'q' :: 'u' :: 'o' :: 't' :: ';' :: rest => '\x22' :: decodeChars rest
  | '&' :: '#' :: 'x' :: '2' :: '7' :: ';' :: rest => '\x27' :: decodeChars rest
  | c :: rest => c :: decodeChars rest
  | [] => []

def decode (s : String) : String := String.ofList (decodeChars s.toList)

/-- Only an ampersand can begin an entity. -/
theorem decodeChars_cons {c : Char} (h : c ≠ '&') (rest : List Char) :
    decodeChars (c :: rest) = c :: decodeChars rest := by
  rw [decodeChars.eq_def]
  split <;> simp_all

/-- What is written for a character is read as that character, whatever comes after it. -/
theorem decodeChars_entity (c : Char) (rest : List Char) :
    decodeChars (entity c ++ rest) = c :: decodeChars rest := by
  unfold entity
  split
  · rename_i hc; subst hc; rfl
  · rename_i hamp
    split
    · rename_i hc; subst hc; rfl
    split
    · rename_i hc; subst hc; rfl
    split
    · rename_i hc; subst hc; rfl
    split
    · rename_i hc; subst hc; rfl
    · exact decodeChars_cons hamp rest

theorem escapeChars_cons (c : Char) (cs : List Char) :
    escapeChars (c :: cs) = entity c ++ escapeChars cs := List.flatMap_cons

theorem decodeChars_escapeChars (cs : List Char) : decodeChars (escapeChars cs) = cs := by
  induction cs with
  | nil => rfl
  | cons c cs ih => rw [escapeChars_cons, decodeChars_entity, ih]

theorem decode_escape (s : String) : decode (escape s) = s := by
  simp [decode, escape, decodeChars_escapeChars]

end EventMarkup.Text
