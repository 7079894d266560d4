import Mathlib.Data.List.Basic

/-!
Percent-encoding: every character that is not unreserved stands as the bytes of its UTF-8 form.
-/

namespace PercentEncoding

def isUnreserved (c : Char) : Bool :=
  c.isAlphanum || c = '-' || c = '.' || c = '_' || c = '~'

def hexDigit (n : Nat) : Char := Char.ofNat (if n < 10 then 48 + n else 55 + n)

def encodeByte (byte : UInt8) : List Char :=
  ['%', hexDigit (byte.toNat / 16), hexDigit (byte.toNat % 16)]

def encodeChar (c : Char) : List Char :=
  if isUnreserved c then [c] else (String.utf8EncodeChar c).flatMap encodeByte

def encode (s : String) : String := String.ofList (s.toList.flatMap encodeChar)

theorem length_encodeChar {c : Char} (h : ¬ isUnreserved c) : 3 ≤ (encodeChar c).length := by
  rw [encodeChar, if_neg h]
  obtain ⟨byte, bytes, hBytes⟩ := List.exists_cons_of_ne_nil (@String.utf8EncodeChar_ne_nil c)
  simp [hBytes, encodeByte]

theorem length_le (cs : List Char) : cs.length ≤ (cs.flatMap encodeChar).length := by
  induction cs with
  | nil => exact Nat.le_refl 0
  | cons c cs ih =>
      rw [List.flatMap_cons, List.length_append, List.length_cons]
      by_cases h : isUnreserved c
      · have hOne : (encodeChar c).length = 1 := by simp [encodeChar, h]
        omega
      · have hLong := length_encodeChar h
        omega

/-- A text is its own encoding only if all of it is unreserved. -/
theorem flatMap_encodeChar_eq_iff {cs : List Char} :
    cs.flatMap encodeChar = cs ↔ ∀ c ∈ cs, isUnreserved c := by
  induction cs with
  | nil => simp
  | cons c cs ih =>
      by_cases h : isUnreserved c
      · simp [encodeChar, h, ih]
      · have hLong := length_encodeChar h
        have hRest := length_le cs
        constructor
        · intro hSame
          have hLength := congrArg List.length hSame
          simp only [List.flatMap_cons, List.length_append, List.length_cons] at hLength
          omega
        · exact fun hAll => absurd (hAll c (by simp)) h

theorem encode_eq_iff {s : String} : encode s = s ↔ ∀ c ∈ s.toList, isUnreserved c := by
  rw [← flatMap_encodeChar_eq_iff]
  constructor
  · intro h
    have hList := congrArg String.toList h
    rwa [encode, String.toList_ofList] at hList
  · intro h
    rw [encode, h, String.ofList_toList]

end PercentEncoding
