import PgClient.Library.BigEndian
import PgClient.Protocol.Buffer

/-!
A parser of frames by their header, the type byte and the length: `Message::parse` as
far as it does not look into the body. A message is the bytes of its frame.
-/

namespace PgClient.Codec

open Framing

def lengthField (s : Bytes) : Nat := BigEndian.nat ((s.drop 1).take 4)

def invalidLength : IoError where
  kind := .invalidInput
  message := "invalid message length: parsing u32"

def parseFrame (s : Bytes) : Except IoError (Option Bytes) × Bytes :=
  if s.length < 5 then (.ok none, s)
  else if lengthField s < 4 then (.error invalidLength, s)
  else if s.length < lengthField s + 1 then (.ok none, s)
  else (.ok (some (s.take (lengthField s + 1))), s.drop (lengthField s + 1))

theorem lengthField_append {header : Bytes} (h : 5 ≤ header.length) (more : Bytes) :
    lengthField (header ++ more) = lengthField header := by
  have hRest : 4 ≤ (header.drop 1).length := by
    rw [List.length_drop]
    omega
  rw [lengthField, List.drop_append_of_le_length (by omega), List.take_append_of_le_length hRest,
    lengthField]

theorem parseFrame_short {s : Bytes} (h : s.length < 5) : parseFrame s = (.ok none, s) := if_pos h

theorem parseFrame_unfinished {s : Bytes} (hField : 4 ≤ lengthField s)
    (hShort : s.length < lengthField s + 1) : parseFrame s = (.ok none, s) := by
  unfold parseFrame
  rw [if_neg (Nat.not_lt.mpr hField), if_pos hShort, ite_self]

theorem parseFrame_complete {frame : Bytes} (hField : 4 ≤ lengthField frame)
    (hLength : frame.length = lengthField frame + 1) : IsFrame parseFrame frame frame := by
  refine ⟨List.ne_nil_of_length_pos (by omega), fun more => ?_⟩
  have hSame := lengthField_append (by omega : 5 ≤ frame.length) more
  have hLong : frame.length ≤ (frame ++ more).length := List.length_append ▸ Nat.le_add_right _ _
  unfold parseFrame
  rw [if_neg (by omega), if_neg (by omega), if_neg (by omega), hSame, ← hLength,
    List.take_left' rfl, List.drop_left' rfl]

/-- Not enough bytes, a length that no message has, or a frame. -/
theorem parseFrame_cases (s : Bytes) :
    parseFrame s = (.ok none, s) ∨
      5 ≤ s.length ∧ lengthField s < 4 ∧ parseFrame s = (.error invalidLength, s) ∨
      4 ≤ lengthField s ∧ lengthField s + 1 ≤ s.length ∧
        parseFrame s = (.ok (some (s.take (lengthField s + 1))), s.drop (lengthField s + 1)) := by
  unfold parseFrame
  split
  case isTrue => exact .inl rfl
  case isFalse hHeader =>
      split
      case isTrue hField => exact .inr (.inl ⟨Nat.le_of_not_lt hHeader, hField, rfl⟩)
      case isFalse hField =>
          split
          case isTrue => exact .inl rfl
          case isFalse hLong =>
              exact .inr (.inr ⟨Nat.le_of_not_lt hField, Nat.le_of_not_lt hLong, rfl⟩)

theorem parseFrame_invalid {s : Bytes} (hHeader : 5 ≤ s.length) (hField : lengthField s < 4) :
    parseFrame s = (.error invalidLength, s) := by
  unfold parseFrame
  rw [if_neg (Nat.not_lt.mpr hHeader), if_pos hField]

theorem parseFrame_lawful : Lawful parseFrame where
  nothing {s rest} h := by
    obtain hNone | ⟨-, -, hError⟩ | ⟨-, -, hFrame⟩ := parseFrame_cases s
    · cases hNone.symm.trans h
      rfl
    · cases hError.symm.trans h
    · cases hFrame.symm.trans h
  frame {s rest message} h := by
    obtain hNone | ⟨-, -, hError⟩ | ⟨hField, hLong, hFrame⟩ := parseFrame_cases s
    · cases hNone.symm.trans h
    · cases hError.symm.trans h
    · cases hFrame.symm.trans h
      have hTaken : (s.take (lengthField s + 1)).length = lengthField s + 1 :=
        List.length_take_of_le hLong
      have hHeader : 5 ≤ (s.take (lengthField s + 1)).length := by omega
      have hSame := lengthField_append hHeader (s.drop (lengthField s + 1))
      rw [List.take_append_drop] at hSame
      exact ⟨_, (List.take_append_drop _ s).symm, parseFrame_complete (by omega) (by omega)⟩
  malformed {s rest e} h more := by
    obtain hNone | ⟨hHeader, hField, hError⟩ | ⟨-, -, hFrame⟩ := parseFrame_cases s
    · cases hNone.symm.trans h
    · cases hError.symm.trans h
      have hLong : 5 ≤ (s ++ more).length := by
        rw [List.length_append]
        omega
      have hField' : lengthField (s ++ more) < 4 := lengthField_append hHeader more ▸ hField
      rw [parseFrame_invalid hLong hField']
    · cases hFrame.symm.trans h

end PgClient.Codec
