import PgClient.Library.DateFormat

/-!
The texts that a parser of dates and times may take with the usual leniency: spaces before
numbers, numbers with fewer digits, years with a sign. An admitted text has the characters that
its items account for.
-/

namespace DateFormat

open Digits

def isSpace (c : Char) : Bool :=
  (9 ≤ c.toNat && c.toNat ≤ 13) || (8192 ≤ c.toNat && c.toNat ≤ 8202) ||
    c.toNat ∈ [32, 133, 160, 5760, 8232, 8233, 8239, 8287, 12288]

/-- The signs of a number, and what stands for an offset of nothing. -/
def isSign (c : Char) : Bool := c ∈ ['+', '-', '\u2212', 'Z', 'z']

/-- The pieces of a text that an item may take: numbers may have fewer digits and spaces in
front, a year with a sign any number of digits. -/
inductive Item.Admits : Item → List Char → Prop where
  | number {part : Part} {spaces digits : List Char} (hSpaces : ∀ c ∈ spaces, isSpace c)
      (hDigits : ∀ c ∈ digits, c.isDigit) (hLength : digits.length ≤ part.width) :
      Admits (.number part) (spaces ++ digits)
  | signedYear {spaces digits : List Char} {sign : Char} (hSpaces : ∀ c ∈ spaces, isSpace c)
      (hSign : isSign sign) (hDigits : ∀ c ∈ digits, c.isDigit) :
      Admits (.number .year) (spaces ++ sign :: digits)
  | noFraction : Admits .fraction []
  | fraction {digits : List Char} (hDigits : ∀ c ∈ digits, c.isDigit) :
      Admits .fraction ('.' :: digits)
  | zulu {spaces : List Char} {sign : Char} (hSpaces : ∀ c ∈ spaces, isSpace c)
      (hSign : isSign sign) : Admits .offset (spaces ++ [sign])
  | offset {spaces hours separators minutes : List Char} {sign : Char}
      (hSpaces : ∀ c ∈ spaces, isSpace c) (hSign : isSign sign)
      (hHours : ∀ c ∈ hours, c.isDigit) (hTwoHours : hours.length ≤ 2)
      (hSeparators : ∀ c ∈ separators, isSpace c ∨ c = ':')
      (hMinutes : ∀ c ∈ minutes, c.isDigit) (hTwoMinutes : minutes.length ≤ 2) :
      Admits .offset (spaces ++ sign :: (hours ++ (separators ++ minutes)))
  | literal {chars : List Char} {c : Char} (hMem : c ∈ chars) : Admits (.oneOf chars) [c]
  | space {chars spaces : List Char} {c : Char} (hMem : c ∈ chars) (hSpace : isSpace c)
      (hSpaces : ∀ c ∈ spaces, isSpace c) : Admits (.oneOf chars) spaces

inductive Admits : List Item → List Char → Prop where
  | nil : Admits [] []
  | cons {item : Item} {items : List Item} {piece text : List Char} (hItem : item.Admits piece)
      (hItems : Admits items text) : Admits (item :: items) (piece ++ text)

theorem readMinutes_some {n : Nat} {text rest : List Char}
    (h : readMinutes text = some (n, rest)) :
    ∃ separators minutes, text = separators ++ (minutes ++ rest) ∧ (∀ c ∈ separators, c = ':') ∧
      (∀ c ∈ minutes, c.isDigit) ∧ minutes.length ≤ 2 := by
  unfold readMinutes at h
  split at h
  case h_1 text =>
      obtain ⟨minutes, hText, hDigits, hLength⟩ := readNumber_some h
      refine ⟨[':'], minutes, congrArg (':' :: ·) hText, ?_, hDigits, Nat.le_of_eq hLength⟩
      simp
  case h_2 =>
      cases h
      exact ⟨[], [], rfl, by simp, by simp, Nat.zero_le 2⟩

theorem readFraction_admits {n : Nat} {text rest : List Char}
    (h : readFraction text = some (n, rest)) :
    ∃ piece, text = piece ++ rest ∧ Item.fraction.Admits piece := by
  unfold readFraction at h
  split at h
  case h_1 text =>
      dsimp only at h
      split at h
      case isFalse => cases h
      case isTrue =>
          cases h
          refine ⟨'.' :: text.takeWhile Char.isDigit, ?_,
            .fraction (List.all_eq_true.mp List.all_takeWhile)⟩
          rw [List.cons_append, List.takeWhile_append_dropWhile]
  case h_2 =>
      cases h
      exact ⟨[], rfl, .noFraction⟩

theorem readOffset_admits {n : Int} {text rest : List Char}
    (h : readOffset text = some (n, rest)) :
    ∃ piece, text = piece ++ rest ∧ Item.offset.Admits piece := by
  unfold readOffset at h
  split at h
  case h_1 => cases h
  case h_2 sign text =>
      split at h
      case isFalse => cases h
      case isTrue hSign =>
          obtain ⟨⟨_, afterHours⟩, hHours, hMinutes⟩ := Option.bind_eq_some_iff.mp h
          obtain ⟨⟨_, afterMinutes⟩, hMinutes, hRest⟩ := Option.map_eq_some_iff.mp hMinutes
          cases hRest
          obtain ⟨hours, hText, hHours, hTwoHours⟩ := readNumber_some hHours
          obtain ⟨separators, minutes, hAfter, hSeparators, hMinutes, hTwoMinutes⟩ :=
            readMinutes_some hMinutes
          have hIsSign : isSign sign := by
            cases hSign with
            | inl hPlus => rw [hPlus]; rfl
            | inr hMinus => rw [hMinus]; rfl
          have hAdmits : Item.offset.Admits ([] ++ sign :: (hours ++ (separators ++ minutes))) :=
            .offset (List.forall_mem_nil _) hIsSign hHours (Nat.le_of_eq hTwoHours)
              (fun c hMem => .inr (hSeparators c hMem)) hMinutes hTwoMinutes
          refine ⟨_, ?_, hAdmits⟩
          rw [hText, hAfter]
          simp only [List.nil_append, List.cons_append, List.append_assoc]

/-- What an item reads is admitted by it. -/
theorem Item.read_admits {item : Item} {fields fields' : Fields} {text rest : List Char}
    (h : item.read fields text = some (fields', rest)) :
    ∃ piece, text = piece ++ rest ∧ item.Admits piece := by
  cases item with
  | number part =>
      obtain ⟨⟨n, rest'⟩, hRead, hRest⟩ := Option.map_eq_some_iff.mp h
      cases hRest
      obtain ⟨digits, hText, hDigits, hLength⟩ := readNumber_some hRead
      have hAdmits : Admits (.number part) ([] ++ digits) :=
        .number (List.forall_mem_nil _) hDigits (Nat.le_of_eq hLength)
      exact ⟨digits, hText, hAdmits⟩
  | fraction =>
      obtain ⟨⟨n, rest'⟩, hRead, hRest⟩ := Option.map_eq_some_iff.mp h
      cases hRest
      exact readFraction_admits hRead
  | offset =>
      obtain ⟨⟨n, rest'⟩, hRead, hRest⟩ := Option.map_eq_some_iff.mp h
      cases hRest
      exact readOffset_admits hRead
  | oneOf chars =>
      cases text with
      | nil => cases h
      | cons c text =>
          by_cases hMem : c ∈ chars
          · simp only [read, if_pos hMem] at h
            cases h
            exact ⟨[c], rfl, .literal hMem⟩
          · simp only [read, if_neg hMem] at h
            cases h

theorem readItems_admits {items : List Item} {fields fields' : Fields} {text rest : List Char}
    (h : readItems items fields text = some (fields', rest)) :
    ∃ piece, text = piece ++ rest ∧ Admits items piece := by
  induction items generalizing fields text with
  | nil =>
      cases h
      exact ⟨[], rfl, .nil⟩
  | cons item items ih =>
      obtain ⟨⟨middle, afterItem⟩, hItem, hItems⟩ := Option.bind_eq_some_iff.mp h
      obtain ⟨piece, hText, hPiece⟩ := Item.read_admits hItem
      obtain ⟨pieces, hAfter, hPieces⟩ := ih hItems
      exact ⟨piece ++ pieces, by rw [hText, hAfter, List.append_assoc], .cons hPiece hPieces⟩

theorem readText_admits {items : List Item} {text : List Char} {fields : Fields}
    (h : readText items text = some fields) : Admits items text := by
  unfold readText at h
  split at h
  case h_1 hRead =>
      obtain ⟨piece, hText, hAdmits⟩ := readItems_admits hRead
      rw [List.append_nil] at hText
      exact hText ▸ hAdmits
  case h_2 => cases h

theorem isSign_of_isDigit {c : Char} (h : c.isDigit) : isSign c = false := by
  cases hSign : isSign c with
  | false => rfl
  | true =>
      simp only [isSign, List.mem_cons, List.not_mem_nil, or_false, decide_eq_true_eq] at hSign
      rcases hSign with rfl | rfl | rfl | rfl | rfl <;> cases h

theorem isSign_of_isSpace {c : Char} (h : isSpace c) : isSign c = false := by
  cases hSign : isSign c with
  | false => rfl
  | true =>
      simp only [isSign, List.mem_cons, List.not_mem_nil, or_false, decide_eq_true_eq] at hSign
      rcases hSign with rfl | rfl | rfl | rfl | rfl <;> cases h

theorem isDigit_of_isSpace {c : Char} (h : isSpace c) : c.isDigit = false := by
  cases hDigit : c.isDigit with
  | false => rfl
  | true =>
      have hRange := toNat_of_isDigit hDigit
      simp only [isSpace, Bool.or_eq_true, Bool.and_eq_true, decide_eq_true_eq, List.mem_cons,
        List.not_mem_nil, or_false] at h
      omega

/-- The characters that an item may take. -/
def Item.allows : Item → Char → Bool
  | .number part, c => isSpace c || c.isDigit || (part = .year && isSign c)
  | .fraction, c => c = '.' || c.isDigit
  | .offset, c => isSpace c || isSign c || c.isDigit || c = ':'
  | .oneOf chars, c => c ∈ chars || isSpace c

theorem Item.Admits.allows {item : Item} {piece : List Char} (h : item.Admits piece) :
    ∀ c ∈ piece, item.allows c := by
  intro c hMem
  cases h with
  | number hSpaces hDigits _ =>
      obtain hMem | hMem := List.mem_append.mp hMem
      · simp [Item.allows, hSpaces c hMem]
      · simp [Item.allows, hDigits c hMem]
  | signedYear hSpaces hSign hDigits =>
      obtain hMem | hMem := List.mem_append.mp hMem
      · simp [Item.allows, hSpaces c hMem]
      · obtain rfl | hMem := List.mem_cons.mp hMem
        · simp [Item.allows, hSign]
        · simp [Item.allows, hDigits c hMem]
  | noFraction => cases hMem
  | fraction hDigits =>
      obtain rfl | hMem := List.mem_cons.mp hMem
      · rfl
      · simp [Item.allows, hDigits c hMem]
  | zulu hSpaces hSign =>
      obtain hMem | hMem := List.mem_append.mp hMem
      · simp [Item.allows, hSpaces c hMem]
      · cases List.mem_singleton.mp hMem
        simp [Item.allows, hSign]
  | offset hSpaces hSign hHours _ hSeparators hMinutes _ =>
      obtain hMem | hMem := List.mem_append.mp hMem
      · simp [Item.allows, hSpaces c hMem]
      · simp only [List.mem_cons, List.mem_append] at hMem
        rcases hMem with rfl | hMem | hMem | hMem
        · simp [Item.allows, hSign]
        · simp [Item.allows, hHours c hMem]
        · cases hSeparators c hMem with
          | inl hSpace => simp [Item.allows, hSpace]
          | inr hColon => simp [Item.allows, hColon]
        · simp [Item.allows, hMinutes c hMem]
  | literal hChar =>
      cases List.mem_singleton.mp hMem
      simp [Item.allows, hChar]
  | space _ _ hSpaces => simp [Item.allows, hSpaces c hMem]

/-- A character that no item takes is in no text. -/
theorem Admits.not_mem {items : List Item} {text : List Char} {c : Char} (h : Admits items text)
    (hItems : items.all (!·.allows c)) : c ∉ text := by
  induction h with
  | nil => exact List.not_mem_nil
  | cons hItem _ ih =>
      rw [List.all_cons, Bool.and_eq_true] at hItems
      intro hMem
      obtain hMem | hMem := List.mem_append.mp hMem
      · have hAllows := hItem.allows c hMem
        rw [hAllows] at hItems
        exact absurd hItems.1 (by decide)
      · exact ih hItems.2 hMem

/-- The items with a sign in each of their texts. -/
def Item.isSigned : Item → Bool
  | .offset => true
  | .oneOf chars => chars = ['-']
  | _ => false

/-- The items that are either signed or have no sign in any text; a year is neither. -/
def Item.isSteady : Item → Bool
  | .number part => part ≠ .year
  | .oneOf chars => chars = ['-'] || chars.all (!isSign ·)
  | _ => true

theorem countP_isSign {chars : List Char} (h : ∀ c ∈ chars, isSign c = false) :
    chars.countP isSign = 0 := by
  rw [List.countP_eq_zero]
  intro c hMem
  rw [h c hMem]
  exact Bool.false_ne_true

theorem countP_isSign_digits {chars : List Char} (h : ∀ c ∈ chars, c.isDigit) :
    chars.countP isSign = 0 :=
  countP_isSign fun c hMem => isSign_of_isDigit (h c hMem)

theorem countP_isSign_spaces {chars : List Char} (h : ∀ c ∈ chars, isSpace c) :
    chars.countP isSign = 0 :=
  countP_isSign fun c hMem => isSign_of_isSpace (h c hMem)

theorem isSign_separator {c : Char} (h : isSpace c ∨ c = ':') : isSign c = false := by
  cases h with
  | inl hSpace => exact isSign_of_isSpace hSpace
  | inr hColon => rw [hColon]; rfl

theorem Item.Admits.countP_isSign {item : Item} {piece : List Char} (h : item.Admits piece)
    (hSteady : item.isSteady) : piece.countP isSign = if item.isSigned then 1 else 0 := by
  cases h with
  | number hSpaces hDigits _ =>
      rw [List.countP_append, countP_isSign_spaces hSpaces, countP_isSign_digits hDigits]
      rfl
  | signedYear _ _ _ => cases hSteady
  | noFraction => rfl
  | fraction hDigits =>
      rw [List.countP_cons, countP_isSign_digits hDigits]
      rfl
  | zulu hSpaces hSign =>
      rw [List.countP_append, countP_isSign_spaces hSpaces, List.countP_singleton, if_pos hSign]
      rfl
  | offset hSpaces hSign hHours _ hSeparators hMinutes _ =>
      have hSeparators := DateFormat.countP_isSign fun c hMem =>
        isSign_separator (hSeparators c hMem)
      simp only [List.countP_append, List.countP_cons, countP_isSign_spaces hSpaces, hSeparators,
        countP_isSign_digits hHours, countP_isSign_digits hMinutes, if_pos hSign]
      rfl
  | literal hMem =>
      rename_i chars c
      simp only [isSteady, isSigned, Bool.or_eq_true, decide_eq_true_eq] at hSteady ⊢
      by_cases hMinus : chars = ['-']
      · subst hMinus
        rw [List.mem_singleton.mp hMem]
        rfl
      · have hNone := List.all_eq_true.mp (hSteady.resolve_left hMinus) c hMem
        rw [if_neg hMinus, List.countP_singleton, if_neg (by simpa using hNone)]
  | space hMem hSpace hSpaces =>
      rename_i chars c
      have hNot : ¬ chars = ['-'] := by
        intro hMinus
        subst hMinus
        rw [List.mem_singleton.mp hMem] at hSpace
        cases hSpace
      simp only [isSigned, hNot, decide_false, countP_isSign_spaces hSpaces, Bool.false_eq_true,
        if_false]

/-- The signs of a text are those of its items. -/
theorem Admits.countP_isSign {items : List Item} {text : List Char} (h : Admits items text)
    (hSteady : items.all Item.isSteady) : text.countP isSign = items.countP Item.isSigned := by
  induction h with
  | nil => rfl
  | cons hItem _ ih =>
      rw [List.all_cons, Bool.and_eq_true] at hSteady
      rw [List.countP_append, hItem.countP_isSign hSteady.1, ih hSteady.2, List.countP_cons,
        Nat.add_comm]

/-- A year in front that begins with a digit has four of them at most. -/
theorem Admits.year {items : List Item} {text : List Char}
    (h : Admits (.number .year :: items) text) (hDigit : text.head?.any Char.isDigit) :
    ∃ digits rest, text = digits ++ rest ∧ (∀ c ∈ digits, c.isDigit) ∧ digits.length ≤ 4 ∧
      Admits items rest := by
  cases h with
  | cons hItem hItems =>
      have hNoSpace : ∀ spaces rest : List Char, (∀ c ∈ spaces, isSpace c) →
          (spaces ++ rest).head?.any Char.isDigit → spaces = [] := by
        intro spaces rest hSpaces hHead
        cases spaces with
        | nil => rfl
        | cons c spaces =>
            rw [List.cons_append, List.head?_cons, Option.any_some,
              isDigit_of_isSpace (hSpaces c List.mem_cons_self)] at hHead
            cases hHead
      rename_i rest
      cases hItem with
      | number hSpaces hDigits hLength =>
          rw [List.append_assoc] at hDigit
          rw [hNoSpace _ _ hSpaces hDigit, List.nil_append]
          exact ⟨_, rest, rfl, hDigits, hLength, hItems⟩
      | signedYear hSpaces hSign _ =>
          rw [List.append_assoc] at hDigit
          rw [hNoSpace _ _ hSpaces hDigit, List.nil_append, List.cons_append, List.head?_cons,
            Option.any_some] at hDigit
          rw [isSign_of_isDigit hDigit] at hSign
          cases hSign

theorem Admits.minus {items : List Item} {text : List Char}
    (h : Admits (.oneOf ['-'] :: items) text) : ∃ rest, text = '-' :: rest := by
  cases h with
  | cons hItem _ =>
      cases hItem with
      | literal hMem =>
          rw [List.mem_singleton.mp hMem]
          exact ⟨_, rfl⟩
      | space hMem hSpace _ =>
          rw [List.mem_singleton.mp hMem] at hSpace
          cases hSpace

/-- A year of more digits is not taken where a `-` comes after it. -/
theorem Admits.not_longYear {items : List Item} {digits rest : List Char}
    (hDigits : ∀ c ∈ digits, c.isDigit) (hLong : 4 < digits.length) :
    ¬ Admits (.number .year :: .oneOf ['-'] :: items) (digits ++ rest) := by
  intro h
  have hHead : (digits ++ rest).head?.any Char.isDigit := by
    cases digits with
    | nil => cases hLong
    | cons c digits => exact hDigits c List.mem_cons_self
  obtain ⟨year, afterYear, hText, _, hLength, hAfter⟩ := h.year hHead
  obtain ⟨rest', hMinus⟩ := hAfter.minus
  have hLt : year.length < digits.length := Nat.lt_of_le_of_lt hLength hLong
  have hGet := congrArg (·[year.length]?) hText
  simp only [hMinus, List.getElem?_append_left hLt, List.getElem?_append_right (Nat.le_refl _),
    Nat.sub_self, List.getElem?_cons_zero] at hGet
  exact absurd (hDigits '-' (List.mem_of_getElem? hGet)) (by decide)

/-- After the sign of an offset there are four digits at most. -/
theorem Item.Admits.afterSign {piece : List Char} (h : Item.offset.Admits piece) :
    ∃ front sign tail, piece = front ++ sign :: tail ∧ isSign sign ∧
      (∀ c ∈ tail, isSign c = false) ∧ tail.countP Char.isDigit ≤ 4 := by
  cases h with
  | zulu hSpaces hSign => exact ⟨_, _, [], rfl, hSign, List.forall_mem_nil _, Nat.zero_le 4⟩
  | offset hSpaces hSign hHours hTwoHours hSeparators hMinutes hTwoMinutes =>
      rename_i hours separators minutes _
      refine ⟨_, _, hours ++ (separators ++ minutes), rfl, hSign, ?_, ?_⟩
      · intro c hMem
        rw [List.mem_append, List.mem_append] at hMem
        rcases hMem with hMem | hMem | hMem
        · exact isSign_of_isDigit (hHours c hMem)
        · exact isSign_separator (hSeparators c hMem)
        · exact isSign_of_isDigit (hMinutes c hMem)
      · have hNone : separators.countP Char.isDigit = 0 := by
          rw [List.countP_eq_zero]
          intro c hMem
          cases hSeparators c hMem with
          | inl hSpace => rw [isDigit_of_isSpace hSpace]; exact Bool.false_ne_true
          | inr hColon => rw [hColon]; decide
        have hHoursLe : hours.countP Char.isDigit ≤ hours.length := List.countP_le_length
        have hMinutesLe : minutes.countP Char.isDigit ≤ minutes.length := List.countP_le_length
        rw [List.countP_append, List.countP_append, hNone]
        omega

/-- What comes after the last sign of a text. -/
theorem afterSign_unique {front front' tail tail' : List Char} {sign sign' : Char}
    (h : front ++ sign :: tail = front' ++ sign' :: tail') (hSign : isSign sign)
    (hSign' : isSign sign') (hTail : ∀ c ∈ tail, isSign c = false)
    (hTail' : ∀ c ∈ tail', isSign c = false) : tail = tail' := by
  have hTaken : ∀ (front tail : List Char) (sign : Char), isSign sign →
      (∀ c ∈ tail, isSign c = false) →
      (front ++ sign :: tail).reverse.takeWhile (!isSign ·) = tail.reverse := by
    intro front tail sign hSign hTail
    have hAll : ∀ c ∈ tail.reverse, (!isSign c) = true := by
      intro c hMem
      rw [hTail c (List.mem_reverse.mp hMem)]
      rfl
    rw [List.reverse_append, List.reverse_cons, List.append_assoc,
      List.takeWhile_append_of_pos hAll, List.singleton_append,
      List.takeWhile_cons_of_neg (by simp [hSign]), List.append_nil]
  have hReverse := hTaken front tail sign hSign hTail
  rw [h, hTaken front' tail' sign' hSign' hTail'] at hReverse
  exact (List.reverse_injective hReverse).symm

theorem Admits.afterSign {items : List Item} {text : List Char}
    (h : Admits (items ++ [.offset]) text) :
    ∃ front sign tail, text = front ++ sign :: tail ∧ isSign sign ∧
      (∀ c ∈ tail, isSign c = false) ∧ tail.countP Char.isDigit ≤ 4 := by
  induction items generalizing text with
  | nil =>
      cases h with
      | cons hItem hItems =>
          cases hItems
          rw [List.append_nil]
          exact hItem.afterSign
  | cons item items ih =>
      cases h with
      | cons hItem hItems =>
          rename_i piece _
          obtain ⟨front, sign, tail, hText, hRest⟩ := ih hItems
          refine ⟨piece ++ front, sign, tail, ?_, hRest⟩
          rw [hText, List.append_assoc]

theorem Admits.digits_le {items : List Item} {front tail : List Char} {sign : Char}
    (h : Admits (items ++ [.offset]) (front ++ sign :: tail)) (hSign : isSign sign)
    (hTail : ∀ c ∈ tail, isSign c = false) : tail.countP Char.isDigit ≤ 4 := by
  obtain ⟨_, _, tail', hText, hSign', hTail', hDigits⟩ := h.afterSign
  rw [afterSign_unique hText hSign hSign' hTail hTail']
  exact hDigits

end DateFormat
