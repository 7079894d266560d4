import Mathlib.Data.List.Basic

/-!
The grammar of connection strings that are lists of names and values: how they are read, and
that this inverts the quoting of any value.
-/

namespace Conninfo

/-- `isspace` of the C locale. -/
def isBlank (c : Char) : Bool := c = ' ' || (9 ≤ c.toNat && c.toNat ≤ 13)

/-- A name and the text behind its `=`, before which there may be blanks. -/
def readName : List Char → Option (List Char × List Char)
  | [] => none
  | c :: cs =>
      if c = '=' then some ([], cs)
      else if isBlank c then
        match cs.dropWhile isBlank with
        | '=' :: rest => some ([], rest)
        | _ => none
      else (readName cs).map fun (name, rest) => (c :: name, rest)

/-- A value without quotes ends at a blank. -/
def readBare : List Char → List Char × List Char
  | [] => ([], [])
  | [c] => if isBlank c || c = '\\' then ([], []) else ([c], [])
  | c :: d :: cs =>
      if isBlank c then ([], d :: cs)
      else if c = '\\' then (d :: (readBare cs).1, (readBare cs).2)
      else (c :: (readBare (d :: cs)).1, (readBare (d :: cs)).2)

/-- A value behind its opening quote, unless there is no closing one. -/
def readQuoted : List Char → Option (List Char × List Char)
  | [] => none
  | [c] => if c = '\'' then some ([], []) else none
  | c :: d :: cs =>
      if c = '\'' then some ([], d :: cs)
      else if c = '\\' then (readQuoted cs).map fun (value, rest) => (d :: value, rest)
      else (readQuoted (d :: cs)).map fun (value, rest) => (c :: value, rest)

def readValue : List Char → Option (List Char × List Char)
  | '\'' :: cs => readQuoted cs
  | cs => some (readBare cs)

/-- The fuel bounds the number of pairs. -/
def readPairs : Nat → List Char → Option (List (List Char × List Char))
  | 0, _ => none
  | fuel + 1, text =>
      match text.dropWhile isBlank with
      | [] => some []
      | c :: cs => do
          let (name, rest) ← readName (c :: cs)
          if name = [] then none
          let (value, rest) ← readValue (rest.dropWhile isBlank)
          let pairs ← readPairs fuel rest
          return (name, value) :: pairs

/-- The pairs of a text, unless it is not well formed. -/
def parse (text : List Char) : Option (List (List Char × List Char)) :=
  readPairs (text.length + 1) text

def escape (value : List Char) : List Char :=
  value.flatMap fun c => if c = '\'' ∨ c = '\\' then ['\\', c] else [c]

/-- A pair as it is written: behind blanks, and with or without quotes. -/
structure Item where
  gap : List Char
  name : List Char
  value : List Char
  quoted : Bool
deriving DecidableEq, Repr

namespace Item

def pair (item : Item) : List Char × List Char := (item.name, item.value)

def valueText (item : Item) : List Char :=
  if item.quoted then '\'' :: escape item.value ++ ['\''] else escape item.value

def body (item : Item) : List Char := item.name ++ '=' :: item.valueText

def text (item : Item) : List Char := item.gap ++ item.body

/-- A value that is empty or has blanks in it needs its quotes. -/
structure WellFormed (item : Item) : Prop where
  gap : ∀ c ∈ item.gap, isBlank c
  name : item.name ≠ [] ∧ ∀ c ∈ item.name, c ≠ '=' ∧ ¬ isBlank c
  bare : item.quoted = false → item.value ≠ [] ∧ ∀ c ∈ item.value, ¬ isBlank c

end Item

def write (items : List Item) (trail : List Char) : List Char := items.flatMap Item.text ++ trail

/-- Blanks part each pair from the one before. -/
structure Written (items : List Item) (trail : List Char) : Prop where
  wellFormed : ∀ item ∈ items, item.WellFormed
  parted : ∀ item ∈ items.tail, item.gap ≠ []
  blank : ∀ c ∈ trail, isBlank c

theorem Written.rest {item : Item} {items : List Item} {trail : List Char}
    (h : Written (item :: items) trail) : Written items trail where
  wellFormed other hMem := h.wellFormed other (List.mem_cons_of_mem _ hMem)
  parted other hMem := h.parted other (List.mem_of_mem_tail hMem)
  blank := h.blank

theorem write_cons (item : Item) (items : List Item) (trail : List Char) :
    write (item :: items) trail = item.text ++ write items trail := by
  simp [write]

theorem escape_cons (c : Char) (value : List Char) :
    escape (c :: value) = (if c = '\'' ∨ c = '\\' then ['\\', c] else [c]) ++ escape value := rfl

theorem readName_append {name rest : List Char} (h : ∀ c ∈ name, c ≠ '=' ∧ ¬ isBlank c) :
    readName (name ++ '=' :: rest) = some (name, rest) := by
  induction name with
  | nil => simp [readName]
  | cons c name ih =>
      obtain ⟨hEquals, hBlank⟩ := h c (by simp)
      rw [List.cons_append, readName, if_neg hEquals, if_neg hBlank,
        ih fun d hMem => h d (by simp [hMem])]
      rfl

theorem readQuoted_plain {c : Char} {cs : List Char} (hQuote : c ≠ '\'') (hSlash : c ≠ '\\') :
    readQuoted (c :: cs) = (readQuoted cs).map fun (value, rest) => (c :: value, rest) := by
  cases cs with
  | nil => simp [readQuoted, hQuote]
  | cons d cs => simp [readQuoted, hQuote, hSlash]

theorem readQuoted_escape (value rest : List Char) :
    readQuoted (escape value ++ '\'' :: rest) = some (value, rest) := by
  induction value with
  | nil => cases rest <;> rfl
  | cons c value ih =>
      rw [escape_cons]
      by_cases h : c = '\'' ∨ c = '\\'
      · simp [h, readQuoted, ih]
      · rw [if_neg h, List.append_assoc, List.singleton_append,
          readQuoted_plain (fun hQuote => h (.inl hQuote)) (fun hSlash => h (.inr hSlash)), ih]
        rfl

theorem readBare_plain {c : Char} {cs : List Char} (hBlank : ¬ isBlank c) (hSlash : c ≠ '\\') :
    readBare (c :: cs) = (c :: (readBare cs).1, (readBare cs).2) := by
  cases cs with
  | nil => simp [readBare, hBlank, hSlash]
  | cons d cs => simp [readBare, hBlank, hSlash]

/-- The blank at which a bare value ends is read with it. -/
theorem readBare_escape {value rest : List Char} (hValue : ∀ c ∈ value, ¬ isBlank c)
    (hRest : ∀ c ∈ rest.head?, isBlank c) :
    readBare (escape value ++ rest) = (value, rest.tail) := by
  induction value with
  | nil =>
      cases rest with
      | nil => rfl
      | cons c rest =>
          have hBlank : isBlank c := hRest c rfl
          cases rest <;> simp [escape, readBare, hBlank]
  | cons c value ih =>
      have hTail := ih fun d hMem => hValue d (by simp [hMem])
      have hBlank : ¬ isBlank c := hValue c (by simp)
      rw [escape_cons]
      by_cases h : c = '\'' ∨ c = '\\'
      · have hSlash : isBlank '\\' = false := by decide
        simp [h, readBare, hTail, hSlash]
      · rw [if_neg h, List.append_assoc, List.singleton_append,
          readBare_plain hBlank (fun hSlash => h (.inr hSlash)), hTail]

theorem dropWhile_blanks {blanks rest : List Char} (h : ∀ c ∈ blanks, isBlank c) :
    (blanks ++ rest).dropWhile isBlank = rest.dropWhile isBlank := by
  induction blanks with
  | nil => rfl
  | cons c blanks ih =>
      rw [List.cons_append, List.dropWhile_cons_of_pos (h c (by simp)),
        ih fun d hMem => h d (by simp [hMem])]

/-- Blanks before a pair are left out. -/
theorem readPairs_blanks {fuel : Nat} {blanks rest : List Char} (h : ∀ c ∈ blanks, isBlank c) :
    readPairs fuel (blanks ++ rest) = readPairs fuel rest := by
  cases fuel with
  | zero => rfl
  | succ fuel => simp only [readPairs, dropWhile_blanks h]

theorem readPairs_of_blanks {fuel : Nat} {blanks : List Char} (h : ∀ c ∈ blanks, isBlank c) :
    readPairs (fuel + 1) blanks = some [] := by
  have hBlanks := @readPairs_blanks (fuel + 1) blanks [] h
  rwa [List.append_nil] at hBlanks

namespace Item

variable {item : Item} {rest : List Char}

theorem readValue_valueText (h : item.WellFormed) (hRest : ∀ c ∈ rest.head?, isBlank c) :
    ∃ rest', readValue ((item.valueText ++ rest).dropWhile isBlank) = some (item.value, rest') ∧
      (rest' = rest ∨ rest' = rest.tail) := by
  cases hQuoted : item.quoted with
  | true =>
      have hNotBlank : isBlank '\'' = false := by decide
      refine ⟨rest, ?_, .inl rfl⟩
      simp [valueText, hQuoted, hNotBlank, readValue, readQuoted_escape]
  | false =>
      obtain ⟨hSome, hValue⟩ := h.bare hQuoted
      refine ⟨rest.tail, ?_, .inr rfl⟩
      obtain ⟨c, value, hCons⟩ := List.exists_cons_of_ne_nil hSome
      have hRead := readBare_escape hValue hRest
      have hSlash : isBlank '\\' = false := by decide
      have hBlank : isBlank c = false := by simpa [hCons] using hValue c (by simp [hCons])
      rw [hCons, escape_cons] at hRead
      simp only [valueText, hQuoted, hCons, escape_cons]
      by_cases hEscaped : c = '\'' ∨ c = '\\'
      · simp only [hEscaped, if_true] at hRead ⊢
        simp [hSlash, readValue, ← hRead]
      · simp only [hEscaped, if_false] at hRead ⊢
        have hQuote : c ≠ '\'' := fun hQuote => hEscaped (.inl hQuote)
        simp [hBlank, readValue, hQuote, ← hRead]

/-- A pair at the front of a text is read, and then the rest of the text. -/
theorem readPairs_text {fuel : Nat} (h : item.WellFormed) (hRest : ∀ c ∈ rest.head?, isBlank c) :
    readPairs (fuel + 1) (item.text ++ rest) =
      (readPairs fuel rest).map (item.pair :: ·) := by
  obtain ⟨rest', hValue, hEither⟩ := readValue_valueText h hRest
  have hAfter : readPairs fuel rest' = readPairs fuel rest := by
    rcases hEither with rfl | rfl
    · rfl
    · cases rest with
      | nil => rfl
      | cons c rest =>
          have hBlank : ∀ d ∈ [c], isBlank d := by simpa using hRest
          exact (@readPairs_blanks fuel [c] rest hBlank).symm
  have hText : item.text ++ rest = item.gap ++ (item.name ++ '=' :: (item.valueText ++ rest)) := by
    simp [text, body]
  obtain ⟨c, name, hName⟩ := List.exists_cons_of_ne_nil h.name.1
  have hFirst : ¬ isBlank c := (h.name.2 c (by simp [hName])).2
  have hRead := @readName_append _ (item.valueText ++ rest) h.name.2
  rw [hText, readPairs_blanks h.gap]
  simp only [readPairs, hName, List.cons_append, List.dropWhile_cons_of_neg hFirst]
  rw [hName, List.cons_append] at hRead
  simp only [hRead, Option.bind_eq_bind, Option.bind_some, hValue, hAfter]
  cases readPairs fuel rest <;> simp [pair, hName]

end Item

/-- Behind a pair there is a blank or nothing. -/
theorem head_write {items : List Item} {trail : List Char}
    (hItems : ∀ item ∈ items, item.WellFormed) (hParted : ∀ item ∈ items, item.gap ≠ [])
    (hBlank : ∀ c ∈ trail, isBlank c) : ∀ c ∈ (write items trail).head?, isBlank c := by
  cases items with
  | nil => exact fun c hHead => hBlank c (List.mem_of_mem_head? hHead)
  | cons item items =>
      intro c hHead
      obtain ⟨blank, gap, hGap⟩ := List.exists_cons_of_ne_nil (hParted item (by simp))
      have hFirst : blank = c := by simpa [write, Item.text, hGap] using hHead
      exact (hItems item (by simp)).gap c (by simp [hGap, hFirst])

theorem readPairs_write {items : List Item} {trail : List Char} {fuel : Nat}
    (h : Written items trail) (hFuel : items.length < fuel) :
    readPairs fuel (write items trail) = some (items.map Item.pair) := by
  induction items generalizing fuel with
  | nil =>
      obtain ⟨fuel, rfl⟩ := Nat.exists_eq_succ_of_ne_zero (Nat.ne_of_gt hFuel)
      exact readPairs_of_blanks h.blank
  | cons item items ih =>
      obtain ⟨fuel, rfl⟩ := Nat.exists_eq_succ_of_ne_zero (Nat.ne_of_gt (Nat.zero_lt_of_lt hFuel))
      rw [write_cons, Item.readPairs_text (h.wellFormed item (by simp))
        (head_write h.rest.wellFormed h.parted h.blank), ih h.rest (Nat.lt_of_succ_lt_succ hFuel)]
      rfl

theorem length_write_ge {items : List Item} {trail : List Char} :
    items.length ≤ (write items trail).length := by
  induction items with
  | nil => exact Nat.zero_le _
  | cons item items ih =>
      simp only [write, List.flatMap_cons, List.length_append, List.length_cons, Item.text,
        Item.body] at ih ⊢
      omega

/-- What is written is well formed, and is read as the pairs that were written. -/
theorem parse_write {items : List Item} {trail : List Char} (h : Written items trail) :
    parse (write items trail) = some (items.map Item.pair) :=
  readPairs_write h (Nat.lt_succ_of_le length_write_ge)

end Conninfo
