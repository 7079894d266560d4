import Mathlib.Data.List.Basic

/-!
Streams of frames. A parser takes one complete frame from the front of what has been
received, or nothing. What a stream consists of is then settled, however it arrives.
-/

namespace Framing

variable {α ε μ : Type}

/-- What a parser makes of what has been received, and what it leaves of it. -/
abbrev Parser (α ε μ : Type) : Type := List α → Except ε (Option μ) × List α

/-- One complete frame, whatever follows it. -/
def IsFrame (parse : Parser α ε μ) (frame : List α) (message : μ) : Prop :=
  frame ≠ [] ∧ ∀ more, parse (frame ++ more) = (.ok (some message), more)

structure Lawful (parse : Parser α ε μ) : Prop where
  nothing {s rest : List α} (h : parse s = (.ok none, rest)) : rest = s
  frame {s rest : List α} {message : μ} (h : parse s = (.ok (some message), rest)) :
    ∃ frame, s = frame ++ rest ∧ IsFrame parse frame message
  malformed {s rest : List α} {e : ε} (h : parse s = (.error e, rest)) (more : List α) :
    (parse (s ++ more)).1 = .error e

/-- What follows the last complete frame of a stream. -/
inductive Tail (α ε : Type) where
  | unfinished (rest : List α)
  | malformed (error : ε)

/-- A stream by its frames and what follows them. -/
inductive Framed (parse : Parser α ε μ) : List α → List (List α × μ) → Tail α ε → Prop where
  | unfinished {s : List α} (h : parse s = (.ok none, s)) : Framed parse s [] (.unfinished s)
  | malformed {s rest : List α} {e : ε} (h : parse s = (.error e, rest)) :
      Framed parse s [] (.malformed e)
  | frame {frame rest : List α} {message : μ} {frames : List (List α × μ)} {tail : Tail α ε}
      (h : IsFrame parse frame message) (hRest : Framed parse rest frames tail) :
      Framed parse (frame ++ rest) ((frame, message) :: frames) tail

variable {parse : Parser α ε μ} {s rest more : List α} {frames later : List (List α × μ)}
  {tail tail' : Tail α ε} {message : μ}

theorem IsFrame.parse_eq {frame : List α} (h : IsFrame parse frame message) (rest : List α) :
    parse (frame ++ rest) = (.ok (some message), rest) := h.2 rest

/-- A parser whose messages are taken for others. -/
def Parser.map {ν : Type} (f : μ → ν) (parse : Parser α ε μ) : Parser α ε ν := fun s =>
  ((parse s).1.map (Option.map f), (parse s).2)

theorem IsFrame.map {ν : Type} (f : μ → ν) {frame : List α} (h : IsFrame parse frame message) :
    IsFrame (parse.map f) frame (f message) := by
  refine ⟨h.1, fun more => ?_⟩
  rw [Parser.map, h.parse_eq]
  rfl

theorem Lawful.map {ν : Type} (f : μ → ν) (hParse : Lawful parse) : Lawful (parse.map f) where
  nothing {s rest} h := by
    obtain ⟨hResult, rfl⟩ := Prod.mk.inj h
    cases hParsed : parse s with
    | mk result rest =>
        rw [hParsed] at hResult
        cases result with
        | error e => cases hResult
        | ok message =>
            cases message with
            | none => exact hParse.nothing hParsed
            | some message => cases hResult
  frame {s rest message} h := by
    obtain ⟨hResult, rfl⟩ := Prod.mk.inj h
    cases hParsed : parse s with
    | mk result rest =>
        rw [hParsed] at hResult
        cases result with
        | error e => cases hResult
        | ok message =>
            cases message with
            | none => cases hResult
            | some message =>
                cases hResult
                obtain ⟨frame, rfl, hFrame⟩ := hParse.frame hParsed
                exact ⟨frame, rfl, hFrame.map f⟩
  malformed {s rest e} h more := by
    obtain ⟨hResult, rfl⟩ := Prod.mk.inj h
    cases hParsed : parse s with
    | mk result rest =>
        rw [hParsed] at hResult
        cases result with
        | error e =>
            cases hResult
            exact congrArg (Except.map (Option.map f)) (hParse.malformed hParsed more)
        | ok message => cases hResult

/-- Every stream consists of frames and a tail. -/
theorem exists_framed (hParse : Lawful parse) (s : List α) :
    ∃ frames tail, Framed parse s frames tail := by
  induction hLength : s.length using Nat.strongRecOn generalizing s with
  | ind length ih =>
      match hResult : parse s with
      | (.ok none, rest) =>
          cases hParse.nothing hResult
          exact ⟨[], _, .unfinished hResult⟩
      | (.error e, rest) => exact ⟨[], _, .malformed hResult⟩
      | (.ok (some message), rest) =>
          obtain ⟨frame, rfl, hFrame⟩ := hParse.frame hResult
          have hShorter : rest.length < length := by
            have hSome := List.length_pos_of_ne_nil hFrame.1
            rw [List.length_append] at hLength
            omega
          obtain ⟨frames, tail, hRest⟩ := ih rest.length hShorter rest rfl
          exact ⟨_, tail, .frame hFrame hRest⟩

/-- A stream is read in one way only. -/
theorem Framed.unique (h : Framed parse s frames tail) (h' : Framed parse s later tail') :
    frames = later ∧ tail = tail' := by
  induction h generalizing later with
  | unfinished hNone =>
      cases h' with
      | unfinished => exact ⟨rfl, rfl⟩
      | malformed hError => cases hNone.symm.trans hError
      | frame hFrame => cases hNone.symm.trans (hFrame.parse_eq _)
  | malformed hError =>
      cases h' with
      | unfinished hNone => cases hNone.symm.trans hError
      | malformed hError' =>
          cases hError.symm.trans hError'
          exact ⟨rfl, rfl⟩
      | frame hFrame => cases hError.symm.trans (hFrame.parse_eq _)
  | @frame frame rest message frames tail hFrame hRest ih =>
      have hParsed := hFrame.parse_eq rest
      generalize hStream : frame ++ rest = stream at h' hParsed
      cases h' with
      | unfinished hNone => cases hParsed.symm.trans hNone
      | malformed hError => cases hParsed.symm.trans hError
      | @frame frame' rest' message' frames' tail' hFrame' hRest' =>
          cases hParsed.symm.trans (hFrame'.parse_eq rest')
          cases List.append_cancel_right hStream
          obtain ⟨rfl, rfl⟩ := ih hRest'
          exact ⟨rfl, rfl⟩

theorem Framed.parse_unfinished (h : Framed parse s frames (.unfinished rest)) :
    parse rest = (.ok none, rest) := by
  generalize hTail : Tail.unfinished rest = tail at h
  induction h with
  | unfinished hNone =>
      cases hTail
      exact hNone
  | malformed => cases hTail
  | frame hFrame hRest ih => exact ih hTail

theorem Framed.length_unfinished (h : Framed parse s frames (.unfinished rest)) :
    rest.length ≤ s.length := by
  generalize hTail : Tail.unfinished rest = tail at h
  induction h with
  | unfinished =>
      cases hTail
      exact Nat.le_refl _
  | malformed => cases hTail
  | frame hFrame hRest ih =>
      rw [List.length_append]
      exact Nat.le_add_left_of_le (ih hTail)

/-- No frame is empty. -/
theorem Framed.length_frames (h : Framed parse s frames tail) : frames.length ≤ s.length := by
  induction h with
  | unfinished => exact Nat.zero_le _
  | malformed => exact Nat.zero_le _
  | @frame frame rest message frames tail hFrame hRest ih =>
      have hSome := List.length_pos_of_ne_nil hFrame.1
      rw [List.length_cons, List.length_append]
      omega

/-- What arrives later continues what is unfinished. -/
theorem Framed.extend (h : Framed parse s frames (.unfinished rest))
    (hMore : Framed parse (rest ++ more) later tail) :
    Framed parse (s ++ more) (frames ++ later) tail := by
  generalize hTail : Tail.unfinished rest = tail' at h
  induction h with
  | unfinished =>
      cases hTail
      exact hMore
  | malformed => cases hTail
  | frame hFrame hRest ih =>
      rw [List.append_assoc]
      exact .frame hFrame (ih hTail)

/-- What arrives after a malformed frame changes nothing. -/
theorem Framed.malformed_append (hParse : Lawful parse) {e : ε}
    (h : Framed parse s frames (.malformed e)) (more : List α) :
    Framed parse (s ++ more) frames (.malformed e) := by
  generalize hTail : Tail.malformed e = tail at h
  induction h with
  | unfinished => cases hTail
  | malformed hError =>
      cases hTail
      exact .malformed (Prod.ext (hParse.malformed hError more) rfl)
  | frame hFrame hRest ih =>
      rw [List.append_assoc]
      exact .frame hFrame (ih hTail)

/-- The frames that are complete before the rest arrives are the first ones of the whole. -/
theorem Framed.of_append (hParse : Lawful parse) (h : Framed parse s frames (.unfinished rest))
    {all : List (List α × μ)} (hAll : Framed parse (s ++ more) all tail) :
    ∃ later, all = frames ++ later ∧ Framed parse (rest ++ more) later tail := by
  obtain ⟨later, tail', hLater⟩ := exists_framed hParse (rest ++ more)
  obtain ⟨rfl, rfl⟩ := hAll.unique (h.extend hLater)
  exact ⟨later, rfl, hLater⟩

/-- What is unfinished is shorter than the frame that it begins. -/
theorem unfinished_lt {frame other : List α} (hNone : parse rest = (.ok none, rest))
    (hFrame : IsFrame parse frame message) (hSame : rest ++ more = frame ++ other) :
    rest.length < frame.length := by
  by_contra hLong
  obtain ⟨beyond, rfl⟩ : frame <+: rest :=
    List.prefix_of_prefix_length_le (hSame ▸ List.prefix_append frame other)
      (List.prefix_append rest more) (Nat.le_of_not_lt hLong)
  cases hNone.symm.trans (hFrame.parse_eq beyond)

end Framing
