import Dashboard.Reply.Span
import Mathlib.Data.List.Basic

/-
  The scan for objects, part by part: what a text does to a
  scan that stands inside of an object, and which objects a
  scan completes that stands outside of all.

  Main declarations:
    * `Reply.Scan.run_append`
    * `Reply.Scan.Moves` and `Reply.Scan.Passes`
    * `Reply.Scan.run_outside_of_not_mem`
    * `Reply.Scan.run_outside_braces`
-/

------------------------------------------------------------
-- Consecutive Texts
------------------------------------------------------------

namespace Dashboard.Reply

namespace Scan

theorem run_cons
    (scan : Scan)
    (c : Char)
    (rest : List Char) :
    scan.run (c :: rest) =
      ((scan.step c).2.toList ++
          ((scan.step c).1.run rest).1,
        ((scan.step c).1.run rest).2) := by
  rw [run]
  rcases hStep : scan.step c with ⟨next, _ | object⟩
  · rfl
  · rfl

/- A scan runs over two texts one after the other. -/
theorem run_append
    (scan : Scan)
    (first second : List Char) :
    scan.run (first ++ second) =
      ((scan.run first).1 ++
          ((scan.run first).2.run second).1,
        ((scan.run first).2.run second).2) := by
  induction first generalizing scan with
  | nil => rfl
  | cons c rest ih =>
      rw [List.cons_append, run_cons, run_cons, ih]
      simp

end Scan

/-
  When a text leaves no object open, what follows it is
  scanned as if it stood alone.
-/
theorem objects_append
    {first : List Char}
    (second : List Char)
    (hOutside : (Scan.outside.run first).2 = .outside) :
    objects (first ++ second) =
      objects first ++ objects second := by
  unfold objects
  rw [Scan.run_append, hOutside]

end Dashboard.Reply

------------------------------------------------------------
-- Inside Of An Object
------------------------------------------------------------

namespace Dashboard.Reply

namespace Scan

/-
  Whatever object is open, the text changes the quoting in
  this way, and neither completes the object nor changes how
  many braces are open.
-/
def Moves
    (before : Quoting)
    (text : List Char)
    (after : Quoting) : Prop :=
  ∀ taken depth,
    (inside taken depth before).run text =
      ([], inside (text.reverse ++ taken) depth after)

theorem moves_nil (quoting : Quoting) :
    Moves quoting [] quoting := by
  intro taken depth
  rfl

theorem Moves.append
    {before between after : Quoting}
    {first second : List Char}
    (hFirst : Moves before first between)
    (hSecond : Moves between second after) :
    Moves before (first ++ second) after := by
  intro taken depth
  rw [run_append, hFirst, hSecond]
  simp

/- A character that is neither a brace nor a quotation mark. -/
def IsPlain (c : Char) : Prop :=
  c ≠ '"' ∧ c ≠ openBrace ∧ c ≠ closeBrace

instance (c : Char) : Decidable (IsPlain c) := by
  unfold IsPlain
  infer_instance

theorem moves_plainChar
    {c : Char}
    (hPlain : IsPlain c) :
    Moves .none [c] .none := by
  rcases hPlain with ⟨hQuote, hOpen, hClose⟩
  intro taken depth
  simp [run, step, hQuote, hOpen, hClose]

theorem moves_plain
    {text : List Char}
    (hPlain : ∀ c ∈ text, IsPlain c) :
    Moves .none text .none := by
  induction text with
  | nil => exact moves_nil .none
  | cons c rest ih =>
      have hFirst : Moves .none [c] .none :=
        moves_plainChar (hPlain c List.mem_cons_self)
      have hRest : Moves .none rest .none := by
        apply ih
        intro d hMem
        exact hPlain d (List.mem_cons_of_mem c hMem)
      exact hFirst.append hRest

theorem moves_openingQuote :
    Moves .none ['"'] .string := by
  intro taken depth
  rfl

theorem moves_closingQuote :
    Moves .string ['"'] .none := by
  intro taken depth
  rfl

theorem moves_backslash :
    Moves .string ['\\'] .escape := by
  intro taken depth
  rfl

/- In a string, braces are characters like any other. -/
theorem moves_stringChar
    {c : Char}
    (hQuote : c ≠ '"')
    (hSlash : c ≠ '\\') :
    Moves .string [c] .string := by
  intro taken depth
  simp [run, step, requote, hQuote, hSlash]

/- After a backslash, so are all characters. -/
theorem moves_escaped (c : Char) :
    Moves .escape [c] .string := by
  intro taken depth
  rfl

/- Balanced braces leave the depth as it is. -/
theorem moves_braces
    {inner : List Char}
    (hInner : Moves .none inner .none) :
    Moves .none (openBrace :: inner ++ [closeBrace])
      .none := by
  intro taken depth
  have hOpen :
      (inside taken depth .none).run [openBrace] =
        ([], inside (openBrace :: taken) (depth + 1)
          .none) := rfl
  have hClose :
      (inside (inner.reverse ++ openBrace :: taken)
          (depth + 1) .none).run [closeBrace] =
        ([], inside
          (closeBrace :: inner.reverse ++ openBrace :: taken)
          depth .none) := rfl
  rw [← List.singleton_append, List.append_assoc,
    run_append, hOpen, run_append, hInner, hClose]
  simp

end Scan

end Dashboard.Reply

------------------------------------------------------------
-- From One Place To Another
------------------------------------------------------------

namespace Dashboard.Reply

namespace Scan

/-
  The scan gets from the start of a text to the start of its
  rest, and stays inside of the object that is open.
-/
def Passes
    (before : Quoting)
    (text : List Char)
    (after : Quoting)
    (rest : List Char) : Prop :=
  ∃ taken, text = taken ++ rest ∧ Moves before taken after

theorem passes_refl
    (quoting : Quoting)
    (text : List Char) :
    Passes quoting text quoting text :=
  ⟨[], rfl, moves_nil quoting⟩

theorem Moves.passes
    {before after : Quoting}
    {taken : List Char}
    (hMoves : Moves before taken after)
    (rest : List Char) :
    Passes before (taken ++ rest) after rest :=
  ⟨taken, rfl, hMoves⟩

theorem Passes.trans
    {before between after : Quoting}
    {text middle rest : List Char}
    (hFirst : Passes before text between middle)
    (hSecond : Passes between middle after rest) :
    Passes before text after rest := by
  rcases hFirst with ⟨first, rfl, hFirst⟩
  rcases hSecond with ⟨second, rfl, hSecond⟩
  exact
    ⟨first ++ second, (List.append_assoc ..).symm,
      hFirst.append hSecond⟩

/- What stands between braces is passed together with them. -/
theorem Passes.braces
    {inner rest : List Char}
    (hInner : Passes .none inner .none (closeBrace :: rest)) :
    Passes .none (openBrace :: inner) .none rest := by
  rcases hInner with ⟨taken, rfl, hTaken⟩
  refine ⟨_, ?_, moves_braces hTaken⟩
  simp

end Scan

end Dashboard.Reply

------------------------------------------------------------
-- Outside Of All Objects
------------------------------------------------------------

namespace Dashboard.Reply

namespace Scan

/- Without an opening brace no object is opened. -/
theorem run_outside_of_not_mem
    {text : List Char}
    (hText : openBrace ∉ text) :
    outside.run text = ([], outside) := by
  induction text with
  | nil => rfl
  | cons c rest ih =>
      have hFirst : c ≠ openBrace := by
        rintro rfl
        exact hText List.mem_cons_self
      have hRest : openBrace ∉ rest := by
        intro hMem
        exact hText (List.mem_cons_of_mem c hMem)
      have hStep : outside.step c = (outside, none) := by
        simp [step, hFirst]
      rw [run_cons, hStep, ih hRest]
      rfl

/- Balanced braces are exactly one object. -/
theorem run_outside_braces
    {inner : List Char}
    (hInner : Moves .none inner .none) :
    outside.run (openBrace :: inner ++ [closeBrace]) =
      ([openBrace :: inner ++ [closeBrace]], outside) := by
  have hOpen :
      outside.run [openBrace] =
        ([], inside [openBrace] 0 .none) := rfl
  have hClose :
      (inside (inner.reverse ++ [openBrace]) 0 .none).run
          [closeBrace] =
        ([(closeBrace ::
            (inner.reverse ++ [openBrace])).reverse],
          outside) := rfl
  have hText :
      openBrace :: inner ++ [closeBrace] =
        [openBrace] ++ (inner ++ [closeBrace]) := rfl
  rw [hText, run_append, hOpen, run_append, hInner, hClose]
  simp

end Scan

end Dashboard.Reply
