import Dashboard.Proofs.Reply.Balance
import Dashboard.Proofs.Text.Search

/-
  The scan for objects with a counter, two flags and places
  in bytes.  It never takes one from a counter of zero, both
  flags are down whenever the counter is zero, and the parts
  of the text that it finds hold the objects.

  Key definitions include:
    * `Reply.Tally`
    * `Reply.Tally.run?`
    * `Reply.Tally.Stands`
    * `Reply.Holds`

  Main declarations:
    * `Reply.Tally.Stands.exists_step?`
    * `Reply.Tally.Stands.exists_run?`
    * `Reply.Cut.exists_run?`
    * `Reply.objects_balanced`
-/

------------------------------------------------------------
-- Counting
------------------------------------------------------------

namespace Dashboard.Reply

/-
  How many braces are open, the byte at which the object
  starts, whether a string is open and a backslash stands
  before the next character, and the parts that were found,
  each from its first byte to the one behind its last.
-/
structure Tally where
  depth : Nat
  start : Nat
  inString : Bool
  escaped : Bool
  spans : List (Nat × Nat)
deriving DecidableEq, Repr

namespace Tally

def initial : Tally :=
  ⟨0, 0, false, false, []⟩

/-
  One character further, which starts at this byte.  There is
  no way on where one is taken from a counter of zero.
-/
def step?
    (tally : Tally)
    (place : Nat)
    (c : Char) : Option Tally :=
  if tally.depth = 0 then
    if c = openBrace then
      some { tally with start := place, depth := 1 }
    else
      some tally
  else if tally.inString then
    if tally.escaped then
      some { tally with escaped := false }
    else if c = '\\' then
      some { tally with escaped := true }
    else if c = '"' then
      some { tally with inString := false }
    else
      some tally
  else if c = '"' then
    some { tally with inString := true }
  else if c = openBrace then
    some { tally with depth := tally.depth + 1 }
  else if c = closeBrace then
    match tally.depth with
    | 0 => none
    | 1 =>
        some
          { tally with
            depth := 0
            spans :=
              tally.spans ++ [(tally.start, place + 1)] }
    | less + 2 => some { tally with depth := less + 1 }
  else
    some tally

def run? (tally : Tally) (place : Nat) :
    List Char → Option Tally
  | [] => some tally
  | c :: rest =>
      match tally.step? place c with
      | none => none
      | some next => next.run? (place + Text.byteSize [c]) rest

theorem run?_append
    (tally : Tally)
    (place : Nat)
    (first second : List Char) :
    tally.run? place (first ++ second) =
      (tally.run? place first).bind fun next =>
        next.run? (place + Text.byteSize first) second := by
  induction first generalizing tally place with
  | nil => rfl
  | cons c rest ih =>
      have hSize :
          Text.byteSize (c :: rest) =
            Text.byteSize [c] + Text.byteSize rest :=
        Text.byteSize_append [c] rest
      rw [List.cons_append, run?, run?]
      cases tally.step? place c with
      | none => rfl
      | some next =>
          dsimp only
          rw [ih, hSize, Nat.add_assoc]

end Tally

end Dashboard.Reply

------------------------------------------------------------
-- Tallies And Scans
------------------------------------------------------------

namespace Dashboard.Reply

namespace Scan

/- The number of braces that are open. -/
def openBraces : Scan → Nat
  | outside => 0
  | inside _ less _ => less + 1

/- Outside of all objects no string is open. -/
def quoted : Scan → Quoting
  | outside => .none
  | inside _ _ quoting => quoting

/- The text of the object so far. -/
def soFar : Scan → List Char
  | outside => []
  | inside taken _ _ => taken.reverse

theorem inside_ne_outside
    (taken : List Char)
    (depth : Nat)
    (quoting : Quoting) :
    inside taken depth quoting ≠ outside := by
  rintro ⟨⟩

end Scan

namespace Tally

/- The tally stands at a byte as the scan does. -/
structure Stands
    (tally : Tally)
    (place : Nat)
    (scan : Scan) : Prop where
  depth : tally.depth = scan.openBraces
  inString : tally.inString = (scan.quoted != .none)
  escaped : tally.escaped = (scan.quoted == .escape)
  start :
    scan ≠ .outside →
      tally.start + Text.byteSize scan.soFar = place

variable {tally : Tally} {place : Nat} {scan : Scan}

/- A step that completes no object. -/
theorem Stands.exists_step?
    (hStands : Stands tally place scan)
    {c : Char}
    (hNone : (scan.step c).2 = none) :
    ∃ next,
      tally.step? place c = some next ∧
        Stands next (place + Text.byteSize [c])
            (scan.step c).1 ∧
          next.spans = tally.spans := by
  rcases tally with ⟨depth, start, inString, escaped, spans⟩
  rcases hStands with ⟨rfl, rfl, rfl, hStart⟩
  cases scan with
  | outside =>
      by_cases hOpen : c = openBrace
      · subst hOpen
        exact ⟨_, rfl, ⟨rfl, rfl, rfl, fun _ => rfl⟩, rfl⟩
      · have hStep :
            Scan.outside.step c = (.outside, none) := by
          simp [Scan.step, hOpen]
        rw [hStep]
        refine
          ⟨_, ?_, ⟨rfl, rfl, rfl, fun hIn => absurd rfl hIn⟩,
            rfl⟩
        simp [step?, Scan.openBraces, hOpen]
  | inside taken less quoting =>
      have hNext :
          start + Text.byteSize (c :: taken).reverse =
            place + Text.byteSize [c] := by
        rw [List.reverse_cons, Text.byteSize_append,
          ← Nat.add_assoc,
          ← hStart (Scan.inside_ne_outside _ _ _)]
        rfl
      cases quoting with
      | escape =>
          exact ⟨_, rfl, ⟨rfl, rfl, rfl, fun _ => hNext⟩, rfl⟩
      | string =>
          by_cases hSlash : c = '\\'
          · subst hSlash
            exact
              ⟨_, rfl, ⟨rfl, rfl, rfl, fun _ => hNext⟩, rfl⟩
          · by_cases hQuote : c = '"'
            · subst hQuote
              exact
                ⟨_, rfl, ⟨rfl, rfl, rfl, fun _ => hNext⟩, rfl⟩
            · have hStep :
                  (Scan.inside taken less .string).step c =
                    (.inside (c :: taken) less .string,
                      none) := by
                simp [Scan.step, Scan.requote, hSlash, hQuote]
              rw [hStep]
              refine
                ⟨_, ?_, ⟨rfl, rfl, rfl, fun _ => hNext⟩, rfl⟩
              simp [step?, Scan.openBraces, Scan.quoted, hSlash,
                hQuote]
      | none =>
          by_cases hQuote : c = '"'
          · subst hQuote
            exact
              ⟨_, rfl, ⟨rfl, rfl, rfl, fun _ => hNext⟩, rfl⟩
          · by_cases hOpen : c = openBrace
            · subst hOpen
              exact
                ⟨_, rfl, ⟨rfl, rfl, rfl, fun _ => hNext⟩, rfl⟩
            · by_cases hClose : c = closeBrace
              · subst hClose
                cases less with
                | zero => cases hNone
                | succ less =>
                    exact
                      ⟨_, rfl,
                        ⟨rfl, rfl, rfl, fun _ => hNext⟩, rfl⟩
              · have hStep :
                    (Scan.inside taken less .none).step c =
                      (.inside (c :: taken) less .none,
                        none) := by
                  simp [Scan.step, hQuote, hOpen, hClose]
                rw [hStep]
                refine
                  ⟨_, ?_, ⟨rfl, rfl, rfl, fun _ => hNext⟩,
                    rfl⟩
                simp [step?, Scan.openBraces, Scan.quoted,
                  hQuote, hOpen, hClose]

/- The brace that completes an object. -/
theorem Stands.step?_closeBrace
    {taken : List Char}
    (hStands :
      Stands tally place (.inside taken 0 .none)) :
    tally.step? place closeBrace =
      some
        { tally with
          depth := 0
          spans :=
            tally.spans ++ [(tally.start, place + 1)] } := by
  rcases tally with ⟨depth, start, inString, escaped, spans⟩
  rcases hStands with ⟨rfl, rfl, rfl, _⟩
  rfl

/-
  Induction over a text that completes no object: the tally
  goes on, and finds nothing.
-/
theorem Stands.exists_run?
    (hStands : Stands tally place scan)
    {text : List Char}
    (hNone : (scan.run text).1 = []) :
    ∃ last,
      tally.run? place text = some last ∧
        Stands last (place + Text.byteSize text)
            (scan.run text).2 ∧
          last.spans = tally.spans := by
  induction text generalizing tally place scan with
  | nil => exact ⟨tally, rfl, hStands, rfl⟩
  | cons c rest ih =>
      rw [Scan.run_cons] at hNone ⊢
      rcases List.append_eq_nil_iff.mp hNone with
        ⟨hStep, hRest⟩
      rcases hStands.exists_step?
          (Option.toList_eq_nil_iff.mp hStep) with
        ⟨next, hFirst, hNext, hSpans⟩
      rcases ih hNext hRest with
        ⟨last, hRun, hLast, hMore⟩
      have hSize :
          Text.byteSize (c :: rest) =
            Text.byteSize [c] + Text.byteSize rest :=
        Text.byteSize_append [c] rest
      refine ⟨last, ?_, ?_, hMore.trans hSpans⟩
      · rw [run?, hFirst]
        exact hRun
      · rw [hSize, ← Nat.add_assoc]
        exact hLast

/- An object is found from its first byte to its last. -/
theorem Stands.exists_run?_of_isObject
    (hStands : Stands tally place .outside)
    {object : List Char}
    (hObject : IsObject object) :
    ∃ last,
      tally.run? place object = some last ∧
        Stands last (place + Text.byteSize object) .outside ∧
          last.spans =
            tally.spans ++
              [(place, place + Text.byteSize object)] := by
  rcases hObject.exists_isOpen with
    ⟨opened, rfl, hOpen, hDepth, hQuoting⟩
  have hLess : (Reply.depth opened - 1).toNat = 0 := by
    rw [hDepth]
    rfl
  have hScan :
      Scan.outside.run opened =
        ([], .inside opened.reverse 0 .none) := by
    rw [run_of_isOpen hOpen, hLess, hQuoting]
  rcases hStands.exists_run? (congrArg Prod.fst hScan) with
    ⟨next, hRun, hNext, hSpans⟩
  rw [hScan] at hNext
  have hStart : next.start = place := by
    have hPlace := hNext.start (Scan.inside_ne_outside _ _ _)
    rw [Scan.soFar, List.reverse_reverse] at hPlace
    omega
  have hSize :
      Text.byteSize (opened ++ [closeBrace]) =
        Text.byteSize opened + 1 :=
    Text.byteSize_append opened [closeBrace]
  refine
    ⟨{ next with
        depth := 0
        spans :=
          next.spans ++
            [(next.start, place + Text.byteSize opened + 1)] },
      ?_, ⟨rfl, ?_, ?_, fun hIn => absurd rfl hIn⟩, ?_⟩
  · rw [run?_append, hRun, Option.bind_some, run?,
      hNext.step?_closeBrace]
    rfl
  · exact hNext.inString
  · exact hNext.escaped
  · rw [hSpans, hStart, hSize, Nat.add_assoc]

end Tally

end Dashboard.Reply

------------------------------------------------------------
-- Places Of Objects
------------------------------------------------------------

namespace Dashboard.Reply

/-
  These parts of a text that starts at this byte hold the
  objects, one after the other.
-/
inductive Holds :
    Nat → List Char → List (List Char) →
      List (Nat × Nat) → Prop where
  | none {place : Nat} {text : List Char} :
      Holds place text [] []
  | next
      {place : Nat}
      {gap object rest : List Char}
      {objects : List (List Char)}
      {spans : List (Nat × Nat)} :
      Holds (place + Text.byteSize (gap ++ object)) rest
          objects spans →
        Holds place (gap ++ (object ++ rest))
          (object :: objects)
          ((place + Text.byteSize gap,
              place + Text.byteSize (gap ++ object)) ::
            spans)

/- Where no object is completed, the tally finds none. -/
theorem Cut.exists_run?_of_nil
    {text left : List Char}
    (hCut : Cut text [] left)
    {tally : Tally}
    {place : Nat}
    (hStands : tally.Stands place .outside) :
    ∃ last found,
      tally.run? place text = some last ∧
        last.Stands (place + Text.byteSize text)
            (.leftOpen left) ∧
          last.spans = tally.spans ++ found ∧
            Holds place text [] found := by
  have hScan := run_of_cut hCut
  rcases hStands.exists_run? (congrArg Prod.fst hScan) with
    ⟨last, hRun, hLast, hSpans⟩
  rw [hScan] at hLast
  rw [← List.append_nil tally.spans] at hSpans
  exact ⟨last, [], hRun, hLast, hSpans, .none⟩

/-
  Induction over the cut: the tally finds the objects at
  their places, and stands where the cut leaves it.
-/
theorem Cut.exists_run?
    {text left : List Char}
    {objects : List (List Char)}
    (hCut : Cut text objects left)
    {tally : Tally}
    {place : Nat}
    (hStands : tally.Stands place .outside) :
    ∃ last found,
      tally.run? place text = some last ∧
        last.Stands (place + Text.byteSize text)
            (.leftOpen left) ∧
          last.spans = tally.spans ++ found ∧
            Holds place text objects found := by
  induction hCut generalizing tally place with
  | closed hGap =>
      exact (Cut.closed hGap).exists_run?_of_nil hStands
  | opened hGap hOpen =>
      exact (Cut.opened hGap hOpen).exists_run?_of_nil hStands
  | @object gap object rest left objects hGap hObject _ ih =>
      have hScan := Scan.run_outside_of_not_mem hGap
      rcases hStands.exists_run? (congrArg Prod.fst hScan) with
        ⟨first, hFirst, hBefore, hSpans⟩
      rw [hScan] at hBefore
      rcases hBefore.exists_run?_of_isObject hObject with
        ⟨second, hSecond, hBehind, hFound⟩
      rw [Nat.add_assoc, ← Text.byteSize_append]
        at hBehind hFound
      rcases ih hBehind with
        ⟨last, found, hLast, hEnds, hMore, hHolds⟩
      refine ⟨last, _, ?_, ?_, ?_, .next hHolds⟩
      · rw [Tally.run?_append, hFirst, Option.bind_some,
          Tally.run?_append, hSecond, Option.bind_some,
          Nat.add_assoc, ← Text.byteSize_append]
        exact hLast
      · rw [← List.append_assoc, Text.byteSize_append,
          ← Nat.add_assoc]
        exact hEnds
      · rw [hMore, hFound, hSpans, List.append_assoc]
        rfl

end Dashboard.Reply

------------------------------------------------------------
-- Main Result
------------------------------------------------------------

namespace Dashboard.Reply

/- A tally with no brace open leaves nothing open. -/
theorem Tally.Stands.left_eq_nil
    {tally : Tally}
    {place : Nat}
    {left : List Char}
    (hStands : tally.Stands place (.leftOpen left))
    (hDepth : tally.depth = 0) :
    left = [] := by
  cases left with
  | nil => rfl
  | cons c rest =>
      rw [hStands.depth] at hDepth
      cases hDepth

/- Else it counts the braces of the text that is left open. -/
theorem Tally.Stands.of_isOpen
    {tally : Tally}
    {before left : List Char}
    (hStands :
      tally.Stands (Text.byteSize (before ++ left))
        (.leftOpen left))
    (hOpen : IsOpen left) :
    Text.byteSize before = tally.start ∧
      Reply.depth left = tally.depth := by
  rw [Scan.leftOpen_of_isOpen hOpen] at hStands
  have hPlace := hStands.start (Scan.inside_ne_outside _ _ _)
  have hDepth := hStands.depth
  have hPositive := hOpen.depth_pos_self
  rw [Scan.soFar, List.reverse_reverse, Text.byteSize_append]
    at hPlace
  rw [Scan.openBraces] at hDepth
  constructor
  · omega
  · omega

/-
  The objects of a text are those of a cut of it, whichever
  it is.  The tally never takes one from a counter of zero,
  and finds the objects at their places.  With no brace open
  at the end both flags are down, and what follows is scanned
  as if it stood alone; else the object that was opened last
  is never closed.
-/
theorem objects_balanced (text : List Char) :
    (∀ found,
        objects text = found ↔
          ∃ left, Cut text found left) ∧
      ∃ tally,
        Tally.initial.run? 0 text = some tally ∧
          Holds 0 text (objects text) tally.spans ∧
          (tally.depth = 0 →
            tally.inString = false ∧ tally.escaped = false ∧
              ∀ rest,
                objects (text ++ rest) =
                  objects text ++ objects rest) ∧
          (tally.depth ≠ 0 →
            ∃ before left,
              text = before ++ left ∧ IsOpen left ∧
                Text.byteSize before = tally.start ∧
                depth left = tally.depth) := by
  refine ⟨objects_eq_iff_cut text, ?_⟩
  rcases exists_cut text with ⟨found, left, hCut⟩
  have hFound : objects text = found := by
    rw [objects, run_of_cut hCut]
  have hInitial : Tally.initial.Stands 0 .outside :=
    ⟨rfl, rfl, rfl, fun hIn => absurd rfl hIn⟩
  rcases hCut.exists_run? hInitial with
    ⟨tally, spans, hRun, hStands, hSpans, hHolds⟩
  rw [Nat.zero_add] at hStands
  refine ⟨tally, hRun, ?_, ?_, ?_⟩
  · rw [hFound, hSpans]
    exact hHolds
  · intro hDepth
    have hLeft := hStands.left_eq_nil hDepth
    subst hLeft
    refine ⟨hStands.inString, hStands.escaped, ?_⟩
    intro rest
    apply objects_append
    rw [run_of_cut hCut]
    rfl
  · intro hDepth
    rcases hCut.left_eq_nil_or_isOpen with rfl | hOpen
    · exact absurd hStands.depth hDepth
    · rcases hCut.left_suffix with ⟨before, rfl⟩
      exact ⟨before, left, rfl, hOpen, hStands.of_isOpen hOpen⟩

/- An object with a brace in a string, and prose around it. -/
def sampleProse : List Char :=
  "a \x7d \x7b\"b\": \x7b\"c\": \"\x7d\"\x7d\x7d \"".toList

/- The object in it. -/
def sampleNested : List Char :=
  "\x7b\"b\": \x7b\"c\": \"\x7d\"\x7d\x7d".toList

/- The object is found in the prose, and twice in two. -/
theorem objects_balanced_nested :
    objects sampleProse = [sampleNested] ∧
      (∃ tally,
        Tally.initial.run? 0 sampleProse = some tally ∧
          tally.depth = 0 ∧
            Holds 0 sampleProse [sampleNested] tally.spans) ∧
        objects (sampleProse ++ sampleProse) =
          [sampleNested, sampleNested] := by
  have hFound : objects sampleProse = [sampleNested] := by
    decide
  have hOutside :
      (Tally.initial.run? 0 sampleProse).map Tally.depth =
        some 0 := by
    decide
  rcases objects_balanced sampleProse with
    ⟨_, tally, hRun, hHolds, hTwice, _⟩
  have hDepth : tally.depth = 0 := by
    rw [hRun] at hOutside
    exact Option.some.inj hOutside
  rw [hFound] at hHolds
  refine ⟨hFound, ⟨tally, hRun, hDepth, hHolds⟩, ?_⟩
  rw [(hTwice hDepth).2.2, hFound]
  rfl

end Dashboard.Reply
