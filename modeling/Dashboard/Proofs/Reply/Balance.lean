import Dashboard.Proofs.Reply.Span
import Mathlib.Data.List.Infix

/-
  The scan for objects, as seen from its result.  Every text
  can be cut into objects whose braces balance, texts without
  an opening brace between them, and at the end perhaps an
  object that is never closed.  However it is cut, the scan
  finds exactly the objects of the cut.

  Key definitions include:
    * `Reply.unquoted` and `Reply.depth`
    * `Reply.IsObject` and `Reply.IsOpen`
    * `Reply.Cut`

  Main declarations:
    * `Reply.run_of_isOpen` and `Reply.run_of_isObject`
    * `Reply.exists_cut`
    * `Reply.run_of_cut`
    * `Reply.objects_eq_iff_cut`
-/

------------------------------------------------------------
-- Depth
------------------------------------------------------------

namespace Dashboard.Reply

mutual

/- The characters of a text that stand in no string. -/
def unquoted : List Char → List Char
  | [] => []
  | c :: rest =>
      if c = '"' then
        unquotedBehind rest
      else
        c :: unquoted rest

/-
  The characters that stand in no string behind a quotation
  mark.  The string goes on to the next quotation mark that
  no backslash escapes.
-/
def unquotedBehind : List Char → List Char
  | [] => []
  | [_] => []
  | c :: d :: rest =>
      if c = '\\' then
        unquotedBehind rest
      else if c = '"' then
        unquoted (d :: rest)
      else
        unquotedBehind (d :: rest)

end

/-
  How many more braces a text opens than it closes, those in
  strings apart.
-/
def depth (text : List Char) : Int :=
  ((unquoted text).count openBrace : Int) -
    (unquoted text).count closeBrace

/-
  A text that opens an object and never closes it: all of its
  prefixes leave braces open.
-/
structure IsOpen (text : List Char) : Prop where
  head : text.head? = some openBrace
  depth_pos :
    ∀ before, before <+: text → before ≠ [] → 0 < depth before

/-
  A text that is one object with balanced braces: it closes
  with its last character what its first one opened, and not
  before.
-/
structure IsObject (text : List Char) : Prop where
  head : text.head? = some openBrace
  last : text.getLast? = some closeBrace
  depth_pos :
    ∀ before,
      before <+: text →
        before ≠ [] → before ≠ text → 0 < depth before
  depth_eq_zero : depth text = 0

/-
  A text cut into objects, with what an object at the end
  leaves open.  No brace is opened between the objects.
-/
inductive Cut :
    List Char → List (List Char) → List Char → Prop where
  | closed {gap : List Char} :
      openBrace ∉ gap → Cut gap [] []
  | opened {gap left : List Char} :
      openBrace ∉ gap →
        IsOpen left → Cut (gap ++ left) [] left
  | object
      {gap object rest left : List Char}
      {objects : List (List Char)} :
      openBrace ∉ gap →
        IsObject object →
          Cut rest objects left →
            Cut (gap ++ (object ++ rest)) (object :: objects)
              left

end Dashboard.Reply

------------------------------------------------------------
-- Depth From A Place
------------------------------------------------------------

namespace Dashboard.Reply

/- How a character changes the quoting inside of an object. -/
def Quoting.turn (quoting : Quoting) (c : Char) : Quoting :=
  match quoting with
  | .none => if c = '"' then .string else .none
  | _ => Scan.requote quoting c

/- The quoting behind a text. -/
def Quoting.behind
    (quoting : Quoting)
    (text : List Char) : Quoting :=
  text.foldl turn quoting

/- How a character changes the depth. -/
def change (quoting : Quoting) (c : Char) : Int :=
  if quoting = .none ∧ c = openBrace then
    1
  else if quoting = .none ∧ c = closeBrace then
    -1
  else
    0

/- The characters that stand in no string, from a place. -/
def unquotedFrom : Quoting → List Char → List Char
  | .none, text => unquoted text
  | .string, text => unquotedBehind text
  | .escape, text => unquotedBehind (text.drop 1)

/- The depth of a text from a place. -/
def depthFrom (quoting : Quoting) (text : List Char) : Int :=
  ((unquotedFrom quoting text).count openBrace : Int) -
    (unquotedFrom quoting text).count closeBrace

theorem unquotedFrom_cons
    (quoting : Quoting)
    (c : Char)
    (rest : List Char) :
    unquotedFrom quoting (c :: rest) =
      (if quoting = .none ∧ c ≠ '"' then [c] else []) ++
        unquotedFrom (quoting.turn c) rest := by
  cases quoting with
  | none =>
      by_cases hQuote : c = '"'
      · simp [unquotedFrom, unquoted, Quoting.turn, hQuote]
      · simp [unquotedFrom, unquoted, Quoting.turn, hQuote]
  | string =>
      cases rest with
      | nil =>
          by_cases hSlash : c = '\\'
          · simp [unquotedFrom, unquotedBehind, Quoting.turn,
              Scan.requote, hSlash]
          · by_cases hQuote : c = '"'
            · simp [unquotedFrom, unquotedBehind, unquoted,
                Quoting.turn, Scan.requote, hQuote]
            · simp [unquotedFrom, unquotedBehind,
                Quoting.turn, Scan.requote, hSlash, hQuote]
      | cons d rest =>
          by_cases hSlash : c = '\\'
          · simp [unquotedFrom, unquotedBehind, Quoting.turn,
              Scan.requote, hSlash]
          · by_cases hQuote : c = '"'
            · simp [unquotedFrom, unquotedBehind,
                Quoting.turn, Scan.requote, hQuote]
            · simp [unquotedFrom, unquotedBehind,
                Quoting.turn, Scan.requote, hSlash, hQuote]
  | escape => rfl

theorem depthFrom_nil (quoting : Quoting) :
    depthFrom quoting [] = 0 := by
  cases quoting with
  | none => rfl
  | string => rfl
  | escape => rfl

theorem depthFrom_cons
    (quoting : Quoting)
    (c : Char)
    (rest : List Char) :
    depthFrom quoting (c :: rest) =
      change quoting c +
        depthFrom (quoting.turn c) rest := by
  unfold depthFrom
  rw [unquotedFrom_cons, List.count_append,
    List.count_append]
  by_cases hNone : quoting = .none
  · by_cases hOpen : c = openBrace
    · subst hOpen
      simp [change, hNone, openBrace, closeBrace]
      omega
    · by_cases hClose : c = closeBrace
      · subst hClose
        simp [change, hNone, openBrace, closeBrace]
        omega
      · by_cases hQuote : c = '"'
        · subst hQuote
          simp [change, hNone, hOpen, hClose]
        · simp [change, hNone, hOpen, hClose, hQuote]
  · simp [change, hNone]

theorem depthFrom_append
    (quoting : Quoting)
    (first second : List Char) :
    depthFrom quoting (first ++ second) =
      depthFrom quoting first +
        depthFrom (quoting.behind first) second := by
  induction first generalizing quoting with
  | nil => simp [depthFrom_nil, Quoting.behind]
  | cons c rest ih =>
      rw [List.cons_append, depthFrom_cons, depthFrom_cons, ih,
        Quoting.behind, Quoting.behind, List.foldl_cons]
      omega

/- One character more changes the depth by one at most. -/
theorem depth_concat (text : List Char) (c : Char) :
    depth (text ++ [c]) =
      depth text + change (Quoting.none.behind text) c := by
  have hLast :
      depthFrom (Quoting.none.behind text) [c] =
        change (Quoting.none.behind text) c := by
    rw [depthFrom_cons, depthFrom_nil, Int.add_zero]
  rw [← hLast]
  exact depthFrom_append .none text [c]

theorem depth_openBrace : depth [openBrace] = 1 := by decide

theorem neg_one_le_change (quoting : Quoting) (c : Char) :
    -1 ≤ change quoting c := by
  unfold change
  split
  · decide
  · split
    · decide
    · decide

/- Only a closing brace lowers the depth. -/
theorem eq_closeBrace_of_change_neg
    {quoting : Quoting}
    {c : Char}
    (hLower : change quoting c < 0) :
    quoting = .none ∧ c = closeBrace := by
  unfold change at hLower
  split at hLower
  · exact absurd hLower (by decide)
  · split at hLower
    · rename_i hClose
      exact hClose
    · exact absurd hLower (by decide)

end Dashboard.Reply

------------------------------------------------------------
-- Scanning One Object
------------------------------------------------------------

namespace Dashboard.Reply

namespace Scan

variable {taken : List Char}
variable {less : Nat}
variable {quoting : Quoting}
variable {c : Char}

/- As long as braces stay open, so does the object. -/
theorem step_inside_of_pos
    (hOpen : 0 < (less : Int) + 1 + change quoting c) :
    (inside taken less quoting).step c =
      (inside (c :: taken)
        ((less : Int) + change quoting c).toNat
        (quoting.turn c), none) := by
  cases quoting with
  | string => simp [step, change, Quoting.turn]
  | escape => simp [step, change, Quoting.turn]
  | none =>
      by_cases hQuote : c = '"'
      · subst hQuote
        simp [step, change, Quoting.turn, openBrace,
          closeBrace]
      · by_cases hFirst : c = openBrace
        · subst hFirst
          simp [step, change, Quoting.turn, hQuote]
        · by_cases hLast : c = closeBrace
          · subst hLast
            cases less with
            | zero =>
                simp [change, hFirst] at hOpen
            | succ less =>
                have hLess :
                    (((less + 1 : Nat) : Int) + -1).toNat =
                      less := by
                  omega
                simp only [step, change, Quoting.turn, hFirst,
                  hQuote, and_false, and_self, if_true,
                  if_false, hLess]
          · simp [step, change, Quoting.turn, hQuote, hFirst,
              hLast]

/- The last closing brace completes the object. -/
theorem step_inside_closeBrace :
    (inside taken 0 .none).step closeBrace =
      (outside, some (closeBrace :: taken).reverse) := rfl

end Scan

variable {text : List Char}

theorem IsOpen.depth_pos_self
    (hText : IsOpen text) :
    0 < depth text := by
  apply hText.depth_pos text (List.prefix_refl text)
  rintro rfl
  cases hText.head

theorem isOpen_openBrace : IsOpen [openBrace] where
  head := rfl
  depth_pos before hPrefix hSome := by
    rcases List.prefix_cons_iff.mp hPrefix with
      rfl | ⟨rest, rfl, hRest⟩
    · exact absurd rfl hSome
    · rw [List.prefix_nil.mp hRest, depth_openBrace]
      decide

theorem IsOpen.concat
    (hText : IsOpen text)
    {c : Char}
    (hDepth : 0 < depth (text ++ [c])) :
    IsOpen (text ++ [c]) where
  head := by
    rw [List.head?_append, hText.head, Option.some_or]
  depth_pos before hPrefix hSome := by
    rcases List.prefix_concat_iff.mp hPrefix with rfl | hBefore
    · exact hDepth
    · exact hText.depth_pos before hBefore hSome

/- What stands before the end of an open text is open. -/
theorem IsOpen.of_concat
    {c : Char}
    (hText : IsOpen (text ++ [c]))
    (hSome : text ≠ []) :
    IsOpen text where
  head := by
    have hHead := hText.head
    rw [List.head?_append_of_ne_nil _ hSome] at hHead
    exact hHead
  depth_pos before hPrefix :=
    hText.depth_pos before
      (hPrefix.trans (List.prefix_append text [c]))

/-
  Induction over an open text: the scan is inside of it, with
  as many braces open as its depth says.
-/
theorem run_of_isOpen
    (hText : IsOpen text) :
    Scan.outside.run text =
      ([],
        .inside text.reverse (depth text - 1).toNat
          (Quoting.none.behind text)) := by
  induction text using List.reverseRecOn with
  | nil => cases hText.head
  | append_singleton text c ih =>
      by_cases hFirst : text = []
      · subst hFirst
        have hBrace : c = openBrace :=
          Option.some.inj hText.head
        subst hBrace
        rfl
      · have hBefore := hText.of_concat hFirst
        have hPositive := hBefore.depth_pos_self
        have hOpen := hText.depth_pos_self
        rw [depth_concat] at hOpen
        have hLess :
            ((depth text - 1).toNat : Int) = depth text - 1 :=
          Int.toNat_of_nonneg (by omega)
        have hStep :
            (Scan.inside text.reverse (depth text - 1).toNat
                (Quoting.none.behind text)).step c =
              (.inside (c :: text.reverse)
                (((depth text - 1).toNat : Int) +
                  change (Quoting.none.behind text) c).toNat
                ((Quoting.none.behind text).turn c),
                none) :=
          Scan.step_inside_of_pos (by omega)
        have hAfter :
            depth (text ++ [c]) - 1 =
              ((depth text - 1).toNat : Int) +
                change (Quoting.none.behind text) c := by
          rw [depth_concat, hLess]
          omega
        rw [Scan.run_append, ih hBefore, Scan.run_cons, hStep,
          hAfter]
        simp [Scan.run, Quoting.behind]

/- An object is open up to its last character. -/
theorem IsObject.exists_isOpen
    (hText : IsObject text) :
    ∃ opened,
      text = opened ++ [closeBrace] ∧
        IsOpen opened ∧
          depth opened = 1 ∧
            Quoting.none.behind opened = .none := by
  rcases List.getLast?_eq_some_iff.mp hText.last with
    ⟨opened, rfl⟩
  have hSome : opened ≠ [] := by
    rintro rfl
    exact absurd hText.head (by decide)
  have hOpen : IsOpen opened := by
    refine ⟨?_, ?_⟩
    · rw [← List.head?_append_of_ne_nil _ hSome]
      exact hText.head
    · intro before hPrefix hBefore
      apply hText.depth_pos before _ hBefore
      · rintro rfl
        have hLength := hPrefix.length_le
        rw [List.length_append, List.length_singleton]
          at hLength
        omega
      · exact hPrefix.trans (List.prefix_append _ _)
  have hPositive := hOpen.depth_pos_self
  have hZero := hText.depth_eq_zero
  have hLeast :=
    neg_one_le_change (Quoting.none.behind opened) closeBrace
  rw [depth_concat] at hZero
  have hLower :
      change (Quoting.none.behind opened) closeBrace < 0 := by
    omega
  exact
    ⟨opened, rfl, hOpen, by omega,
      (eq_closeBrace_of_change_neg hLower).1⟩

/- An open text is completed where its depth gets to zero. -/
theorem IsOpen.isObject_concat
    (hText : IsOpen text)
    {c : Char}
    (hDepth : ¬ 0 < depth (text ++ [c])) :
    IsObject (text ++ [c]) := by
  have hPositive := hText.depth_pos_self
  have hLeast :=
    neg_one_le_change (Quoting.none.behind text) c
  have hSum := depth_concat text c
  have hLower : change (Quoting.none.behind text) c < 0 := by
    omega
  refine ⟨?_, ?_, ?_, ?_⟩
  · rw [List.head?_append, hText.head, Option.some_or]
  · rw [(eq_closeBrace_of_change_neg hLower).2]
    exact List.getLast?_concat
  · intro before hPrefix hSome hOther
    rcases List.prefix_concat_iff.mp hPrefix with
      hWhole | hBefore
    · exact absurd hWhole hOther
    · exact hText.depth_pos before hBefore hSome
  · omega

/- The scan completes an object and is outside again. -/
theorem run_of_isObject
    (hText : IsObject text) :
    Scan.outside.run text = ([text], .outside) := by
  rcases hText.exists_isOpen with
    ⟨opened, rfl, hOpen, hDepth, hQuoting⟩
  have hLess : (depth opened - 1).toNat = 0 := by
    rw [hDepth]
    rfl
  rw [Scan.run_append, run_of_isOpen hOpen, hLess, hQuoting,
    Scan.run_cons, Scan.step_inside_closeBrace]
  simp [Scan.run]

end Dashboard.Reply

------------------------------------------------------------
-- Cutting A Text
------------------------------------------------------------

namespace Dashboard.Reply

/-
  Behind an opening brace there is an object, or else the
  text stays open.
-/
theorem isOpen_or_exists_isObject
    {text : List Char}
    (hHead : text.head? = some openBrace) :
    IsOpen text ∨
      ∃ object rest,
        text = object ++ rest ∧ IsObject object := by
  induction text using List.reverseRecOn with
  | nil => cases hHead
  | append_singleton text c ih =>
      by_cases hFirst : text = []
      · subst hFirst
        have hBrace : c = openBrace := Option.some.inj hHead
        subst hBrace
        exact .inl isOpen_openBrace
      · rw [List.head?_append_of_ne_nil _ hFirst] at hHead
        rcases ih hHead with
          hOpen | ⟨object, rest, rfl, hObject⟩
        · by_cases hDepth : 0 < depth (text ++ [c])
          · exact .inl (hOpen.concat hDepth)
          · exact
              .inr ⟨_, [], (List.append_nil _).symm,
                hOpen.isObject_concat hDepth⟩
        · exact
            .inr ⟨object, rest ++ [c],
              List.append_assoc _ _ _, hObject⟩

/- Every text can be cut. -/
theorem exists_cut (text : List Char) :
    ∃ objects left, Cut text objects left := by
  by_cases hMem : openBrace ∈ text
  · rcases List.eq_append_cons_of_mem hMem with
      ⟨gap, behind, hText, hGap⟩
    have hHead :
        (openBrace :: behind).head? = some openBrace := rfl
    rcases isOpen_or_exists_isObject hHead with
      hOpen | ⟨object, rest, hBehind, hObject⟩
    · rw [hText]
      exact ⟨[], _, .opened hGap hOpen⟩
    · have hShorter : rest.length < text.length := by
        have hSome : object ≠ [] := by
          rintro rfl
          cases hObject.head
        have hPositive := List.length_pos_of_ne_nil hSome
        rw [hText, hBehind, List.length_append,
          List.length_append]
        omega
      rcases exists_cut rest with ⟨objects, left, hCut⟩
      rw [hText, hBehind]
      exact ⟨_, left, .object hGap hObject hCut⟩
  · exact ⟨[], [], .closed hMem⟩
termination_by text.length

/- Where a scan stands that is left with an open text. -/
def Scan.leftOpen (left : List Char) : Scan :=
  match left with
  | [] => .outside
  | _ =>
      .inside left.reverse (depth left - 1).toNat
        (Quoting.none.behind left)

theorem Scan.leftOpen_of_isOpen
    {left : List Char}
    (hOpen : IsOpen left) :
    Scan.leftOpen left =
      .inside left.reverse (depth left - 1).toNat
        (Quoting.none.behind left) := by
  cases left with
  | nil => cases hOpen.head
  | cons c rest => rfl

/-
  Induction over the cut: the scan completes its objects and
  stands where the cut leaves it.
-/
theorem run_of_cut
    {text left : List Char}
    {objects : List (List Char)}
    (hCut : Cut text objects left) :
    Scan.outside.run text = (objects, .leftOpen left) := by
  induction hCut with
  | closed hGap => exact Scan.run_outside_of_not_mem hGap
  | opened hGap hOpen =>
      rw [Scan.run_append, Scan.run_outside_of_not_mem hGap,
        run_of_isOpen hOpen, Scan.leftOpen_of_isOpen hOpen]
      rfl
  | object hGap hObject _ ih =>
      rw [Scan.run_append, Scan.run_outside_of_not_mem hGap,
        Scan.run_append, run_of_isObject hObject, ih]
      rfl

/- What is left open is nothing or an open text. -/
theorem Cut.left_eq_nil_or_isOpen
    {text left : List Char}
    {objects : List (List Char)}
    (hCut : Cut text objects left) :
    left = [] ∨ IsOpen left := by
  induction hCut with
  | closed => exact .inl rfl
  | opened _ hOpen => exact .inr hOpen
  | object _ _ _ ih => exact ih

/- It stands at the end of the text. -/
theorem Cut.left_suffix
    {text left : List Char}
    {objects : List (List Char)}
    (hCut : Cut text objects left) :
    left <:+ text := by
  induction hCut with
  | closed => exact List.nil_suffix
  | opened => exact List.suffix_append _ _
  | object _ _ _ ih =>
      exact
        ih.trans
          ((List.suffix_append _ _).trans
            (List.suffix_append _ _))

/- The objects of a text are those of its cut. -/
theorem objects_eq_iff_cut
    (text : List Char)
    (found : List (List Char)) :
    objects text = found ↔ ∃ left, Cut text found left := by
  constructor
  · rintro rfl
    rcases exists_cut text with ⟨found, left, hCut⟩
    have hFound : objects text = found := by
      rw [objects, run_of_cut hCut]
    exact ⟨left, hFound ▸ hCut⟩
  · rintro ⟨left, hCut⟩
    rw [objects, run_of_cut hCut]

end Dashboard.Reply
