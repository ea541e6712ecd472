import Dashboard.Proofs.Lexicon.Extension

/-
  The nearest phrase: of the phrases that stand in the last
  characters of a text, the one that starts last, and of
  those that start together the one that the lexicon lists
  first.

  Key definitions include:
    * `Text.charIndices`
    * `Lexicon.windowStart`
    * `Lexicon.Leads`
    * `Lexicon.IsNearest`

  Main declarations:
    * `Lexicon.exists_splits_windowOf`
    * `Lexicon.leads_lastSynonym?`
    * `Lexicon.map_lastSynonym?_eq_some_iff`
    * `Lexicon.nearestSynonym?_append`
    * `Lexicon.nearestSynonym?_iff_isNearest`
-/

------------------------------------------------------------
-- The Window
------------------------------------------------------------

namespace Dashboard

/-
  The characters of a text, each with the byte at which it
  starts when `start` bytes come before the text.
-/
def Text.charIndices
    (start : Nat) :
    List Char → List (Nat × Char)
  | [] => []
  | c :: rest =>
      (start, c) :: charIndices (start + c.utf8Size) rest

theorem Text.length_charIndices
    (start : Nat)
    (text : List Char) :
    (charIndices start text).length = text.length := by
  induction text generalizing start with
  | nil => rfl
  | cons c rest ih =>
      rw [charIndices, List.length_cons, List.length_cons, ih]

theorem Text.getElem?_charIndices
    (start : Nat)
    (text : List Char)
    (place : Nat) :
    (charIndices start text)[place]? =
      text[place]?.map
        (start + byteSize (text.take place), ·) := by
  induction text generalizing start place with
  | nil => rfl
  | cons c rest ih =>
      cases place with
      | zero => rfl
      | succ place =>
          have hSize :
              byteSize (c :: rest.take place) =
                c.utf8Size + byteSize (rest.take place) := by
            rw [← List.singleton_append, byteSize_append]
            congr 1
            simp [byteSize]
          rw [charIndices, List.getElem?_cons_succ,
            List.getElem?_cons_succ, List.take_succ_cons, ih,
            hSize, Nat.add_assoc]

namespace Lexicon

/-
  The byte at which the window starts: that of the fiftieth
  character from the end, or the first one without it.
-/
def windowStart (head : List Char) : Nat :=
  ((Text.charIndices 0 head).reverse[windowSize - 1]?.map
    Prod.fst).getD 0

theorem windowStart_eq (head : List Char) :
    windowStart head =
      Text.byteSize (head.take (head.length - windowSize)) := by
  unfold windowStart
  by_cases hLong : windowSize ≤ head.length
  · have hSize : 0 < windowSize := by decide
    have hPlace :
        windowSize - 1 < (Text.charIndices 0 head).length := by
      rw [Text.length_charIndices]
      omega
    have hFront :
        head.length - 1 - (windowSize - 1) =
          head.length - windowSize := by
      omega
    have hInside : head.length - windowSize < head.length := by
      omega
    rw [List.getElem?_reverse hPlace, Text.length_charIndices,
      hFront, Text.getElem?_charIndices,
      List.getElem?_eq_getElem hInside]
    simp
  · have hNone :
        (Text.charIndices 0 head).reverse[windowSize - 1]? =
          none := by
      rw [List.getElem?_eq_none_iff, List.length_reverse,
        Text.length_charIndices]
      omega
    have hZero : head.length - windowSize = 0 := by
      omega
    rw [hNone, hZero]
    rfl

theorem length_windowOf (head : List Char) :
    (windowOf head).length = min windowSize head.length := by
  unfold windowOf
  rw [List.length_drop]
  omega

/-
  The byte at which the window starts is one between two
  characters, and the window is what comes after it.
-/
theorem exists_splits_windowOf (head : List Char) :
    ∃ front,
      ∃ start : (String.ofList head).Pos,
        start.offset.byteIdx = windowStart head ∧
          start.Splits (String.ofList front)
            (String.ofList (windowOf head)) := by
  let front := head.take (head.length - windowSize)
  have hHead :
      String.ofList head =
        String.ofList front ++
          String.ofList (windowOf head) := by
    rw [← String.ofList_append, windowOf, List.take_append_drop]
  let start : (String.ofList head).Pos :=
    String.Pos.ofEqAppend hHead
  have hSplits := String.Pos.splits_ofEqAppend hHead
  refine ⟨front, start, ?_, hSplits⟩
  rw [hSplits.offset_eq_rawEndPos, windowStart_eq]
  rfl

/- What comes before a full window does not matter. -/
theorem windowOf_append
    {head : List Char}
    (hLong : windowSize ≤ head.length)
    (more : List Char) :
    windowOf (more ++ head) = windowOf head := by
  unfold windowOf
  rw [List.length_append, Nat.add_sub_assoc hLong,
    List.drop_append, List.drop_eq_nil_of_le (by omega)]
  simp

end Lexicon

end Dashboard

------------------------------------------------------------
-- The Search
------------------------------------------------------------

namespace Dashboard

namespace Lexicon

variable {window : List Char}

/-
  What a search through a table has found: nothing if none
  of the phrases stands in the window, and otherwise an entry
  behind whose place no phrase stands, and at whose place no
  phrase stands that is listed before it.
-/
def Leads
    (window : List Char)
    (synonyms : List Synonym) :
    Option (Nat × Synonym) → Prop
  | none =>
      ∀ t ∈ synonyms,
        Text.lastOccurrence t.phrase.toList window = none
  | some (place, s) =>
      ∃ before after,
        synonyms = before ++ s :: after ∧
          Text.lastOccurrence s.phrase.toList window =
            some place ∧
          (∀ t ∈ before, ∀ other,
            Text.lastOccurrence t.phrase.toList window =
                some other →
              other < place) ∧
          ∀ t ∈ after, ∀ other,
            Text.lastOccurrence t.phrase.toList window =
                some other →
              other ≤ place

/- An entry that does not stand in the window is passed. -/
theorem Leads.pass
    {synonyms : List Synonym}
    {best : Option (Nat × Synonym)}
    (hLeads : Leads window synonyms best)
    {s : Synonym}
    (hPass :
      ∀ place t, best = some (place, t) →
        ∀ other,
          Text.lastOccurrence s.phrase.toList window =
              some other →
            other ≤ place)
    (hNone :
      best = none →
        Text.lastOccurrence s.phrase.toList window = none) :
    Leads window (synonyms ++ [s]) best := by
  cases best with
  | none =>
      intro t hMem
      rcases List.mem_append.mp hMem with hOld | hNew
      · exact hLeads t hOld
      · rw [List.mem_singleton.mp hNew]
        exact hNone rfl
  | some found =>
      rcases found with ⟨place, t⟩
      rcases hLeads with
        ⟨before, after, rfl, hPlace, hBefore, hAfter⟩
      refine
        ⟨before, after ++ [s], ?_, hPlace, hBefore, ?_⟩
      · rw [List.append_assoc, List.cons_append]
      · intro other hMem
        rcases List.mem_append.mp hMem with hOld | hNew
        · exact hAfter other hOld
        · rw [List.mem_singleton.mp hNew]
          exact hPass place t rfl

/- An entry further on than all others is taken. -/
theorem Leads.take
    {synonyms : List Synonym}
    {best : Option (Nat × Synonym)}
    (hLeads : Leads window synonyms best)
    {s : Synonym}
    {place : Nat}
    (hPlace :
      Text.lastOccurrence s.phrase.toList window = some place)
    (hTake :
      ∀ other t, best = some (other, t) → other < place) :
    Leads window (synonyms ++ [s]) (some (place, s)) := by
  refine ⟨synonyms, [], rfl, hPlace, ?_, by simp⟩
  intro t hMem other hOther
  cases best with
  | none =>
      rw [hLeads t hMem] at hOther
      cases hOther
  | some found =>
      rcases found with ⟨bestPlace, u⟩
      have hLess := hTake bestPlace u rfl
      rcases hLeads with
        ⟨before, after, rfl, hBest, hBefore, hAfter⟩
      rcases List.mem_append.mp hMem with hOld | hRest
      · exact (hBefore t hOld other hOther).trans hLess
      · rcases List.mem_cons.mp hRest with rfl | hNew
        · rw [hBest] at hOther
          cases hOther
          exact hLess
        · exact (hAfter t hNew other hOther).trans_lt hLess

/- Each step of the search keeps what it has found. -/
theorem leads_lastSynonym?
    (window : List Char)
    (synonyms : List Synonym) :
    Leads window synonyms (lastSynonym? window synonyms) := by
  induction synonyms using List.reverseRecOn with
  | nil =>
      intro t hMem
      cases hMem
  | append_singleton synonyms s ih =>
      unfold lastSynonym? at ih ⊢
      rw [List.foldl_append, List.foldl_cons, List.foldl_nil]
      cases hPlace :
          Text.lastOccurrence s.phrase.toList window with
      | none =>
          apply ih.pass
          · intro place t _ other hOther
            rw [hPlace] at hOther
            cases hOther
          · exact fun _ => hPlace
      | some place =>
          dsimp only
          revert ih
          generalize
            synonyms.foldl _ (none : Option (Nat × Synonym)) =
              best
          intro ih
          unfold laterPlace
          cases best with
          | none => exact ih.take hPlace (by simp)
          | some found =>
              rcases found with ⟨bestPlace, t⟩
              dsimp only
              split
              · rename_i hLess
                apply ih.take hPlace
                rintro other u ⟨⟩
                exact hLess
              · rename_i hNot
                apply ih.pass
                · rintro other u ⟨⟩ further hFurther
                  rw [hPlace] at hFurther
                  cases hFurther
                  exact not_lt.mp hNot
                · rintro ⟨⟩

end Lexicon

end Dashboard

------------------------------------------------------------
-- The Nearest Phrase
------------------------------------------------------------

namespace Dashboard

namespace Lexicon

variable {window : List Char}
variable {synonyms : List Synonym}

/-
  An entry whose phrase starts last in a window: no phrase of
  the table starts at a later byte for the last time, and
  those that are listed before it start at an earlier one.
-/
def IsNearest
    (window : List Char)
    (synonyms : List Synonym)
    (s : Synonym) : Prop :=
  ∃ before after start,
    synonyms = before ++ s :: after ∧
      Text.LastStart s.phrase.toList window start ∧
      (∀ t ∈ synonyms, ∀ other,
        Text.LastStart t.phrase.toList window other →
          other ≤ start) ∧
      ∀ t ∈ before, ∀ other,
        Text.LastStart t.phrase.toList window other →
          other < start

/- What the search finds is nearest. -/
theorem isNearest_of_leads
    {place : Nat}
    {s : Synonym}
    (hLeads : Leads window synonyms (some (place, s))) :
    IsNearest window synonyms s := by
  rcases hLeads with
    ⟨before, after, rfl, hPlace, hBefore, hAfter⟩
  rcases Text.lastStart_of_lastOccurrence hPlace with
    ⟨hInside, hStart⟩
  have hEarlier :
      ∀ t ∈ before, ∀ other,
        Text.LastStart t.phrase.toList window other →
          other < Text.byteSize (window.take place) := by
    intro t hMem other hOther
    rcases Text.lastStart_iff.mp hOther with
      ⟨further, hFurther, rfl⟩
    rw [Text.byteSize_take_lt_iff hInside]
    exact hBefore t hMem further hFurther
  refine ⟨before, after, _, rfl, hStart, ?_, hEarlier⟩
  intro t hMem other hOther
  rcases List.mem_append.mp hMem with hOld | hRest
  · exact (hEarlier t hOld other hOther).le
  · rcases List.mem_cons.mp hRest with rfl | hNew
    · exact (hOther.eq hStart).le
    · rcases Text.lastStart_iff.mp hOther with
        ⟨further, hFurther, rfl⟩
      apply Text.byteSize_le_of_prefix
      apply List.take_prefix_take_left
      exact hAfter t hNew further hFurther

/- No other entry is nearest. -/
theorem IsNearest.eq
    {s t : Synonym}
    (hFirst : IsNearest window synonyms s)
    (hSecond : IsNearest window synonyms t) :
    s = t := by
  rcases hFirst with
    ⟨before, after, start, rfl, hStart, hLatest, hEarlier⟩
  rcases hSecond with
    ⟨front, behind, other, hTable, hOther, hMost, hLess⟩
  rcases List.append_eq_append_iff.mp hTable with
    ⟨between, hFront, hRest⟩ | ⟨between, hBefore, hRest⟩
  · cases between with
    | nil => exact (List.cons.inj hRest).1
    | cons u more =>
        obtain ⟨rfl, -⟩ := List.cons.inj hRest
        have hMem : s ∈ front := by
          rw [hFront]
          simp
        have hMemSecond : t ∈ before ++ s :: after := by
          rw [hTable]
          simp
        have hBelow := hLess s hMem start hStart
        have hAbove := hLatest t hMemSecond other hOther
        omega
  · cases between with
    | nil => exact (List.cons.inj hRest).1.symm
    | cons u more =>
        obtain ⟨rfl, -⟩ := List.cons.inj hRest
        have hMem : t ∈ before := by
          rw [hBefore]
          simp
        have hMemFirst : s ∈ before ++ s :: after := by
          simp
        have hBelow := hEarlier t hMem other hOther
        have hAbove := hMost s hMemFirst start hStart
        omega

/- Of a table only an entry can be nearest. -/
theorem IsNearest.mem
    {s : Synonym}
    (hNearest : IsNearest window synonyms s) :
    s ∈ synonyms := by
  rcases hNearest with ⟨before, after, _, rfl, _⟩
  simp

theorem IsNearest.isInfix
    {s : Synonym}
    (hNearest : IsNearest window synonyms s) :
    s.phrase.toList <:+: window := by
  rcases hNearest with ⟨_, _, _, _, hStart, _⟩
  rcases hStart.stands with ⟨front, behind, hText, _⟩
  exact ⟨front, behind, hText.symm⟩

theorem lastSynonym?_eq_none_iff :
    lastSynonym? window synonyms = none ↔
      ∀ s ∈ synonyms, ¬ s.phrase.toList <:+: window := by
  have hLeads := leads_lastSynonym? window synonyms
  constructor
  · intro hNone s hMem
    rw [hNone] at hLeads
    exact
      (Text.lastOccurrence_eq_none_iff _ _).mp (hLeads s hMem)
  · intro hAbsent
    cases hLast : lastSynonym? window synonyms with
    | none => rfl
    | some found =>
        rw [hLast] at hLeads
        rcases hLeads with
          ⟨before, after, hTable, hPlace, _, _⟩
        have hMem : found.2 ∈ synonyms := by
          rw [hTable]
          simp
        have hNone :=
          (Text.lastOccurrence_eq_none_iff _ _).mpr
            (hAbsent found.2 hMem)
        rw [hNone] at hPlace
        cases hPlace

theorem nearestSynonym?_eq_none_iff
    {lexicon : Lexicon}
    {head : List Char} :
    lexicon.nearestSynonym? head = none ↔
      ∀ s ∈ lexicon.synonyms,
        ¬ s.phrase.toList <:+: windowOf head := by
  unfold nearestSynonym?
  rw [Option.map_eq_none_iff]
  exact lastSynonym?_eq_none_iff

theorem map_lastSynonym?_eq_some_iff
    {s : Synonym} :
    (lastSynonym? window synonyms).map Prod.snd = some s ↔
      IsNearest window synonyms s := by
  have hLeads := leads_lastSynonym? window synonyms
  constructor
  · intro hSome
    rcases Option.map_eq_some_iff.mp hSome with
      ⟨⟨place, t⟩, hLast, rfl⟩
    rw [hLast] at hLeads
    exact isNearest_of_leads hLeads
  · intro hNearest
    cases hLast : lastSynonym? window synonyms with
    | none =>
        exact
          absurd hNearest.isInfix
            (lastSynonym?_eq_none_iff.mp hLast s hNearest.mem)
    | some found =>
        rw [hLast] at hLeads
        rw [Option.map_some,
          (isNearest_of_leads hLeads).eq hNearest]

/- What leads in the last part of a text leads in all of it. -/
theorem Leads.append
    {tail : List Char}
    {place : Nat}
    {s : Synonym}
    (hLeads : Leads tail synonyms (some (place, s)))
    (head : List Char) :
    Leads (head ++ tail) synonyms
      (some (head.length + place, s)) := by
  rcases hLeads with
    ⟨before, after, hTable, hPlace, hBefore, hAfter⟩
  have hShift :
      ∀ t other,
        Text.lastOccurrence t (head ++ tail) = some other →
          other < head.length ∨
            ∃ further,
              Text.lastOccurrence t tail = some further ∧
                other = head.length + further := by
    intro t other hOther
    cases hTail : Text.lastOccurrence t tail with
    | none =>
        exact
          .inl
            (Text.lt_length_of_lastOccurrence_append hTail
              hOther)
    | some further =>
        rw [Text.lastOccurrence_append hTail] at hOther
        cases hOther
        exact .inr ⟨further, rfl, rfl⟩
  refine
    ⟨before, after, hTable,
      Text.lastOccurrence_append hPlace head, ?_, ?_⟩
  · intro t hMem other hOther
    rcases hShift _ other hOther with
      hFront | ⟨further, hFurther, rfl⟩
    · exact Nat.lt_add_right place hFront
    · exact
        Nat.add_lt_add_left (hBefore t hMem further hFurther)
          _
  · intro t hMem other hOther
    rcases hShift _ other hOther with
      hFront | ⟨further, hFurther, rfl⟩
    · exact (Nat.lt_add_right place hFront).le
    · exact
        Nat.add_le_add_left (hAfter t hMem further hFurther)
          _

/- A phrase in the last characters hides what is before. -/
theorem nearestSynonym?_append
    {lexicon : Lexicon}
    {tail : List Char}
    (hShort : tail.length ≤ windowSize)
    {s : Synonym}
    (hNearest : lexicon.nearestSynonym? tail = some s)
    (head : List Char) :
    lexicon.nearestSynonym? (head ++ tail) = some s := by
  have hTail : windowOf tail = tail := by
    rw [windowOf, Nat.sub_eq_zero_of_le hShort, List.drop_zero]
  have hHead :
      windowOf (head ++ tail) =
        head.drop (head.length + tail.length - windowSize) ++
          tail := by
    rw [windowOf, List.length_append,
      List.drop_append_of_le_length (by omega)]
  unfold nearestSynonym? at hNearest ⊢
  rw [hTail] at hNearest
  rcases Option.map_eq_some_iff.mp hNearest with
    ⟨⟨place, t⟩, hLast, rfl⟩
  have hLeads := leads_lastSynonym? tail lexicon.synonyms
  rw [hLast] at hLeads
  rw [hHead, map_lastSynonym?_eq_some_iff]
  exact isNearest_of_leads (hLeads.append _)

/-
  The nearest phrase to the end of a text is looked for in a
  window of its last fifty characters, or in all of it if it
  is shorter.  The window is cut out between two characters.
  Nothing is found exactly if no phrase stands in it, and
  otherwise the entry that is nearest in it.  Whatever is put
  in front of a full window makes no difference.
-/
theorem nearestSynonym?_iff_isNearest
    (lexicon : Lexicon)
    (head : List Char) :
    (windowOf head <:+ head ∧
        (windowOf head).length = min 50 head.length) ∧
      (∃ front,
        ∃ start : (String.ofList head).Pos,
          start.offset.byteIdx = windowStart head ∧
            start.Splits (String.ofList front)
              (String.ofList (windowOf head))) ∧
      (lexicon.nearestSynonym? head = none ↔
        ∀ s ∈ lexicon.synonyms,
          ¬ s.phrase.toList <:+: windowOf head) ∧
      (∀ s,
        lexicon.nearestSynonym? head = some s ↔
          IsNearest (windowOf head) lexicon.synonyms s) ∧
      (50 ≤ head.length →
        ∀ more,
          lexicon.nearestSynonym? (more ++ head) =
            lexicon.nearestSynonym? head) := by
  refine
    ⟨⟨windowOf_isSuffix head, length_windowOf head⟩,
      exists_splits_windowOf head,
      nearestSynonym?_eq_none_iff,
      fun s => map_lastSynonym?_eq_some_iff, ?_⟩
  intro hLong more
  unfold nearestSynonym?
  rw [windowOf_append hLong]

/- Fifty characters, most of which have two bytes. -/
def sampleHead : List Char :=
  "price".toList ++ List.replicate 45 'é'

/- A window is full with fifty characters, not bytes. -/
theorem nearestSynonym?_iff_isNearest_accents :
    50 ≤ sampleHead.length ∧
      windowStart ('é' :: sampleHead) = 2 ∧
      standard.nearestSynonym?
          ("stock é".toList ++ sampleHead) =
        standard.nearestSynonym? sampleHead ∧
      (standard.nearestSynonym? sampleHead).map
          Synonym.field =
        some "price" :=
  ⟨by decide, by decide,
    (nearestSynonym?_iff_isNearest standard
      sampleHead).2.2.2.2 (by decide) _,
    by decide⟩

end Lexicon

end Dashboard
