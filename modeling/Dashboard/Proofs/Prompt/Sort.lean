import Dashboard.Proofs.Pattern.Search
import Dashboard.Proofs.Text.Lowercase
import Dashboard.Proofs.Text.Search
import Dashboard.Prompt.Criteria

/-
  Prompts with an explicit clause for the sort, such as
  `sorted by price asc`.  The clause is looked for before
  every other phrase for a sort, and the first one in the
  prompt is found, so it decides the sort whatever stands
  around it.

  Key definitions include:
    * `Sorting.keyChars`
    * `Sorting.clauseText`

  Main declarations:
    * `Sorting.exists_find_clause`
    * `Prompt.sort?_of_clause`
-/

------------------------------------------------------------
-- The Clause
------------------------------------------------------------

namespace Dashboard

namespace Sorting

open Pattern

/- The small letters, the digits and the underscore. -/
def keyChars : List Char :=
  "abcdefghijklmnopqrstuvwxyz0123456789_".toList

theorem keyChars_all :
    keyChars.all
        (fun c =>
          Text.isNameChar c && !Text.isBlank c &&
            Text.isLower c) =
      true := by
  decide

theorem isNameChar_of_mem_keyChars
    {c : Char}
    (hMem : c ∈ keyChars) :
    Text.isNameChar c = true := by
  have hAll := List.all_eq_true.mp keyChars_all c hMem
  rw [Bool.and_eq_true, Bool.and_eq_true] at hAll
  exact hAll.1.1

theorem isBlank_of_mem_keyChars
    {c : Char}
    (hMem : c ∈ keyChars) :
    Text.isBlank c = false := by
  have hAll := List.all_eq_true.mp keyChars_all c hMem
  rw [Bool.and_eq_true, Bool.and_eq_true] at hAll
  simpa using hAll.1.2

theorem isLower_of_mem_keyChars
    {c : Char}
    (hMem : c ∈ keyChars) :
    Text.isLower c = true := by
  have hAll := List.all_eq_true.mp keyChars_all c hMem
  rw [Bool.and_eq_true] at hAll
  exact hAll.2

/- The two forms of the verb. -/
def verbs : List String :=
  ["sorted", "sort"]

/- The words for the two directions. -/
def directionNames : List String :=
  ["asc", "ascending", "desc", "descending"]

/- A clause with a verb, a word and a direction. -/
def clauseText (verb word direction : String) : String :=
  verb ++ " by " ++ word ++ " " ++ direction

variable {verb direction : String}
variable {word : List Char}

/- The start of the name of a direction says which it is. -/
theorem exists_follow_direction
    {α : Type}
    (hDirection : direction ∈ directionNames)
    (before rest : List Char)
    (groups : List Span)
    (result : Place → List Span → α) :
    ∃ taken stop,
      Span.text ⟨⟨before, direction.toList ++ rest⟩, stop⟩ =
          taken ∧
        Direction.ofWord taken =
          Direction.ofWord direction.toList ∧
        (Pattern.optional (group directionWord)).follow
            ⟨before, direction.toList ++ rest⟩ groups
            (fun stop found => some (result stop found)) =
          some
            (result stop
              (groups ++
                [⟨⟨before, direction.toList ++ rest⟩,
                  stop⟩])) := by
  simp only [directionNames, List.mem_cons, List.not_mem_nil,
    or_false] at hDirection
  rcases hDirection with rfl | rfl | rfl | rfl
  · exact
      ⟨_, ⟨"asc".toList.reverse ++ before, rest⟩,
        Span.text_of_taken _ _ _ _, rfl, rfl⟩
  · exact
      ⟨_, ⟨"asc".toList.reverse ++ before,
          "ending".toList ++ rest⟩,
        Span.text_of_taken _ _ _ _, rfl, rfl⟩
  · exact
      ⟨_, ⟨"desc".toList.reverse ++ before, rest⟩,
        Span.text_of_taken _ _ _ _, rfl, rfl⟩
  · exact
      ⟨_, ⟨"desc".toList.reverse ++ before,
          "ending".toList ++ rest⟩,
        Span.text_of_taken _ _ _ _, rfl, rfl⟩

/- No blank stands in front of a direction. -/
theorem not_isBlank_of_head_direction
    (hDirection : direction ∈ directionNames)
    (rest : List Char) :
    ∀ c ∈ (direction.toList ++ rest).head?,
      Text.isBlank c = false := by
  simp only [directionNames, List.mem_cons, List.not_mem_nil,
    or_false] at hDirection
  rcases hDirection with rfl | rfl | rfl | rfl
  all_goals
    rintro c ⟨⟩
    rfl

/- What the clause goes on with after its verb. -/
def clauseRest : Pattern :=
  sequence
    [blanks, text "by", blanks, Sorting.word, spacing,
      Pattern.optional (group directionWord)]

/-
  After the verb, the clause takes the word whole, because a
  blank ends it, and then the start of the direction.
-/
theorem exists_follow_clauseRest
    (hSome : word ≠ [])
    (hWord : ∀ c ∈ word, c ∈ keyChars)
    (hDirection : direction ∈ directionNames)
    (start : Place)
    (before rest : List Char) :
    ∃ found : Match,
      clauseRest.follow
          ⟨before,
            ' ' :: ("by".toList ++
              ' ' :: (word ++
                ' ' :: (direction.toList ++ rest)))⟩
          []
          (fun stop groups => some ⟨⟨start, stop⟩, groups⟩) =
        some found ∧
        found.group? 0 = some word ∧
        ∃ name,
          found.group? 1 = some name ∧
            Direction.ofWord name =
              Direction.ofWord direction.toList := by
  have hName :
      ∀ c ∈ word, Text.isNameChar c = true := fun c hMem =>
    isNameChar_of_mem_keyChars (hWord c hMem)
  let behind := ' ' :: ("by".toList.reverse ++ ' ' :: before)
  let later := ' ' :: (direction.toList ++ rest)
  let span : Span :=
    ⟨⟨behind, word ++ later⟩,
      ⟨word.reverse ++ behind, later⟩⟩
  rcases exists_follow_direction hDirection
      (' ' :: (word.reverse ++ behind)) rest [span]
      (fun stop groups => Match.mk ⟨start, stop⟩ groups) with
    ⟨name, stop, hText, hOfWord, hFollow⟩
  refine
    ⟨⟨⟨start, stop⟩,
        [span,
          ⟨⟨' ' :: (word.reverse ++ behind),
              direction.toList ++ rest⟩,
            stop⟩]⟩,
      ?_, congrArg some (Span.text_of_taken _ _ _ _), name,
      congrArg some hText, hOfWord⟩
  simp only [clauseRest, Pattern.sequence, List.foldr_cons,
    List.foldr_nil, follow_both]
  apply follow_blanks (by rintro c ⟨⟩; rfl)
  rw [follow_text]
  apply follow_blanks
  · intro c hHead
    rw [List.head?_append_of_ne_nil _ hSome] at hHead
    exact
      isBlank_of_mem_keyChars
        (hWord c (List.mem_of_mem_head? hHead))
  unfold Sorting.word
  rw [follow_group]
  apply follow_some1 hSome hName (by rintro c ⟨⟩; rfl)
  apply
    follow_spacing (not_isBlank_of_head_direction hDirection _)
  exact hFollow

/- The verb of a clause is taken with or without its end. -/
theorem follow_verb
    {α : Type}
    (hVerb : verb ∈ verbs)
    {before rest : List Char}
    {next : Place → List Span → Option α}
    {result : α}
    (hNext :
      clauseRest.follow
          ⟨verb.toList.reverse ++ before, ' ' :: rest⟩ []
          next =
        some result) :
    (clause "sort").follow
        ⟨before, verb.toList ++ ' ' :: rest⟩ [] next =
      some result := by
  have hClause :
      clause "sort" =
        both (text "sort")
          (both (Pattern.optional (text "ed")) clauseRest) :=
    rfl
  simp only [verbs, List.mem_cons, List.not_mem_nil,
    or_false] at hVerb
  rw [hClause, follow_both]
  rcases hVerb with rfl | rfl
  · have hVerb :
        "sorted".toList = "sort".toList ++ "ed".toList := rfl
    have hBefore :
        "sorted".toList.reverse ++ before =
          "ed".toList.reverse ++
            ("sort".toList.reverse ++ before) :=
      rfl
    rw [hBefore] at hNext
    rw [hVerb, List.append_assoc, follow_text, follow_both,
      Pattern.optional, follow_either, follow_text, hNext]
    rfl
  · have hAbsent :
        (text "ed").follow
            ⟨"sort".toList.reverse ++ before, ' ' :: rest⟩ []
            (fun stop found =>
              clauseRest.follow stop found next) =
          none :=
      rfl
    rw [follow_text, follow_both, Pattern.optional,
      follow_either, hAbsent, Option.none_or]
    exact hNext

end Sorting

end Dashboard

------------------------------------------------------------
-- The Sort Of A Prompt
------------------------------------------------------------

namespace Dashboard

namespace Sorting

open Pattern

variable {verb word direction : String}

theorem clause_splits :
    (clause "sort").Splits (text "sort")
      (both (Pattern.optional (text "ed")) clauseRest) :=
  fun _ _ _ => rfl

/- The words of a clause are in lowercase. -/
theorem isLower_of_mem_clauseText
    (hVerb : verb ∈ verbs)
    (hWord : ∀ c ∈ word.toList, c ∈ keyChars)
    (hDirection : direction ∈ directionNames) :
    ∀ c ∈ (clauseText verb word direction).toList,
      Text.isLower c = true := by
  have hVerbs :
      ∀ verb ∈ verbs, (verb.toList.all Text.isLower) = true := by
    decide
  have hDirections :
      ∀ direction ∈ directionNames,
        (direction.toList.all Text.isLower) = true := by
    decide
  have hBy : ∀ c ∈ " by ".toList, Text.isLower c = true :=
    List.all_eq_true.mp rfl
  have hBlank : ∀ c ∈ " ".toList, Text.isLower c = true :=
    List.all_eq_true.mp rfl
  simp only [clauseText, String.toList_append,
    List.forall_mem_append]
  exact
    ⟨⟨⟨⟨List.all_eq_true.mp (hVerbs verb hVerb), hBy⟩,
          fun c hMem => isLower_of_mem_keyChars (hWord c hMem)⟩,
        hBlank⟩,
      List.all_eq_true.mp (hDirections direction hDirection)⟩

/- The clause stands in the prompt as it is written. -/
theorem exists_text_ofString
    (hVerb : verb ∈ verbs)
    (hWord : ∀ c ∈ word.toList, c ∈ keyChars)
    (hDirection : direction ∈ directionNames)
    (before after : String) :
    ∃ rest,
      (Prompt.ofString
          (before ++ " " ++ clauseText verb word direction ++
            " " ++ after)).text =
        Text.lowercase before.toList ++
          ' ' :: ((clauseText verb word direction).toList ++
            ' ' :: rest) := by
  let clause := (clauseText verb word direction).toList
  refine
    ⟨Text.lowercaseAfter
        (' ' ::
          (clause.reverse ++ ' ' :: (before.toList.reverse ++ [])))
        after.toList,
      ?_⟩
  have hWritten :
      (before ++ " " ++ clauseText verb word direction ++
            " " ++ after).toList =
        before.toList ++
          ' ' :: (clause ++ ' ' :: after.toList) := by
    simp [clause]
  rw [Prompt.ofString, hWritten]
  unfold Text.lowercase
  rw [Text.lowercaseAfter_append_blank,
    Text.lowercaseAfter_append_blank,
    Text.lowercaseAfter_of_isLower
      (isLower_of_mem_clauseText hVerb hWord hDirection)]

/-
  The clause is found where it stands, as the first clause
  for a sort in the prompt.
-/
theorem exists_find_clause
    (hVerb : verb ∈ verbs)
    (hSome : word ≠ "")
    (hWord : ∀ c ∈ word.toList, c ∈ keyChars)
    (hDirection : direction ∈ directionNames)
    {before : List Char}
    (hBefore : ¬ "sort".toList <:+: before)
    (rest : List Char) :
    ∃ found,
      (clause "sort").find
          (before ++
            ' ' :: ((clauseText verb word direction).toList ++
              ' ' :: rest)) =
        some found ∧
        found.group? 0 = some word.toList ∧
        ∃ name,
          found.group? 1 = some name ∧
            Direction.ofWord name =
              Direction.ofWord direction.toList := by
  have hClause :
      (clauseText verb word direction).toList ++ ' ' :: rest =
        verb.toList ++
          ' ' :: ("by".toList ++
            ' ' :: (word.toList ++
              ' ' :: (direction.toList ++ ' ' :: rest))) := by
    simp [clauseText]
  have hChars : word.toList ≠ [] := by
    simpa using hSome
  let behind := ' ' :: (before.reverse ++ [])
  let after :=
    verb.toList ++
      ' ' :: ("by".toList ++
        ' ' :: (word.toList ++
          ' ' :: (direction.toList ++ ' ' :: rest)))
  rcases exists_follow_clauseRest hChars hWord hDirection
      ⟨behind, after⟩ (verb.toList.reverse ++ behind)
      (' ' :: rest) with
    ⟨found, hFollow, hFound⟩
  have hHere :
      (clause "sort").matchAt ⟨behind, after⟩ = some found :=
    follow_verb hVerb hFollow
  refine ⟨found, ?_, hFound⟩
  rw [find,
    findAfter_append_cons clause_splits rfl rfl
      (absentFrom_text hBefore),
    hClause]
  exact findAfter_of_matchAt hHere

/- The field of a word is that of its first entry. -/
theorem fieldOf_toList (lexicon : Lexicon) (word : String) :
    fieldOf lexicon word.toList =
      ((lexicon.synonymFor? word).map Synonym.field).getD
        word := by
  rw [fieldOf, String.ofList_toList]
  cases lexicon.synonymFor? word with
  | none => rfl
  | some synonym => rfl

theorem ofWord_of_mem_directionNames
    (hDirection : direction ∈ directionNames) :
    Direction.ofWord direction.toList =
      if "asc".toList <+: direction.toList then
        .asc
      else
        .desc := by
  have hAll :
      ∀ direction ∈ directionNames,
        Direction.ofWord direction.toList =
          if "asc".toList <+: direction.toList then
            .asc
          else
            .desc := by
    decide
  exact hAll direction hDirection

end Sorting

/-
  A clause for the sort decides it.  What stands before the
  clause must not hold another one; any other phrase for a
  sort may stand before it, and anything after it.
-/
theorem Prompt.sort?_of_clause
    (lexicon : Lexicon)
    (before after verb word direction : String)
    (hBefore :
      ¬ "sort".toList <:+: (Text.lower before).toList)
    (hVerb : verb ∈ Sorting.verbs)
    (hSome : word ≠ "")
    (hWord : ∀ c ∈ word.toList, c ∈ Sorting.keyChars)
    (hDirection : direction ∈ Sorting.directionNames) :
    (Prompt.ofString
        (before ++ " " ++
          Sorting.clauseText verb word direction ++ " " ++
          after)).sort? lexicon =
      some
        ⟨((lexicon.synonymFor? word).map Synonym.field).getD
            word,
          if "asc".toList <+: direction.toList then
            .asc
          else
            .desc⟩ := by
  rcases Sorting.exists_text_ofString hVerb hWord hDirection
      before after with
    ⟨rest, hText⟩
  have hHead :
      ¬ "sort".toList <:+: Text.lowercase before.toList := by
    simpa [Text.lower] using hBefore
  rcases Sorting.exists_find_clause hVerb hSome hWord
      hDirection hHead rest with
    ⟨found, hFind, hField, name, hName, hOfWord⟩
  have hSort :
      Sorting.sortIn? lexicon
          (Prompt.ofString
            (before ++ " " ++
              Sorting.clauseText verb word direction ++ " " ++
              after)).text
          (Sorting.clause "sort", none) =
        some
          ⟨Sorting.fieldOf lexicon word.toList,
            Sorting.directionOf found⟩ := by
    rw [Sorting.sortIn?, hText, hFind]
    simp [hField]
  rw [Prompt.sort?, Sorting.patterns, List.findSome?_cons,
    hSort, Sorting.fieldOf_toList, Sorting.directionOf, hName]
  dsimp only
  rw [hOfWord, Sorting.ofWord_of_mem_directionNames hDirection]

/- Two other phrases for a sort stand around the clause. -/
theorem Prompt.sort?_of_clause_highest_top :
    (Prompt.ofString
        ("highest profit" ++ " " ++
          Sorting.clauseText "sorted" "month" "asc" ++ " " ++
          "top 5 rows")).sort? .standard =
      some ⟨"month", .asc⟩ := by
  have hBefore :
      ¬ "sort".toList <:+:
          (Text.lower "highest profit").toList := by
    rw [Text.lower,
      Text.lowercase_of_isLower (List.all_eq_true.mp rfl),
      String.ofList_toList, ← Text.occurs_iff_isInfix]
    decide
  have hKeys :
      ("month".toList.all Sorting.keyChars.contains) = true := by
    decide
  have hWord : ∀ c ∈ "month".toList, c ∈ Sorting.keyChars := by
    intro c hMem
    simpa using List.all_eq_true.mp hKeys c hMem
  have hSort :=
    Prompt.sort?_of_clause .standard "highest profit"
      "top 5 rows" "sorted" "month" "asc"
      hBefore (by decide) (by decide) hWord (by decide)
  have hSynonym :
      ((Lexicon.standard.synonymFor? "month").map
          Synonym.field).getD "month" =
        "month" := by
    decide
  rw [hSort, hSynonym]
  rfl

end Dashboard
