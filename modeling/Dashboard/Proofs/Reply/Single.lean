import Dashboard.Proofs.Reply.Object
import Dashboard.Reply.Reader

/-
  Replies with a single object, read in both ways.  When the
  text from the first opening to the last closing brace is a
  JSON value, counting braces finds exactly that text, so both
  ways of reading agree.

  Main declarations:
    * `Reply.wholeSpan?_eq_some_iff`
    * `Reply.objects_eq_singleton`
    * `Reply.readMulti_of_readSingle`
-/

------------------------------------------------------------
-- The Whole Span
------------------------------------------------------------

namespace Dashboard.Reply

/- What stands before the first brace is dropped. -/
theorem dropWhile_ne_append
    {brace : Char}
    {lead : List Char}
    (hLead : brace ∉ lead)
    (rest : List Char) :
    (lead ++ brace :: rest).dropWhile (· != brace) =
      brace :: rest := by
  have hAll : ∀ c ∈ lead, (c != brace) = true := by
    intro c hMem
    rw [bne_iff_ne]
    rintro rfl
    exact hLead hMem
  rw [List.dropWhile_append_of_pos hAll]
  simp

/- A text either has a brace or is dropped as a whole. -/
theorem dropWhile_ne_cases
    (brace : Char)
    (text : List Char) :
    text.dropWhile (· != brace) = [] ∨
      ∃ lead rest,
        text = lead ++ brace :: rest ∧ brace ∉ lead ∧
          text.dropWhile (· != brace) = brace :: rest := by
  by_cases hMem : brace ∈ text
  · right
    rcases List.eq_append_cons_of_mem hMem with
      ⟨lead, rest, rfl, hLead⟩
    exact
      ⟨lead, rest, rfl, hLead, dropWhile_ne_append hLead rest⟩
  · left
    rw [List.dropWhile_eq_nil_iff]
    intro c hChar
    rw [bne_iff_ne]
    rintro rfl
    exact hMem hChar

/-
  The whole span begins with the first opening brace of a
  text and ends with the last closing one.
-/
theorem wholeSpan?_eq_some_iff
    (text span : List Char) :
    wholeSpan? text = some span ↔
      ∃ lead inner tail,
        span = openBrace :: (inner ++ [closeBrace]) ∧
          text = lead ++ (span ++ tail) ∧
            openBrace ∉ lead ∧ closeBrace ∉ tail := by
  unfold wholeSpan?
  constructor
  · intro hSpan
    rcases dropWhile_ne_cases openBrace text with
      hNone | ⟨lead, rest, rfl, hLead, hRest⟩
    · rw [hNone] at hSpan
      cases hSpan
    · rw [hRest] at hSpan
      rcases dropWhile_ne_cases closeBrace
          (openBrace :: rest).reverse with
        hNone | ⟨tail, inner, hText, hTail, hInner⟩
      · rw [hNone] at hSpan
        cases hSpan
      · rw [hInner, List.reverse_cons] at hSpan
        rw [List.reverse_eq_iff, List.reverse_append,
          List.reverse_cons, List.append_assoc] at hText
        cases hFirst : inner.reverse with
        | nil =>
            rw [hFirst] at hText
            cases hText
        | cons c more =>
            rw [hFirst] at hText hSpan
            cases hText
            refine
              ⟨lead, more, tail.reverse, ?_, ?_, hLead, ?_⟩
            · exact (Option.some.inj hSpan).symm
            · cases hSpan
              simp
            · rwa [List.mem_reverse]
  · rintro ⟨lead, inner, tail, rfl, rfl, hLead, hTail⟩
    have hReverse : closeBrace ∉ tail.reverse := by
      rwa [List.mem_reverse]
    have hOpened :
        openBrace :: (inner ++ [closeBrace]) ++ tail =
          openBrace :: (inner ++ closeBrace :: tail) := by
      simp
    have hClosed :
        (openBrace :: (inner ++ closeBrace :: tail)).reverse =
          tail.reverse ++
            closeBrace :: (openBrace :: inner).reverse := by
      simp
    rw [hOpened, dropWhile_ne_append hLead, hClosed,
      dropWhile_ne_append hReverse]
    simp

end Dashboard.Reply

------------------------------------------------------------
-- Around The Object
------------------------------------------------------------

namespace Dashboard.Reply

namespace Scan

/- Only a closing brace completes an object. -/
theorem step_of_ne_closeBrace
    {c : Char}
    (hClose : c ≠ closeBrace)
    (scan : Scan) :
    (scan.step c).2 = none := by
  cases scan with
  | outside =>
      rw [step]
      split
      · rfl
      · rfl
  | inside taken depth quoting =>
      cases quoting with
      | none =>
          simp only [step, if_neg hClose]
          split
          · rfl
          · split
            · rfl
            · rfl
      | string => rfl
      | escape => rfl

/- Without a closing brace no object is completed. -/
theorem run_of_not_mem_closeBrace
    {text : List Char}
    (hText : closeBrace ∉ text)
    (scan : Scan) :
    (scan.run text).1 = [] := by
  induction text generalizing scan with
  | nil => rfl
  | cons c rest ih =>
      rw [List.mem_cons, not_or] at hText
      rw [run_cons, step_of_ne_closeBrace (Ne.symm hText.1),
        ih hText.2]
      rfl

end Scan

/-
  One object is all that a text has, if it opens none before
  it and closes none behind it.
-/
theorem objects_append_append
    {lead object tail : List Char}
    (hLead : openBrace ∉ lead)
    (hObject :
      Scan.outside.run object = ([object], .outside))
    (hTail : closeBrace ∉ tail) :
    objects (lead ++ (object ++ tail)) = [object] := by
  have hLeadRun := Scan.run_outside_of_not_mem hLead
  unfold objects
  rw [Scan.run_append, hLeadRun, Scan.run_append, hObject,
    Scan.run_of_not_mem_closeBrace hTail]
  rfl

end Dashboard.Reply

------------------------------------------------------------
-- The Object
------------------------------------------------------------

namespace Dashboard

namespace RawJson

/- A whole value that ends with a brace leaves no rest. -/
theorem scan_of_read?
    {text inner : List Char}
    {raw : RawJson}
    (hText : text = inner ++ [Reply.closeBrace])
    (hRead : read? text = some raw) :
    scan text = some (raw, []) := by
  unfold read? at hRead
  split at hRead
  · cases hRead
  · rename_i value rest hScan
    split at hRead
    · rename_i hSpaces
      cases hRead
      rw [hScan]
      rcases (readersPass _).value text raw rest hScan with
        ⟨taken, hTaken, _⟩
      rw [List.isEmpty_iff, skip, List.dropWhile_eq_nil_iff]
        at hSpaces
      rcases List.eq_nil_or_concat' rest with
        rfl | ⟨before, last, rfl⟩
      · rfl
      · rw [hText, ← List.append_assoc] at hTaken
        have hLast : [Reply.closeBrace] = [last] :=
          (List.append_inj' hTaken rfl).2
        have hSpace := hSpaces last (by simp)
        cases hLast
        cases hSpace
    · cases hRead

end RawJson

namespace Reply

/-
  A text in braces that is a JSON value is exactly one object
  of the scan.
-/
theorem run_outside_of_parse?
    {inner : List Char}
    {json : Json}
    (hParse :
      Json.parse?
          (String.ofList
            (openBrace :: (inner ++ [closeBrace]))) =
        some json) :
    Scan.outside.run (openBrace :: (inner ++ [closeBrace])) =
      ([openBrace :: (inner ++ [closeBrace])], .outside) := by
  unfold Json.parse? at hParse
  rw [String.toList_ofList] at hParse
  split at hParse
  · cases hParse
  · rename_i raw hRead
    exact
      run_outside_of_scanValue
        (RawJson.scan_of_read? List.cons_append.symm hRead)

/-
  When the whole span is a JSON value, it is the only object
  of the text.
-/
theorem objects_eq_singleton
    {text span : List Char}
    {json : Json}
    (hSpan : wholeSpan? text = some span)
    (hParse : Json.parse? (String.ofList span) = some json) :
    objects text = [span] := by
  rcases (wholeSpan?_eq_some_iff text span).mp hSpan with
    ⟨lead, inner, tail, rfl, rfl, hLead, hTail⟩
  exact
    objects_append_append hLead (run_outside_of_parse? hParse)
      hTail

end Reply

end Dashboard

------------------------------------------------------------
-- Both Ways Of Reading
------------------------------------------------------------

namespace Dashboard

namespace Reply

/- A single candidate gives what it gives on its own. -/
theorem readMulti_of_objects_eq_singleton
    {text : String}
    {span : List Char}
    (hObjects : objects text.toList = [span]) :
    readMulti text = (readObject span).map fun i => [i] := by
  unfold readMulti
  rw [hObjects]
  dsimp only
  rw [List.map_singleton]
  cases readObject span with
  | ok i => rfl
  | error e =>
      have hError : lastError [.error e] = e := by
        cases e
        all_goals rfl
      exact congrArg Except.error hError

/- What is not reported as invalid JSON is JSON. -/
theorem exists_parse?_of_readObject
    {span : List Char}
    (hRead :
      readObject span ≠
        .error (.invalidJson (String.ofList span))) :
    ∃ json, Json.parse? (String.ofList span) = some json := by
  unfold readObject at hRead
  split at hRead
  · exact absurd rfl hRead
  · rename_i json hParse
    exact ⟨json, hParse⟩

/-
  A reply whose whole span is JSON is read alike in both
  ways, one by one or as a list.
-/
theorem readMulti_eq_map_readSingle
    {text : String}
    (hSpan : readSingle text ≠ .error .noJson)
    (hJson :
      ∀ object,
        readSingle text ≠ .error (.invalidJson object)) :
    readMulti text = (readSingle text).map fun i => [i] := by
  unfold readSingle at hSpan hJson ⊢
  split at hSpan
  · exact absurd rfl hSpan
  · rename_i span hWhole
    simp only [hWhole] at hJson ⊢
    rcases exists_parse?_of_readObject (hJson _) with
      ⟨json, hParse⟩
    exact
      readMulti_of_objects_eq_singleton
        (objects_eq_singleton hWhole hParse)

/-
  What is read out of a reply with a single object is read
  out of it with several as well: the interpretation, or what
  is wrong with the shape of the object.  For whenever the
  text between the outermost braces is JSON, it is the only
  object that counting braces finds.
-/
theorem readMulti_of_readSingle (text : String) :
    (∀ i, readSingle text = .ok i →
      readMulti text = .ok [i]) ∧
      (∀ issues,
        readSingle text = .error (.mismatch issues) →
          readMulti text = .error (.mismatch issues)) ∧
        ∀ span json,
          wholeSpan? text.toList = some span →
            Json.parse? (String.ofList span) = some json →
              objects text.toList = [span] := by
  refine ⟨?_, ?_, ?_⟩
  · intro i hRead
    rw [readMulti_eq_map_readSingle (by simp [hRead])
      (by simp [hRead]), hRead]
    rfl
  · intro issues hRead
    rw [readMulti_eq_map_readSingle (by simp [hRead])
      (by simp [hRead]), hRead]
    rfl
  · intro span json hSpan hParse
    exact objects_eq_singleton hSpan hParse

/- Some JSON members among braces that belong to no object. -/
def surrounded (members : String) : String :=
  "Sure \x7d: \x7b" ++ members ++ "\x7d and \x7b more \x7b"

/- A card whose title and description hold braces. -/
def bracedCard : Interpretation :=
  ⟨.card, .users, none, none, none, none, "\x7b\"", "\x7d"⟩

/- The members that the card is written with. -/
def bracedMembers : String :=
  "\"componentType\":\"card\",\"datasetType\":\"users\"," ++
    "\"title\":\"\x7b\\\"\",\"description\":\"\x7d\""

/- The card is read in both ways, and so is what it lacks. -/
theorem readMulti_of_readSingle_card :
    (readSingle (surrounded bracedMembers) =
          .ok bracedCard ∧
        readMulti (surrounded bracedMembers) =
          .ok [bracedCard]) ∧
      ∃ issues,
        readSingle (surrounded "\"a\":\"\x7d\"") =
            .error (.mismatch issues) ∧
          readMulti (surrounded "\"a\":\"\x7d\"") =
            .error (.mismatch issues) := by
  have hCard :
      readSingle (surrounded bracedMembers) =
        .ok bracedCard := by
    decide +kernel
  have hOther :
      readSingle (surrounded "\"a\":\"\x7d\"") =
        .error
          (.mismatch
            ["\"componentType\" is a required property",
              "\"datasetType\" is a required property",
              "\"title\" is a required property",
              "\"description\" is a required property"]) := by
    decide +kernel
  exact
    ⟨⟨hCard, (readMulti_of_readSingle _).1 _ hCard⟩,
      _, hOther, (readMulti_of_readSingle _).2.1 _ hOther⟩

end Reply

end Dashboard
