import Dashboard.Proofs.Number.Order
import Dashboard.Proofs.Prompt.Question

/-
  The answers to questions about the numbers of products.
  The filters of a question all have to be passed, so the one
  on the word after `is` decides what is left of the answer:
  nothing after a phrase, and only whole numbers after `is`
  alone.

  Key definitions include:
    * `Question.comparison`
    * `Question.equality`

  Main declarations:
    * `Store.rows_of_comparison_question`
    * `Store.rows_of_equality_question`
-/

------------------------------------------------------------
-- Written Questions
------------------------------------------------------------

namespace Dashboard

namespace Question

open Pattern

variable {field : String}

/- A question with a phrase for a comparison. -/
def comparison
    (field : String)
    (phrase : List String)
    (n : Amount) : String :=
  "products where " ++ field ++ " is " ++
    String.intercalate " " phrase ++ " " ++ n.written

/- A question with a word for equality. -/
def equality
    (field : String)
    (word : String)
    (n : Amount) : String :=
  "products where " ++ field ++ " " ++ word ++ " " ++
    n.written

theorem toList_products :
    "products where ".toList = spaced ["products", "where"] := by
  decide

theorem toList_phrase :
    ∀ e ∈ comparisons,
      (String.intercalate " " e.2).toList ++ [' '] =
        spaced e.2 := by
  decide

theorem comparison_eq
    {e : Operator × List String}
    (hMem : e ∈ comparisons)
    (n : Amount) :
    comparison field e.2 n =
      String.ofList
        (spaced (words field ("is" :: e.2)) ++ n.text) := by
  have hIs : " is ".toList = ' ' :: spaced ["is"] := by
    decide
  have hBlank : " ".toList = [' '] := by decide
  have hWords :
      spaced (words field ("is" :: e.2)) =
        spaced ["products", "where"] ++
          (field.toList ++
            ' ' :: (spaced ["is"] ++ spaced e.2)) := by
    rw [← spaced_append, List.singleton_append,
      ← spaced_cons, ← spaced_append]
    rfl
  rw [← String.toList_inj, String.toList_ofList, hWords,
    ← toList_phrase e hMem]
  unfold comparison Amount.written
  rw [String.toList_append, String.toList_append,
    String.toList_append, String.toList_append,
    String.toList_append, toList_products, hIs, hBlank,
    String.toList_ofList]
  simp only [List.append_assoc, List.cons_append]

theorem equality_eq (word : String) (n : Amount) :
    equality field word n =
      String.ofList
        (spaced (words field [word]) ++ n.text) := by
  have hBlank : " ".toList = [' '] := by decide
  have hWords :
      spaced (words field [word]) =
        spaced ["products", "where"] ++
          (field.toList ++ ' ' :: (word.toList ++ [' '])) := by
    have hWord : word.toList ++ [' '] = spaced [word] :=
      (spaced_cons word []).symm
    rw [hWord, ← spaced_cons, ← spaced_append]
    rfl
  rw [← String.toList_inj, String.toList_ofList, hWords]
  unfold equality Amount.written
  rw [String.toList_append, String.toList_append,
    String.toList_append, String.toList_append,
    String.toList_append, toList_products, hBlank,
    String.toList_ofList]
  simp only [List.append_assoc, List.cons_append,
    List.nil_append]

/- Each field of a question holds numbers. -/
theorem exists_field :
    ∀ field ∈ fields,
      ∃ f ∈ Dataset.products.schema.fields,
        f.name = field ∧ f.kind = .number := by
  decide

/- The first words of the phrases are not numbers. -/
theorem readsAsNumber_word :
    ∀ e ∈ comparisons,
      readsAsNumber (e.2.headD "") = false ∧
        (Text.lowercase (e.2.headD "").toList).any
            (fun c => !Json.isNumberLetter c) =
          true := by
  decide

end Question

end Dashboard

------------------------------------------------------------
-- Answers
------------------------------------------------------------

namespace Dashboard

namespace Store

variable {sales users products : String}
variable {store : Store}
variable {field : String}

/- Each product has a number in the field of a question. -/
theorem Accepted.exists_question_number
    (hAccepted : store.Accepted)
    (hField : field ∈ Question.fields)
    {record : Record}
    (hMem : record ∈ store.products) :
    ∃ n, record.value? field = some (.number n) := by
  rcases Question.exists_field field hField with
    ⟨f, hSchema, rfl, hKind⟩
  have hProducts : record ∈ store.records .products := hMem
  exact
    hAccepted.exists_number hSchema hKind hProducts

theorem rows_of_question_comparison
    (hAccepted : store.Accepted)
    (hField : field ∈ Question.fields)
    (operator : Operator)
    (x : Double) :
    store.rows
        (.filtered .products
          [⟨field, operator, .number x⟩]) =
      store.products.filter fun record =>
        record.satisfies field operator x := by
  rcases Question.exists_field field hField with
    ⟨f, hSchema, rfl, hKind⟩
  exact rows_of_comparison hAccepted hSchema hKind operator x

/-
  A question with a phrase for a comparison has no answer:
  the comparison alone would select the products that satisfy
  it, but no product has the first word of the phrase as the
  text of a number.
-/
theorem rows_of_comparison_question
    (hStore : ofTexts sales users products = .ok store)
    (hField : field ∈ Question.fields)
    {e : Operator × List String}
    (hPhrase : e ∈ Question.comparisons)
    (n : Amount) :
    Query.ofInterpretation
          (Lexicon.standard.interpret
            (Question.comparison field e.2 n)) =
        .filtered .products
          [⟨field, e.1, .number n.value⟩,
            ⟨field, .eq, .text (e.2.headD "")⟩] ∧
      store.rows
          (.ofInterpretation
            (Lexicon.standard.interpret
              (Question.comparison field e.2 n))) =
        [] ∧
      store.rows
          (.filtered .products
            [⟨field, e.1, .number n.value⟩]) =
        store.products.filter fun record =>
          record.satisfies field e.1 n.value := by
  have hAccepted : store.Accepted := accepted_of_ofTexts hStore
  have hQuery :
      Query.ofInterpretation
          (Lexicon.standard.interpret
            (Question.comparison field e.2 n)) =
        .filtered .products
          [⟨field, e.1, .number n.value⟩,
            ⟨field, .eq, .text (e.2.headD "")⟩] := by
    rw [Question.comparison_eq hPhrase]
    exact Question.query_comparison hField hPhrase n
  refine
    ⟨hQuery, ?_,
      rows_of_question_comparison hAccepted hField _ _⟩
  rw [hQuery, rows_filtered, List.filter_eq_nil_iff]
  intro record hMem
  rcases hAccepted.exists_question_number hField hMem with
    ⟨m, hValue⟩
  rcases Question.readsAsNumber_word e hPhrase with
    ⟨hReads, hWord⟩
  have hOperand :
      Operand.asNumber? (.text (e.2.headD "")) = none := by
    rw [Operand.asNumber?, hReads]
    rfl
  have hNone := Filter.admits_of_word hValue hOperand hWord
  rw [List.all_cons, List.all_cons, hNone, Bool.false_and,
    Bool.and_false]
  exact Bool.false_ne_true

/- A lamp at a price of 150 and with a rating of 4.5. -/
def sampleProducts : String :=
  "[\x7b\"id\":1,\"name\":\"Lamp\",\"category\":\"home\"," ++
    "\"price\":150,\"stock\":3,\"status\":\"in_stock\"," ++
    "\"rating\":4.5,\"totalSold\":9\x7d]"

/- The amount 100. -/
def sampleAmount : Amount :=
  ⟨⟨['1', '0', '0'], by decide, List.all_eq_true.mp rfl⟩,
    none⟩

/- The lamp costs more than 100, but is not found. -/
theorem rows_of_comparison_question_lamp :
    ∃ store,
      ofTexts "[]" "[]" sampleProducts = .ok store ∧
        Question.comparison "price" ["above"] sampleAmount =
          "products where price is above 100" ∧
        store.rows
            (.ofInterpretation
              (Lexicon.standard.interpret
                (Question.comparison "price" ["above"]
                  sampleAmount))) =
          [] ∧
        (store.products.filter fun record =>
          record.satisfies "price" .gt
            sampleAmount.value).length = 1 := by
  have hFound :
      (ofTexts "[]" "[]" sampleProducts).toOption.map
          (fun store =>
            (store.products.filter fun record =>
              record.satisfies "price" .gt
                sampleAmount.value).length) =
        some 1 := by
    decide +kernel
  cases hStore : ofTexts "[]" "[]" sampleProducts with
  | error e =>
      rw [hStore] at hFound
      cases hFound
  | ok store =>
      rw [hStore] at hFound
      have hRows :=
        rows_of_comparison_question hStore
          (List.mem_cons_self : "price" ∈ Question.fields)
          (List.mem_cons_self :
            (.gt, ["above"]) ∈ Question.comparisons)
          sampleAmount
      exact
        ⟨store, rfl, by decide, hRows.2.1,
          Option.some.inj hFound⟩

/- A product passes both equalities of a question. -/
theorem admits_equalities
    {record : Record}
    {m : JsonNumber}
    (hValue : record.value? field = some (.number m))
    (n : Amount) :
    ((⟨field, .eq, .number n.value⟩ : Filter).admits record &&
        (⟨field, .eq, .text n.floor.written⟩ : Filter).admits
          record) =
      (record.satisfies field .eq n.value &&
        n.floor.value.equals n.value) := by
  rw [Filter.admits_of_number hValue .eq
      (rfl : Operand.asNumber? (.number n.value) = some _),
    Filter.admits_of_number hValue .eq
      n.floor.asNumber?_written]
  have hSatisfies :
      ∀ x,
        record.satisfies field .eq x = m.toDouble.equals x := by
    intro x
    simp [Record.satisfies, Record.number?, hValue,
      Json.double?, Operator.holdsFor]
  rw [hSatisfies, hSatisfies, Bool.eq_iff_iff,
    Bool.and_eq_true, Bool.and_eq_true]
  constructor
  · rintro ⟨hAmount, hFloor⟩
    exact
      ⟨hAmount, Binary.equals_of_equals hFloor hAmount⟩
  · rintro ⟨hAmount, hSame⟩
    rw [Binary.equals_comm] at hSame
    exact ⟨hAmount, Binary.equals_trans hAmount hSame⟩

/-
  A question with a word for equality selects the products
  with that number if the number is whole, and none if it is
  not: the product also has to equal the digits before the
  point.
-/
theorem rows_of_equality_question
    (hStore : ofTexts sales users products = .ok store)
    (hField : field ∈ Question.fields)
    {word : String}
    (hWord : word ∈ Question.equalities)
    (n : Amount) :
    Query.ofInterpretation
          (Lexicon.standard.interpret
            (Question.equality field word n)) =
        .filtered .products
          [⟨field, .eq, .number n.value⟩,
            ⟨field, .eq, .text n.floor.written⟩] ∧
      store.rows
          (.ofInterpretation
            (Lexicon.standard.interpret
              (Question.equality field word n))) =
        if n.floor.value.equals n.value then
          store.products.filter fun record =>
            record.satisfies field .eq n.value
        else
          [] := by
  have hAccepted : store.Accepted := accepted_of_ofTexts hStore
  have hQuery :
      Query.ofInterpretation
          (Lexicon.standard.interpret
            (Question.equality field word n)) =
        .filtered .products
          [⟨field, .eq, .number n.value⟩,
            ⟨field, .eq, .text n.floor.written⟩] := by
    rw [Question.equality_eq]
    exact Question.query_equality hField hWord n
  refine ⟨hQuery, ?_⟩
  have hRows :
      store.rows
          (.filtered .products
            [⟨field, .eq, .number n.value⟩,
              ⟨field, .eq, .text n.floor.written⟩]) =
        store.products.filter fun record =>
          record.satisfies field .eq n.value &&
            n.floor.value.equals n.value := by
    rw [rows_filtered]
    apply List.filter_congr
    intro record hMem
    rcases hAccepted.exists_question_number hField hMem with
      ⟨m, hValue⟩
    rw [← admits_equalities hValue n]
    simp
  rw [hQuery, hRows]
  cases n.floor.value.equals n.value with
  | true => simp
  | false => simp

/- The amount 4.5. -/
def sampleRating : Amount :=
  ⟨⟨['4'], by decide, List.all_eq_true.mp rfl⟩,
    some ⟨['5'], by decide, List.all_eq_true.mp rfl⟩⟩

/- The lamp has that rating, but is not found. -/
theorem rows_of_equality_question_lamp :
    ∃ store,
      ofTexts "[]" "[]" sampleProducts = .ok store ∧
        Question.equality "rating" "is" sampleRating =
          "products where rating is 4.5" ∧
        store.rows
            (.ofInterpretation
              (Lexicon.standard.interpret
                (Question.equality "rating" "is"
                  sampleRating))) =
          [] ∧
        (store.products.filter fun record =>
          record.satisfies "rating" .eq
            sampleRating.value).length = 1 := by
  have hFound :
      (ofTexts "[]" "[]" sampleProducts).toOption.map
          (fun store =>
            (store.products.filter fun record =>
              record.satisfies "rating" .eq
                sampleRating.value).length) =
        some 1 := by
    decide +kernel
  have hDiffers :
      sampleRating.floor.value.equals sampleRating.value =
        false := by
    decide +kernel
  cases hStore : ofTexts "[]" "[]" sampleProducts with
  | error e =>
      rw [hStore] at hFound
      cases hFound
  | ok store =>
      rw [hStore] at hFound
      have hRows :=
        rows_of_equality_question hStore
          (by decide : "rating" ∈ Question.fields)
          (by decide : "is" ∈ Question.equalities)
          sampleRating
      rw [hDiffers] at hRows
      exact
        ⟨store, rfl, by decide, hRows.2,
          Option.some.inj hFound⟩

end Store

end Dashboard
