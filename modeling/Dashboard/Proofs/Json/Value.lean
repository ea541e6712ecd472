import Dashboard.Proofs.Json.RoundTrip
import Dashboard.Proofs.Number.Numeral

/-
  Values that are read: each of their numbers was read from a
  numeral, and so it is defined.

  Main declarations:
    * `RawJson.readFrom_of_valueBy?`
    * `Json.toDouble_ne_notANumber_of_parse?`
-/

------------------------------------------------------------
-- Numbers Of Members
------------------------------------------------------------

namespace Dashboard

namespace Json

theorem mem_memberNumbers_iff
    (members : List (String × Json))
    (n : JsonNumber) :
    n ∈ memberNumbers members ↔
      ∃ m ∈ members, n ∈ m.2.numbers := by
  induction members with
  | nil => simp [memberNumbers]
  | cons m rest ih =>
      rcases m with ⟨name, value⟩
      simp [memberNumbers, ih]

/- Putting a member in order adds nothing but that member. -/
theorem mem_of_mem_insertMember
    {name : String}
    {value : Json}
    {members : List (String × Json)}
    {m : String × Json}
    (hMem : m ∈ insertMember name value members) :
    m = (name, value) ∨ m ∈ members := by
  induction members with
  | nil => exact .inl (List.mem_singleton.mp hMem)
  | cons first rest ih =>
      rcases first with ⟨other, old⟩
      rw [insertMember] at hMem
      split at hMem
      · exact List.mem_cons.mp hMem
      · split at hMem
        · rcases List.mem_cons.mp hMem with hNew | hRest
          · exact .inl hNew
          · exact .inr (List.mem_cons_of_mem _ hRest)
        · rcases List.mem_cons.mp hMem with rfl | hRest
          · exact .inr List.mem_cons_self
          · rcases ih hRest with hNew | hOld
            · exact .inl hNew
            · exact .inr (List.mem_cons_of_mem _ hOld)

theorem mem_of_mem_sortMembers
    {members : List (String × Json)}
    {m : String × Json}
    (hMem : m ∈ sortMembers members) :
    m ∈ members := by
  have hFold :
      ∀ before,
        m ∈ members.foldl
            (fun sorted m => insertMember m.1 m.2 sorted)
            before →
          m ∈ before ∨ m ∈ members := by
    clear hMem
    induction members with
    | nil => exact fun before hBefore => .inl hBefore
    | cons first rest ih =>
        intro before hMem
        rcases ih _ hMem with hInsert | hRest
        · rcases mem_of_mem_insertMember hInsert with
            rfl | hBefore
          · exact .inr List.mem_cons_self
          · exact .inl hBefore
        · exact .inr (List.mem_cons_of_mem _ hRest)
  rcases hFold [] hMem with hNil | hMembers
  · cases hNil
  · exact hMembers

end Json

end Dashboard

------------------------------------------------------------
-- Numbers Of Values
------------------------------------------------------------

namespace Dashboard

namespace RawJson

/- The number was read from some numeral. -/
def ReadFrom
    (readNumber : Numeral → Option JsonNumber)
    (n : JsonNumber) : Prop :=
  ∃ numeral, readNumber numeral = some n

variable {readNumber : Numeral → Option JsonNumber}

mutual

/- Every number of a value was read from a numeral. -/
theorem readFrom_of_valueBy? :
    ∀ (raw : RawJson) (depth : Nat) (json : Json),
      raw.valueBy? readNumber depth = some json →
        ∀ n ∈ json.numbers, ReadFrom readNumber n
  | null, _, _, hValue => by
      cases hValue
      rintro n ⟨⟩
  | bool value, _, _, hValue => by
      cases hValue
      rintro n ⟨⟩
  | number numeral, _, _, hValue => by
      rcases Option.map_eq_some_iff.mp hValue with
        ⟨n, hRead, rfl⟩
      intro m hMem
      rw [List.mem_singleton.mp hMem]
      exact ⟨numeral, hRead⟩
  | string value, _, _, hValue => by
      rcases Option.map_eq_some_iff.mp hValue with
        ⟨text, _, rfl⟩
      rintro n ⟨⟩
  | array items, 0, _, hValue => by cases hValue
  | array items, depth + 1, _, hValue => by
      rcases Option.map_eq_some_iff.mp hValue with
        ⟨values, hItems, rfl⟩
      exact readFrom_of_itemsBy? items depth values hItems
  | object members, 0, _, hValue => by cases hValue
  | object members, depth + 1, _, hValue => by
      rcases Option.map_eq_some_iff.mp hValue with
        ⟨values, hMembers, rfl⟩
      have hRead :=
        readFrom_of_membersBy? members depth values hMembers
      intro n hMem
      rcases (Json.mem_memberNumbers_iff _ n).mp hMem with
        ⟨m, hSorted, hNumber⟩
      apply hRead
      exact
        (Json.mem_memberNumbers_iff _ n).mpr
          ⟨m, Json.mem_of_mem_sortMembers hSorted, hNumber⟩

/- The same for items. -/
theorem readFrom_of_itemsBy? :
    ∀ (items : List RawJson) (depth : Nat)
      (values : List Json),
      itemsBy? readNumber depth items = some values →
        ∀ n ∈ Json.itemNumbers values, ReadFrom readNumber n
  | [], _, _, hValues => by
      cases hValues
      rintro n ⟨⟩
  | item :: rest, depth, _, hValues => by
      rw [itemsBy?] at hValues
      split at hValues
      · cases hValues
      · rename_i value hItem
        rcases Option.map_eq_some_iff.mp hValues with
          ⟨values, hRest, rfl⟩
        exact
          List.forall_mem_append.mpr
            ⟨readFrom_of_valueBy? item depth value hItem,
              readFrom_of_itemsBy? rest depth values hRest⟩

/- The same for members. -/
theorem readFrom_of_membersBy? :
    ∀ (members : List (Option String × RawJson))
      (depth : Nat) (values : List (String × Json)),
      membersBy? readNumber depth members = some values →
        ∀ n ∈ Json.memberNumbers values,
          ReadFrom readNumber n
  | [], _, _, hValues => by
      cases hValues
      rintro n ⟨⟩
  | (none, _) :: _, _, _, hValues => by cases hValues
  | (some name, member) :: rest, depth, _, hValues => by
      rw [membersBy?] at hValues
      split at hValues
      · cases hValues
      · rename_i value hMember
        rcases Option.map_eq_some_iff.mp hValues with
          ⟨values, hRest, rfl⟩
        exact
          List.forall_mem_append.mpr
            ⟨readFrom_of_valueBy? member depth value hMember,
              readFrom_of_membersBy? rest depth values hRest⟩

end

end RawJson

end Dashboard

------------------------------------------------------------
-- Defined Numbers
------------------------------------------------------------

namespace Dashboard

theorem JsonNumber.toDouble_ne_notANumber_of_ofNumeral?
    {numeral : Numeral}
    {n : JsonNumber}
    (hRead : ofNumeral? numeral = some n) :
    n.toDouble ≠ .notANumber := by
  unfold ofNumeral? at hRead
  split at hRead
  · cases hRead
    exact Binary.ofInt_ne_notANumber _
  · rcases Option.map_eq_some_iff.mp hRead with
      ⟨x, hSteps, rfl⟩
    exact Numeral.stepwise?_ne_notANumber hSteps

/- No number of a value that was read is undefined. -/
theorem Json.toDouble_ne_notANumber_of_parse?
    {text : String}
    {json : Json}
    (hParse : parse? text = some json)
    {n : JsonNumber}
    (hMem : n ∈ json.numbers) :
    n.toDouble ≠ .notANumber := by
  unfold parse? at hParse
  split at hParse
  · cases hParse
  · rename_i raw _
    rcases RawJson.readFrom_of_valueBy? raw _ json hParse n
        hMem with ⟨numeral, hRead⟩
    exact
      JsonNumber.toDouble_ne_notANumber_of_ofNumeral? hRead

end Dashboard
