import Dashboard.Json.Shape
import Mathlib.Data.List.Basic

/-
  Looking up the members of objects: putting members in order
  changes no value when their names differ.

  Main declarations:
    * `Json.memberIn?_insertMember`
    * `Json.insertMember_comm`
    * `Json.memberIn?_sortMembers`
    * `Json.present` and `Json.memberIn?_present`
    * `Json.slots?_ofMembers`
    * `Slot.defaulted_ofOption`
-/

------------------------------------------------------------
-- Ordered Members
------------------------------------------------------------

namespace Dashboard

namespace Json

theorem memberIn?_cons
    (name other : String)
    (value : Json)
    (members : List (String × Json)) :
    memberIn? ((name, value) :: members) other =
      if other = name then
        some value
      else
        memberIn? members other := by
  unfold memberIn?
  rw [List.lookup_cons]
  by_cases hName : other = name
  · simp [hName]
  · have hTest : (other == name) = false :=
      beq_eq_false_iff_ne.mpr hName
    rw [hTest, if_neg hName]

/- A member with the name of the first one replaces it. -/
theorem insertMember_cons_self
    (name : String)
    (value old : Json)
    (rest : List (String × Json)) :
    insertMember name value ((name, old) :: rest) =
      (name, value) :: rest := by
  rw [insertMember, if_neg (String.lt_irrefl name),
    if_pos rfl]

/- A member is added, or its value replaced, and no other. -/
theorem memberIn?_insertMember
    (name other : String)
    (value : Json)
    (members : List (String × Json)) :
    memberIn? (insertMember name value members) other =
      if other = name then
        some value
      else
        memberIn? members other := by
  induction members with
  | nil => exact memberIn?_cons name other value []
  | cons m rest ih =>
      rcases m with ⟨first, old⟩
      rw [insertMember]
      by_cases hBefore : name < first
      · rw [if_pos hBefore, memberIn?_cons]
      · rw [if_neg hBefore]
        by_cases hSame : name = first
        · subst hSame
          rw [if_pos rfl, memberIn?_cons, memberIn?_cons]
          split
          · rfl
          · rfl
        · rw [if_neg hSame, memberIn?_cons, memberIn?_cons,
            ih]
          by_cases hFirst : other = first
          · subst hFirst
            rw [if_pos rfl, if_pos rfl,
              if_neg (Ne.symm hSame)]
          · rw [if_neg hFirst, if_neg hFirst]

/- Of two members with one name the later one counts. -/
theorem insertMember_insertMember
    (name : String)
    (value last : Json)
    (members : List (String × Json)) :
    insertMember name last
        (insertMember name value members) =
      insertMember name last members := by
  induction members with
  | nil => rw [insertMember, insertMember_cons_self]; rfl
  | cons m rest ih =>
      rcases m with ⟨other, old⟩
      rw [insertMember, insertMember]
      split
      · rw [insertMember_cons_self]
      · rename_i hBefore
        split
        · rw [insertMember_cons_self]
        · rename_i hOther
          rw [insertMember, if_neg hBefore, if_neg hOther, ih]

/- Members of different names are added in either order. -/
theorem insertMember_comm
    {name other : String}
    (hNames : name ≠ other)
    (value second : Json)
    (members : List (String × Json)) :
    insertMember name value
        (insertMember other second members) =
      insertMember other second
        (insertMember name value members) := by
  induction members with
  | nil => grind [insertMember]
  | cons m rest ih => grind [insertMember]

theorem memberIn?_eq_none
    {members : List (String × Json)}
    {name : String}
    (hName : name ∉ members.map Prod.fst) :
    memberIn? members name = none := by
  apply List.lookup_eq_none_iff.mpr
  intro m hMem
  apply bne_iff_ne.mpr
  rintro rfl
  exact hName (List.mem_map_of_mem hMem)

/-
  Members with different names, put in order among others:
  a value is one of theirs, or else the one from before.
-/
theorem memberIn?_foldl_insertMember
    (members : List (String × Json))
    (hNames : (members.map Prod.fst).Nodup)
    (before : List (String × Json))
    (name : String) :
    memberIn?
        (members.foldl
          (fun sorted m => insertMember m.1 m.2 sorted)
          before)
        name =
      (memberIn? members name).or
        (memberIn? before name) := by
  induction members generalizing before with
  | nil => rfl
  | cons m rest ih =>
      rcases m with ⟨first, value⟩
      rcases List.nodup_cons.mp hNames with
        ⟨hFirst, hRest⟩
      rw [List.foldl_cons, ih hRest, memberIn?_insertMember,
        memberIn?_cons]
      by_cases hName : name = first
      · subst hName
        rw [if_pos rfl, if_pos rfl,
          memberIn?_eq_none hFirst]
        rfl
      · rw [if_neg hName, if_neg hName]

/- Order does not matter to members with different names. -/
theorem memberIn?_sortMembers
    {members : List (String × Json)}
    (hNames : (members.map Prod.fst).Nodup)
    (name : String) :
    memberIn? (sortMembers members) name =
      memberIn? members name := by
  unfold sortMembers
  rw [memberIn?_foldl_insertMember members hNames]
  exact Option.or_none

end Json

end Dashboard

------------------------------------------------------------
-- Optional Members
------------------------------------------------------------

namespace Dashboard

namespace Json

/- The members for the fields that have a value. -/
def present
    (fields : List (String × Option Json)) :
    List (String × Json) :=
  fields.filterMap fun f => f.2.map (f.1, ·)

theorem present_cons
    (name : String)
    (value : Option Json)
    (fields : List (String × Option Json)) :
    present ((name, value) :: fields) =
      (value.map (name, ·)).toList ++ present fields := by
  cases value with
  | none => rfl
  | some json => rfl

theorem names_present_sublist
    (fields : List (String × Option Json)) :
    ((present fields).map Prod.fst).Sublist
      (fields.map Prod.fst) := by
  induction fields with
  | nil => exact List.Sublist.refl []
  | cons f rest ih =>
      rcases f with ⟨name, _ | json⟩
      · exact ih.cons name
      · exact ih.cons_cons name

theorem nodup_names_present
    {fields : List (String × Option Json)}
    (hNames : (fields.map Prod.fst).Nodup) :
    ((present fields).map Prod.fst).Nodup :=
  (names_present_sublist fields).nodup hNames

/- A member is there exactly if its field has a value. -/
theorem memberIn?_present
    {fields : List (String × Option Json)}
    (hNames : (fields.map Prod.fst).Nodup)
    (name : String) :
    memberIn? (present fields) name =
      (fields.lookup name).join := by
  induction fields with
  | nil => rfl
  | cons f rest ih =>
      rcases f with ⟨first, value⟩
      rcases List.nodup_cons.mp hNames with
        ⟨hFirst, hRest⟩
      rw [List.lookup_cons]
      by_cases hName : name = first
      · subst hName
        rw [beq_self_eq_true]
        cases value with
        | none =>
            apply memberIn?_eq_none
            intro hMem
            exact hFirst
              ((names_present_sublist rest).subset hMem)
        | some json =>
            rw [present_cons]
            exact (memberIn?_cons _ _ _ _).trans (if_pos rfl)
      · have hTest : (name == first) = false :=
          beq_eq_false_iff_ne.mpr hName
        rw [hTest, ← ih hRest]
        cases value with
        | none => rfl
        | some json =>
            rw [present_cons]
            exact
              (memberIn?_cons _ _ _ _).trans (if_neg hName)

end Json

end Dashboard

------------------------------------------------------------
-- Fields Of Structures
------------------------------------------------------------

namespace Dashboard

/- What an object says about a field with this value. -/
def Slot.ofOption
    {α : Type} : Option α → Slot α
  | some value => given value
  | none => missing

theorem Slot.ofMember_eq_ofOption
    (members : List (String × Json))
    (name : String) :
    Slot.ofMember members name =
      Slot.ofOption (Json.memberIn? members name) := by
  unfold Slot.ofMember Json.memberIn?
  cases members.lookup name with
  | none => rfl
  | some value => rfl

/- A field that may be left out has the value it was given. -/
theorem Slot.defaulted_ofOption
    {α : Type}
    {encode : α → Json}
    {read : Json → Option α}
    (hNull : ∀ value, encode value ≠ .null)
    (hRead : ∀ value, read (encode value) = some value)
    (value : Option α) :
    (Slot.ofOption (value.map encode)).defaulted none
        (Json.nullable read) =
      some value := by
  cases value with
  | none => rfl
  | some value =>
      have hNullable :
          Json.nullable read (encode value) =
            (read (encode value)).map some := by
        unfold Json.nullable
        split
        · rename_i hEncode
          exact absurd hEncode (hNull value)
        · rfl
      rw [Option.map_some, Slot.ofOption, Slot.defaulted,
        hNullable, hRead]
      rfl

namespace Json

/- What an object says about its fields, in any order. -/
theorem slots?_ofMembers
    (members : List (String × Json))
    (hNames : (members.map Prod.fst).Nodup)
    (names : List String) :
    slots? names (ofMembers members) =
      some
        (names.map fun name =>
          Slot.ofOption (memberIn? members name)) := by
  have hSlots :
      Slot.ofMember (sortMembers members) =
        fun name => Slot.ofOption (memberIn? members name)
      := by
    funext name
    rw [Slot.ofMember_eq_ofOption, memberIn?_sortMembers hNames]
  rw [ofMembers, slots?, hSlots]

end Json

end Dashboard

------------------------------------------------------------
-- Lists
------------------------------------------------------------

namespace Dashboard

namespace Json

/- A list is read when each of its values is. -/
theorem list?_ofList
    {α : Type}
    {encode : α → Json}
    {read : Json → Option α}
    (hRead : ∀ value, read (encode value) = some value)
    (values : List α) :
    list? read (ofList encode values) = some values := by
  rw [ofList, list?]
  induction values with
  | nil => rfl
  | cons value rest ih =>
      rw [List.map_cons, List.mapM_cons, hRead, ih]
      rfl

end Json

end Dashboard
