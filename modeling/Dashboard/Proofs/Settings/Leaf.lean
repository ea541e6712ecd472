import Dashboard.Proofs.Settings.LastWord
import Dashboard.Settings.Lenient

/-
  Single settings: where each of them stands in a table of
  settings, and how it is read there.

  Key definitions include:
    * `IsSteady`
    * `Leaf`
    * `Json.ListsOn`
    * `Leaf.Holds`

  Main declarations:
    * `Reading.isSteady_lenientName`
    * `Leaf.holds_named`
    * `Leaf.holds_inside`

  A table of settings that has been read says of a setting
  what it is, or the setting is the one that needs no saying.
-/

------------------------------------------------------------
-- Tables
------------------------------------------------------------

namespace Dashboard

namespace Layer

/- Members stay, and those that are laid are added. -/
theorem member?_layMembers_ne_none
    {below : Json}
    {members : List (String × Json)}
    {name : String}
    (hName :
      below.member? name ≠ none ∨
        ∃ m ∈ members, Text.lower m.1 = name) :
    (layMembers below members).member? name ≠ none := by
  induction members generalizing below with
  | nil =>
      rw [layMembers]
      rcases hName with hBelow | ⟨m, hMem, -⟩
      · exact hBelow
      · cases hMem
  | cons m rest ih =>
      rcases m with ⟨written, value⟩
      rw [layMembers_cons]
      apply ih
      rw [member?_insertMember]
      by_cases hHere : name = Text.lower written
      · rw [if_pos hHere]
        exact Or.inl (Option.some_ne_none _)
      · rw [if_neg hHere]
        rcases hName with hBelow | ⟨m, hMem, hLower⟩
        · exact Or.inl hBelow
        · rcases List.mem_cons.mp hMem with rfl | hRest
          · exact absurd hLower.symm hHere
          · exact Or.inr ⟨m, hRest, hLower⟩

/- Members of one name laid over one of that name are one. -/
theorem exists_layMembers_eq_single
    {name : String}
    {members : List (String × Json)}
    (hNames : ∀ m ∈ members, Text.lower m.1 = name)
    (value : Json) :
    ∃ last,
      layMembers (.object [(name, value)]) members =
        .object [(name, last)] := by
  induction members generalizing value with
  | nil => exact ⟨value, by rw [layMembers]⟩
  | cons m rest ih =>
      rcases m with ⟨written, laid⟩
      rcases List.forall_mem_cons.mp hNames with
        ⟨hFirst, hRest⟩
      rw [layMembers_cons, hFirst, membersOf,
        Json.insertMember, if_neg (String.lt_irrefl name),
        if_pos rfl]
      exact ih hRest _

/-
  A table whose members come to a single one when they are
  laid over something does so over nothing, by the same name.
-/
theorem exists_lay_none_eq_single
    {below : Option Json}
    {m : String × Json}
    {rest : List (String × Json)}
    {name : String}
    {value : Json}
    (hLaid :
      lay below (.object (m :: rest)) =
        .object [(name, value)]) :
    ∃ last,
      lay none (.object (m :: rest)) =
        .object [(name, last)] := by
  have hNames :
      ∀ other ∈ m :: rest, Text.lower other.1 = name := by
    intro other hMem
    have hMember :
        (lay below (.object (m :: rest))).member?
            (Text.lower other.1) ≠
          none := by
      rw [lay]
      exact member?_layMembers_ne_none
        (Or.inr ⟨other, hMem, rfl⟩)
    rw [hLaid, Json.member?, Json.memberIn?_cons] at hMember
    by_contra hOther
    rw [if_neg hOther] at hMember
    exact hMember rfl
  rcases m with ⟨written, laid⟩
  rcases List.forall_mem_cons.mp hNames with ⟨hFirst, hRest⟩
  rw [lay, Option.getD_none, layMembers_cons, hFirst]
  exact exists_layMembers_eq_single hRest _

end Layer

end Dashboard

------------------------------------------------------------
-- Reading Over Something
------------------------------------------------------------

namespace Dashboard

/-
  A way to read a setting whose value does not depend on what
  lies below: an empty table is not read, and what is read
  over something is read alike over nothing.
-/
structure IsSteady
    {α : Type}
    (read : Json → Option α) : Prop where
  empty : read (.object []) = none
  alone :
    ∀ {below json value},
      (Layer.Word.value json).isIdle = false →
      read (Layer.lay below json) = some value →
      read (Layer.lay none json) = some value

/-
  Only tables depend on what lies below, so a way to read is
  steady when it is for tables that say something.
-/
theorem IsSteady.of_members
    {α : Type}
    {read : Json → Option α}
    (hEmpty : read (.object []) = none)
    (hMembers :
      ∀ {below m rest laid value},
        Layer.lay below (.object (m :: rest)) = .object laid →
        read (.object laid) = some value →
        read (Layer.lay none (.object (m :: rest))) =
          some value) :
    IsSteady read where
  empty := hEmpty
  alone := by
    intro below json value hIdle hRead
    cases json with
    | object members =>
        cases members with
        | nil => cases hIdle
        | cons m rest =>
            rcases Layer.exists_lay_eq_object below m rest with
              ⟨laid, hLaid⟩
            rw [hLaid] at hRead
            exact hMembers hLaid hRead
    | null => exact hRead
    | bool value => exact hRead
    | number value => exact hRead
    | string value => exact hRead
    | array items => exact hRead

/- What reads no tables is steady. -/
theorem IsSteady.of_table
    {α : Type}
    {read : Json → Option α}
    (hTable : ∀ members, read (.object members) = none) :
    IsSteady read := by
  refine .of_members (hTable []) ?_
  intro below m rest laid value _ hRead
  rw [hTable] at hRead
  cases hRead

/- A list is no table, whatever its items are. -/
theorem isSteady_list?
    {α : Type}
    (read : Json → Option α) :
    IsSteady (Json.list? read) :=
  .of_table fun _ => rfl

namespace Reading

theorem isSteady_bool : IsSteady Reading.lenient.bool :=
  .of_table fun _ => rfl

theorem isSteady_text : IsSteady Reading.lenient.text :=
  .of_table fun _ => rfl

theorem isSteady_nullable_text :
    IsSteady (Json.nullable Reading.lenient.text) :=
  .of_table fun _ => rfl

theorem isSteady_word16 : IsSteady Reading.lenient.word16 :=
  .of_table fun _ => rfl

theorem isSteady_word32 : IsSteady Reading.lenient.word32 :=
  .of_table fun _ => rfl

theorem isSteady_word64 : IsSteady Reading.lenient.word64 :=
  .of_table fun _ => rfl

theorem isSteady_single : IsSteady Reading.lenient.single :=
  .of_table fun _ => rfl

/- A table that is read as a name has a single member. -/
theorem eq_single_of_lenientName
    {allowed : List String}
    {members : List (String × Json)}
    {name : String}
    (hRead :
      lenientName allowed (.object members) = some name) :
    ∃ written value,
      members = [(written, value)] ∧
        sameName? allowed written = some name := by
  unfold lenientName at hRead
  split at hRead
  · rename_i hJson
    cases hJson
  · rename_i written value hJson
    cases hJson
    exact ⟨written, value, rfl, hRead⟩
  · cases hRead

theorem isSteady_lenientName (allowed : List String) :
    IsSteady (lenientName allowed) := by
  refine .of_members rfl ?_
  intro below m rest laid name hLaid hRead
  rcases eq_single_of_lenientName hRead with
    ⟨written, inner, rfl, hName⟩
  rcases Layer.exists_lay_none_eq_single hLaid with
    ⟨last, hLast⟩
  rw [hLast]
  exact hName

/- The name of surroundings is read steadily. -/
theorem isSteady_surroundings :
    IsSteady Reading.lenient.surroundings where
  empty := rfl
  alone := by
    intro below json value hIdle hRead
    rcases Option.bind_eq_some_iff.mp hRead with
      ⟨name, hName, hValue⟩
    have hAlone :=
      (isSteady_lenientName
        (Surroundings.all.map Surroundings.name)).alone hIdle
        hName
    exact
      Option.bind_eq_some_iff.mpr ⟨name, hAlone, hValue⟩

end Reading

end Dashboard

------------------------------------------------------------
-- Settings In Tables
------------------------------------------------------------

namespace Dashboard

/-
  A single setting among others: the names that lead to it,
  how it is read, and its value.
-/
structure Leaf (S : Type) where
  Value : Type
  path : List String
  read : Json → Option Value
  get : S → Value
  placed : path ≠ []
  steady : IsSteady read

/-
  A list stands in place of a table on the way that a path
  goes.  The settings of such a table are read in order.
-/
def Json.ListsOn
    (path : List String)
    (json : Json) : Prop :=
  ∃ before items,
    before <+: path ∧ before ≠ path ∧
      json.within? before = some (.array items)

namespace Leaf

variable {S T : Type}

/- A setting by its name in a table. -/
def named
    {α : Type}
    (name : String)
    (read : Json → Option α)
    (get : S → α)
    (steady : IsSteady read) : Leaf S where
  Value := α
  path := [name]
  read := read
  get := get
  placed := List.cons_ne_nil name []
  steady := steady

/- A setting of a table that is a member of another. -/
def inside
    (name : String)
    (part : T → S)
    (leaf : Leaf S) : Leaf T where
  Value := leaf.Value
  path := name :: leaf.path
  read := leaf.read
  get := fun whole => leaf.get (part whole)
  placed := List.cons_ne_nil name leaf.path
  steady := leaf.steady

/-
  A setting is what a table of settings says, or else it is
  the same as in the settings that need no saying.
-/
def Holds
    (leaf : Leaf S)
    (base settings : S)
    (json : Json) : Prop :=
  ¬ json.ListsOn leaf.path →
    (Slot.ofOption (json.within? leaf.path)).defaulted
        (leaf.get base) leaf.read =
      some (leaf.get settings)

end Leaf

namespace Json

variable {name : String}
variable {path : List String}
variable {json : Json}

theorem within?_single
    (name : String)
    (json : Json) :
    json.within? [name] = json.member? name := by
  rw [within?_cons]
  cases json.member? name with
  | none => rfl
  | some inner => rfl

/- No list stands on the rest of the way. -/
theorem not_listsOn_of_member?
    (hLists : ¬ json.ListsOn (name :: path))
    {inner : Json}
    (hInner : json.member? name = some inner) :
    ¬ inner.ListsOn path := by
  rintro ⟨before, items, hPrefix, hNe, hWithin⟩
  refine hLists ⟨name :: before, items, ?_, ?_, ?_⟩
  · exact List.cons_prefix_cons.mpr ⟨rfl, hPrefix⟩
  · simpa using hNe
  · rw [within?_cons, hInner, Option.bind_some, hWithin]

end Json

namespace Leaf

variable {S T : Type}

/-
  Nothing has to hold in a list that stands in place of a
  table.
-/
theorem forall_holds
    {leaves : List (Leaf S)}
    {base settings : S}
    {json : Json}
    (hTable :
      (∀ items, json ≠ .array items) →
      ∀ leaf ∈ leaves, leaf.Holds base settings json) :
    ∀ leaf ∈ leaves, leaf.Holds base settings json := by
  intro leaf hMem hLists
  have hJson : ∀ items, json ≠ .array items := by
    rintro items rfl
    exact hLists
      ⟨[], items, List.nil_prefix, leaf.placed.symm, rfl⟩
  exact hTable hJson leaf hMem hLists

/- A field that was read is the setting of its name. -/
theorem holds_named
    {α : Type}
    {name : String}
    {read : Json → Option α}
    {get : S → α}
    {steady : IsSteady read}
    {base settings : S}
    {json : Json}
    (hField :
      (Slot.ofOption (json.member? name)).defaulted
          (get base) read =
        some (get settings)) :
    (named name read get steady).Holds base settings json := by
  intro _
  rw [← Json.within?_single] at hField
  exact hField

/-
  A setting that holds in a table holds in a table around it
  when the inner table is read as a field of the outer one.
-/
theorem holds_inside
    {name : String}
    {part : T → S}
    {leaf : Leaf S}
    {base settings : T}
    {json : Json}
    {read : Json → Option S}
    (hField :
      (Slot.ofOption (json.member? name)).defaulted
          (part base) read =
        some (part settings))
    (hInner :
      ∀ {inner chosen},
        read inner = some chosen →
        leaf.Holds (part base) chosen inner) :
    (leaf.inside name part).Holds base settings json := by
  change
    ¬ json.ListsOn (name :: leaf.path) →
      (Slot.ofOption (json.within? (name :: leaf.path))).defaulted
          (leaf.get (part base)) leaf.read =
        some (leaf.get (part settings))
  intro hLists
  rw [Json.within?_cons]
  cases hMember : json.member? name with
  | none =>
      rw [hMember] at hField
      have hBase : part base = part settings :=
        Option.some.inj hField
      rw [hBase]
      rfl
  | some inner =>
      rw [hMember] at hField
      exact hInner hField
        (Json.not_listsOn_of_member? hLists hMember)

/- What holds in a table holds for the whole of it. -/
theorem forall_holds_inside
    {name : String}
    {part : T → S}
    {leaves : List (Leaf S)}
    {base settings : T}
    {json : Json}
    {read : Json → Option S}
    (hField :
      (Slot.ofOption (json.member? name)).defaulted
          (part base) read =
        some (part settings))
    (hInner :
      ∀ {inner chosen},
        read inner = some chosen →
        ∀ leaf ∈ leaves,
          leaf.Holds (part base) chosen inner) :
    ∀ leaf ∈ leaves.map (inside name part),
      leaf.Holds base settings json := by
  intro leaf hMem
  rcases List.mem_map.mp hMem with ⟨own, hOwn, rfl⟩
  exact holds_inside hField fun hRead => hInner hRead own hOwn

end Leaf

end Dashboard
