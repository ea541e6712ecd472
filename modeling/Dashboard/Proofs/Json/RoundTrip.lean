import Dashboard.Proofs.Json.Number
import Dashboard.Proofs.Json.String

/-
  Reading what is written: a JSON value that is not nested
  too deeply and whose numbers are kept is read back, with
  the members of its objects in order.

  Key definitions include:
    * `Json.sorted`
    * `Json.depth`
    * `Json.numbers`
    * `Json.Keeps`

  Main declarations:
    * `Json.exists_readsAs`
    * `Json.parse?_print`
    * `Double.readsBack_iff_kept`
-/

------------------------------------------------------------
-- Measures Of Values
------------------------------------------------------------

namespace Dashboard

namespace Json

mutual

/- The value with the members of every object in order. -/
def sorted : Json → Json
  | null => null
  | bool value => bool value
  | number value => number value
  | string value => string value
  | array items => array (sortedItems items)
  | object members => ofMembers (sortedMembers members)

/- Items, each with its members in order. -/
def sortedItems : List Json → List Json
  | [] => []
  | item :: rest => item.sorted :: sortedItems rest

/- Members whose values have their members in order. -/
def sortedMembers :
    List (String × Json) → List (String × Json)
  | [] => []
  | (name, value) :: rest =>
      (name, value.sorted) :: sortedMembers rest

end

mutual

/- How many arrays and objects stand in each other. -/
def depth : Json → Nat
  | null => 0
  | bool _ => 0
  | number _ => 0
  | string _ => 0
  | array items => itemsDepth items + 1
  | object members => membersDepth members + 1

/- The depth of the deepest item. -/
def itemsDepth : List Json → Nat
  | [] => 0
  | item :: rest => max item.depth (itemsDepth rest)

/- The depth of the deepest value of a member. -/
def membersDepth : List (String × Json) → Nat
  | [] => 0
  | (_, value) :: rest => max value.depth (membersDepth rest)

end

mutual

/- The numbers in a value. -/
def numbers : Json → List JsonNumber
  | null => []
  | bool _ => []
  | number value => [value]
  | string _ => []
  | array items => itemNumbers items
  | object members => memberNumbers members

/- The numbers in items. -/
def itemNumbers : List Json → List JsonNumber
  | [] => []
  | item :: rest => item.numbers ++ itemNumbers rest

/- The numbers in the values of members. -/
def memberNumbers : List (String × Json) → List JsonNumber
  | [] => []
  | (_, value) :: rest => value.numbers ++ memberNumbers rest

end

theorem sortedItems_eq_map (items : List Json) :
    sortedItems items = items.map sorted := by
  induction items with
  | nil => rfl
  | cons item rest ih => rw [sortedItems, List.map_cons, ih]

theorem sortedMembers_eq_map
    (members : List (String × Json)) :
    sortedMembers members =
      members.map fun m => (m.1, m.2.sorted) := by
  induction members with
  | nil => rfl
  | cons m rest ih => rw [sortedMembers, List.map_cons, ih]

theorem sorted_ofList
    {α : Type}
    (encode : α → Json)
    (values : List α) :
    (ofList encode values).sorted =
      ofList (fun value => (encode value).sorted) values := by
  rw [ofList, sorted, sortedItems_eq_map, List.map_map]
  rfl

end Json

end Dashboard

------------------------------------------------------------
-- Values That Are Kept
------------------------------------------------------------

namespace Dashboard

namespace Json

/-
  The value is nested at most so deeply, and its numbers are
  kept.
-/
structure Keeps (json : Json) (levels : Nat) : Prop where
  shallow : json.depth ≤ levels
  kept : ∀ n ∈ json.numbers, n.Kept

theorem Keeps.mono
    {json : Json}
    {fewer more : Nat}
    (hLevels : fewer ≤ more)
    (hKeeps : json.Keeps fewer) :
    json.Keeps more :=
  ⟨Nat.le_trans hKeeps.shallow hLevels, hKeeps.kept⟩

theorem string_keeps
    (value : String)
    (levels : Nat) :
    (string value).Keeps levels := by
  constructor
  · exact Nat.zero_le levels
  · rintro n ⟨⟩

theorem number_keeps
    {n : JsonNumber}
    (hKept : n.Kept)
    (levels : Nat) :
    (number n).Keeps levels := by
  constructor
  · exact Nat.zero_le levels
  · intro m hMem
    rw [List.mem_singleton.mp hMem]
    exact hKept

theorem items_keep
    {items : List Json}
    {levels : Nat}
    (hItems : ∀ item ∈ items, item.Keeps levels) :
    itemsDepth items ≤ levels ∧
      ∀ n ∈ itemNumbers items, n.Kept := by
  induction items with
  | nil =>
      refine ⟨Nat.zero_le levels, ?_⟩
      rintro n ⟨⟩
  | cons item rest ih =>
      rcases List.forall_mem_cons.mp hItems with
        ⟨hFirst, hRest⟩
      rcases ih hRest with ⟨hDepth, hNumbers⟩
      constructor
      · exact Nat.max_le.mpr ⟨hFirst.shallow, hDepth⟩
      · exact
          List.forall_mem_append.mpr
            ⟨hFirst.kept, hNumbers⟩

theorem array_keeps
    {items : List Json}
    {levels : Nat}
    (hItems : ∀ item ∈ items, item.Keeps levels) :
    (array items).Keeps (levels + 1) := by
  rcases items_keep hItems with ⟨hDepth, hNumbers⟩
  exact ⟨Nat.succ_le_succ hDepth, hNumbers⟩

theorem members_keep
    {members : List (String × Json)}
    {levels : Nat}
    (hMembers : ∀ m ∈ members, m.2.Keeps levels) :
    membersDepth members ≤ levels ∧
      ∀ n ∈ memberNumbers members, n.Kept := by
  induction members with
  | nil =>
      refine ⟨Nat.zero_le levels, ?_⟩
      rintro n ⟨⟩
  | cons m rest ih =>
      rcases List.forall_mem_cons.mp hMembers with
        ⟨hFirst, hRest⟩
      rcases ih hRest with ⟨hDepth, hNumbers⟩
      constructor
      · exact Nat.max_le.mpr ⟨hFirst.shallow, hDepth⟩
      · exact
          List.forall_mem_append.mpr
            ⟨hFirst.kept, hNumbers⟩

theorem object_keeps
    {members : List (String × Json)}
    {levels : Nat}
    (hMembers : ∀ m ∈ members, m.2.Keeps levels) :
    (object members).Keeps (levels + 1) := by
  rcases members_keep hMembers with ⟨hDepth, hNumbers⟩
  exact ⟨Nat.succ_le_succ hDepth, hNumbers⟩

end Json

end Dashboard

------------------------------------------------------------
-- What Is Read
------------------------------------------------------------

namespace Dashboard

namespace Json

open RawJson

/-
  A value as it is written is read as the raw value, before
  any text before which it may end, and the raw value stands
  for the value in order.  Fuel for every character is enough.
-/
structure ReadsAs (json : Json) (raw : RawJson) : Prop where
  scans :
    ∀ fuel rest,
      json.write.length ≤ fuel →
        EndsValue rest →
          scanValue fuel (json.write ++ rest) =
            some (raw, rest)
  stands :
    ∀ depth,
      json.depth ≤ depth →
        raw.valueBy? JsonNumber.ofNumeral? depth =
          some json.sorted

/- The same for the items of an array. -/
structure ItemsReadAs
    (items : List Json)
    (raws : List RawJson) : Prop where
  scans :
    items ≠ [] →
      ∀ fuel rest,
        (writeItems items).length ≤ fuel →
          scanItems fuel (writeItems items ++ rest) =
            some (raws, rest)
  stands :
    ∀ depth,
      itemsDepth items ≤ depth →
        itemsBy? JsonNumber.ofNumeral? depth raws =
          some (sortedItems items)

/- The same for the members of an object. -/
structure MembersReadAs
    (members : List (String × Json))
    (raws : List (Option String × RawJson)) : Prop where
  scans :
    members ≠ [] →
      ∀ fuel rest,
        (writeMembers members).length ≤ fuel →
          scanMembers fuel (writeMembers members ++ rest) =
            some (raws, rest)
  stands :
    ∀ depth,
      membersDepth members ≤ depth →
        membersBy? JsonNumber.ofNumeral? depth raws =
          some (sortedMembers members)

end Json

end Dashboard

------------------------------------------------------------
-- Simple Values
------------------------------------------------------------

namespace Dashboard

namespace Json

open RawJson

theorem null_readsAs : ReadsAs null .null := by
  refine ⟨?_, fun _ _ => rfl⟩
  intro fuel rest hFuel _
  cases fuel with
  | zero => cases hFuel
  | succ fuel => rfl

theorem bool_readsAs (value : Bool) :
    ReadsAs (bool value) (.bool value) := by
  refine ⟨?_, fun _ _ => rfl⟩
  intro fuel rest hFuel _
  cases value with
  | true =>
      cases fuel with
      | zero => cases hFuel
      | succ fuel => rfl
  | false =>
      cases fuel with
      | zero => cases hFuel
      | succ fuel => rfl

theorem number_readsAs
    {n : JsonNumber}
    {numeral : Numeral}
    (hScan :
      scanNumber (writeNumber n) = some (numeral, []))
    (hNumber : JsonNumber.ofNumeral? numeral = some n) :
    ReadsAs (number n) (.number numeral) := by
  constructor
  · intro fuel rest hFuel hEnds
    have hNumeral := scanNumber_append hScan hEnds
    cases fuel with
    | zero =>
        rcases head_of_scanNumber hScan with
          ⟨c, tail, hText, _⟩
        rw [write, hText] at hFuel
        cases hFuel
    | succ fuel =>
        exact scanValue_of_scanNumber fuel hNumeral
  · intro depth _
    rw [valueBy?, hNumber]
    rfl

theorem scanValue_quote
    (fuel : Nat)
    (text : List Char) :
    scanValue (fuel + 1) ('"' :: text) =
      (scanString text).map fun r =>
        (RawJson.string r.1, r.2) := rfl

theorem string_readsAs (value : String) :
    ReadsAs (string value) (.string (some value)) := by
  refine ⟨?_, fun _ _ => rfl⟩
  intro fuel rest hFuel _
  rcases scanString_writeString value.toList rest with
    ⟨opened, hText, hScan⟩
  cases fuel with
  | zero => cases hFuel
  | succ fuel =>
      rw [write, hText, scanValue_quote, hScan,
        String.ofList_toList]
      rfl

end Json

end Dashboard

------------------------------------------------------------
-- Arrays
------------------------------------------------------------

namespace Dashboard

namespace Json

open RawJson

theorem scanValue_openBracket
    (fuel : Nat)
    (text : List Char) :
    scanValue (fuel + 1) ('[' :: text) =
      match skip text with
      | ']' :: after => some (RawJson.array [], after)
      | _ =>
          (scanItems fuel text).map fun r =>
            (RawJson.array r.1, r.2) := rfl

/- No item starts with a closing bracket. -/
theorem scanItems_closeBracket
    (fuel : Nat)
    {text after : List Char}
    (hSkip : skip text = ']' :: after) :
    scanItems fuel text = none := by
  cases fuel with
  | zero => rfl
  | succ fuel =>
      have hValue : scanValue fuel text = none := by
        cases fuel with
        | zero => rfl
        | succ fuel =>
            rw [scanValue, hSkip]
            rfl
      rw [scanItems, hValue]

theorem array_nil_readsAs :
    ReadsAs (array []) (.array []) := by
  constructor
  · intro fuel rest hFuel _
    cases fuel with
    | zero => cases hFuel
    | succ fuel => rfl
  · intro depth hDepth
    cases depth with
    | zero => cases hDepth
    | succ depth => rfl

theorem array_cons_readsAs
    {items : List Json}
    {raws : List RawJson}
    (hSome : items ≠ [])
    (hItems : ItemsReadAs items raws) :
    ReadsAs (array items) (.array raws) := by
  constructor
  · intro fuel rest hFuel _
    cases fuel with
    | zero => cases hFuel
    | succ fuel =>
        have hScan :=
          hItems.scans hSome fuel rest
            (Nat.le_of_succ_le_succ hFuel)
        rw [write, List.cons_append, scanValue_openBracket]
        split
        · rename_i hSkip
          rw [scanItems_closeBracket fuel hSkip] at hScan
          cases hScan
        · rw [hScan]
          rfl
  · intro depth hDepth
    cases depth with
    | zero => cases hDepth
    | succ depth =>
        rw [valueBy?,
          hItems.stands depth (Nat.le_of_succ_le_succ hDepth)]
        rfl

theorem items_nil_readAs : ItemsReadAs [] [] :=
  ⟨fun hSome => absurd rfl hSome, fun _ _ => rfl⟩

/- Only nothing is read as no items. -/
theorem ItemsReadAs.eq_nil
    {raws : List RawJson}
    (hItems : ItemsReadAs [] raws) :
    raws = [] := by
  have hStands := hItems.stands 0 (Nat.le_refl 0)
  cases raws with
  | nil => rfl
  | cons raw more =>
      rw [itemsBy?] at hStands
      split at hStands
      · cases hStands
      · rcases Option.map_eq_some_iff.mp hStands with
          ⟨values, _, hValues⟩
        cases hValues

/- An array is read when its items are. -/
theorem ItemsReadAs.array_readsAs
    {items : List Json}
    {raws : List RawJson}
    (hItems : ItemsReadAs items raws) :
    ReadsAs (array items) (.array raws) := by
  cases items with
  | nil =>
      rw [hItems.eq_nil]
      exact array_nil_readsAs
  | cons item more =>
      exact array_cons_readsAs (List.cons_ne_nil _ _) hItems

/- The one item of an array. -/
theorem items_singleton_readAs
    {item : Json}
    {raw : RawJson}
    (hItem : ReadsAs item raw) :
    ItemsReadAs [item] [raw] := by
  constructor
  · intro _ fuel rest hFuel
    rw [writeItems, writeMoreItems, List.length_append,
      List.length_singleton] at hFuel
    rw [writeItems, writeMoreItems, List.append_assoc]
    cases fuel with
    | zero => omega
    | succ fuel =>
        have hEnds : EndsValue ([']'] ++ rest) :=
          endsValue_cons (by decide) rest
        have hScan :=
          hItem.scans fuel ([']'] ++ rest) (by omega) hEnds
        rw [scanItems, hScan]
        rfl
  · intro depth hDepth
    rw [itemsDepth, itemsDepth] at hDepth
    rw [itemsBy?, hItem.stands depth (by omega)]
    rfl

/- An item and the items behind a comma. -/
theorem items_comma_readAs
    {item : Json}
    {items : List Json}
    {raw : RawJson}
    {raws : List RawJson}
    (hSome : items ≠ [])
    (hItem : ReadsAs item raw)
    (hItems : ItemsReadAs items raws) :
    ItemsReadAs (item :: items) (raw :: raws) := by
  have hWrite :
      writeItems (item :: items) =
        item.write ++ ',' :: writeItems items := by
    cases items with
    | nil => exact absurd rfl hSome
    | cons next more => rfl
  constructor
  · intro _ fuel rest hFuel
    rw [hWrite, List.length_append, List.length_cons]
      at hFuel
    rw [hWrite, List.append_assoc, List.cons_append]
    cases fuel with
    | zero => omega
    | succ fuel =>
        have hEnds :
            EndsValue (',' :: (writeItems items ++ rest)) :=
          endsValue_cons (by decide) _
        have hFirst := hItem.scans fuel _ (by omega) hEnds
        have hMore :=
          hItems.scans hSome fuel rest (by omega)
        calc
          scanItems (fuel + 1)
              (item.write ++
                ',' :: (writeItems items ++ rest)) =
            (scanItems fuel (writeItems items ++ rest)).map
              fun r => (raw :: r.1, r.2) := by
            rw [scanItems, hFirst]
            rfl
          _ = some (raw :: raws, rest) := by
            rw [hMore]
            rfl
  · intro depth hDepth
    rw [itemsDepth] at hDepth
    rw [itemsBy?, hItem.stands depth (by omega)]
    dsimp only
    rw [hItems.stands depth (by omega)]
    rfl

theorem items_cons_readAs
    {item : Json}
    {items : List Json}
    {raw : RawJson}
    {raws : List RawJson}
    (hItem : ReadsAs item raw)
    (hItems : ItemsReadAs items raws) :
    ItemsReadAs (item :: items) (raw :: raws) := by
  cases items with
  | nil =>
      rw [hItems.eq_nil]
      exact items_singleton_readAs hItem
  | cons next more =>
      exact
        items_comma_readAs (List.cons_ne_nil _ _) hItem hItems

end Json

end Dashboard

------------------------------------------------------------
-- Objects
------------------------------------------------------------

namespace Dashboard

namespace Json

open RawJson

theorem object_nil_readsAs :
    ReadsAs (object []) (.object []) := by
  constructor
  · intro fuel rest hFuel _
    cases fuel with
    | zero => cases hFuel
    | succ fuel => rfl
  · intro depth hDepth
    cases depth with
    | zero => cases hDepth
    | succ depth => rfl

/- Members start with the quotation mark of a name. -/
theorem exists_writeMembers
    {members : List (String × Json)}
    (hSome : members ≠ []) :
    ∃ opened, writeMembers members = '"' :: opened := by
  cases members with
  | nil => exact absurd rfl hSome
  | cons m more => exact ⟨_, rfl⟩

theorem object_cons_readsAs
    {members : List (String × Json)}
    {raws : List (Option String × RawJson)}
    (hSome : members ≠ [])
    (hMembers : MembersReadAs members raws) :
    ReadsAs (object members) (.object raws) := by
  constructor
  · intro fuel rest hFuel _
    cases fuel with
    | zero => cases hFuel
    | succ fuel =>
        have hScan :=
          hMembers.scans hSome fuel rest
            (Nat.le_of_succ_le_succ hFuel)
        rcases exists_writeMembers hSome with
          ⟨opened, hOpened⟩
        have hQuote :
            skip (writeMembers members ++ rest) =
              '"' :: (opened ++ rest) := by
          rw [hOpened]
          rfl
        have hBrace :
            '\x7b' :: writeMembers members ++ rest =
              Reply.openBrace ::
                (writeMembers members ++ rest) := rfl
        rw [write, hBrace]
        calc
          scanValue (fuel + 1)
              (Reply.openBrace ::
                (writeMembers members ++ rest)) =
            (scanMembers fuel
              (writeMembers members ++ rest)).map
              fun r => (RawJson.object r.1, r.2) := by
            rw [scanValue_openBrace, hQuote]
            rfl
          _ = some (.object raws, rest) := by
            rw [hScan]
            rfl
  · intro depth hDepth
    cases depth with
    | zero => cases hDepth
    | succ depth =>
        rw [valueBy?,
          hMembers.stands depth
            (Nat.le_of_succ_le_succ hDepth)]
        rfl

theorem members_nil_readAs : MembersReadAs [] [] :=
  ⟨fun hSome => absurd rfl hSome, fun _ _ => rfl⟩

/- Only nothing is read as no members. -/
theorem MembersReadAs.eq_nil
    {raws : List (Option String × RawJson)}
    (hMembers : MembersReadAs [] raws) :
    raws = [] := by
  have hStands := hMembers.stands 0 (Nat.le_refl 0)
  rcases raws with _ | ⟨⟨_ | name, raw⟩, more⟩
  · rfl
  · cases hStands
  · rw [membersBy?] at hStands
    split at hStands
    · cases hStands
    · rcases Option.map_eq_some_iff.mp hStands with
        ⟨values, _, hValues⟩
      cases hValues

/- An object is read when its members are. -/
theorem MembersReadAs.object_readsAs
    {members : List (String × Json)}
    {raws : List (Option String × RawJson)}
    (hMembers : MembersReadAs members raws) :
    ReadsAs (object members) (.object raws) := by
  cases members with
  | nil =>
      rw [hMembers.eq_nil]
      exact object_nil_readsAs
  | cons m more =>
      exact object_cons_readsAs (List.cons_ne_nil _ _) hMembers

/- A name and its value before the closing brace. -/
theorem scanMembers_close
    {fuel : Nat}
    {opened afterColon after : List Char}
    {name : Option String}
    {raw : RawJson}
    (hName :
      scanString opened = some (name, ':' :: afterColon))
    (hValue :
      scanValue fuel afterColon =
        some (raw, '\x7d' :: after)) :
    scanMembers (fuel + 1) ('"' :: opened) =
      some ([(name, raw)], after) := by
  have hQuote : skip ('"' :: opened) = '"' :: opened := rfl
  have hColon :
      skip (':' :: afterColon) = ':' :: afterColon := rfl
  have hClose :
      skip ('\x7d' :: after) = '\x7d' :: after := rfl
  simp only [scanMembers, hQuote, hName, hColon, hValue,
    hClose]

/- A name and its value before a comma. -/
theorem scanMembers_comma
    {fuel : Nat}
    {opened afterColon more : List Char}
    {name : Option String}
    {raw : RawJson}
    (hName :
      scanString opened = some (name, ':' :: afterColon))
    (hValue :
      scanValue fuel afterColon = some (raw, ',' :: more)) :
    scanMembers (fuel + 1) ('"' :: opened) =
      (scanMembers fuel more).map fun r =>
        ((name, raw) :: r.1, r.2) := by
  have hQuote : skip ('"' :: opened) = '"' :: opened := rfl
  have hColon :
      skip (':' :: afterColon) = ':' :: afterColon := rfl
  have hComma : skip (',' :: more) = ',' :: more := rfl
  simp only [scanMembers, hQuote, hName, hColon, hValue,
    hComma]

/- The one member of an object. -/
theorem members_singleton_readAs
    (name : String)
    {value : Json}
    {raw : RawJson}
    (hValue : ReadsAs value raw) :
    MembersReadAs [(name, value)] [(some name, raw)] := by
  constructor
  · intro _ fuel rest hFuel
    have hText :
        writeMembers [(name, value)] ++ rest =
          writeString name.toList ++
            ':' :: (value.write ++ '\x7d' :: rest) := by
      simp [writeMembers, writeMoreMembers]
    rcases scanString_writeString name.toList
        (':' :: (value.write ++ '\x7d' :: rest)) with
      ⟨opened, hOpened, hName⟩
    rw [String.ofList_toList] at hName
    simp only [writeMembers, List.length_append,
      List.length_cons] at hFuel
    cases fuel with
    | zero => omega
    | succ fuel =>
        have hEnds : EndsValue ('\x7d' :: rest) :=
          endsValue_cons (by decide) rest
        have hFirst := hValue.scans fuel _ (by omega) hEnds
        rw [hText, hOpened]
        exact scanMembers_close hName hFirst
  · intro depth hDepth
    rw [membersDepth, membersDepth] at hDepth
    rw [membersBy?, hValue.stands depth (by omega)]
    rfl

/- A member and the members behind a comma. -/
theorem members_comma_readAs
    (name : String)
    {value : Json}
    {members : List (String × Json)}
    {raw : RawJson}
    {raws : List (Option String × RawJson)}
    (hSome : members ≠ [])
    (hValue : ReadsAs value raw)
    (hMembers : MembersReadAs members raws) :
    MembersReadAs ((name, value) :: members)
      ((some name, raw) :: raws) := by
  have hWrite :
      writeMembers ((name, value) :: members) =
        writeString name.toList ++
          ':' :: value.write ++ ',' :: writeMembers members
      := by
    cases members with
    | nil => exact absurd rfl hSome
    | cons next more =>
        simp [writeMembers, writeMoreMembers]
  constructor
  · intro _ fuel rest hFuel
    have hText :
        writeMembers ((name, value) :: members) ++ rest =
          writeString name.toList ++
            ':' :: (value.write ++
              ',' :: (writeMembers members ++ rest)) := by
      simp [hWrite]
    rcases scanString_writeString name.toList
        (':' :: (value.write ++
          ',' :: (writeMembers members ++ rest))) with
      ⟨opened, hOpened, hName⟩
    rw [String.ofList_toList] at hName
    simp only [hWrite, List.length_append, List.length_cons]
      at hFuel
    cases fuel with
    | zero => omega
    | succ fuel =>
        have hEnds :
            EndsValue (',' :: (writeMembers members ++ rest))
            :=
          endsValue_cons (by decide) _
        have hFirst := hValue.scans fuel _ (by omega) hEnds
        have hMore :=
          hMembers.scans hSome fuel rest (by omega)
        rw [hText, hOpened, scanMembers_comma hName hFirst,
          hMore]
        rfl
  · intro depth hDepth
    rw [membersDepth] at hDepth
    rw [membersBy?, hValue.stands depth (by omega)]
    dsimp only
    rw [hMembers.stands depth (by omega)]
    rfl

theorem members_cons_readAs
    (name : String)
    {value : Json}
    {members : List (String × Json)}
    {raw : RawJson}
    {raws : List (Option String × RawJson)}
    (hValue : ReadsAs value raw)
    (hMembers : MembersReadAs members raws) :
    MembersReadAs ((name, value) :: members)
      ((some name, raw) :: raws) := by
  cases members with
  | nil =>
      rw [hMembers.eq_nil]
      exact members_singleton_readAs name hValue
  | cons next more =>
      exact
        members_comma_readAs name (List.cons_ne_nil _ _)
          hValue hMembers

end Json

end Dashboard

------------------------------------------------------------
-- Round Trip
------------------------------------------------------------

namespace Dashboard

namespace Json

open RawJson

mutual

/- Every value whose numbers are kept is read. -/
theorem exists_readsAs :
    ∀ json : Json,
      (∀ n ∈ json.numbers, n.Kept) →
        ∃ raw, ReadsAs json raw
  | null, _ => ⟨_, null_readsAs⟩
  | bool value, _ => ⟨_, bool_readsAs value⟩
  | number n, hKept => by
      rcases hKept n (List.mem_singleton_self n) with
        ⟨numeral, hScan, hNumber⟩
      exact ⟨_, number_readsAs hScan hNumber⟩
  | string value, _ => ⟨_, string_readsAs value⟩
  | array items, hKept => by
      rcases exists_itemsReadAs items hKept with
        ⟨raws, hRaws⟩
      exact ⟨_, hRaws.array_readsAs⟩
  | object members, hKept => by
      rcases exists_membersReadAs members hKept with
        ⟨raws, hRaws⟩
      exact ⟨_, hRaws.object_readsAs⟩

/- All items are read. -/
theorem exists_itemsReadAs :
    ∀ items : List Json,
      (∀ n ∈ itemNumbers items, n.Kept) →
        ∃ raws, ItemsReadAs items raws
  | [], _ => ⟨[], items_nil_readAs⟩
  | item :: items, hKept => by
      rcases exists_readsAs item fun n hMem =>
          hKept n (List.mem_append_left _ hMem) with
        ⟨raw, hRaw⟩
      rcases exists_itemsReadAs items fun n hMem =>
          hKept n (List.mem_append_right _ hMem) with
        ⟨raws, hRaws⟩
      exact ⟨_, items_cons_readAs hRaw hRaws⟩

/- All members are read. -/
theorem exists_membersReadAs :
    ∀ members : List (String × Json),
      (∀ n ∈ memberNumbers members, n.Kept) →
        ∃ raws, MembersReadAs members raws
  | [], _ => ⟨[], members_nil_readAs⟩
  | (name, value) :: members, hKept => by
      rcases exists_readsAs value fun n hMem =>
          hKept n (List.mem_append_left _ hMem) with
        ⟨raw, hRaw⟩
      rcases exists_membersReadAs members fun n hMem =>
          hKept n (List.mem_append_right _ hMem) with
        ⟨raws, hRaws⟩
      exact ⟨_, members_cons_readAs name hRaw hRaws⟩

end

/- The text of a value is read. -/
theorem ReadsAs.read?_write
    {json : Json}
    {raw : RawJson}
    (hRaw : ReadsAs json raw) :
    read? json.write = some raw := by
  have hScan : scan json.write = some (raw, []) := by
    have hRead :=
      hRaw.scans (2 * json.write.length + 2) []
        (by omega) endsValue_nil
    rw [List.append_nil] at hRead
    exact hRead
  rw [read?, hScan]
  rfl

/-
  A value that is not nested too deeply and whose numbers are
  kept is read back with its members in order.
-/
theorem parse?_print
    {json : Json}
    (hKeeps : json.Keeps deepestNesting) :
    parse? json.print = some json.sorted := by
  rcases exists_readsAs json hKeeps.kept with ⟨raw, hRaw⟩
  rw [parse?, print, String.toList_ofList, hRaw.read?_write]
  exact hRaw.stands deepestNesting hKeeps.shallow

end Json

end Dashboard

------------------------------------------------------------
-- Numbers That Are Read Back
------------------------------------------------------------

namespace Dashboard

/- To be read back and to be kept are the same. -/
theorem Double.readsBack_iff_kept
    {x : Double}
    (hFinite : x.isFinite = true) :
    x.ReadsBack ↔ (JsonNumber.float x).Kept := by
  constructor
  · exact JsonNumber.kept_float hFinite
  · intro hKept _
    exact Json.parse?_print (Json.number_keeps hKept _)

end Dashboard
