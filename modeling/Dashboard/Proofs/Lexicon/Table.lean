import Dashboard.Proofs.Lexicon.Extension
import Mathlib.Data.List.Nodup

/-
  Tables as ordered maps: an entry takes the place of the one
  with its key, or stands at the end.  Keys stay different,
  the last entry of a key is the one that is found, and keys
  stand in the order in which they came first.

  Key definitions include:
    * `putKeyed`
    * `IsKeyed`

  Main declarations:
    * `find?_foldl_putKeyed`
    * `map_key_foldl_putKeyed`
    * `isKeyed_foldl_putKeyed`
-/

------------------------------------------------------------
-- Lists
------------------------------------------------------------

namespace Dashboard

theorem findRev?_map
    {α β : Type}
    (f : β → α)
    (p : α → Bool)
    (entries : List β) :
    (entries.map f).findRev? p =
      (entries.findRev? fun e => p (f e)).map f := by
  rw [List.findRev?_eq_find?_reverse, ← List.map_reverse,
    List.find?_map, List.findRev?_eq_find?_reverse]
  rfl

/- Only the first one of several equal names is kept. -/
theorem eraseDups_append_singleton
    (names : List String)
    (name : String) :
    (names ++ [name]).eraseDups =
      if name ∈ names then
        names.eraseDups
      else
        names.eraseDups ++ [name] := by
  rw [List.eraseDups_append, List.removeAll]
  split
  · simp [*]
  · simp [*, List.eraseDups_cons]

end Dashboard

------------------------------------------------------------
-- Single Entries
------------------------------------------------------------

namespace Dashboard

variable {α : Type} {p : α → Bool}

/- An entry is found in the place of what it replaces. -/
theorem find?_putEntry
    {entry : α}
    (hEntry : p entry = true)
    (table : List α) :
    (putEntry p entry table).find? p = some entry := by
  induction table with
  | nil => simp [putEntry, hEntry]
  | cons old rest ih =>
      by_cases hOld : p old = true
      · simp [putEntry, hOld, hEntry]
      · simp [putEntry, hOld, ih]

/- What is not concerned is found as before. -/
theorem find?_putEntry_of_not
    {replaces : α → Bool}
    {entry : α}
    (hEntry : p entry = false)
    (hReplaces : ∀ old, replaces old = true → p old = false)
    (table : List α) :
    (putEntry replaces entry table).find? p =
      table.find? p := by
  rw [← List.head?_filter, filter_putEntry hEntry hReplaces,
    List.head?_filter]

/- An entry may be put into the part that concerns it. -/
theorem filter_putEntry_of_pos
    {replaces : α → Bool}
    {entry : α}
    (hEntry : p entry = true)
    (hReplaces : ∀ old, replaces old = true → p old = true)
    (table : List α) :
    (putEntry replaces entry table).filter p =
      putEntry replaces entry (table.filter p) := by
  induction table with
  | nil => simp [putEntry, hEntry]
  | cons old rest ih =>
      by_cases hOld : replaces old = true
      · simp [putEntry, hOld, hEntry, hReplaces old hOld]
      · by_cases hKept : p old = true
        · simp [putEntry, hOld, hKept, ih]
        · simp [putEntry, hOld, hKept, ih]

theorem mem_of_mem_putEntry
    {replaces : α → Bool}
    {entry e : α}
    {table : List α}
    (hMem : e ∈ putEntry replaces entry table) :
    e = entry ∨ e ∈ table := by
  induction table with
  | nil => exact .inl (List.mem_singleton.mp hMem)
  | cons old rest ih =>
      rw [putEntry] at hMem
      split at hMem
      · rcases List.mem_cons.mp hMem with hNew | hRest
        · exact .inl hNew
        · exact .inr (List.mem_cons_of_mem _ hRest)
      · rcases List.mem_cons.mp hMem with rfl | hRest
        · exact .inr List.mem_cons_self
        · rcases ih hRest with hNew | hOld
          · exact .inl hNew
          · exact .inr (List.mem_cons_of_mem _ hOld)

end Dashboard

------------------------------------------------------------
-- Keyed Entries
------------------------------------------------------------

namespace Dashboard

variable {α : Type} (key : α → String)

/- Put an entry in the place of the one with its key. -/
def putKeyed (table : List α) (entry : α) : List α :=
  putEntry (fun old => key old == key entry) entry table

/- An entry is found by its own key, and by no other. -/
theorem find?_putKeyed
    (table : List α)
    (entry : α)
    (name : String) :
    (putKeyed key table entry).find? (fun e => key e == name) =
      if key entry = name then
        some entry
      else
        table.find? fun e => key e == name := by
  unfold putKeyed
  by_cases hName : key entry = name
  · subst hName
    rw [if_pos rfl]
    exact
      find?_putEntry (p := fun e => key e == key entry)
        (beq_self_eq_true (key entry)) table
  · rw [if_neg hName]
    apply find?_putEntry_of_not
    · exact beq_eq_false_iff_ne.mpr hName
    · intro old hOld
      rw [beq_iff_eq.mp hOld]
      exact beq_eq_false_iff_ne.mpr hName

/- A key that is new stands at the end of the others. -/
theorem map_key_putKeyed
    (table : List α)
    (entry : α) :
    (putKeyed key table entry).map key =
      if key entry ∈ table.map key then
        table.map key
      else
        table.map key ++ [key entry] := by
  unfold putKeyed
  induction table with
  | nil => rfl
  | cons old rest ih =>
      by_cases hOld : key old = key entry
      · simp [putEntry, hOld]
      · have hOther : ¬ key entry = key old := Ne.symm hOld
        rw [putEntry, beq_eq_false_iff_ne.mpr hOld,
          if_neg Bool.false_ne_true, List.map_cons, ih]
        simp only [List.map_cons, List.mem_cons, hOther,
          false_or]
        split
        · rfl
        · rfl

/-
  The keys of a table are different from each other and in
  lowercase.
-/
structure IsKeyed (table : List α) : Prop where
  nodup : (table.map key).Nodup
  lower : ∀ e ∈ table, Text.lower (key e) = key e

variable {key}

theorem isKeyed_putKeyed
    {table : List α}
    (hKeyed : IsKeyed key table)
    {entry : α}
    (hLower : Text.lower (key entry) = key entry) :
    IsKeyed key (putKeyed key table entry) where
  nodup := by
    rw [map_key_putKeyed]
    split
    · exact hKeyed.nodup
    · rename_i hNew
      exact List.concat_eq_append ▸ hKeyed.nodup.concat hNew
  lower := by
    intro e hMem
    rcases mem_of_mem_putEntry hMem with rfl | hOld
    · exact hLower
    · exact hKeyed.lower e hOld

end Dashboard

------------------------------------------------------------
-- Runs Of Entries
------------------------------------------------------------

namespace Dashboard

variable {α : Type} (key : α → String)

/- The last entry of a key is found, or the one before all. -/
theorem find?_foldl_putKeyed
    (entries table : List α)
    (name : String) :
    (entries.foldl (putKeyed key) table).find?
        (fun e => key e == name) =
      (entries.findRev? fun e => key e == name).or
        (table.find? fun e => key e == name) := by
  induction entries generalizing table with
  | nil => rfl
  | cons entry rest ih =>
      rw [List.foldl_cons, ih, find?_putKeyed, List.findRev?]
      cases rest.findRev? fun e => key e == name with
      | some last => rfl
      | none =>
          by_cases hName : key entry = name
          · simp [hName]
          · simp [hName]

/- The names that are not in a list, each one once. -/
def newNames (names known : List String) : List String :=
  (names.filter fun name => name ∉ known).eraseDups

/- One more name is new once. -/
theorem newNames_append_singleton
    (names known : List String)
    (name : String) :
    newNames (names ++ [name]) known =
      if name ∈ known ++ newNames names known then
        newNames names known
      else
        newNames names known ++ [name] := by
  unfold newNames
  rw [List.filter_append]
  by_cases hKnown : name ∈ known
  · simp [hKnown]
  · rw [List.filter_singleton, decide_eq_true hKnown, cond_true,
      eraseDups_append_singleton]
    simp [hKnown]

/-
  The keys from before keep their places, and new ones follow
  in the order in which they come first.
-/
theorem map_key_foldl_putKeyed
    (entries table : List α) :
    (entries.foldl (putKeyed key) table).map key =
      table.map key ++
        newNames (entries.map key) (table.map key) := by
  -- from the end, where a new key gets its place
  induction entries using List.reverseRecOn with
  | nil => exact (List.append_nil _).symm
  | append_singleton entries entry ih =>
      rw [List.foldl_append, List.foldl_cons, List.foldl_nil,
        map_key_putKeyed, ih, List.map_append,
        List.map_singleton, newNames_append_singleton]
      split
      · rfl
      · exact List.append_assoc _ _ _

variable {key}

theorem isKeyed_foldl_putKeyed
    {entries table : List α}
    (hKeyed : IsKeyed key table)
    (hLower : ∀ e ∈ entries, Text.lower (key e) = key e) :
    IsKeyed key (entries.foldl (putKeyed key) table) := by
  induction entries generalizing table with
  | nil => exact hKeyed
  | cons entry rest ih =>
      rw [List.forall_mem_cons] at hLower
      exact ih (isKeyed_putKeyed hKeyed hLower.1) hLower.2

end Dashboard
