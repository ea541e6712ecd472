import Dashboard.Proofs.Pattern.Follow
import Dashboard.Proofs.Text.Mask

/-
  Patterns in texts whose digits are masked.  A pattern that
  treats all digits alike goes the same ways through a text
  and through its masked form, so it finds the same match in
  both, masked in the second.

  Key definitions include:
    * `Match.mask`
    * `Pattern.ignoresDigits`

  Main declarations:
    * `Pattern.follow_mask`
    * `Pattern.find_mask`
    * `Pattern.fits_mask`
-/

------------------------------------------------------------
-- Masked Places
------------------------------------------------------------

namespace Dashboard

/- The same place of the masked text. -/
def Place.mask (place : Place) : Place :=
  ⟨Text.mask place.before, Text.mask place.after⟩

/- The same part of the masked text. -/
def Span.mask (span : Span) : Span :=
  ⟨span.start.mask, span.stop.mask⟩

/- The same match in the masked text. -/
def Match.mask (found : Match) : Match :=
  ⟨found.whole.mask, found.groups.map Span.mask⟩

theorem Span.text_mask (span : Span) :
    span.mask.text = Text.mask span.text := by
  simp [Span.text, mask, Place.mask, Text.mask,
    List.map_take]

theorem Match.head_mask (found : Match) :
    found.mask.head = Text.mask found.head := by
  simp [head, mask, Span.mask, Place.mask, Text.mask]

theorem Match.group?_mask
    (found : Match)
    (index : Nat) :
    found.mask.group? index =
      (found.group? index).map Text.mask := by
  have hText : Span.text ∘ Span.mask = Text.mask ∘ Span.text :=
    funext Span.text_mask
  unfold group? mask
  rw [List.getElem?_map, Option.map_map, Option.map_map, hText]

end Dashboard

------------------------------------------------------------
-- Patterns That Treat All Digits Alike
------------------------------------------------------------

namespace Dashboard

namespace Pattern

/- A pattern that accepts all digits or none, everywhere. -/
def ignoresDigits : Pattern → Bool
  | nothing => true
  | char accepts => Text.ignoresDigits accepts
  | run accepts => Text.ignoresDigits accepts
  | edge => true
  | both first second =>
      first.ignoresDigits && second.ignoresDigits
  | either first second =>
      first.ignoresDigits && second.ignoresDigits
  | group body => body.ignoresDigits

variable {α : Type}

theorem followRun_mask
    {accepts : Char → Bool}
    (hIgnores : Text.ignoresDigits accepts = true)
    (next : Place → Option α)
    (before after : List Char) :
    followRun accepts next (Text.mask before)
        (Text.mask after) =
      followRun accepts (fun stop => next stop.mask) before
        after := by
  induction after generalizing before with
  | nil => rfl
  | cons c rest ih =>
      have hMore := ih (c :: before)
      rw [Text.mask_cons] at hMore ⊢
      rw [followRun_cons, followRun_cons, hMore,
        Text.apply_maskDigit hIgnores]
      rfl

/-
  The ways through a masked text are those through the text
  itself.
-/
theorem follow_mask
    {pattern : Pattern}
    (hIgnores : pattern.ignoresDigits = true)
    (place : Place)
    (groups : List Span)
    (next : Place → List Span → Option α) :
    pattern.follow place.mask (groups.map Span.mask) next =
      pattern.follow place groups fun stop found =>
        next stop.mask (found.map Span.mask) := by
  induction pattern generalizing place groups next with
  | nothing => rfl
  | char accepts =>
      rcases place with ⟨before, after⟩
      cases after with
      | nil => rfl
      | cons c rest =>
          have hClass := Text.apply_maskDigit hIgnores c
          simp [Place.mask, follow_char_cons, hClass]
  | run accepts =>
      exact followRun_mask hIgnores _ place.before place.after
  | edge =>
      have hEdge :=
        Text.isEdge_mask place.before.head? place.after.head?
      rw [follow_edge, follow_edge, ← hEdge,
        ← List.head?_map, ← List.head?_map]
      rfl
  | both first second ihFirst ihSecond =>
      rw [ignoresDigits, Bool.and_eq_true] at hIgnores
      simp only [follow_both, ihFirst hIgnores.1,
        ihSecond hIgnores.2]
  | either first second ihFirst ihSecond =>
      rw [ignoresDigits, Bool.and_eq_true] at hIgnores
      rw [follow_either, follow_either, ihFirst hIgnores.1,
        ihSecond hIgnores.2]
  | group body ih =>
      rw [follow_group, follow_group, ih hIgnores]
      simp [Span.mask]

end Pattern

end Dashboard

------------------------------------------------------------
-- Searches
------------------------------------------------------------

namespace Dashboard

namespace Pattern

variable {pattern : Pattern}

theorem matchAt_mask
    (hIgnores : pattern.ignoresDigits = true)
    (place : Place) :
    pattern.matchAt place.mask =
      (pattern.matchAt place).map Match.mask := by
  have hFollow :=
    follow_mask hIgnores place [] fun stop groups =>
      some (Match.mk ⟨place.mask, stop⟩ groups)
  rw [List.map_nil] at hFollow
  unfold matchAt
  rw [hFollow, ← follow_map]
  rfl

theorem findAfter_mask
    (hIgnores : pattern.ignoresDigits = true)
    (before text : List Char) :
    pattern.findAfter (Text.mask before) (Text.mask text) =
      (pattern.findAfter before text).map Match.mask := by
  induction text generalizing before with
  | nil => exact matchAt_mask hIgnores ⟨before, []⟩
  | cons c rest ih =>
      have hHere := matchAt_mask hIgnores ⟨before, c :: rest⟩
      have hMore := ih (c :: before)
      simp only [Place.mask, Text.mask_cons]
        at hHere hMore ⊢
      rw [findAfter, findAfter, hHere, hMore]
      cases pattern.matchAt ⟨before, c :: rest⟩ with
      | none => rfl
      | some found => rfl

/- The match in a masked text is that in the text, masked. -/
theorem find_mask
    (hIgnores : pattern.ignoresDigits = true)
    (text : List Char) :
    pattern.find (Text.mask text) =
      (pattern.find text).map Match.mask :=
  findAfter_mask hIgnores [] text

theorem fits_mask
    (hIgnores : pattern.ignoresDigits = true)
    (text : List Char) :
    pattern.fits (Text.mask text) = pattern.fits text := by
  unfold fits
  rw [find_mask hIgnores, Option.isSome_map]

end Pattern

end Dashboard
