import Mathlib.Data.List.Basic

/-!
# Lists that are written over each other

A list that is written over another one takes the place of its front, and what
is behind it stays.  After several ones, each place holds what the last list
that reaches so far has there.
-/

namespace Overlay

variable {α : Type*} {text buffer whole : List α} {texts : List (List α)}
variable {place limit : Nat}

/-- A list over the front of another one. -/
def lay (text buffer : List α) : List α := text ++ buffer.drop text.length

/-- Lists that are written one after the other. -/
def layAll (buffer : List α) (texts : List (List α)) : List α :=
  texts.foldl (fun buffer text => lay text buffer) buffer

theorem getElem?_lay :
    (lay text buffer)[place]? = text[place]?.or buffer[place]? := by
  rw [lay]
  by_cases within : place < text.length
  · rw [List.getElem?_append_left within, List.getElem?_eq_getElem within,
      Option.some_or]
  · have beyond := Nat.not_lt.mp within
    rw [List.getElem?_append_right beyond, List.getElem?_drop,
      List.getElem?_eq_none beyond, Option.none_or,
      Nat.add_sub_cancel' beyond]

theorem length_lay_le (fits : text.length ≤ limit)
    (bufferFits : buffer.length ≤ limit) :
    (lay text buffer).length ≤ limit := by
  rw [lay, List.length_append, List.length_drop]
  omega

/-- Each place holds what the last list that reaches it has there. -/
theorem getElem?_layAll :
    (layAll buffer texts)[place]? =
      (texts.reverse.findSome? (·[place]?)).or buffer[place]? := by
  induction texts generalizing buffer with
  | nil => rfl
  | cons text texts induction =>
      have later := @induction (lay text buffer)
      rw [getElem?_lay] at later
      have single : [text].findSome? (·[place]?) = text[place]? := by
        rw [List.findSome?_cons]
        cases text[place]? with
        | none => rfl
        | some value => rfl
      rw [List.reverse_cons, List.findSome?_append, Option.or_assoc, single]
      exact later

/-- What lists leave where nothing was. -/
theorem layAll_nil_eq_iff :
    layAll [] texts = whole ↔
      ∀ place : Nat, whole[place]? = texts.reverse.findSome? (·[place]?) := by
  rw [List.ext_getElem?_iff]
  apply forall_congr'
  intro place
  rw [getElem?_layAll, List.getElem?_nil, Option.or_none, eq_comm]

end Overlay
