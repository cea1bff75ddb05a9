import Mathlib.Data.List.Basic

/-! Values under names, in any order, of which each name may have one. A reader
that refuses a second value under a name has to know what it was given before,
so what it comes to is told from there on. -/
namespace AuthorNames.GivenOnce

variable {κ α β : Type} [DecidableEq κ] {writes : α → β → Prop}

/-- The values under a name, in order. -/
def valuesOf (name : κ) (entries : List (κ × β)) : List β :=
  (entries.filter (·.1 = name)).map Prod.snd

theorem valuesOf_cons_same (name : κ) (value : β) (entries : List (κ × β)) :
    valuesOf name ((name, value) :: entries) = value :: valuesOf name entries := by
  simp [valuesOf]

theorem valuesOf_cons_other {name other : κ} (different : other ≠ name) (value : β) (entries : List (κ × β)) :
    valuesOf name ((other, value) :: entries) = valuesOf name entries := by
  simp [valuesOf, different]

theorem mem_of_mem_valuesOf {name : κ} {value : β} {entries : List (κ × β)} (member : value ∈ valuesOf name entries) :
    (name, value) ∈ entries := by
  obtain ⟨entry, kept, rfl⟩ := List.mem_map.mp member
  obtain ⟨present, named⟩ := List.mem_filter.mp kept
  rwa [← of_decide_eq_true named]

/-- What is given: nothing under the name, or one value that is written so. -/
def Gives (writes : α → β → Prop) : Option α → List β → Prop
  | none, values => values = []
  | some value, values => ∃ text, writes value text ∧ values = [text]

/-- What values lead to once something may have been given: more than one value
under the name leads nowhere. -/
def Completes (writes : α → β → Prop) : Option α → List β → Option α → Prop
  | none, values, after => Gives writes after values
  | some value, values, after => values = [] ∧ after = some value

/-- With no value under the name what was given stays as it is. -/
theorem completes_nil {before after : Option α} (completes : Completes writes before [] after) :
    after = before := by
  cases before with
  | some value => exact completes.2
  | none =>
    cases after with
    | none => rfl
    | some value =>
      obtain ⟨text, -, single⟩ := completes
      exact absurd single (List.cons_ne_nil _ _).symm

/-- A value is the first of its name, and the last. -/
theorem completes_cons {before after : Option α} {text : β} {values : List β}
    (completes : Completes writes before (text :: values) after) :
    before = none ∧ ∃ value, writes value text ∧ Completes writes (some value) values after := by
  cases before with
  | some value => exact absurd completes.1 (List.cons_ne_nil _ _)
  | none =>
    cases after with
    | none => exact absurd completes (List.cons_ne_nil _ _)
    | some value =>
      obtain ⟨only, written, single⟩ := completes
      cases single
      exact ⟨rfl, value, written, rfl, rfl⟩

end AuthorNames.GivenOnce
