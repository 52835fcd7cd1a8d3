import Mathlib
import CampusBooking.Booking

/-!
# Lists of keyed entries

The stores keep their maps as lists of `(key, value)` entries: the open rooms of a campus
under `(date, room)`, the timeslots of a room under the timeslot.  A key is read at its
first entry (`lookup`); the store gives a key a new value in place (`replace`) or drops
the entries of a key (a `filter`).

This module states what these do to lookups and to sums over the entries.  Where the keys
are unique (`(l.map Prod.fst).Nodup`), a list behaves as a finite map: an entry is a
lookup, replacing a value changes a sum by the difference of the two values, and dropping
a key takes its value out of a sum.
-/

namespace CampusBooking
namespace Keyed

variable {κ ν : Type} [DecidableEq κ]

/-- The value of the first entry under a key. -/
def lookup (l : List (κ × ν)) (k : κ) : Option ν := (l.find? (·.1 = k)).map (·.2)

/-- Gives every entry under a key the value `v`, in place. -/
def replace (l : List (κ × ν)) (k : κ) (v : ν) : List (κ × ν) :=
  l.map fun e => if e.1 = k then (k, v) else e

@[simp] theorem lookup_nil (k : κ) : lookup ([] : List (κ × ν)) k = none := rfl

@[simp] theorem lookup_cons (k' k : κ) (v : ν) (l : List (κ × ν)) :
    lookup ((k', v) :: l) k = if k' = k then some v else lookup l k := by
  by_cases h : k' = k <;> simp [lookup, h]

@[simp] theorem replace_nil (k : κ) (v : ν) : replace ([] : List (κ × ν)) k v = [] := rfl

@[simp] theorem replace_cons (k' k : κ) (v' v : ν) (l : List (κ × ν)) :
    replace ((k', v') :: l) k v = (if k' = k then (k, v) else (k', v')) :: replace l k v := rfl

theorem lookup_eq_none_iff {l : List (κ × ν)} {k : κ} : lookup l k = none ↔ k ∉ l.map Prod.fst := by
  induction l with
  | nil => simp
  | cons e l ih =>
    obtain ⟨k', v'⟩ := e
    by_cases h : k' = k
    · subst h
      simp
    · rw [lookup_cons, if_neg h, ih]
      simp [Ne.symm h]

theorem lookup_eq_some_of_mem {l : List (κ × ν)} {k : κ} {v : ν} (hl : (l.map Prod.fst).Nodup)
    (hmem : (k, v) ∈ l) : lookup l k = some v := by
  induction l with
  | nil => cases hmem
  | cons e l ih =>
    obtain ⟨k', v'⟩ := e
    rw [List.map_cons, List.nodup_cons] at hl
    rcases List.mem_cons.mp hmem with heq | hrest
    · cases heq
      simp
    · have hne : k' ≠ k := by
        rintro rfl
        exact hl.1 (List.mem_map.mpr ⟨_, hrest, rfl⟩)
      rw [lookup_cons, if_neg hne]
      exact ih hl.2 hrest

theorem mem_of_lookup_eq_some {l : List (κ × ν)} {k : κ} {v : ν} (h : lookup l k = some v) :
    (k, v) ∈ l := by
  induction l with
  | nil => cases h
  | cons e l ih =>
    obtain ⟨k', v'⟩ := e
    rw [lookup_cons] at h
    split at h
    · cases h
      subst k'
      exact List.mem_cons_self
    · exact List.mem_cons_of_mem _ (ih h)

theorem lookup_eq_some_iff {l : List (κ × ν)} {k : κ} {v : ν} (hl : (l.map Prod.fst).Nodup) :
    lookup l k = some v ↔ (k, v) ∈ l :=
  ⟨mem_of_lookup_eq_some, lookup_eq_some_of_mem hl⟩

/-! ## Replacing a value -/

theorem lookup_replace (l : List (κ × ν)) (k k' : κ) (v : ν) :
    lookup (replace l k v) k' = if k = k' then (lookup l k).map (fun _ => v) else lookup l k' := by
  induction l with
  | nil => simp
  | cons e l ih =>
    obtain ⟨k'', v''⟩ := e
    by_cases h₁ : k'' = k
    · subst k''
      by_cases h₂ : k = k'
      · simp [h₂]
      · simp [h₂, ih]
    · by_cases h₂ : k'' = k'
      · subst k''
        have h₃ : k ≠ k' := fun h => h₁ h.symm
        simp [h₁, h₃]
      · simp [h₁, h₂, ih]

theorem map_fst_replace (l : List (κ × ν)) (k : κ) (v : ν) :
    (replace l k v).map Prod.fst = l.map Prod.fst := by
  induction l with
  | nil => rfl
  | cons e l ih =>
    obtain ⟨k', v'⟩ := e
    by_cases h : k' = k <;> simp [h, ih]

theorem mem_replace {l : List (κ × ν)} {k : κ} {v : ν} {e : κ × ν} (he : e ∈ replace l k v) :
    e ∈ l ∨ e = (k, v) := by
  obtain ⟨e', he', rfl⟩ := List.mem_map.mp he
  by_cases h : e'.1 = k
  · exact Or.inr (if_pos h)
  · rw [if_neg h]
    exact Or.inl he'

theorem replace_of_not_mem {l : List (κ × ν)} {k : κ} (hk : k ∉ l.map Prod.fst) (v : ν) :
    replace l k v = l := by
  induction l with
  | nil => rfl
  | cons e l ih =>
    obtain ⟨k', v'⟩ := e
    have hne : k' ≠ k := fun h => hk (by simp [h])
    have hl : k ∉ l.map Prod.fst := fun h => hk (List.mem_cons_of_mem _ h)
    rw [replace_cons, if_neg hne, ih hl]

theorem replace_replace (l : List (κ × ν)) (k : κ) (v v' : ν) :
    replace (replace l k v) k v' = replace l k v' := by
  induction l with
  | nil => rfl
  | cons e l ih =>
    obtain ⟨k', w⟩ := e
    by_cases h : k' = k <;> simp [h, ih]

theorem lookup_append_singleton (l : List (κ × ν)) (k k' : κ) (v : ν) :
    lookup (l ++ [(k, v)]) k' = (lookup l k').or (if k = k' then some v else none) := by
  induction l with
  | nil => by_cases h : k = k' <;> simp [h]
  | cons e l ih =>
    obtain ⟨k'', w⟩ := e
    by_cases h : k'' = k' <;> simp [h, ih]

/-- Giving a key the value it has changes nothing. -/
theorem replace_self {l : List (κ × ν)} {k : κ} {v : ν} (hl : (l.map Prod.fst).Nodup)
    (hk : lookup l k = some v) : replace l k v = l := by
  induction l with
  | nil => cases hk
  | cons e l ih =>
    obtain ⟨k', v'⟩ := e
    rw [List.map_cons, List.nodup_cons] at hl
    rw [lookup_cons] at hk
    by_cases h : k' = k
    · subst k'
      rw [if_pos rfl] at hk
      cases hk
      rw [replace_cons, if_pos rfl, replace_of_not_mem hl.1]
    · rw [if_neg h] at hk
      rw [replace_cons, if_neg h, ih hl.2 hk]

/-- Replacing the value of a key changes a sum over the entries by the two values. -/
theorem sum_replace (f : κ × ν → Nat) {l : List (κ × ν)} {k : κ} {v₀ : ν}
    (hl : (l.map Prod.fst).Nodup) (hk : lookup l k = some v₀) (v : ν) :
    ((replace l k v).map f).sum + f (k, v₀) = (l.map f).sum + f (k, v) := by
  induction l with
  | nil => cases hk
  | cons e l ih =>
    obtain ⟨k', v'⟩ := e
    rw [List.map_cons, List.nodup_cons] at hl
    rw [lookup_cons] at hk
    by_cases h : k' = k
    · subst k'
      rw [if_pos rfl] at hk
      cases hk
      simp only [replace_cons, if_pos, replace_of_not_mem hl.1, List.map_cons, List.sum_cons]
      omega
    · rw [if_neg h] at hk
      have := ih hl.2 hk
      simp only [replace_cons, if_neg h, List.map_cons, List.sum_cons]
      omega

/-! ## Dropping a key -/

theorem lookup_filter_ne (l : List (κ × ν)) (k k' : κ) :
    lookup (l.filter (·.1 ≠ k)) k' = if k = k' then none else lookup l k' := by
  induction l with
  | nil => simp
  | cons e l ih =>
    obtain ⟨k'', v''⟩ := e
    rw [List.filter_cons]
    by_cases h₁ : k'' = k
    · subst k''
      rw [if_neg (by simp), ih]
      by_cases h₂ : k = k' <;> simp [h₂]
    · rw [if_pos (by simpa using h₁), lookup_cons, ih]
      by_cases h₂ : k'' = k'
      · subst k''
        simp [Ne.symm h₁]
      · simp [h₂]

theorem filter_ne_of_not_mem {l : List (κ × ν)} {k : κ} (hk : k ∉ l.map Prod.fst) :
    l.filter (·.1 ≠ k) = l := by
  rw [List.filter_eq_self]
  intro e he
  have : e.1 ≠ k := fun h => hk (h ▸ List.mem_map_of_mem he)
  simpa using this

/-- Dropping a key takes its value out of a sum over the entries. -/
theorem sum_filter_ne (f : κ × ν → Nat) {l : List (κ × ν)} {k : κ} {v₀ : ν}
    (hl : (l.map Prod.fst).Nodup) (hk : lookup l k = some v₀) :
    ((l.filter (·.1 ≠ k)).map f).sum + f (k, v₀) = (l.map f).sum := by
  induction l with
  | nil => cases hk
  | cons e l ih =>
    obtain ⟨k', v'⟩ := e
    rw [List.map_cons, List.nodup_cons] at hl
    rw [lookup_cons] at hk
    by_cases h : k' = k
    · subst k'
      rw [if_pos rfl] at hk
      cases hk
      rw [List.filter_cons, if_neg (by simp), filter_ne_of_not_mem hl.1, List.map_cons,
        List.sum_cons, Nat.add_comm]
    · rw [if_neg h] at hk
      have := ih hl.2 hk
      rw [List.filter_cons, if_pos (by simpa using h), List.map_cons, List.map_cons,
        List.sum_cons, List.sum_cons]
      omega

theorem nodup_filter_ne {l : List (κ × ν)} (hl : (l.map Prod.fst).Nodup) (k : κ) :
    ((l.filter (·.1 ≠ k)).map Prod.fst).Nodup :=
  ((List.filter_sublist : (l.filter (·.1 ≠ k)).Sublist l).map Prod.fst).nodup hl

end Keyed
end CampusBooking
