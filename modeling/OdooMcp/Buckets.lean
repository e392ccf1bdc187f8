import Mathlib.Data.List.Basic

/-!
# Buckets

A dictionary of lists, filled by `setdefault(key, []).append(item)`. Keys are compared by a Boolean
equality, which need not be that of the type: two decimals are one key if they denote one number.
-/

abbrev Buckets (κ α : Type) := List (κ × List α)

namespace Buckets

variable {κ α : Type} {same : κ → κ → Bool}

/-- `buckets.setdefault(key, []).append(item)` -/
def append (same : κ → κ → Bool) (key : κ) (item : α) : Buckets κ α → Buckets κ α
  | [] => [(key, [item])]
  | bucket :: rest =>
      if same bucket.1 key then
        (bucket.1, bucket.2 ++ [item]) :: rest
      else
        bucket :: append same key item rest

/-- `buckets.get(key, [])` -/
def get (same : κ → κ → Bool) (buckets : Buckets κ α) (key : κ) : List α :=
  match buckets.find? fun bucket => same bucket.1 key with
  | some bucket => bucket.2
  | none => []

theorem get_append {ν : Type} (value : κ → ν)
    (hsame : ∀ first second, same first second = true ↔ value first = value second)
    (buckets : Buckets κ α) (key other : κ) (item : α) :
    get same (append same key item buckets) other =
      get same buckets other ++ if same key other then [item] else [] := by
  have hmatch (bucket : κ × List α) (hbucket : same bucket.1 key = true) :
      same bucket.1 other = same key other := by
    rw [Bool.eq_iff_iff, hsame, hsame, (hsame _ _).mp hbucket]
  induction buckets with
  | nil =>
      simp only [append, get, List.find?_cons, List.find?_nil, List.nil_append]
      cases same key other <;> rfl
  | cons bucket rest ih =>
      simp only [append]
      split
      · rename_i hbucket
        have hother := hmatch bucket hbucket
        simp only [get, List.find?_cons, hother]
        cases hkey : same key other with
        | true => simp
        | false => simp
      · rename_i hbucket
        simp only [get, List.find?_cons] at ih ⊢
        cases hother : same bucket.1 other with
        | false => exact ih
        | true =>
            have hkey : same key other = false := by
              rw [Bool.eq_false_iff, Ne, hsame]
              rw [hsame] at hbucket hother
              exact fun hvalue => hbucket (hother.trans hvalue.symm)
            simp [hkey]

end Buckets
