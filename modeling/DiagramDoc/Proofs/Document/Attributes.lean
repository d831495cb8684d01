import DiagramDoc.Document.Fence
import Mathlib.Data.List.Nodup
import Mathlib.Data.List.Perm.Basic

/-! # Attributes of a fence

Attributes are read as a map: no key is there twice, and the value of a key does not depend on the
order that the attributes stand in.
-/

namespace DiagramDoc

namespace Attributes

def keys (attrs : Attributes) : List String := attrs.map Prod.fst

variable {attrs attrs' : Attributes} {key value : String}

@[simp]
theorem keys_cons (attr : String × String) (rest : List (String × String)) :
    keys (attr :: rest) = attr.1 :: keys rest := rfl

theorem keys_set : (attrs.set key value).keys =
    if key ∈ attrs.keys then attrs.keys else attrs.keys ++ [key] := by
  induction attrs with
  | nil => rfl
  | cons attr rest ih =>
    obtain ⟨k, v⟩ := attr
    rw [set, keys_cons]
    by_cases hkey : k = key
    · rw [if_pos hkey, if_pos (by simp [hkey]), keys_cons]
    · rw [if_neg hkey, keys_cons, ih]
      by_cases hmem : key ∈ keys rest
      · rw [if_pos hmem, if_pos (List.mem_cons_of_mem k hmem)]
      · rw [if_neg hmem, if_neg (by simp [Ne.symm hkey, hmem]), List.cons_append]

theorem nodup_keys_set (h : attrs.keys.Nodup) : (attrs.set key value).keys.Nodup := by
  rw [keys_set]
  split
  · exact h
  · next hnew => exact List.nodup_append.2 ⟨h, List.nodup_singleton key, by grind⟩

theorem get?_cons (attr : String × String) (rest : Attributes) (key : String) :
    get? (attr :: rest) key = if key = attr.1 then some attr.2 else rest.get? key := by
  rw [get?, List.lookup_cons, get?]
  by_cases hkey : key = attr.1
  · rw [if_pos hkey, beq_iff_eq.2 hkey]
  · rw [if_neg hkey, beq_eq_false_iff_ne.2 hkey]

theorem get?_set (attrs : Attributes) (key value other : String) :
    (attrs.set key value).get? other = if other = key then some value else attrs.get? other := by
  induction attrs with
  | nil => exact get?_cons (key, value) [] other
  | cons attr rest ih =>
    obtain ⟨k, v⟩ := attr
    rw [set]
    by_cases hkey : k = key
    · subst hkey
      rw [if_pos rfl, get?_cons, get?_cons]
      split <;> rfl
    · rw [if_neg hkey, get?_cons, get?_cons, ih]
      by_cases hother : other = k
      · rw [if_pos hother, if_pos hother, if_neg (hother ▸ hkey)]
      · rw [if_neg hother, if_neg hother]

theorem get?_eq_some_iff (h : attrs.keys.Nodup) :
    attrs.get? key = some value ↔ (key, value) ∈ attrs := by
  induction attrs with
  | nil => simp [get?]
  | cons attr rest ih =>
    obtain ⟨k, v⟩ := attr
    obtain ⟨hfirst, hrest⟩ := List.nodup_cons.1 h
    rw [get?_cons, List.mem_cons]
    by_cases hkey : key = k
    · subst hkey
      have hnew : (key, value) ∉ rest := fun hmem => hfirst (List.mem_map.2 ⟨_, hmem, rfl⟩)
      simp [hnew, eq_comm]
    · rw [if_neg hkey, ih hrest]
      simp [hkey]

theorem get?_of_perm (h : attrs.keys.Nodup) (hperm : attrs.Perm attrs') :
    attrs.get? key = attrs'.get? key := by
  have h' : attrs'.keys.Nodup := (hperm.map Prod.fst).nodup_iff.1 h
  apply Option.ext
  intro value
  rw [get?_eq_some_iff h, get?_eq_some_iff h', hperm.mem_iff]

end Attributes

theorem Attributes.nodup_keys_foldl_set {attrs : Attributes} (h : attrs.keys.Nodup)
    (pairs : List (String × String)) :
    (pairs.foldl (fun attrs pair => attrs.set pair.1 pair.2) attrs).keys.Nodup := by
  induction pairs generalizing attrs with
  | nil => exact h
  | cons pair pairs ih => exact ih (nodup_keys_set h)

/-- The values that pairs give to a key, in order. -/
def valuesOf (key : String) (pairs : List (String × String)) : List String :=
  (pairs.filter (·.1 = key)).map Prod.snd

theorem valuesOf_cons (key : String) (pair : String × String) (pairs : List (String × String)) :
    valuesOf key (pair :: pairs) =
      if pair.1 = key then pair.2 :: valuesOf key pairs else valuesOf key pairs := by
  rw [valuesOf, valuesOf]
  split
  · next hkey => rw [List.filter_cons_of_pos (by simpa using hkey), List.map_cons]
  · next hkey => rw [List.filter_cons_of_neg (by simpa using hkey)]

/-- **The last value counts.** -/
theorem Attributes.get?_foldl_set (attrs : Attributes) (pairs : List (String × String))
    (key : String) : (pairs.foldl (fun attrs pair => attrs.set pair.1 pair.2) attrs).get? key =
      (valuesOf key pairs).getLast?.or (attrs.get? key) := by
  induction pairs generalizing attrs with
  | nil => rfl
  | cons pair pairs ih =>
    rw [List.foldl_cons, ih, get?_set, valuesOf_cons]
    by_cases hkey : pair.1 = key
    · rw [if_pos hkey, if_pos hkey.symm, List.getLast?_cons]
      cases (valuesOf key pairs).getLast? <;> rfl
    · rw [if_neg hkey, if_neg (Ne.symm hkey)]

/-- An info string names no attribute twice: the last value counts. -/
theorem InfoString.nodup_keys_parse (info : String) : (parse info).attrs.keys.Nodup := by
  rw [parse]
  split
  · exact List.nodup_nil
  · have hempty : Attributes.keys [] = [] := rfl
    exact Attributes.nodup_keys_foldl_set (hempty ▸ List.nodup_nil) _

end DiagramDoc
