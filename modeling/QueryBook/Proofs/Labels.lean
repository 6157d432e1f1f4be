import QueryBook.Data.Row
import Mathlib.Data.List.Nodup

set_option autoImplicit false

namespace QueryBook

namespace Keyed

variable {α κ : Type} [DecidableEq κ]

omit [DecidableEq κ] in
theorem mem_keys_of_mem {m : Keyed α κ} {entry : κ × α} (member : entry ∈ m) :
    entry.1 ∈ keys m :=
  List.mem_map_of_mem member

def putAll (m : Keyed α κ) (entries : List (κ × α)) : Keyed α κ :=
  entries.foldl (fun m entry => put m entry.1 entry.2) m

theorem get?_putAll_of_not_mem {entries : List (κ × α)} (m : Keyed α κ) {key : κ}
    (absent : key ∉ keys entries) : get? (putAll m entries) key = get? m key := by
  induction entries generalizing m with
  | nil => rfl
  | cons entry rest ih =>
    simp only [keys, List.map_cons, List.mem_cons, not_or] at absent
    exact (ih (put m entry.1 entry.2) absent.2).trans (get?_put_of_ne m entry.2 absent.1)

-- A key may be written more than once, as long as it is with the same value.
theorem get?_putAll_of_forall {entries : List (κ × α)} (m : Keyed α κ) {key : κ} {value : α}
    (member : key ∈ keys entries) (same : ∀ entry ∈ entries, entry.1 = key → entry.2 = value) :
    get? (putAll m entries) key = some value := by
  induction entries generalizing m with
  | nil => cases member
  | cons entry rest ih =>
    obtain ⟨here, same⟩ := List.forall_mem_cons.mp same
    by_cases later : key ∈ keys rest
    · exact ih (put m entry.1 entry.2) later same
    · obtain rfl := (List.mem_cons.mp member).resolve_right later
      rw [← here rfl]
      exact (get?_putAll_of_not_mem (put m entry.1 entry.2) later).trans (get?_put_self m _ _)

theorem get?_putAll_of_mem {entries : List (κ × α)} (m : Keyed α κ) {key : κ} {value : α}
    (nodup : (keys entries).Nodup) (member : (key, value) ∈ entries) :
    get? (putAll m entries) key = some value :=
  get?_putAll_of_forall m (mem_keys_of_mem member) fun _ member' same =>
    congrArg Prod.snd (List.inj_on_of_nodup_map nodup member' member same)

theorem mem_keys_put {m : Keyed α κ} {key other : κ} {value : α} :
    other ∈ keys (put m key value) ↔ other = key ∨ other ∈ keys m := by
  induction m with
  | nil => simp [put, keys]
  | cons entry rest ih =>
    by_cases same : entry.1 = key
    · simp [put, keys, same]
    · simp only [keys] at ih
      simp only [put, same, if_false, keys, List.map_cons, List.mem_cons, ih]
      exact or_left_comm

theorem nodup_keys_put {m : Keyed α κ} (key : κ) (value : α) (nodup : (keys m).Nodup) :
    (keys (put m key value)).Nodup := by
  induction m with
  | nil => simp [put, keys]
  | cons entry rest ih =>
    obtain ⟨fresh, nodup⟩ := List.nodup_cons.mp nodup
    by_cases same : entry.1 = key
    · simp only [put, same, if_true]
      exact List.nodup_cons.mpr ⟨same ▸ fresh, nodup⟩
    · simp only [put, same, if_false]
      exact List.nodup_cons.mpr ⟨fun member => (mem_keys_put.mp member).elim same fresh, ih nodup⟩

theorem mem_keys_putAll {m : Keyed α κ} {entries : List (κ × α)} {key : κ} :
    key ∈ keys (putAll m entries) ↔ key ∈ keys m ∨ key ∈ keys entries := by
  induction entries generalizing m with
  | nil => simp [putAll, keys]
  | cons entry rest ih =>
    refine (ih (m := put m entry.1 entry.2)).trans ?_
    rw [mem_keys_put, or_comm (a := key = entry.1), or_assoc]
    exact or_congr_right List.mem_cons.symm

theorem nodup_keys_putAll {m : Keyed α κ} (entries : List (κ × α)) (nodup : (keys m).Nodup) :
    (keys (putAll m entries)).Nodup := by
  induction entries generalizing m with
  | nil => exact nodup
  | cons entry rest ih => exact ih (nodup_keys_put entry.1 entry.2 nodup)

theorem exists_get?_of_mem_keys {m : Keyed α κ} {key : κ} (member : key ∈ keys m) :
    ∃ value, get? m key = some value := by
  induction m with
  | nil => cases member
  | cons entry rest ih =>
    by_cases same : entry.1 = key
    · exact ⟨entry.2, by simp [get?, same]⟩
    · simpa [get?, same] using ih ((List.mem_cons.mp member).resolve_left (Ne.symm same))

end Keyed

section Labels

variable {label other group field : String}

theorem eq_of_splitLabel_none {key : String} (split : splitLabel label = (none, key)) :
    key = label := by
  unfold splitLabel at split
  simp only at split
  split at split
  · cases split
  · exact (Prod.mk.inj split).2.symm

theorem toList_of_splitLabel_some (split : splitLabel label = (some group, field)) :
    label.toList = group.toList ++ '.' :: field.toList := by
  unfold splitLabel at split
  simp only at split
  split at split
  next dot rest found =>
    obtain ⟨first, rfl⟩ := Prod.mk.inj split
    obtain rfl := Option.some.inj first
    have whole : label.toList.takeWhile (fun c => decide (c ≠ '.')) ++
        label.toList.dropWhile (fun c => decide (c ≠ '.')) = label.toList :=
      List.takeWhile_append_dropWhile
    have stops := List.head?_dropWhile_not (fun c => decide (c ≠ '.')) label.toList
    rw [found] at whole stops
    obtain rfl : dot = '.' := by simpa using stops
    simpa using whole.symm
  next => cases split

theorem splitLabel_inj : splitLabel label = splitLabel other ↔ label = other := by
  constructor
  · intro same
    rcases split : splitLabel other with ⟨_ | group, field⟩
    · rw [split] at same
      exact (eq_of_splitLabel_none same).symm.trans (eq_of_splitLabel_none split)
    · rw [split] at same
      rw [← String.toList_inj, toList_of_splitLabel_some same, toList_of_splitLabel_some split]
  · exact fun same => same ▸ rfl

def targetOf (label : String) : String :=
  (splitLabel label).1.getD label

-- No label outside the groups is the name of a group.
def Unmixed (labels : List String) : Prop :=
  ∀ bare ∈ labels, (splitLabel bare).1 = none →
    ∀ dotted ∈ labels, (splitLabel dotted).1 ≠ some bare

instance (labels : List String) : Decidable (Unmixed labels) :=
  inferInstanceAs (Decidable (∀ bare ∈ labels, _))

theorem Unmixed.group_of_target {labels : List String} (unmixed : Unmixed labels)
    (member : label ∈ labels) (member' : other ∈ labels) (different : label ≠ other)
    (same : targetOf label = targetOf other) :
    (splitLabel label).1 = some (targetOf label) ∧
      (splitLabel other).1 = some (targetOf label) := by
  unfold targetOf at *
  cases split : (splitLabel label).1 with
  | none =>
    cases split' : (splitLabel other).1 with
    | none => simp_all
    | some group =>
      simp only [split, split', Option.getD_none, Option.getD_some] at same
      exact absurd (same ▸ split') (unmixed label member split other member')
  | some group =>
    cases split' : (splitLabel other).1 with
    | none =>
      simp only [split, split', Option.getD_none, Option.getD_some] at same
      exact absurd (same ▸ split) (unmixed other member' split' label member)
    | some group' => simp_all

end Labels

end QueryBook
