set_option autoImplicit false

namespace QueryBook

abbrev Keyed (α : Type) (κ : Type := String) := List (κ × α)

namespace Keyed

variable {α κ : Type} [DecidableEq κ]

def get? : Keyed α κ → κ → Option α
  | [], _ => none
  | (other, value) :: rest, key => if other = key then some value else get? rest key

-- A key that is there keeps its place; a new one goes to the end.
def put : Keyed α κ → κ → α → Keyed α κ
  | [], key, value => [(key, value)]
  | (other, old) :: rest, key, value =>
    if other = key then (key, value) :: rest else (other, old) :: put rest key value

def erase : Keyed α κ → κ → Keyed α κ
  | [], _ => []
  | (other, value) :: rest, key =>
    if other = key then erase rest key else (other, value) :: erase rest key

def keys (m : Keyed α κ) : List κ :=
  m.map (·.1)

def ofList (entries : List (κ × α)) : Keyed α κ :=
  entries.foldl (fun m (key, value) => put m key value) []

@[simp] theorem get?_nil (key : κ) : get? ([] : Keyed α κ) key = none := rfl

@[simp] theorem get?_put_self (m : Keyed α κ) (key : κ) (value : α) :
    get? (put m key value) key = some value := by
  induction m with
  | nil => simp [put, get?]
  | cons entry rest ih =>
    obtain ⟨other, old⟩ := entry
    by_cases same : other = key <;> simp [put, get?, same, ih]

theorem get?_put_of_ne (m : Keyed α κ) {key other : κ} (value : α) (different : other ≠ key) :
    get? (put m key value) other = get? m other := by
  induction m with
  | nil => simp [put, get?, Ne.symm different]
  | cons entry rest ih =>
    obtain ⟨head, old⟩ := entry
    by_cases same : head = key
    · simp [put, get?, same, Ne.symm different]
    · simp only [put, same, if_false, get?, ih]

theorem get?_put (m : Keyed α κ) (key other : κ) (value : α) :
    get? (put m key value) other = if other = key then some value else get? m other := by
  by_cases same : other = key
  · simp [same]
  · simp [same, get?_put_of_ne]

@[simp] theorem get?_erase_self (m : Keyed α κ) (key : κ) : get? (erase m key) key = none := by
  induction m with
  | nil => rfl
  | cons entry rest ih =>
    obtain ⟨other, value⟩ := entry
    by_cases same : other = key <;> simp [erase, get?, same, ih]

theorem get?_erase_of_ne (m : Keyed α κ) {key other : κ} (different : other ≠ key) :
    get? (erase m key) other = get? m other := by
  induction m with
  | nil => rfl
  | cons entry rest ih =>
    obtain ⟨head, value⟩ := entry
    by_cases same : head = key
    · simp [erase, get?, same, Ne.symm different, ih]
    · simp only [erase, same, if_false, get?, ih]

theorem mem_of_get? {m : Keyed α κ} {key : κ} {value : α} (found : get? m key = some value) :
    (key, value) ∈ m := by
  induction m with
  | nil => simp at found
  | cons entry rest ih =>
    obtain ⟨other, old⟩ := entry
    by_cases same : other = key
    · simp_all [get?]
    · exact List.mem_cons_of_mem _ (ih (by simpa [get?, same] using found))

theorem mem_keys_of_get? {m : Keyed α κ} {key : κ} {value : α} (found : get? m key = some value) :
    key ∈ keys m :=
  List.mem_map_of_mem (f := (·.1)) (mem_of_get? found)

end Keyed

end QueryBook
