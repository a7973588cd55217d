/-!
# Tables

Values by name, in the order in which the names came in. Looking a name up finds its first entry;
giving a name that is there a new value keeps its place.

* `get?_put`: a name has the value it was given last;
* `get?_above`: where one table lies over another, its values count first;
* `names_put`: giving a name that is there a new value keeps the names.
-/

namespace Respawn

/-- Values by name. -/
abbrev Table (α : Type) := List (String × α)

namespace Table

variable {α : Type}

/-- The value of a name. -/
def get? : Table α → String → Option α
  | [], _ => none
  | (key, a) :: rest, name => if key = name then some a else get? rest name

/-- Whether a name is there. -/
def has (t : Table α) (name : String) : Bool := (t.get? name).isSome

/-- Gives a name a value, in its place if it is there. -/
def put : Table α → String → α → Table α
  | [], name, a => [(name, a)]
  | (key, b) :: rest, name, a => if key = name then (name, a) :: rest else (key, b) :: put rest name a

/-- Takes a name away. -/
def erase : Table α → String → Table α
  | [], _ => []
  | (key, b) :: rest, name => if key = name then erase rest name else (key, b) :: erase rest name

def names (t : Table α) : List String := t.map (·.1)

/-- One table over another: what the upper one does not name is taken from the lower one. -/
def above (upper lower : Table α) : Table α := upper ++ lower.filter fun e => !has upper e.1

/-! ## Rules -/

@[simp] theorem get?_nil (name : String) : get? ([] : Table α) name = none := rfl

theorem get?_cons (key : String) (a : α) (rest : Table α) (name : String) :
    get? ((key, a) :: rest) name = if key = name then some a else get? rest name := rfl

/-- **A name has the value it was given last.** -/
theorem get?_put (t : Table α) (name : String) (a : α) (other : String) :
    (put t name a).get? other = if other = name then some a else get? t other := by
  induction t with
  | nil =>
    by_cases h : other = name
    · simp [put, get?, h]
    · simp [put, get?, h, Ne.symm h]
  | cons e rest ih =>
    obtain ⟨key, b⟩ := e
    by_cases hk : key = name
    · by_cases h : other = name
      · simp [put, hk, get?, h]
      · simp [put, hk, get?, h, Ne.symm h]
    · by_cases hko : key = other
      · have h : ¬other = name := fun e => hk (hko.trans e)
        simp [put, get?, hko, h]
      · simp [put, hk, get?, hko, ih]

@[simp] theorem get?_put_self (t : Table α) (name : String) (a : α) :
    (put t name a).get? name = some a := by simp [get?_put]

theorem get?_put_of_ne (t : Table α) {name other : String} (h : other ≠ name) (a : α) :
    (put t name a).get? other = get? t other := by simp [get?_put, h]

theorem get?_append (t u : Table α) (name : String) :
    get? (t ++ u) name = (get? t name).or (get? u name) := by
  induction t with
  | nil => rfl
  | cons e rest ih =>
    obtain ⟨key, b⟩ := e
    by_cases hk : key = name <;> simp [get?, hk, ih]

/-- Looking a name up in the entries that satisfy a test on names. -/
theorem get?_filter (p : String → Bool) (t : Table α) (name : String) :
    get? (t.filter fun e => p e.1) name = if p name then get? t name else none := by
  induction t with
  | nil => simp
  | cons e rest ih =>
    obtain ⟨key, b⟩ := e
    by_cases hp : p key = true
    · by_cases hk : key = name
      · subst hk; simp [hp, get?]
      · simp [hp, get?, hk, ih]
    · by_cases hk : key = name
      · subst hk; simp [hp, ih]
      · simp [hp, get?, hk, ih]

/-- **Where one table lies over another, its values count first.** -/
theorem get?_above (upper lower : Table α) (name : String) :
    (above upper lower).get? name = (get? upper name).or (get? lower name) := by
  rw [above, get?_append, get?_filter fun key => !has upper key]
  cases h : get? upper name <;> simp [has, h]

theorem has_iff_mem_names (t : Table α) (name : String) : t.has name = true ↔ name ∈ t.names := by
  induction t with
  | nil => simp [has, names]
  | cons e rest ih =>
    obtain ⟨key, b⟩ := e
    simp only [has, names] at ih
    by_cases hk : key = name
    · simp [has, names, get?, hk]
    · simp [has, names, get?, hk, Ne.symm hk, ih]

/-- Giving a name that is there a new value keeps the names. -/
theorem names_put {t : Table α} {name : String} (h : t.has name = true) (a : α) :
    (put t name a).names = t.names := by
  induction t with
  | nil => simp [has] at h
  | cons e rest ih =>
    obtain ⟨key, b⟩ := e
    by_cases hk : key = name
    · simp [put, hk, names]
    · have hr : has rest name = true := by simpa [has, get?, hk] using h
      have := ih hr
      simp only [names] at this
      simp [put, hk, names, this]

end Table

end Respawn
