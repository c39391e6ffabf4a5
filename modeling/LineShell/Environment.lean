/-!
# Environments

The variables that a shell consults and hands down to the programs it starts. A variable has one
value; setting it again replaces the value.
-/

namespace LineShell

/-- A finite map from variable names to values. -/
structure Environment where
  /-- The variables with their values. -/
  vars : List (String × String) := []
  /-- Each variable is there once. -/
  nodup : (vars.map Prod.fst).Nodup := by simp

namespace Environment

/-- The value of the variable `key`. -/
def get? (env : Environment) (key : String) : Option String :=
  env.vars.lookup key

/-- The variables of `vars` other than `key`. -/
def others (vars : List (String × String)) (key : String) : List (String × String) :=
  vars.filter (·.1 != key)

theorem nodup_others (env : Environment) (key : String) :
    ((others env.vars key).map Prod.fst).Nodup :=
  (List.filter_sublist.map Prod.fst).nodup env.nodup

theorem not_mem_others (vars : List (String × String)) (key : String) :
    key ∉ (others vars key).map Prod.fst := by
  simp [others]

/-- Give the variable `key` the value `value`. -/
def set (env : Environment) (key value : String) : Environment :=
  ⟨(key, value) :: others env.vars key,
    List.nodup_cons.2 ⟨not_mem_others env.vars key, nodup_others env key⟩⟩

/-- Take the variable `key` away. -/
def unset (env : Environment) (key : String) : Environment :=
  ⟨others env.vars key, nodup_others env key⟩

/-- The environment with the given variables; of two values of one variable the later counts. -/
def ofList (pairs : List (String × String)) : Environment :=
  pairs.foldl (fun env p => env.set p.1 p.2) {}

/-- All variables in the order of their names. -/
def toList (env : Environment) : List (String × String) :=
  env.vars.mergeSort fun p q => decide (p.1 ≤ q.1)

/-- The variables of `env` with those of `more` set on top of them. -/
def override (env more : Environment) : Environment :=
  more.vars.foldr (fun p e => e.set p.1 p.2) env

theorem lookup_others (vars : List (String × String)) {key k : String} (h : k ≠ key) :
    (others vars key).lookup k = vars.lookup k := by
  induction vars with
  | nil => rfl
  | cons p ps ih =>
    obtain ⟨a, v⟩ := p
    simp only [others] at ih ⊢
    by_cases ha : a = key
    · have hk : (k == a) = false := by simpa [ha] using h
      simp [ha, ih, List.lookup_cons, show (k == key) = false by simpa using h]
    · simp [ha, ih, List.lookup_cons]

theorem get?_set_self (env : Environment) (key value : String) :
    (env.set key value).get? key = some value := by
  simp [get?, set]

theorem get?_set_of_ne (env : Environment) {key k : String} (value : String) (h : k ≠ key) :
    (env.set key value).get? k = env.get? k := by
  have hk : (k == key) = false := by simpa using h
  simp [get?, set, List.lookup_cons, hk, lookup_others _ h]

theorem get?_unset_of_ne (env : Environment) {key k : String} (h : k ≠ key) :
    (env.unset key).get? k = env.get? k :=
  lookup_others _ h

theorem get?_unset_self (env : Environment) (key : String) : (env.unset key).get? key = none := by
  have h := not_mem_others env.vars key
  simp only [get?, unset, List.lookup_eq_none_iff]
  intro p hp
  have : p.1 ∈ (others env.vars key).map Prod.fst := List.mem_map_of_mem hp
  simp only [bne_iff_ne, ne_eq]
  rintro rfl
  exact h this

end Environment

end LineShell
