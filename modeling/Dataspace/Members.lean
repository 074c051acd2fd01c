/-!
# Ordered members

Maps from names to values that keep the order in which names were first
entered. Assigning to a present name replaces its value where it stands; a new
name goes to the end.
-/

namespace Dataspace

/-- No name occurs twice; the order of entries is part of the value. -/
structure Members (α : Type) where
  entries : List (String × α)
  nodup : (entries.map Prod.fst).Nodup

namespace Members

variable {α : Type}

def find? (name : String) : List (String × α) → Option α
  | [] => none
  | (n, a) :: rest => if n = name then some a else find? name rest

def assign (name : String) (value : α) : List (String × α) → List (String × α)
  | [] => [(name, value)]
  | (n, a) :: rest =>
    if n = name then (n, value) :: rest else (n, a) :: assign name value rest

theorem find?_assign (name : String) (value : α) (entries : List (String × α)) (n : String) :
    find? n (assign name value entries) = if n = name then some value else find? n entries := by
  induction entries with
  | nil => simp [assign, find?, eq_comm]
  | cons entry rest ih =>
    obtain ⟨m, a⟩ := entry
    by_cases h : m = name
    · subst h
      by_cases hn : n = m
      · simp [assign, find?, hn]
      · simp [assign, find?, hn, Ne.symm hn]
    · by_cases hm : m = n
      · subst hm
        simp [assign, find?, h]
      · simp [assign, find?, h, hm, ih]

theorem names_assign (name : String) (value : α) (entries : List (String × α)) :
    (assign name value entries).map Prod.fst =
      if name ∈ entries.map Prod.fst then entries.map Prod.fst
      else entries.map Prod.fst ++ [name] := by
  induction entries with
  | nil => simp [assign]
  | cons entry rest ih =>
    obtain ⟨n, a⟩ := entry
    by_cases h : n = name
    · simp [assign, h]
    · have hn : ¬name = n := fun e => h e.symm
      by_cases hm : name ∈ rest.map Prod.fst <;>
        simp only [assign, h, if_false, List.map_cons, ih, hm, if_true, List.mem_cons, hn,
          false_or, List.cons_append]

theorem nodup_assign {entries : List (String × α)} (h : (entries.map Prod.fst).Nodup)
    (name : String) (value : α) : ((assign name value entries).map Prod.fst).Nodup := by
  rw [names_assign]
  split
  · exact h
  · rename_i hn
    rw [List.nodup_append]
    refine ⟨h, by simp, ?_⟩
    intro a ha b hb
    rw [List.mem_singleton] at hb
    subst hb
    exact fun e => hn (e ▸ ha)

def empty : Members α := ⟨[], List.nodup_nil⟩

def get? (m : Members α) (name : String) : Option α := find? name m.entries

def names (m : Members α) : List String := m.entries.map Prod.fst

def insert (m : Members α) (name : String) (value : α) : Members α :=
  ⟨assign name value m.entries, nodup_assign m.nodup name value⟩

def merge (m extra : Members α) : Members α :=
  extra.entries.foldl (fun m entry => m.insert entry.1 entry.2) m

/-- Among entries of one name the last value and the first position win. -/
def ofList (entries : List (String × α)) : Members α :=
  entries.foldl (fun m entry => m.insert entry.1 entry.2) empty

def filterNames (p : String → Bool) (m : Members α) : Members α :=
  ⟨m.entries.filter (fun entry => p entry.1), (m.nodup).sublist (List.filter_sublist.map _)⟩

@[simp] theorem entries_insert (m : Members α) (name : String) (value : α) :
    (m.insert name value).entries = assign name value m.entries := rfl

theorem get?_insert (m : Members α) (name : String) (value : α) (n : String) :
    (m.insert name value).get? n = if n = name then some value else m.get? n :=
  find?_assign name value m.entries n

theorem find?_eq_none {entries : List (String × α)} {name : String} :
    find? name entries = none ↔ name ∉ entries.map Prod.fst := by
  induction entries with
  | nil => simp [find?]
  | cons entry rest ih =>
    obtain ⟨n, a⟩ := entry
    by_cases h : n = name
    · simp [find?, h]
    · simp [find?, h, ih, Ne.symm h]

theorem find?_eq_some {entries : List (String × α)} (nodup : (entries.map Prod.fst).Nodup) :
    find? name entries = some value ↔ (name, value) ∈ entries := by
  induction entries with
  | nil => simp [find?]
  | cons entry rest ih =>
    obtain ⟨n, a⟩ := entry
    rw [List.map_cons, List.nodup_cons] at nodup
    by_cases h : n = name
    · subst h
      have absent : (n, value) ∉ rest := fun hm =>
        nodup.1 (List.mem_map.mpr ⟨_, hm, rfl⟩)
      simp [find?, absent, eq_comm]
    · simp [find?, h, ih nodup.2, Ne.symm h]

theorem get?_eq_some {m : Members α} : m.get? name = some value ↔ (name, value) ∈ m.entries :=
  find?_eq_some m.nodup

theorem get?_foldl_insert {entries : List (String × α)} (nodup : (entries.map Prod.fst).Nodup)
    (m : Members α) (n : String) :
    (entries.foldl (fun m entry => m.insert entry.1 entry.2) m).get? n =
      (find? n entries).or (m.get? n) := by
  induction entries generalizing m with
  | nil => rfl
  | cons entry rest ih =>
    obtain ⟨name, value⟩ := entry
    rw [List.map_cons, List.nodup_cons] at nodup
    rw [List.foldl_cons, ih nodup.2, get?_insert]
    by_cases h : n = name
    · subst h
      simp [find?, find?_eq_none.mpr nodup.1]
    · simp [find?, h, Ne.symm h]

theorem get?_merge (m extra : Members α) (n : String) :
    (m.merge extra).get? n = (extra.get? n).or (m.get? n) :=
  get?_foldl_insert extra.nodup m n

theorem mem_merge {m extra : Members α} : entry ∈ (m.merge extra).entries ↔
    entry ∈ extra.entries ∨ entry.1 ∉ extra.names ∧ entry ∈ m.entries := by
  obtain ⟨name, value⟩ := entry
  rw [← get?_eq_some, ← get?_eq_some, ← get?_eq_some, get?_merge, Option.or_eq_some_iff]
  exact or_congr_right (and_congr_left fun _ => find?_eq_none)

end Members

end Dataspace
