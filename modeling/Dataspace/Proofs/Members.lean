import Dataspace.Members

/-!
# Lists of members as maps

Entries of different names are a map as they stand (`entries_ofList`), and entered
over a map they leave what is there in its place (`entries_foldl_overlay`).
-/

namespace Dataspace.Members

theorem ext {members others : Members α} (h : members.entries = others.entries) :
    members = others := by
  cases members
  cases others
  cases h
  rfl

theorem assign_new {entries : List (String × α)} (absent : name ∉ entries.map Prod.fst)
    (value : α) : assign name value entries = entries ++ [(name, value)] := by
  induction entries with
  | nil => rfl
  | cons entry rest ih =>
    obtain ⟨n, a⟩ := entry
    rw [List.map_cons, List.mem_cons, not_or] at absent
    rw [assign, if_neg (Ne.symm absent.1), ih absent.2]
    rfl

theorem assign_present {entries : List (String × α)} (nodup : (entries.map Prod.fst).Nodup)
    (held : entries[i]? = some (name, old)) (value : α) :
    assign name value entries = entries.set i (name, value) := by
  induction entries generalizing i with
  | nil => cases held
  | cons entry rest ih =>
    obtain ⟨n, a⟩ := entry
    rw [List.map_cons, List.nodup_cons] at nodup
    cases i with
    | zero =>
      obtain ⟨rfl, rfl⟩ := Prod.mk.inj (Option.some.inj held)
      rw [assign, if_pos rfl]
      rfl
    | succ i =>
      have later : rest[i]? = some (name, old) := held
      have other : n ≠ name := fun same =>
        nodup.1 (List.mem_map.mpr ⟨_, List.mem_of_getElem? later, same.symm⟩)
      rw [assign, if_neg other, ih nodup.2 later]
      rfl

theorem assign_assign (name : String) (old value : α) (entries : List (String × α)) :
    assign name value (assign name old entries) = assign name value entries := by
  induction entries with
  | nil => simp [assign]
  | cons entry rest ih =>
    obtain ⟨n, a⟩ := entry
    by_cases same : n = name
    · simp [assign, same]
    · simp [assign, same, ih]

/-- A walk to which entries of a name say nothing does not see that one is entered. -/
theorem foldl_assign {step : β → String × α → β} (silent : ∀ acc a, step acc (name, a) = acc)
    (value : α) (entries : List (String × α)) (acc : β) :
    (assign name value entries).foldl step acc = entries.foldl step acc := by
  induction entries generalizing acc with
  | nil => exact silent acc value
  | cons entry rest ih =>
    obtain ⟨n, a⟩ := entry
    by_cases same : n = name
    · subst same
      rw [assign, if_pos rfl, List.foldl_cons, List.foldl_cons, silent, silent]
    · rw [assign, if_neg same, List.foldl_cons, List.foldl_cons, ih]

theorem filterMap_assign {f : String × α → Option β} (silent : f (name, value) = none)
    {entries : List (String × α)} (nodup : (entries.map Prod.fst).Nodup) :
    (assign name value entries).filterMap f =
      (entries.filter fun entry => !entry.1 == name).filterMap f := by
  induction entries with
  | nil => simp [assign, silent]
  | cons entry rest ih =>
    obtain ⟨n, a⟩ := entry
    obtain ⟨hn, hrest⟩ := List.nodup_cons.mp nodup
    by_cases h : n = name
    · subst h
      -- The name does not occur again.
      have hall : rest.filter (fun entry => !entry.1 == n) = rest := by
        refine List.filter_eq_self.mpr fun entry he => ?_
        have hne : entry.1 ≠ n := fun heq => hn (List.mem_map.mpr ⟨entry, he, heq⟩)
        simpa using hne
      simp only [assign, if_true, List.filterMap_cons, silent, List.filter_cons, beq_self_eq_true,
        Bool.not_true, Bool.false_eq_true, if_false, hall]
    · simp [assign, h, List.filterMap_cons, ih hrest]

theorem entries_foldl_insert {entries : List (String × α)} {members : Members α}
    (nodup : ((members.entries ++ entries).map Prod.fst).Nodup) :
    (entries.foldl (fun m entry => m.insert entry.1 entry.2) members).entries =
      members.entries ++ entries := by
  induction entries generalizing members with
  | nil => exact (List.append_nil _).symm
  | cons entry rest ih =>
    obtain ⟨name, value⟩ := entry
    have absent : name ∉ members.entries.map Prod.fst := by
      rw [List.map_append, List.nodup_append] at nodup
      exact fun hmem => nodup.2.2 name hmem name (.head _) rfl
    have hinsert : (members.insert name value).entries = members.entries ++ [(name, value)] :=
      assign_new absent value
    rw [List.foldl_cons, ih, hinsert, List.append_assoc]
    · rfl
    · rw [hinsert, List.append_assoc]
      exact nodup

theorem entries_ofList {entries : List (String × α)}
    (nodup : (entries.map Prod.fst).Nodup) : (ofList entries).entries = entries :=
  entries_foldl_insert nodup

theorem mem_of_mem_assign {entries : List (String × α)} (h : entry ∈ assign name value entries) :
    entry = (name, value) ∨ entry ∈ entries := by
  induction entries with
  | nil => exact .inl (List.mem_singleton.mp h)
  | cons other rest ih =>
    obtain ⟨n, a⟩ := other
    rw [assign] at h
    split at h
    · rename_i same
      rcases List.mem_cons.mp h with rfl | h
      · exact .inl (same ▸ rfl)
      · exact .inr (.tail _ h)
    · rcases List.mem_cons.mp h with rfl | h
      · exact .inr (.head _)
      · exact (ih h).imp_right (.tail _)

theorem mem_of_mem_foldl_insert {entries : List (String × α)} {members : Members α}
    (h : entry ∈ (entries.foldl (fun m entry => m.insert entry.1 entry.2) members).entries) :
    entry ∈ members.entries ∨ entry ∈ entries := by
  induction entries generalizing members with
  | nil => exact .inl h
  | cons first rest ih =>
    rcases ih h with h | h
    · rcases mem_of_mem_assign h with rfl | h
      · exact .inr (.head _)
      · exact .inl h
    · exact .inr (.tail _ h)

theorem mem_of_mem_ofList {entries : List (String × α)} (h : entry ∈ (ofList entries).entries) :
    entry ∈ entries :=
  (mem_of_mem_foldl_insert h).resolve_left fun none => nomatch none

theorem mem_names_foldl_insert {entries : List (String × α)} {members : Members α} :
    name ∈ (entries.foldl (fun m entry => m.insert entry.1 entry.2) members).names ↔
      name ∈ members.names ∨ name ∈ entries.map Prod.fst := by
  induction entries generalizing members with
  | nil => simp
  | cons entry rest ih =>
    rw [List.foldl_cons, ih, names, entries_insert, names_assign, ← names, List.map_cons,
      List.mem_cons]
    split
    · rename_i present
      refine ⟨Or.imp_right .inr, ?_⟩
      rintro (held | rfl | later)
      · exact .inl held
      · exact .inl present
      · exact .inr later
    · rw [List.mem_append, List.mem_singleton, or_assoc]

theorem mem_names_ofList {entries : List (String × α)} :
    name ∈ (ofList entries).names ↔ name ∈ entries.map Prod.fst :=
  mem_names_foldl_insert.trans (or_iff_right fun none => nomatch none)

/-- Over an entry of their own name and others that they do not name, entries change the
value of the first and follow the others. -/
theorem entries_foldl_overlay {entries others : List (String × α)} {members : Members α}
    (nodup : (entries.map Prod.fst).Nodup) (held : members.entries = (name, value) :: others)
    (apart : ∀ other ∈ others, other.1 ∉ entries.map Prod.fst) :
    (entries.foldl (fun m entry => m.insert entry.1 entry.2) members).entries =
      (name, (find? name entries).getD value) ::
        (others ++ entries.filter fun entry => entry.1 ≠ name) := by
  induction entries generalizing members value others with
  | nil =>
    rw [List.foldl_nil, held]
    simp [find?]
  | cons entry rest ih =>
    obtain ⟨n, a⟩ := entry
    rw [List.map_cons, List.nodup_cons] at nodup
    have later : ∀ other ∈ others, other.1 ∉ rest.map Prod.fst := fun other hm hn =>
      apart other hm (.tail _ hn)
    rw [List.foldl_cons]
    by_cases same : n = name
    · subst same
      have replaced : (members.insert n a).entries = (n, a) :: others := by
        rw [entries_insert, held, assign, if_pos rfl]
      rw [ih nodup.2 replaced later, find?_eq_none.mpr nodup.1]
      simp [find?]
    · have absent : n ∉ others.map Prod.fst := fun hn => by
        obtain ⟨other, hm, hn⟩ := List.mem_map.mp hn
        exact apart other hm (hn ▸ .head _)
      have added : (members.insert n a).entries = (name, value) :: (others ++ [(n, a)]) := by
        rw [entries_insert, held, assign, if_neg (Ne.symm same), assign_new absent]
      rw [ih nodup.2 added fun other hm => ?_]
      · simp [find?, same]
      · rcases List.mem_append.mp hm with hm | hm
        · exact later other hm
        · rw [List.mem_singleton.mp hm]
          exact nodup.1

end Dataspace.Members
