/-!
# Ordered association lists

Pairs of a name and a value, in the order in which the names first appeared. Writing to a name
that is already there keeps its place; a new name goes to the end. Main statements: `find?_alter`
says what a write does to every look-up, and `keys_alter` that a write never disturbs the order of
the names.
-/

namespace Criteria

/-- A list of named values. -/
abbrev Assoc (α : Type) := List (String × α)

namespace Assoc

variable {α : Type}

/-- The names, in order. -/
def keys (entries : Assoc α) : List String :=
  entries.map Prod.fst

/-- The value of the first entry called `key`. -/
def find? (key : String) : Assoc α → Option α
  | [] => none
  | (k, v) :: rest => if k = key then some v else find? key rest

/-- Whether some entry is called `key`. -/
def hasKey (key : String) (entries : Assoc α) : Bool :=
  (find? key entries).isSome

/-- Change the first entry called `key` in place, or append one. -/
def alter (key : String) (f : Option α → α) : Assoc α → Assoc α
  | [] => [(key, f none)]
  | (k, v) :: rest => if k = key then (k, f (some v)) :: rest else (k, v) :: alter key f rest

/-- Write `value` under `key`: the last write wins, at the place of the first. -/
def insert (key : String) (value : α) (entries : Assoc α) : Assoc α :=
  alter key (fun _ => value) entries

/-- Write all pairs, one after the other. -/
def ofPairs (pairs : List (String × α)) : Assoc α :=
  pairs.foldl (fun entries p => insert p.1 p.2 entries) []

/-! ### Look-ups and writes -/

@[simp] theorem keys_nil : keys ([] : Assoc α) = [] := rfl

@[simp] theorem keys_cons (p : String × α) (entries : Assoc α) :
    keys (p :: entries) = p.1 :: keys entries := rfl

@[simp] theorem find?_nil (key : String) : find? key ([] : Assoc α) = none := rfl

theorem find?_cons (key k : String) (v : α) (rest : Assoc α) :
    find? key ((k, v) :: rest) = if k = key then some v else find? key rest := rfl

theorem find?_alter (key key' : String) (f : Option α → α) (entries : Assoc α) :
    find? key' (alter key f entries) =
      if key = key' then some (f (find? key entries)) else find? key' entries := by
  induction entries with
  | nil => simp [alter, find?_cons]
  | cons p rest ih =>
    obtain ⟨k, v⟩ := p
    simp only [alter, find?_cons]
    split
    · next h => subst h; simp only [find?_cons]; split <;> rfl
    · next h =>
      simp only [find?_cons, ih]
      split
      · next h' => subst h'; simp [Ne.symm h]
      · rfl

theorem find?_insert (key key' : String) (value : α) (entries : Assoc α) :
    find? key' (insert key value entries) =
      if key = key' then some value else find? key' entries :=
  find?_alter key key' _ entries

theorem find?_eq_none_iff (key : String) (entries : Assoc α) :
    find? key entries = none ↔ key ∉ keys entries := by
  induction entries with
  | nil => simp
  | cons p rest ih =>
    obtain ⟨k, v⟩ := p
    simp only [find?_cons, keys_cons, List.mem_cons, not_or]
    split
    · next h => simp [h]
    · next h => simp [ih, Ne.symm h]

/-- A look-up answers with an entry. -/
theorem mem_of_find? {key : String} {value : α} {entries : Assoc α}
    (h : find? key entries = some value) : (key, value) ∈ entries := by
  induction entries with
  | nil => cases h
  | cons p rest ih =>
    obtain ⟨k, v⟩ := p
    rw [find?_cons] at h
    split at h
    · next hk => cases h; subst hk; exact List.mem_cons_self
    · exact List.mem_cons_of_mem _ (ih h)

/-- What stands under other names does not matter to a look-up. -/
theorem find?_append_cons {key k : String} (h : k ≠ key) (v : α) (before after : Assoc α) :
    find? key (before ++ (k, v) :: after) = find? key (before ++ after) := by
  induction before with
  | nil => rw [List.nil_append, List.nil_append, find?_cons, if_neg h]
  | cons p before ih =>
    obtain ⟨k', v'⟩ := p
    rw [List.cons_append, List.cons_append, find?_cons, find?_cons, ih]

/-- Leaving out names changes the look-ups of these names only. -/
theorem find?_filter (names : String → Prop) [DecidablePred names] (key : String)
    (entries : Assoc α) :
    find? key (entries.filter fun entry => ¬ names entry.1) =
      if names key then none else find? key entries := by
  induction entries with
  | nil => simp
  | cons p rest ih =>
    obtain ⟨k, v⟩ := p
    by_cases hk : names k
    · rw [List.filter_cons_of_neg (by simpa using hk), ih, find?_cons]
      by_cases heq : k = key
      · subst heq
        rw [if_pos hk, if_pos hk]
      · rw [if_neg heq]
    · rw [List.filter_cons_of_pos (by simpa using hk), find?_cons, find?_cons, ih]
      by_cases heq : k = key
      · subst heq
        rw [if_pos rfl, if_neg hk, if_pos rfl]
      · rw [if_neg heq, if_neg heq]

/-- Where the names are different, an entry is what the look-up of its name answers with. -/
theorem find?_of_mem {key : String} {value : α} {entries : Assoc α} (h : (keys entries).Nodup)
    (hmem : (key, value) ∈ entries) : find? key entries = some value := by
  induction entries with
  | nil => cases hmem
  | cons p rest ih =>
    obtain ⟨k, v⟩ := p
    rw [keys_cons, List.nodup_cons] at h
    rw [find?_cons]
    rcases List.mem_cons.1 hmem with heq | hmem
    · cases heq
      rw [if_pos rfl]
    · have hkey : key ∈ keys rest := List.mem_map.2 ⟨(key, value), hmem, rfl⟩
      have hne : k ≠ key := fun e => h.1 (e ▸ hkey)
      rw [if_neg hne, ih h.2 hmem]

/-- A write keeps every name where it is. -/
theorem keys_alter (key : String) (f : Option α → α) (entries : Assoc α) :
    keys (alter key f entries) =
      if key ∈ keys entries then keys entries else keys entries ++ [key] := by
  induction entries with
  | nil => simp [alter]
  | cons p rest ih =>
    obtain ⟨k, v⟩ := p
    simp only [alter]
    split
    · next h => simp [h]
    · next h =>
      have h' : ¬ key = k := fun e => h e.symm
      simp only [keys_cons, ih, List.mem_cons, h', false_or]
      split <;> simp

/-- A new name goes to the end. -/
theorem alter_of_notMem {key : String} {entries : Assoc α} (h : key ∉ keys entries)
    (f : Option α → α) : alter key f entries = entries ++ [(key, f none)] := by
  induction entries with
  | nil => rfl
  | cons p rest ih =>
    obtain ⟨k, v⟩ := p
    rw [keys_cons, List.mem_cons, not_or] at h
    rw [alter, if_neg (Ne.symm h.1), ih h.2, List.cons_append]

theorem insert_of_notMem {key : String} {entries : Assoc α} (h : key ∉ keys entries) (value : α) :
    insert key value entries = entries ++ [(key, value)] :=
  alter_of_notMem h _

/-- Two changes under one name are one change. -/
theorem alter_alter (key : String) (f g : Option α → α) (entries : Assoc α) :
    alter key g (alter key f entries) = alter key (fun value => g (some (f value))) entries := by
  induction entries with
  | nil => simp [alter]
  | cons p rest ih =>
    obtain ⟨k, v⟩ := p
    by_cases h : k = key
    · simp [alter, h]
    · simp [alter, h, ih]

/-- Pairs with different names are written as they stand. -/
theorem ofPairs_of_nodup {pairs : Assoc α} (h : (keys pairs).Nodup) : ofPairs pairs = pairs := by
  have hfold (entries pairs : Assoc α) (h : (keys (entries ++ pairs)).Nodup) :
      pairs.foldl (fun entries p => insert p.1 p.2 entries) entries = entries ++ pairs := by
    induction pairs generalizing entries with
    | nil => simp
    | cons p rest ih =>
      have hp : p.1 ∉ keys entries := by
        simp only [keys, List.map_append, List.map_cons, List.nodup_append] at h
        exact fun hmem => h.2.2 p.1 hmem p.1 List.mem_cons_self rfl
      rw [List.foldl_cons, insert_of_notMem hp, ih _ (by simpa using h), List.append_assoc,
        List.singleton_append]
  exact hfold [] pairs h

theorem nodup_keys_alter (key : String) (f : Option α → α) (entries : Assoc α)
    (h : (keys entries).Nodup) : (keys (alter key f entries)).Nodup := by
  rw [keys_alter]
  split
  · exact h
  · next hk =>
    refine List.nodup_append.2 ⟨h, by simp, ?_⟩
    intro a ha b hb
    simp only [List.mem_singleton] at hb
    subst hb
    exact fun e => hk (e ▸ ha)

/-- A write changes one entry or adds one. -/
theorem mem_or_eq_of_mem_alter {key : String} {f : Option α → α} {entries : Assoc α}
    {p : String × α} (h : p ∈ alter key f entries) :
    p ∈ entries ∨ p = (key, f (find? key entries)) := by
  induction entries with
  | nil => exact Or.inr (List.mem_singleton.1 h)
  | cons q rest ih =>
    obtain ⟨k, v⟩ := q
    rw [find?_cons]
    rw [alter] at h
    split at h
    · next hk =>
      rw [if_pos hk]
      rcases List.mem_cons.1 h with rfl | hmem
      · exact Or.inr (congrArg (·, f (some v)) hk)
      · exact Or.inl (List.mem_cons_of_mem _ hmem)
    · next hk =>
      rw [if_neg hk]
      rcases List.mem_cons.1 h with rfl | hmem
      · exact Or.inl List.mem_cons_self
      · exact (ih hmem).imp_left (List.mem_cons_of_mem _)

theorem nodup_keys_ofPairs (pairs : List (String × α)) : (keys (ofPairs pairs)).Nodup := by
  have hfold (entries : Assoc α) (h : (keys entries).Nodup) :
      (keys (pairs.foldl (fun entries p => insert p.1 p.2 entries) entries)).Nodup := by
    induction pairs generalizing entries with
    | nil => exact h
    | cons p rest ih => exact ih _ (nodup_keys_alter p.1 _ entries h)
  exact hfold [] List.nodup_nil

/-- Every entry that is written is one of the pairs. -/
theorem mem_of_mem_ofPairs {pairs : List (String × α)} {p : String × α} (h : p ∈ ofPairs pairs) :
    p ∈ pairs := by
  have hfold (pairs entries : Assoc α)
      (h : p ∈ pairs.foldl (fun entries p => insert p.1 p.2 entries) entries) :
      p ∈ entries ∨ p ∈ pairs := by
    induction pairs generalizing entries with
    | nil => exact Or.inl h
    | cons q rest ih =>
      rcases ih (insert q.1 q.2 entries) h with hmem | hmem
      · exact (mem_or_eq_of_mem_alter hmem).imp_right fun heq => List.mem_cons.2 (Or.inl heq)
      · exact Or.inr (List.mem_cons_of_mem _ hmem)
  exact (hfold pairs [] h).resolve_left List.not_mem_nil

end Assoc

end Criteria
