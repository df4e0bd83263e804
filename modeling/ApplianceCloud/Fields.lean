namespace ApplianceCloud

abbrev Fields (α : Type) := List (String × α)

namespace Fields

variable {α β : Type}

def keys (fields : Fields α) : List String := fields.map Prod.fst

def values (fields : Fields α) : List α := fields.map Prod.snd

def has (fields : Fields α) (key : String) : Bool := (fields.lookup key).isSome

def put : Fields α → String → α → Fields α
  | [], key, value => [(key, value)]
  | field :: rest, key, value =>
      if field.1 = key then (key, value) :: rest else field :: put rest key value

def putAll (fields extra : Fields α) : Fields α :=
  extra.foldl (fun acc field => put acc field.1 field.2) fields

/-- Fields from pairs in which a name may come twice: its last value stands at its first place. -/
def ofPairs (pairs : List (String × α)) : Fields α := putAll [] pairs

def without (fields : Fields α) (key : String) : Fields α := fields.filter (·.1 ≠ key)

def mapValues (f : α → β) (fields : Fields α) : Fields β := fields.map fun field => (field.1, f field.2)

theorem mem_of_lookup {κ : Type} [BEq κ] [LawfulBEq κ] {entries : List (κ × α)} {key : κ} {value : α}
    (found : entries.lookup key = some value) : (key, value) ∈ entries := by
  obtain ⟨before, after, split, -⟩ := List.lookup_eq_some_iff.1 found
  rw [split]
  exact List.mem_append_right _ List.mem_cons_self

@[simp] theorem put_nil (key : String) (value : α) : put [] key value = [(key, value)] := rfl

theorem lookup_put (fields : Fields α) (key name : String) (value : α) :
    (put fields key value).lookup name = if name = key then some value else fields.lookup name := by
  induction fields with
  | nil => by_cases h : name = key <;> simp [List.lookup_cons, h, beq_eq_false_iff_ne.mpr]
  | cons field rest ih =>
    obtain ⟨present, old⟩ := field
    by_cases here : present = key
    · by_cases h : name = key
      · simp [put, here, h]
      · simp [put, here, List.lookup_cons, h, beq_eq_false_iff_ne.mpr h]
    · by_cases h : name = present
      · have h' : name ≠ key := fun e => here (h.symm.trans e)
        simp [put, here, h]
      · simp [put, here, List.lookup_cons, beq_eq_false_iff_ne.mpr h, ih]

theorem keys_put_of_mem (fields : Fields α) (key : String) (value : α) (h : key ∈ keys fields) :
    keys (put fields key value) = keys fields := by
  induction fields with
  | nil => simp [keys] at h
  | cons field rest ih =>
    by_cases here : field.1 = key
    · simp [put, keys, here]
    · have h' : key ∈ keys rest := by
        simp only [keys, List.map_cons, List.mem_cons] at h
        exact h.resolve_left fun e => here e.symm
      have := ih h'
      simp only [keys] at this
      simp [put, keys, here, this]

theorem put_of_not_mem (fields : Fields α) (key : String) (value : α) (h : key ∉ keys fields) :
    put fields key value = fields ++ [(key, value)] := by
  induction fields with
  | nil => rfl
  | cons field rest ih =>
    simp only [keys, List.map_cons, List.mem_cons, not_or] at h
    simp [put, Ne.symm h.1, ih h.2]

theorem keys_put_of_not_mem (fields : Fields α) (key : String) (value : α) (h : key ∉ keys fields) :
    keys (put fields key value) = keys fields ++ [key] := by
  rw [put_of_not_mem fields key value h, keys, List.map_append]
  rfl

theorem keys_put (fields : Fields α) (key : String) (value : α) :
    keys (put fields key value) = if key ∈ keys fields then keys fields else keys fields ++ [key] := by
  by_cases present : key ∈ keys fields
  · rw [if_pos present, keys_put_of_mem fields key value present]
  · rw [if_neg present, keys_put_of_not_mem fields key value present]

theorem nodup_keys_put (fields : Fields α) (key : String) (value : α) (h : (keys fields).Nodup) :
    (keys (put fields key value)).Nodup := by
  by_cases present : key ∈ keys fields
  · rwa [keys_put_of_mem fields key value present]
  · rw [keys_put_of_not_mem fields key value present, List.nodup_append]
    refine ⟨h, by simp, fun name member other isKey same => ?_⟩
    rw [List.mem_singleton.1 isKey] at same
    exact present (same ▸ member)

theorem filter_put (fields : Fields α) (key : String) (value : α) (stays : String → Bool) :
    (put fields key value).filter (fun field => stays field.1) =
      if stays key then put (fields.filter fun field => stays field.1) key value
      else fields.filter fun field => stays field.1 := by
  induction fields with
  | nil => cases here : stays key <;> simp [here]
  | cons field rest ih =>
    by_cases same : field.1 = key
    · cases here : stays key <;> simp [put, same, here]
    · cases here : stays field.1 <;> cases there : stays key <;>
        simp [put, same, here, there, ih]

theorem mem_keys_put {fields : Fields α} {key name : String} {value : α} :
    name ∈ keys (put fields key value) ↔ name ∈ keys fields ∨ name = key := by
  rw [keys_put]
  by_cases present : key ∈ keys fields
  · rw [if_pos present]
    exact ⟨.inl, fun either => either.elim id fun same => same ▸ present⟩
  · rw [if_neg present, List.mem_append, List.mem_singleton]

theorem mem_keys_putAll {fields extra : Fields α} {name : String} :
    name ∈ keys (putAll fields extra) ↔ name ∈ keys fields ∨ name ∈ keys extra := by
  induction extra generalizing fields with
  | nil => simp [putAll, keys]
  | cons field rest ih =>
    have first : keys (field :: rest) = field.1 :: keys rest := rfl
    rw [putAll, List.foldl_cons]
    exact ih.trans (by rw [mem_keys_put, first, List.mem_cons, or_assoc])

theorem nodup_keys_putAll {fields : Fields α} (extra : Fields α) (distinct : (keys fields).Nodup) :
    (keys (putAll fields extra)).Nodup := by
  induction extra generalizing fields with
  | nil => exact distinct
  | cons field rest ih => exact ih (nodup_keys_put fields field.1 field.2 distinct)

theorem filter_putAll {fields extra : Fields α} {stays : String → Bool}
    (leaves : ∀ name ∈ keys extra, stays name = false) :
    (putAll fields extra).filter (fun field => stays field.1) =
      fields.filter fun field => stays field.1 := by
  induction extra generalizing fields with
  | nil => rfl
  | cons field rest ih =>
    have here : stays field.1 = false := leaves field.1 List.mem_cons_self
    refine (ih fun name member => leaves name (List.mem_cons_of_mem _ member)).trans ?_
    rw [filter_put, here, if_neg Bool.false_ne_true]

theorem putAll_of_nodup {fields extra : Fields α} (distinct : (keys (fields ++ extra)).Nodup) :
    putAll fields extra = fields ++ extra := by
  induction extra generalizing fields with
  | nil => exact (List.append_nil fields).symm
  | cons field rest ih =>
    have new : field.1 ∉ keys fields := by
      rw [keys, List.map_append, List.nodup_append] at distinct
      exact fun member => distinct.2.2 _ member _ List.mem_cons_self rfl
    have split : fields ++ field :: rest = put fields field.1 field.2 ++ rest := by
      rw [put_of_not_mem fields field.1 field.2 new, List.append_assoc, List.singleton_append]
    rw [split] at distinct ⊢
    exact ih distinct

theorem ofPairs_of_nodup {fields : Fields α} (distinct : (keys fields).Nodup) :
    ofPairs fields = fields :=
  putAll_of_nodup distinct

theorem nodup_keys_filter {fields : Fields α} (distinct : (keys fields).Nodup)
    (stays : String × α → Bool) : (keys (fields.filter stays)).Nodup :=
  (List.filter_sublist.map Prod.fst).nodup distinct

theorem lookup_map (f : String → α → β) (fields : Fields α) (key : String) :
    List.lookup key (fields.map fun field => (field.1, f field.1 field.2)) =
      (fields.lookup key).map (f key) := by
  induction fields with
  | nil => rfl
  | cons field rest ih =>
    rw [List.map_cons, List.lookup_cons, List.lookup_cons]
    cases same : key == field.1 with
    | true => rw [eq_of_beq same]; rfl
    | false => exact ih

theorem lookup_mapValues (f : α → β) (fields : Fields α) (key : String) :
    (mapValues f fields).lookup key = (fields.lookup key).map f :=
  lookup_map (fun _ => f) fields key

theorem lookup_filter (fields : Fields α) (key : String) (stays : String → Bool) :
    (fields.filter fun field => stays field.1).lookup key =
      if stays key then fields.lookup key else none := by
  induction fields with
  | nil => simp
  | cons field rest ih =>
    obtain ⟨name, value⟩ := field
    by_cases same : key = name
    · subst same
      cases stay : stays key with
      | true => simp [stay]
      | false => simp [stay, ih]
    · have other : (key == name) = false := beq_eq_false_iff_ne.2 same
      cases stay : stays name with
      | true => simp [stay, List.lookup_cons, other, ih]
      | false => simp [stay, List.lookup_cons, other, ih]

theorem lookup_filterMap {f : α → Option β} {fields : Fields α} {key : String} {a : α} {b : β}
    (found : fields.lookup key = some a) (kept : f a = some b) :
    List.lookup key (fields.filterMap fun field => (f field.2).map fun value => (field.1, value)) =
      some b := by
  induction fields with
  | nil => cases found
  | cons field rest ih =>
    rw [List.lookup_cons] at found
    cases same : key == field.1 with
    | true =>
      rw [same] at found
      cases found
      simp only [List.filterMap_cons, kept, Option.map_some, List.lookup_cons, same]
    | false =>
      rw [same] at found
      cases made : f field.2 with
      | none => simpa only [List.filterMap_cons, made, Option.map_none] using ih found
      | some value =>
        simpa only [List.filterMap_cons, made, Option.map_some, List.lookup_cons, same] using ih found

theorem mem_keys_iff {fields : Fields α} {key : String} :
    key ∈ fields.keys ↔ (fields.lookup key).isSome := by
  rw [List.lookup_isSome_iff, keys, List.mem_map]
  refine exists_congr fun field => and_congr_right fun _ => ?_
  rw [beq_iff_eq, eq_comm]

end Fields

end ApplianceCloud
