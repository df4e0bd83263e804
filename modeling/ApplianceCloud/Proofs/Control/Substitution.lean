import ApplianceCloud.Control.Template
import ApplianceCloud.Proofs.Outcome
import Mathlib.Data.List.Count
import Mathlib.Data.List.Nodup
import Mathlib.Data.List.TakeWhile
import Mathlib.Data.List.Induction

/-!
# Templates filled in one pass

A template is filled one name after the other, and what has been put in is searched again for the next
name. `filled_eq_substituted` says when this is one substitution of all places at once: as long as no
text that was put in makes up, with what surrounds it, a place whose turn is still to come.
-/

namespace ApplianceCloud.Command

def IsName (name : String) : Prop :=
  name ≠ "" ∧ ∀ c ∈ name.toList, Text.isWordCharacter c = true

instance (name : String) : Decidable (IsName name) :=
  decidable_of_iff (name ≠ "" ∧ name.toList.all Text.isWordCharacter = true)
    (and_congr_right fun _ => List.all_eq_true)

def substituted (texts : String → String) : List Char → List Char
  | [] => []
  | c :: rest =>
      match placeAt? (c :: rest) with
      | some letters =>
          (texts (String.ofList letters)).toList ++ substituted texts (rest.drop (letters.length + 3))
      | none => c :: substituted texts rest
termination_by s => s.length
decreasing_by
  all_goals simp only [List.length_cons, List.length_drop]
  all_goals omega

/-- A template with the texts of some names, and the places of all others as they were. -/
def partly (texts : String → String) (done : List String) : List Char → List Char :=
  substituted fun name => if name ∈ done then texts name else String.ofList (placeOf name)

/-- Whether each name, when its turn comes, has as many places as it had in the template. -/
def Undisturbed (texts : String → String) (names : List String) (template : List Char) : Prop :=
  ∀ done name rest, names = done ++ name :: rest →
    (places (partly texts done template)).count name = (places template).count name ∨
      (texts name).toList = placeOf name

/-- What a map of values gives for a name: zero if it has none or an empty text. -/
inductive Gives (values : Fields Document) (name : String) : String → Prop where
  | missing (unknown : values.lookup name = none) : Gives values name "0"
  | empty (known : values.lookup name = some (.text "")) : Gives values name "0"
  | shown {value : Document} {text : String} (known : values.lookup name = some value)
      (nonempty : value ≠ .text "") (shown : value.toText = .ok text) : Gives values name text

section Places

variable {name other : String} {s rest : List Char} {c : Char}

theorem not_isWordCharacter_open : Text.isWordCharacter '{' = false := by decide +kernel

theorem not_isWordCharacter_close : Text.isWordCharacter '}' = false := by decide +kernel

theorem IsName.ne_open (isName : IsName name) (member : c ∈ name.toList) : c ≠ '{' := by
  rintro rfl
  cases (isName.2 _ member).symm.trans not_isWordCharacter_open

theorem IsName.exists_cons (isName : IsName name) : ∃ first others, name.toList = first :: others := by
  refine List.exists_cons_of_ne_nil fun empty => isName.1 ?_
  rwa [String.toList_eq_nil_iff] at empty

theorem placeAt?_placeOf (isName : IsName name) (rest : List Char) :
    placeAt? (placeOf name ++ rest) = some name.toList := by
  have nonempty : name.toList ≠ [] := by simpa using isName.1
  have taken : (name.toList ++ '}' :: '}' :: rest).takeWhile Text.isWordCharacter = name.toList := by
    rw [List.takeWhile_append_of_pos isName.2]
    simp [not_isWordCharacter_close]
  have dropped : (name.toList ++ '}' :: '}' :: rest).dropWhile Text.isWordCharacter =
      '}' :: '}' :: rest := by
    rw [List.dropWhile_append_of_pos isName.2]
    simp [not_isWordCharacter_close]
  simp [placeOf, placeAt?, taken, dropped, nonempty]

theorem exists_of_placeAt? {letters : List Char} (found : placeAt? s = some letters) :
    IsName (String.ofList letters) ∧ ∃ rest, s = placeOf (String.ofList letters) ++ rest := by
  unfold placeAt? at found
  split at found
  · next inner =>
    dsimp only at found
    split at found
    · next complete =>
      cases found
      rw [Bool.and_eq_true] at complete
      obtain ⟨nonempty, closed⟩ := complete
      obtain ⟨rest, closed⟩ := List.isPrefixOf_iff_prefix.1 closed
      refine ⟨⟨?_, ?_⟩, rest, ?_⟩
      · simpa [← String.toList_eq_nil_iff] using nonempty
      · intro c member
        rw [String.toList_ofList] at member
        exact List.mem_takeWhile_imp member
      · have whole := List.takeWhile_append_dropWhile (p := Text.isWordCharacter) (l := inner)
        rw [← closed, ← List.append_assoc] at whole
        rw [placeOf, String.toList_ofList, List.cons_append, List.cons_append, List.cons_append,
          List.cons_append, whole]
    · cases found
  · cases found

theorem placeAt?_eq_some_iff (isName : IsName name) :
    placeAt? s = some name.toList ↔ (placeOf name).isPrefixOf s = true := by
  rw [List.isPrefixOf_iff_prefix]
  constructor
  · intro found
    obtain ⟨-, rest, rfl⟩ := exists_of_placeAt? found
    rw [String.ofList_toList]
    exact List.prefix_append _ _
  · rintro ⟨rest, rfl⟩
    exact placeAt?_placeOf isName rest

theorem placeAt?_of_ne_open (other : c ≠ '{') : placeAt? (c :: rest) = none := by
  unfold placeAt?
  split
  · next same => cases same; exact absurd rfl other
  · rfl

@[elab_as_elim]
theorem template_induction {motive : List Char → Prop} (nil : motive [])
    (place : ∀ name rest, IsName name → motive rest → motive (placeOf name ++ rest))
    (char : ∀ c rest, placeAt? (c :: rest) = none → motive rest → motive (c :: rest))
    (template : List Char) : motive template := by
  induction length : template.length using Nat.strong_induction_on generalizing template with
  | _ n ih =>
    subst length
    cases template with
    | nil => exact nil
    | cons c rest =>
      cases found : placeAt? (c :: rest) with
      | none => exact char c rest found (ih rest.length (by simp) rest rfl)
      | some letters =>
        obtain ⟨isName, after, split⟩ := exists_of_placeAt? found
        rw [split]
        refine place _ after isName (ih after.length ?_ after rfl)
        rw [split, List.length_append]
        simp [placeOf]

theorem places_cons (c : Char) (rest : List Char) : places (c :: rest) =
    ((placeAt? (c :: rest)).map String.ofList).toList ++ places rest := rfl

theorem places_cons_of_none (none : placeAt? (c :: rest) = none) :
    places (c :: rest) = places rest := by
  rw [places_cons, none]
  rfl

theorem places_cons_of_ne_open (other : c ≠ '{') : places (c :: rest) = places rest :=
  places_cons_of_none (placeAt?_of_ne_open other)

theorem places_append_of_no_open {v : List Char} (bare : '{' ∉ v) (rest : List Char) :
    places (v ++ rest) = places rest := by
  induction v with
  | nil => rfl
  | cons c v ih =>
    rw [List.mem_cons, not_or] at bare
    rw [List.cons_append, places_cons_of_ne_open (Ne.symm bare.1), ih bare.2]

def openOf (name : String) : List Char := '{' :: (name.toList ++ ['}', '}'])

theorem placeOf_append (name : String) (rest : List Char) :
    placeOf name ++ rest = '{' :: (openOf name ++ rest) := rfl

theorem IsName.no_open (isName : IsName name) : '{' ∉ name.toList ++ ['}', '}'] := by
  have letters : '{' ∉ name.toList := fun member => isName.ne_open member rfl
  simp [letters]

theorem replace_placeOf (name : String) (text rest : List Char) :
    Text.replace (placeOf name) text (placeOf name ++ rest) =
      text ++ Text.replace (placeOf name) text rest :=
  Text.replace_append _ _ _ (List.cons_ne_nil _ _)

theorem places_placeOf (isName : IsName name) (rest : List Char) :
    places (placeOf name ++ rest) = name :: places rest := by
  have inner : placeAt? (openOf name ++ rest) = none := by
    obtain ⟨first, others, letters⟩ := isName.exists_cons
    have bare : first ≠ '{' := isName.ne_open (by simp [letters])
    unfold placeAt?
    split
    · next same =>
      simp only [openOf, letters, List.cons_append, List.cons.injEq, true_and] at same
      exact absurd same.1 bare
    · rfl
  have head := placeAt?_placeOf isName rest
  rw [placeOf_append] at head ⊢
  have behind : places (openOf name ++ rest) = places rest :=
    (places_cons_of_none inner).trans (places_append_of_no_open isName.no_open rest)
  rw [places_cons, head, behind]
  simp

theorem isName_of_mem_places {template : List Char} (member : name ∈ places template) :
    IsName name := by
  induction template using template_induction with
  | nil => simp [places] at member
  | place other rest isName ih =>
    rw [places_placeOf isName, List.mem_cons] at member
    rcases member with rfl | later
    · exact isName
    · exact ih later
  | char c rest none ih => exact ih (by rwa [places_cons_of_none none] at member)

theorem count_places_cons (isName : IsName name) (c : Char) (rest : List Char) :
    (places (c :: rest)).count name =
      (if (placeOf name).isPrefixOf (c :: rest) = true then 1 else 0) + (places rest).count name := by
  rw [places_cons, List.count_append]
  congr 1
  simp only [← placeAt?_eq_some_iff isName]
  cases placeAt? (c :: rest) with
  | none => rfl
  | some letters =>
    have same : String.ofList letters = name ↔ letters = name.toList := by
      rw [← String.toList_inj, String.toList_ofList]
    simp only [Option.map_some, Option.toList_some, List.count_singleton, Option.some.injEq,
      beq_iff_eq, same]

end Places

section Substituted

variable {name : String} {texts others : String → String} {template rest : List Char} {c : Char}

@[simp] theorem substituted_nil (texts : String → String) : substituted texts [] = [] := by
  rw [substituted]

theorem substituted_placeOf (isName : IsName name) (rest : List Char) :
    substituted texts (placeOf name ++ rest) = (texts name).toList ++ substituted texts rest := by
  have head := placeAt?_placeOf isName rest
  have behind : (openOf name ++ rest).drop (name.toList.length + 3) = rest := by
    refine List.drop_left' ?_
    simp [openOf]
  rw [placeOf_append] at head ⊢
  rw [substituted, head]
  dsimp only
  rw [behind, String.ofList_toList]

theorem substituted_cons (none : placeAt? (c :: rest) = none) :
    substituted texts (c :: rest) = c :: substituted texts rest := by
  rw [substituted, none]

theorem substituted_cons_of_ne_open (other : c ≠ '{') (rest : List Char) :
    substituted texts (c :: rest) = c :: substituted texts rest :=
  substituted_cons (placeAt?_of_ne_open other)

theorem substituted_append_of_no_open {v : List Char} (bare : '{' ∉ v) (rest : List Char) :
    substituted texts (v ++ rest) = v ++ substituted texts rest := by
  induction v with
  | nil => rfl
  | cons c v ih =>
    rw [List.mem_cons, not_or] at bare
    rw [List.cons_append, substituted_cons_of_ne_open (Ne.symm bare.1), ih bare.2, List.cons_append]

theorem substituted_congr (agree : ∀ name ∈ places template, texts name = others name) :
    substituted texts template = substituted others template := by
  induction template using template_induction with
  | nil => rw [substituted_nil, substituted_nil]
  | place name rest isName ih =>
    rw [places_placeOf isName, List.forall_mem_cons] at agree
    rw [substituted_placeOf isName, substituted_placeOf isName, agree.1, ih agree.2]
  | char c rest none ih =>
    rw [places_cons_of_none none] at agree
    rw [substituted_cons none, substituted_cons none, ih agree]

theorem length_substituted_le
    (shorter : ∀ name ∈ places template, (texts name).toList.length ≤ (others name).toList.length) :
    (substituted texts template).length ≤ (substituted others template).length := by
  induction template using template_induction with
  | nil => rw [substituted_nil, substituted_nil]
  | place name rest isName ih =>
    rw [places_placeOf isName] at shorter
    obtain ⟨here, later⟩ := List.forall_mem_cons.1 shorter
    rw [substituted_placeOf isName, substituted_placeOf isName, List.length_append,
      List.length_append]
    exact Nat.add_le_add here (ih later)
  | char c rest none ih =>
    rw [places_cons_of_none none] at shorter
    rw [substituted_cons none, substituted_cons none]
    exact Nat.succ_le_succ (ih shorter)

theorem eq_of_substituted_eq
    (shorter : ∀ name ∈ places template, (texts name).toList.length ≤ (others name).toList.length)
    (same : substituted texts template = substituted others template) :
    ∀ name ∈ places template, texts name = others name := by
  induction template using template_induction with
  | nil => exact nofun
  | place name rest isName ih =>
    rw [places_placeOf isName] at shorter ⊢
    obtain ⟨here, later⟩ := List.forall_mem_cons.1 shorter
    rw [substituted_placeOf isName, substituted_placeOf isName] at same
    have behind := length_substituted_le later
    have total := congrArg List.length same
    rw [List.length_append, List.length_append] at total
    obtain ⟨first, rest⟩ := List.append_inj same (by omega)
    exact List.forall_mem_cons.2 ⟨String.toList_inj.1 first, ih later rest⟩
  | char c rest none ih =>
    rw [places_cons_of_none none] at shorter ⊢
    rw [substituted_cons none, substituted_cons none] at same
    exact ih shorter (List.tail_eq_of_cons_eq same)

@[simp] theorem partly_empty (texts : String → String) (done : List String) :
    partly texts done [] = [] :=
  substituted_nil _

theorem partly_placeOf (done : List String) (isName : IsName name) (rest : List Char) :
    partly texts done (placeOf name ++ rest) =
      (if name ∈ done then (texts name).toList else placeOf name) ++ partly texts done rest := by
  rw [partly, substituted_placeOf isName, ← partly]
  split_ifs <;> simp

theorem partly_cons (done : List String) (none : placeAt? (c :: rest) = none) :
    partly texts done (c :: rest) = c :: partly texts done rest :=
  substituted_cons none

theorem partly_nil (texts : String → String) (template : List Char) :
    partly texts [] template = template := by
  induction template using template_induction with
  | nil => exact partly_empty texts []
  | place name rest isName ih => rw [partly_placeOf [] isName, if_neg List.not_mem_nil, ih]
  | char c rest none ih => rw [partly_cons [] none, ih]

theorem partly_of_forall {done : List String} (all : ∀ name ∈ places template, name ∈ done) :
    partly texts done template = substituted texts template :=
  substituted_congr fun name member => if_pos (all name member)

end Substituted

/-! ## One name at a time -/

inductive Replaced (word text : List Char) : Nat → List Char → List Char → Prop where
  | nil : Replaced word text 0 [] []
  | char {n : Nat} {s s' : List Char} (c : Char) (rest : Replaced word text n s s') :
      Replaced word text n (c :: s) (c :: s')
  | word {n : Nat} {s s' : List Char} (rest : Replaced word text n s s') :
      Replaced word text (n + 1) (word ++ s) (text ++ s')

namespace Replaced

section

variable {word text s s' : List Char} {n : Nat}

theorem append (rest : Replaced word text n s s') (v : List Char) :
    Replaced word text n (v ++ s) (v ++ s') := by
  induction v with
  | nil => exact rest
  | cons c v ih => exact .char c ih

theorem length (replaced : Replaced word text n s s') :
    s'.length + n * word.length = s.length + n * text.length := by
  induction replaced with
  | nil => simp
  | char c rest ih =>
    simp only [List.length_cons]
    omega
  | word rest ih =>
    simp only [List.length_append, Nat.add_mul, Nat.one_mul]
    omega

theorem eq_of_same (replaced : Replaced word word n s s') : s' = s := by
  induction replaced with
  | nil => rfl
  | char c rest ih => rw [ih]
  | word rest ih => rw [ih]

end

variable {name : String} {text s s' rest : List Char} {n : Nat}

theorem le_count (isName : IsName name) (replaced : Replaced (placeOf name) text n s s') :
    n ≤ (places s).count name := by
  induction replaced with
  | nil => exact Nat.zero_le _
  | char c rest ih =>
    rw [count_places_cons isName]
    exact ih.trans (Nat.le_add_left ..)
  | word rest ih =>
    rw [places_placeOf isName, List.count_cons_self]
    exact Nat.succ_le_succ ih

theorem replace (isName : IsName name) (text s : List Char) :
    Replaced (placeOf name) text ((places s).count name) s (Text.replace (placeOf name) text s) := by
  induction s using Text.replace.induct (placeOf name) with
  | case1 =>
    rw [Text.replace]
    exact .nil
  | case2 c rest here ih =>
    obtain ⟨after, split⟩ := List.isPrefixOf_iff_prefix.1 here
    have behind : rest.drop ((placeOf name).length - 1) = after := by
      rw [placeOf_append, List.cons.injEq] at split
      rw [← split.2]
      exact List.drop_left' rfl
    rw [behind] at ih
    rw [← split, places_placeOf isName, List.count_cons_self, replace_placeOf]
    exact .word ih
  | case3 c rest notHere ih =>
    rw [count_places_cons isName, if_neg notHere, Nat.zero_add,
      Text.replace_cons_of_not_prefix (Bool.eq_false_iff.2 notHere)]
    exact .char c ih

theorem of_no_open {v : List Char} (bare : '{' ∉ v)
    (replaced : Replaced (placeOf name) text n (v ++ s) s') :
    ∃ r, s' = v ++ r ∧ Replaced (placeOf name) text n s r := by
  induction v generalizing s' with
  | nil => exact ⟨s', rfl, replaced⟩
  | cons c v ih =>
    rw [List.mem_cons, not_or] at bare
    generalize split : c :: v ++ s = whole at replaced
    cases replaced with
    | nil => cases split
    | char _ rest =>
      cases split
      obtain ⟨r, rfl, others⟩ := ih bare.2 rest
      exact ⟨r, rfl, others⟩
    | word rest =>
      cases (List.cons.inj split).1
      exact absurd rfl bare.1

theorem of_openOf (isName : IsName name)
    (replaced : Replaced (placeOf name) text n (openOf name ++ s) s') :
    ∃ r, s' = openOf name ++ r ∧ Replaced (placeOf name) text n s r := by
  -- no place starts inside of a place
  generalize split : openOf name ++ s = whole at replaced
  cases replaced with
  | nil => cases split
  | char _ rest =>
    cases split
    obtain ⟨r, rfl, others⟩ := of_no_open isName.no_open rest
    exact ⟨r, rfl, others⟩
  | word rest =>
    obtain ⟨first, others, letters⟩ := isName.exists_cons
    have bare : first ≠ '{' := isName.ne_open (by simp [letters])
    simp only [openOf, placeOf, letters, List.cons_append, List.cons.injEq, true_and] at split
    exact absurd split.1 bare

theorem eq_replace_of_count (isName : IsName name) (replaced : Replaced (placeOf name) text n s s')
    (all : (places s).count name = n) : Text.replace (placeOf name) text s = s' := by
  induction replaced with
  | nil => rw [Text.replace]
  | @char n s s' c rest ih =>
    have below := rest.le_count isName
    rw [count_places_cons isName] at all
    by_cases here : (placeOf name).isPrefixOf (c :: s) = true
    · rw [if_pos here] at all
      omega
    · rw [if_neg here, Nat.zero_add] at all
      rw [Text.replace_cons_of_not_prefix (Bool.eq_false_iff.2 here), ih all]
  | word rest ih =>
    rw [places_placeOf isName, List.count_cons_self, Nat.add_right_cancel_iff] at all
    rw [replace_placeOf, ih all]

theorem count_of_eq_replace (isName : IsName name)
    (replaced : Replaced (placeOf name) text n s s') (different : text ≠ placeOf name)
    (same : Text.replace (placeOf name) text s = s') : (places s).count name = n := by
  by_cases lengths : text.length = (placeOf name).length
  · induction replaced with
    | nil => rfl
    | @char n s s' c rest ih =>
      rw [count_places_cons isName]
      by_cases here : (placeOf name).isPrefixOf (c :: s) = true
      · -- the place at this spot was left alone as a whole
        obtain ⟨after, split⟩ := List.isPrefixOf_iff_prefix.1 here
        have whole := split
        rw [placeOf_append] at whole
        cases whole
        obtain ⟨r, rfl, -⟩ := of_openOf isName rest
        rw [← placeOf_append, replace_placeOf, ← placeOf_append] at same
        exact absurd (List.append_inj_left same lengths) different
      · rw [Text.replace_cons_of_not_prefix (Bool.eq_false_iff.2 here), List.cons.injEq] at same
        rw [if_neg here, Nat.zero_add, ih same.2]
    | word rest ih =>
      rw [replace_placeOf] at same
      rw [places_placeOf isName, List.count_cons_self, ih (List.append_cancel_left same)]
  · -- a text of another length: what was left alone shows in the length of the whole
    have fewer := replaced.length
    have all := (Replaced.replace isName text s).length
    rw [same] at all
    obtain ⟨k, more⟩ := Nat.exists_eq_add_of_le (replaced.le_count isName)
    have balance : k * (placeOf name).length = k * text.length := by
      rw [more, Nat.add_mul, Nat.add_mul] at all
      omega
    rcases Nat.eq_zero_or_pos k with rfl | positive
    · exact more
    · exact absurd (Nat.eq_of_mul_eq_mul_left positive balance).symm lengths

end Replaced

section Turns

variable {texts : String → String} {name : String} {names done : List String}
  {template : List Char}

theorem not_mem_of_turn {rest : List String} (distinct : names.Nodup)
    (split : names = done ++ name :: rest) : name ∉ done := by
  rw [split, List.nodup_middle, List.nodup_cons] at distinct
  exact fun member => distinct.1 (List.mem_append_left rest member)

theorem replaced_partly (texts : String → String) (template : List Char) (isName : IsName name)
    (new : name ∉ done) :
    Replaced (placeOf name) (texts name).toList ((places template).count name)
      (partly texts done template) (partly texts (done ++ [name]) template) := by
  induction template using template_induction with
  | nil =>
    rw [partly_empty, partly_empty]
    exact .nil
  | place other rest isOther ih =>
    rw [places_placeOf isOther, partly_placeOf _ isOther, partly_placeOf _ isOther]
    by_cases same : other = name
    · subst same
      rw [List.count_cons_self, if_neg new, if_pos (by simp)]
      exact .word ih
    · have stays : other ∈ done ++ [name] ↔ other ∈ done := by simp [same]
      rw [List.count_cons_of_ne same]
      simp only [stays]
      exact ih.append _
  | char c rest none ih =>
    rw [places_cons_of_none none, partly_cons _ none, partly_cons _ none]
    exact .char c ih

theorem replace_partly_iff (texts : String → String) (template : List Char) (isName : IsName name)
    (new : name ∉ done) :
    Text.replace (placeOf name) (texts name).toList (partly texts done template) =
        partly texts (done ++ [name]) template ↔
      (places (partly texts done template)).count name = (places template).count name ∨
        (texts name).toList = placeOf name := by
  have replaced := replaced_partly texts template isName new
  constructor
  · intro same
    by_cases own : (texts name).toList = placeOf name
    · exact .inr own
    · exact .inl (replaced.count_of_eq_replace isName own same)
  · rintro (count | own)
    · exact replaced.eq_replace_of_count isName count
    · rw [own] at replaced ⊢
      exact (Replaced.replace isName _ _).eq_of_same.trans replaced.eq_of_same.symm

def replaceAll (texts : String → String) (names : List String) (template : List Char) : List Char :=
  names.foldl (fun s name => Text.replace (placeOf name) (texts name).toList s) template

theorem replaceAll_concat (done : List String) (name : String) (template : List Char) :
    replaceAll texts (done ++ [name]) template =
      Text.replace (placeOf name) (texts name).toList (replaceAll texts done template) := by
  rw [replaceAll, List.foldl_append]
  rfl

/-- Every turn leaves what one pass over the names so far gives, if and only if none is disturbed. -/
theorem replaceAll_eq_partly_iff (texts : String → String) (template : List Char)
    (isName : ∀ name ∈ names, IsName name) (distinct : names.Nodup) :
    (∀ done rest, names = done ++ rest →
        replaceAll texts done template = partly texts done template) ↔
      Undisturbed texts names template := by
  have turn {done rest : List String} {name : String} (split : names = done ++ name :: rest) :=
    replace_partly_iff texts template (isName name (by simp [split])) (not_mem_of_turn distinct split)
  constructor
  · intro stages done name rest split
    have after := stages (done ++ [name]) rest (by simpa using split)
    rw [replaceAll_concat, stages done _ split] at after
    exact (turn split).1 after
  · -- the names that were done grow at their end, and each turn starts from what one pass gave
    intro undisturbed done
    induction done using List.reverseRecOn with
    | nil => exact fun _ _ => (partly_nil texts template).symm
    | append_singleton done name ih =>
      intro rest split
      rw [List.append_assoc, List.singleton_append] at split
      rw [replaceAll_concat, ih _ split]
      exact (turn split).2 (undisturbed done name rest split)

theorem replaceAll_of_undisturbed (isName : ∀ name ∈ names, IsName name) (distinct : names.Nodup)
    (all : ∀ name ∈ places template, name ∈ names) (undisturbed : Undisturbed texts names template) :
    replaceAll texts names template = substituted texts template := by
  have stages := (replaceAll_eq_partly_iff texts template isName distinct).2 undisturbed
  rw [stages names [] (List.append_nil names).symm, partly_of_forall all]

theorem places_partly (done : List String) (bare : '{' ∉ substituted (fun _ => "") template)
    (texts_bare : ∀ name ∈ places template, '{' ∉ (texts name).toList) :
    places (partly texts done template) = (places template).filter (· ∉ done) := by
  induction template using template_induction with
  | nil =>
    rw [partly_empty]
    rfl
  | place name rest isName ih =>
    rw [places_placeOf isName] at texts_bare ⊢
    obtain ⟨here, later⟩ := List.forall_mem_cons.1 texts_bare
    rw [substituted_placeOf isName] at bare
    rw [partly_placeOf done isName, List.filter_cons]
    by_cases known : name ∈ done
    · rw [if_pos known, places_append_of_no_open here, ih bare later]
      simp [known]
    · rw [if_neg known, places_placeOf isName, ih bare later]
      simp [known]
  | char c rest none ih =>
    rw [substituted_cons none, List.mem_cons, not_or] at bare
    rw [places_cons_of_none none] at texts_bare ⊢
    rw [partly_cons done none, places_cons_of_ne_open (Ne.symm bare.1), ih bare.2 texts_bare]

theorem undisturbed_of_no_open (distinct : names.Nodup)
    (bare : '{' ∉ substituted (fun _ => "") template)
    (texts_bare : ∀ name ∈ places template, '{' ∉ (texts name).toList) :
    Undisturbed texts names template := by
  intro done name rest split
  have new := not_mem_of_turn distinct split
  rw [places_partly done bare texts_bare]
  exact .inl (List.count_filter (by simpa using new))

end Turns

/-! ## Filled commands -/

section Filled

variable {values : Fields Document} {name text : String} {texts : String → String}
  {data : Fields Document} {template : List Char}

theorem textOfValue_valueOf_eq_ok_iff :
    textOfValue (valueOf values (name, .text "")) = .ok text ↔ Gives values name text := by
  constructor
  · intro written
    cases known : values.lookup name with
    | none =>
      rw [valueOf, known] at written
      cases written
      exact .missing known
    | some value =>
      rw [valueOf, known, Option.getD_some] at written
      unfold textOfValue at written
      split at written
      · cases written
        exact .empty known
      · next nonempty =>
        cases shown : value.toText with
        | error fault => simp [shown, Except.mapError] at written
        | ok _ =>
          rw [shown] at written
          cases written
          exact .shown known nonempty shown
  · rintro (unknown | known | ⟨known, nonempty, shown⟩)
    · rw [valueOf, unknown]
      rfl
    · rw [valueOf, known]
      rfl
    · rw [valueOf, known, Option.getD_some]
      unfold textOfValue
      split
      · exact absurd rfl nonempty
      · rw [shown]
        rfl

def IsBlank (data : Fields Document) : Prop := ∀ entry ∈ data, entry.2 = .text ""

theorem fill_eq_ok (blank : IsBlank data) (gives : ∀ name ∈ data.keys, Gives values name (texts name)) :
    fill values data template = .ok (replaceAll texts data.keys template) := by
  induction data generalizing template with
  | nil => rfl
  | cons entry rest ih =>
    obtain ⟨name, value⟩ := entry
    obtain ⟨rfl, others⟩ := List.forall_mem_cons.1 blank
    obtain ⟨here, later⟩ := List.forall_mem_cons.1 gives
    rw [fill, textOfValue_valueOf_eq_ok_iff.2 here]
    exact ih others later

theorem gives_of_fill (blank : IsBlank data) {s : List Char}
    (filled : fill values data template = .ok s) :
    ∀ name ∈ data.keys, ∃ text, Gives values name text := by
  induction data generalizing template with
  | nil => exact nofun
  | cons entry rest ih =>
    obtain ⟨name, value⟩ := entry
    obtain ⟨rfl, others⟩ := List.forall_mem_cons.1 blank
    obtain ⟨text, written, filled⟩ := bind_eq_ok_iff.1 filled
    exact List.forall_mem_cons.2 ⟨⟨text, textOfValue_valueOf_eq_ok_iff.1 written⟩, ih others filled⟩

theorem fill_isOk_iff (template : List Char) (blank : IsBlank data) :
    (∃ s, fill values data template = .ok s) ↔
      ∀ name ∈ data.keys, ∃ text, Gives values name text := by
  constructor
  · rintro ⟨s, filled⟩
    exact gives_of_fill blank filled
  · intro gives
    choose! texts gives using gives
    exact ⟨_, fill_eq_ok blank gives⟩

theorem IsBlank.put (blank : IsBlank data) (name : String) :
    IsBlank (data.put name (.text "")) := by
  induction data with
  | nil => exact List.forall_mem_singleton.2 rfl
  | cons entry rest ih =>
    obtain ⟨here, later⟩ := List.forall_mem_cons.1 blank
    rw [Fields.put]
    split_ifs
    · exact List.forall_mem_cons.2 ⟨rfl, later⟩
    · exact List.forall_mem_cons.2 ⟨here, ih later⟩

structure IsDataFor (names : List String) (data : Fields Document) : Prop where
  distinct : data.keys.Nodup
  blank : IsBlank data
  mem_iff : ∀ name, name ∈ data.keys ↔ name ∈ names

theorem IsDataFor.put {names : List String} (isData : IsDataFor names data) (name : String) :
    IsDataFor (names ++ [name]) (data.put name (.text "")) := by
  refine ⟨Fields.nodup_keys_put _ _ _ isData.distinct, isData.blank.put name, fun other => ?_⟩
  rw [List.mem_append, List.mem_singleton, ← isData.mem_iff]
  by_cases known : name ∈ data.keys
  · rw [Fields.keys_put_of_mem _ _ _ known]
    exact ⟨.inl, fun either => either.elim id fun same => same ▸ known⟩
  · rw [Fields.keys_put_of_not_mem _ _ _ known, List.mem_append, List.mem_singleton]

theorem isDataFor_ofPairs (names : List String) :
    IsDataFor names (Fields.ofPairs (names.map fun name => (name, .text ""))) := by
  induction names using List.reverseRecOn with
  | nil => exact ⟨.nil, nofun, fun _ => Iff.rfl⟩
  | append_singleton names name ih =>
    rw [List.map_append, Fields.ofPairs, Fields.putAll, List.foldl_append]
    exact ih.put name

theorem IsDataFor.perm {names : List String} {data' : Fields Document}
    (isData : IsDataFor names data) (same : data'.Perm data) : IsDataFor names data' := by
  have keys : data'.keys.Perm data.keys := same.map _
  exact ⟨keys.nodup_iff.2 isData.distinct, fun entry member => isData.blank entry (same.subset member),
    fun name => keys.mem_iff.trans (isData.mem_iff name)⟩

theorem exists_of_mem_ofFirstControl {control : Document} {command : Command}
    (declared : (name, command) ∈ ofFirstControl control) :
    ∃ actions members, control.member? "action" = some (.object actions) ∧
      (name, .object members) ∈ actions ∧ command = ofAction
        (ReportFormat.ofDocument ((control.member? "type").getD .null) = .binary) members := by
  obtain ⟨⟨key, action⟩, listed, made⟩ := List.mem_filterMap.1 declared
  obtain ⟨members, isObject, same⟩ := Option.map_eq_some_iff.1 made
  cases same
  cases action with
  | object node =>
    cases isObject
    cases found : control.member? "action" with
    | none => simp [found] at listed
    | some value =>
      cases value with
      | object actions =>
        refine ⟨actions, _, rfl, ?_, rfl⟩
        simpa [found, Document.object?] using listed
      | _ => simp [found, Document.object?] at listed
  | _ => cases isObject

theorem isDataFor_ofAction (binary : Bool) (members : Fields Document) :
    IsDataFor (places (ofAction binary members).template.toList) (ofAction binary members).data :=
  isDataFor_ofPairs _

theorem isDataFor_of_mem_ofFirstControl {control : Document} {command : Command}
    (declared : (name, command) ∈ ofFirstControl control) :
    IsDataFor (places command.template.toList) command.data := by
  obtain ⟨-, members, -, -, rfl⟩ := exists_of_mem_ofFirstControl declared
  exact isDataFor_ofAction _ members

theorem filled_of_undisturbed {command : Command}
    (isData : IsDataFor (places command.template.toList) command.data)
    (gives : ∀ place ∈ places command.template.toList, Gives values place (texts place))
    (undisturbed : Undisturbed texts command.data.keys command.template.toList) :
    command.filled values = .ok (String.ofList (substituted texts command.template.toList)) := by
  have isName : ∀ name ∈ command.data.keys, IsName name := fun name member =>
    isName_of_mem_places ((isData.mem_iff name).1 member)
  have given : ∀ name ∈ command.data.keys, Gives values name (texts name) := fun name member =>
    gives name ((isData.mem_iff name).1 member)
  rw [filled, fill_eq_ok isData.blank given, replaceAll_of_undisturbed isName isData.distinct
    (fun name => (isData.mem_iff name).2) undisturbed]
  rfl

end Filled

/-- Filling the places name after name is one substitution of all of them, for every order of the
names in which none is disturbed; every turn shows if one is. -/
theorem filled_eq_substituted {control : Document} {name : String} {command : Command}
    (declared : (name, command) ∈ ofFirstControl control) (values : Fields Document) :
    ((∃ text, command.filled values = .ok text) ↔
      ∀ place ∈ places command.template.toList, ∃ text, Gives values place text) ∧
    ∀ texts : String → String,
      (∀ place ∈ places command.template.toList, Gives values place (texts place)) →
      ∀ data : Fields Document, data.Perm command.data →
        (Undisturbed texts data.keys command.template.toList ↔
          ∀ done rest, data = done ++ rest → { command with data := done }.filled values =
            .ok (String.ofList (partly texts (Fields.keys done) command.template.toList))) ∧
        (Undisturbed texts data.keys command.template.toList →
          { command with data }.filled values =
            .ok (String.ofList (substituted texts command.template.toList))) := by
  have isData := isDataFor_of_mem_ofFirstControl declared
  refine ⟨?_, fun texts gives data same => ?_⟩
  · simp only [← isData.mem_iff, ← fill_isOk_iff command.template.toList isData.blank]
    rw [filled]
    cases fill values command.data command.template.toList <;> simp [Except.map]
  have isData' := isData.perm same
  have filled {done rest : Fields Document} (split : data = done ++ rest) :
      { command with data := done }.filled values =
        .ok (String.ofList (replaceAll texts (Fields.keys done) command.template.toList)) := by
    have blank : IsBlank done := fun entry member => isData'.blank entry (by simp [split, member])
    have given : ∀ name ∈ Fields.keys done, Gives values name (texts name) := fun name member =>
      gives name ((isData'.mem_iff name).1 (by simp_all [Fields.keys]))
    rw [Command.filled, fill_eq_ok blank given]
    rfl
  have isName : ∀ name ∈ data.keys, IsName name := fun name member =>
    isName_of_mem_places ((isData'.mem_iff name).1 member)
  have stages := replaceAll_eq_partly_iff texts command.template.toList isName isData'.distinct
  refine ⟨?_, fun undisturbed => ?_⟩
  · rw [← stages]
    constructor
    · intro equal done rest split
      rw [filled split, equal _ (Fields.keys rest) (by simp [split, Fields.keys])]
    · intro equal done rest split
      obtain ⟨done, rest, here, rfl, rfl⟩ := List.map_eq_append_iff.1 split
      have same := (filled here).symm.trans (equal done rest here)
      simpa [Fields.keys, ← String.toList_inj] using same
  · rw [filled (List.append_nil data).symm, replaceAll_of_undisturbed isName isData'.distinct
      (fun name => (isData'.mem_iff name).2) undisturbed]

def controlOf (template : String) : Document :=
  .object [("action", .object [("Start", .object [("data", .text template)])])]

def commandOf (template : String) : Command where
  option := ""
  declaration := "\x7b\x7d"
  template
  data := Fields.ofPairs ((places template.toList).map fun name => (name, .text ""))

theorem ofFirstControl_controlOf (template : String) :
    ofFirstControl (controlOf template) = [("Start", commandOf template)] := by
  have shown : (((Document.text template).orElse (.text "")).display) = template := by
    by_cases empty : template = ""
    · rw [empty]
      rfl
    · simp [Document.orElse, Document.isTruthy, empty]
  have action : ofAction false [("data", .text template)] = commandOf template := by
    change ofAction false [("data", .text template)] = { commandOf template with }
    simp only [ofAction, List.lookup_cons, beq_self_eq_true, Option.getD_some, shown, Bool.false_and]
    rfl
  have plain : ReportFormat.ofDocument (((controlOf template).member? "type").getD .null) ≠
      .binary := by
    change ReportFormat.ofDocument .null ≠ .binary
    decide +kernel
  rw [ofFirstControl, decide_eq_false plain]
  exact congrArg (fun command => [("Start", command)]) action

def repeated : Command :=
  commandOf "[\x7b\x7ba\x7d\x7d,\x7b\x7bab\x7d\x7d,\x7b\x7ba\x7d\x7d,\x7b\x7bc\x7d\x7d]"

theorem filled_eq_substituted_repeated :
    ("Start", repeated) ∈ ofFirstControl (controlOf repeated.template) ∧
    { repeated with data := repeated.data.reverse }.filled
      [("a", .text "\x7b\x7bx\x7d\x7d"), ("ab", .int 7)] =
        .ok "[\x7b\x7bx\x7d\x7d,7,\x7b\x7bx\x7d\x7d,0]" := by
  have declared : ("Start", repeated) ∈ ofFirstControl (controlOf repeated.template) := by
    rw [ofFirstControl_controlOf]
    exact List.mem_singleton_self _
  have named : places repeated.template.toList = ["a", "ab", "a", "c"] := by decide +kernel
  let texts (name : String) : String :=
    if name = "a" then "\x7b\x7bx\x7d\x7d" else if name = "ab" then "7" else "0"
  have gives : ∀ place ∈ places repeated.template.toList,
      Gives [("a", .text "\x7b\x7bx\x7d\x7d"), ("ab", .int 7)] place (texts place) := by
    rw [named]
    simp only [List.forall_mem_cons]
    refine ⟨.shown rfl (by simp) rfl, .shown rfl nofun (by decide +kernel), ?_, .missing rfl, nofun⟩
    exact .shown rfl (by simp) rfl
  have keys : Fields.keys repeated.data.reverse = ["c", "ab", "a"] := by
    decide +kernel
  have undisturbed :
      Undisturbed texts (Fields.keys repeated.data.reverse) repeated.template.toList := by
    rw [keys]
    rintro (_ | ⟨_, _ | ⟨_, _ | ⟨_, _⟩⟩⟩) name rest split
    · cases split
      decide +kernel
    · cases split
      decide +kernel
    · cases split
      decide +kernel
    · simp at split
  have filled := ((filled_eq_substituted declared
    [("a", .text "\x7b\x7bx\x7d\x7d"), ("ab", .int 7)]).2 texts gives _
      (List.reverse_perm _)).2 undisturbed
  refine ⟨declared, filled.trans ?_⟩
  decide +kernel

def crossing : Command := commandOf "[\x7b\x7ba\x7d\x7d,\x7b\x7bb\x7d\x7d]"

def crossingValues : Fields Document := [("a", .text "\x7b\x7bb\x7d\x7d"), ("b", .int 9)]

/-- The text of one value is taken for a place, and the order of the names shows. -/
theorem not_substituted_crossing :
    let texts (name : String) : String := if name = "a" then "\x7b\x7bb\x7d\x7d" else "9"
    ("Start", crossing) ∈ ofFirstControl (controlOf crossing.template) ∧
    (∀ name ∈ places crossing.template.toList, Gives crossingValues name (texts name)) ∧
    String.ofList (substituted texts crossing.template.toList) = "[\x7b\x7bb\x7d\x7d,9]" ∧
    crossing.filled crossingValues = .ok "[9,9]" ∧
    { crossing with data := crossing.data.reverse }.filled crossingValues =
      .ok "[\x7b\x7bb\x7d\x7d,9]" := by
  have named : places crossing.template.toList = ["a", "b"] := by decide +kernel
  refine ⟨?_, ?_, by decide +kernel, by decide +kernel, by decide +kernel⟩
  · rw [ofFirstControl_controlOf]
    exact List.mem_singleton_self _
  · rw [named]
    simp only [List.forall_mem_cons]
    exact ⟨.shown rfl (by simp) rfl, .shown rfl nofun (by decide +kernel), nofun⟩

end ApplianceCloud.Command
