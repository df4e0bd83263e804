import ApplianceCloud.Base64
import Mathlib.Data.List.TakeWhile

namespace ApplianceCloud.Base64

def sextets : List UInt8 → List Nat
  | a :: b :: c :: rest =>
      let group := (a.toNat * 256 + b.toNat) * 256 + c.toNat
      group / 262144 :: group / 4096 % 64 :: group / 64 % 64 :: group % 64 :: sextets rest
  | [a, b] =>
      let group := (a.toNat * 256 + b.toNat) * 4
      [group / 4096, group / 64 % 64, group % 64]
  | [a] =>
      let group := a.toNat * 16
      [group / 64, group % 64]
  | [] => []

def padding : List UInt8 → List Char
  | _ :: _ :: _ :: rest => padding rest
  | [_, _] => ['=']
  | [_] => ['=', '=']
  | [] => []

theorem encodeChars_eq (bytes : List UInt8) :
    encodeChars bytes = (sextets bytes).map symbol ++ padding bytes := by
  induction bytes using encodeChars.induct with
  | case1 a b c rest ih =>
    rw [encodeChars, ih]
    rfl
  | case2 a b => rfl
  | case3 a => rfl
  | case4 => rfl

theorem sextet?_symbol : ∀ sextet < 64, sextet? (symbol sextet) = some sextet := by decide +kernel

theorem symbol_ne_pad : ∀ sextet < 64, symbol sextet ≠ '=' := by decide +kernel

theorem sextets_lt (bytes : List UInt8) : ∀ sextet ∈ sextets bytes, sextet < 64 := by
  induction bytes using sextets.induct with
  | case1 a b c rest ih =>
    have := a.toNat_lt
    have := b.toNat_lt
    have := c.toNat_lt
    simp only [sextets, List.forall_mem_cons]
    exact ⟨by omega, by omega, by omega, by omega, ih⟩
  | case2 a b =>
    have := a.toNat_lt
    have := b.toNat_lt
    simp only [sextets, List.forall_mem_cons]
    exact ⟨by omega, by omega, by omega, nofun⟩
  | case3 a =>
    have := a.toNat_lt
    simp only [sextets, List.forall_mem_cons]
    exact ⟨by omega, by omega, nofun⟩
  | case4 => exact nofun

theorem bytesOf_sextets (bytes : List UInt8) : bytesOf (sextets bytes) = bytes := by
  have byte (b : UInt8) {n : Nat} (same : n = b.toNat) : UInt8.ofNat n = b := by
    rw [same, UInt8.ofNat_toNat]
  induction bytes using sextets.induct with
  | case1 a b c rest ih =>
    have := a.toNat_lt
    have := b.toNat_lt
    have := c.toNat_lt
    simp only [sextets, bytesOf, ih]
    rw [byte a (by omega), byte b (by omega), byte c (by omega)]
  | case2 a b =>
    have := a.toNat_lt
    have := b.toNat_lt
    simp only [sextets, bytesOf]
    rw [byte a (by omega), byte b (by omega)]
  | case3 a =>
    have := a.toNat_lt
    simp only [sextets, bytesOf]
    rw [byte a (by omega)]
  | case4 => rfl

theorem isPadding_add_four {length : Nat} {ending : List Char}
    (complete : isPadding length ending = true) : isPadding (length + 4) ending = true := by
  unfold isPadding at complete ⊢
  rw [Nat.add_mod_right]
  split at complete
  · rw [Bool.and_eq_true] at complete ⊢
    exact ⟨complete.1, by simp⟩
  · exact complete
  · exact complete
  · exact complete

theorem isPadding_padding (bytes : List UInt8) :
    isPadding (sextets bytes).length (padding bytes) = true := by
  induction bytes using sextets.induct with
  | case1 a b c rest ih => exact isPadding_add_four ih
  | case2 a b => rfl
  | case3 a => rfl
  | case4 => rfl

theorem padding_eq (bytes : List UInt8) : ∃ n, padding bytes = List.replicate n '=' := by
  induction bytes using padding.induct with
  | case1 a b c rest ih => exact ih
  | case2 a b => exact ⟨1, rfl⟩
  | case3 a => exact ⟨2, rfl⟩
  | case4 => exact ⟨0, rfl⟩

theorem mapM_sextet?_symbol {groups : List Nat} (small : ∀ sextet ∈ groups, sextet < 64) :
    (groups.map symbol).mapM sextet? = some groups := by
  induction groups with
  | nil => rfl
  | cons sextet rest ih =>
    obtain ⟨here, later⟩ := List.forall_mem_cons.1 small
    rw [List.map_cons, List.mapM_cons, sextet?_symbol sextet here, ih later]
    rfl

theorem decode?_append {data : List Char} (bare : '=' ∉ data) (n : Nat) :
    decode? (String.ofList (data ++ List.replicate n '=')) = do
      let sextets ← data.mapM sextet?
      guard (isPadding data.length (List.replicate n '='))
      return bytesOf sextets := by
  have symbols : ∀ c ∈ data, decide (c ≠ '=') = true := fun c member =>
    decide_eq_true fun same => bare (same ▸ member)
  have taken : (data ++ List.replicate n '=').takeWhile (· ≠ '=') = data := by
    rw [List.takeWhile_append_of_pos symbols]
    simp
  have dropped : (data ++ List.replicate n '=').dropWhile (· ≠ '=') = List.replicate n '=' := by
    rw [List.dropWhile_append_of_pos symbols]
    simp
  unfold decode?
  dsimp only
  rw [String.toList_ofList, taken, dropped]

theorem decode?_encode (bytes : List UInt8) : decode? (encode bytes) = some bytes := by
  have bare : '=' ∉ (sextets bytes).map symbol := by
    intro member
    obtain ⟨sextet, listed, same⟩ := List.mem_map.1 member
    exact symbol_ne_pad sextet (sextets_lt bytes sextet listed) same
  obtain ⟨n, pad⟩ := padding_eq bytes
  have complete : isPadding ((sextets bytes).map symbol).length (List.replicate n '=') = true := by
    rw [List.length_map, ← pad]
    exact isPadding_padding bytes
  rw [encode, encodeChars_eq, pad, decode?_append bare, mapM_sextet?_symbol (sextets_lt bytes),
    complete]
  exact congrArg some (bytesOf_sextets bytes)

/-- The texts that a strict reader takes: characters of the alphabet, and behind them the padding that
completes the last group. More padding may follow groups that are complete. -/
inductive IsStrict : List Char → Prop where
  | whole {data : List Char} (symbols : data ⊆ alphabet) (groups : data.length % 4 = 0) : IsStrict data
  | spare {data : List Char} (symbols : data ⊆ alphabet) (groups : data.length % 4 = 0)
      (nonempty : data ≠ []) (n : Nat) : IsStrict (data ++ List.replicate n '=')
  | two {data : List Char} (symbols : data ⊆ alphabet) (groups : data.length % 4 = 2) :
      IsStrict (data ++ ['=', '='])
  | three {data : List Char} (symbols : data ⊆ alphabet) (groups : data.length % 4 = 3) :
      IsStrict (data ++ ['='])

theorem isSome_mapM_sextet?_iff {data : List Char} :
    (data.mapM sextet?).isSome = true ↔ data ⊆ alphabet := by
  induction data with
  | nil => simp
  | cons c rest ih =>
    rw [List.cons_subset, ← ih, List.mapM_cons]
    have here : (sextet? c).isSome = true ↔ c ∈ alphabet := by simp [sextet?]
    rw [← here]
    cases sextet? c <;> cases rest.mapM sextet? <;> simp

theorem isSome_decode?_append_iff {data : List Char} (bare : '=' ∉ data) (n : Nat) :
    (decode? (String.ofList (data ++ List.replicate n '='))).isSome = true ↔
      data ⊆ alphabet ∧ isPadding data.length (List.replicate n '=') = true := by
  rw [decode?_append bare, ← isSome_mapM_sextet?_iff]
  generalize isPadding data.length (List.replicate n '=') = complete
  cases data.mapM sextet? with
  | none => exact iff_of_false Bool.false_ne_true fun read => Bool.false_ne_true read.1
  | some sextets =>
    cases complete with
    | false => exact iff_of_false Bool.false_ne_true fun read => Bool.false_ne_true read.2
    | true => exact iff_of_true rfl ⟨rfl, rfl⟩

theorem isPadding_replicate_iff {length n : Nat} : isPadding length (List.replicate n '=') = true ↔
    length % 4 = 0 ∧ (length ≠ 0 ∨ n = 0) ∨ length % 4 = 2 ∧ n = 2 ∨ length % 4 = 3 ∧ n = 1 := by
  unfold isPadding
  split
  · next whole => simp [whole]
  · next two =>
    have same : List.replicate n '=' = ['=', '='] ↔ n = 2 := by
      simpa using List.replicate_inj (n := n) (m := 2) (a := '=') (b := '=')
    simp [two, same]
  · next three =>
    have same : List.replicate n '=' = ['='] ↔ n = 1 := by
      simpa using List.replicate_inj (n := n) (m := 1) (a := '=') (b := '=')
    simp [three, same]
  · next noZero noTwo noThree =>
    refine iff_of_false Bool.noConfusion ?_
    rintro (⟨zero, -⟩ | ⟨two, -⟩ | ⟨three, -⟩)
    · exact noZero zero
    · exact noTwo two
    · exact noThree three

theorem exists_padding {length : Nat} {ending : List Char}
    (complete : isPadding length ending = true) : ∃ n, ending = List.replicate n '=' := by
  unfold isPadding at complete
  split at complete
  · rw [Bool.and_eq_true] at complete
    refine ⟨ending.length, List.eq_replicate_of_mem fun c member => ?_⟩
    simpa using List.all_eq_true.1 complete.1 c member
  · exact ⟨2, of_decide_eq_true complete⟩
  · exact ⟨1, of_decide_eq_true complete⟩
  · cases complete

theorem exists_of_isSome_decode? {s : String} (read : (decode? s).isSome = true) :
    ∃ data n, '=' ∉ data ∧ s.toList = data ++ List.replicate n '=' := by
  have complete : isPadding (s.toList.takeWhile (· ≠ '=')).length
      (s.toList.dropWhile (· ≠ '=')) = true := by
    by_contra incomplete
    rw [Bool.not_eq_true] at incomplete
    unfold decode? at read
    dsimp only at read
    rw [incomplete] at read
    generalize (s.toList.takeWhile (· ≠ '=')).mapM sextet? = groups at read
    cases groups <;> cases read
  obtain ⟨n, pad⟩ := exists_padding complete
  refine ⟨s.toList.takeWhile (· ≠ '='), n, fun member => ?_, ?_⟩
  · simpa using List.mem_takeWhile_imp member
  · rw [← pad, List.takeWhile_append_dropWhile]

theorem pad_not_mem {data : List Char} (symbols : data ⊆ alphabet) : '=' ∉ data :=
  fun member => absurd (symbols member) (by decide +kernel)

theorem isSome_decode?_iff {s : String} : (decode? s).isSome = true ↔ IsStrict s.toList := by
  constructor
  · intro read
    obtain ⟨data, n, bare, split⟩ := exists_of_isSome_decode? read
    rw [← String.ofList_toList (s := s), split, isSome_decode?_append_iff bare,
      isPadding_replicate_iff] at read
    obtain ⟨symbols, ⟨groups, rest⟩ | ⟨two, rfl⟩ | ⟨three, rfl⟩⟩ := read
    · rw [split]
      by_cases empty : n = 0
      · rw [empty, List.replicate_zero, List.append_nil]
        exact .whole symbols groups
      · exact .spare symbols groups
          (List.ne_nil_of_length_pos (Nat.pos_of_ne_zero (rest.resolve_right empty))) n
    · exact split ▸ .two symbols two
    · exact split ▸ .three symbols three
  · intro strict
    rw [← String.ofList_toList (s := s)]
    have readable {data : List Char} (symbols : data ⊆ alphabet) {n : Nat}
        (padding : data.length % 4 = 0 ∧ (data.length ≠ 0 ∨ n = 0) ∨
          data.length % 4 = 2 ∧ n = 2 ∨ data.length % 4 = 3 ∧ n = 1) :
        (decode? (String.ofList (data ++ List.replicate n '='))).isSome = true :=
      (isSome_decode?_append_iff (pad_not_mem symbols) n).2
        ⟨symbols, isPadding_replicate_iff.2 padding⟩
    generalize s.toList = text at strict
    cases strict with
    | whole symbols groups =>
      rw [← List.append_nil text]
      exact readable symbols (n := 0) (.inl ⟨groups, .inr rfl⟩)
    | spare symbols groups nonempty n =>
      exact readable symbols (.inl ⟨groups, .inl (mt List.length_eq_zero_iff.1 nonempty)⟩)
    | two symbols two => exact readable symbols (n := 2) (.inr (.inl ⟨two, rfl⟩))
    | three symbols three => exact readable symbols (n := 1) (.inr (.inr ⟨three, rfl⟩))

end ApplianceCloud.Base64
