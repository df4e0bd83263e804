import ApplianceCloud.Proofs.Document.Numbers
import ApplianceCloud.Proofs.Document.Writable
import ApplianceCloud.Proofs.Outcome

namespace ApplianceCloud.Document

/-! ## Texts -/

section Texts

variable {tail after : List Char} {codes : List Nat}

theorem hexValue?_digitChar : ∀ k < 16, hexValue? (Nat.digitChar k) = some k := by decide +kernel

theorem hexDigits_four {n : Nat} (small : n < 0x10000) : Text.hexDigits 4 n =
    [Nat.digitChar (n / 4096), Nat.digitChar (n / 256 % 16), Nat.digitChar (n / 16 % 16),
      Nat.digitChar (n % 16)] := by
  have digit {k : Nat} (less : k < 16) : Nat.toDigits 16 k = [Nat.digitChar k] :=
    Nat.toDigits_of_lt_base less
  have more {k : Nat} (most : 16 ≤ k) :
      Nat.toDigits 16 k = Nat.toDigits 16 (k / 16) ++ [Nat.digitChar (k % 16)] :=
    Nat.toDigits_of_base_le (by decide) most
  have quotients : n / 16 / 16 = n / 256 ∧ n / 256 / 16 = n / 4096 := by omega
  rw [Text.hexDigits]
  rcases Nat.lt_or_ge n 16 with one | two
  · have zeros : n / 4096 = 0 ∧ n / 256 = 0 ∧ n / 16 = 0 ∧ n % 16 = n := by omega
    simp [digit one, zeros]
  rcases Nat.lt_or_ge n 256 with less | three
  · have zeros : n / 4096 = 0 ∧ n / 256 = 0 ∧ n / 16 % 16 = n / 16 := by omega
    simp [more two, digit (show n / 16 < 16 by omega), zeros]
  rcases Nat.lt_or_ge n 4096 with less | four
  · have zeros : n / 4096 = 0 ∧ n / 256 % 16 = n / 256 := by omega
    simp [more two, more (show 16 ≤ n / 16 by omega), quotients,
      digit (show n / 256 < 16 by omega), zeros]
  · simp [more two, more (show 16 ≤ n / 16 by omega), more (show 16 ≤ n / 256 by omega), quotients,
      digit (show n / 4096 < 16 by omega)]

theorem unitValue?_hexDigits {unit : Nat} (small : unit < 0x10000) :
    ∃ a b c d, Text.hexDigits 4 unit = [a, b, c, d] ∧ unitValue? a b c d = some unit := by
  refine ⟨_, _, _, _, hexDigits_four small, ?_⟩
  have high := hexValue?_digitChar (unit / 4096) (by omega)
  have second := hexValue?_digitChar (unit / 256 % 16) (Nat.mod_lt _ (by decide))
  have third := hexValue?_digitChar (unit / 16 % 16) (Nat.mod_lt _ (by decide))
  have low := hexValue?_digitChar (unit % 16) (Nat.mod_lt _ (by decide))
  simp only [unitValue?, high, second, third, low, bind, Option.bind, pure]
  congr 1
  omega

theorem readCodes?_units {units : List Nat} (small : ∀ unit ∈ units, unit < 0x10000)
    (read : readCodes? tail = some (codes, after)) :
    readCodes? (units.flatMap unitEscape ++ tail) = some (units ++ codes, after) := by
  induction units with
  | nil => exact read
  | cons unit units ih =>
    obtain ⟨here, later⟩ := List.forall_mem_cons.1 small
    obtain ⟨a, b, c, d, digits, value⟩ := unitValue?_hexDigits here
    simp [unitEscape, digits, readCodes?, value, ih later]

theorem toNat_lt (c : Char) : c.toNat < 0x110000 := by
  rcases c.valid with low | high
  · exact Nat.lt_trans low (by decide)
  · exact high.2

theorem unitsOf_lt (c : Char) : ∀ unit ∈ unitsOf c.toNat, unit < 0x10000 := by
  have bound := toNat_lt c
  unfold unitsOf
  split_ifs with small
  · exact List.forall_mem_singleton.2 small
  · simp only [List.forall_mem_cons]
    exact ⟨by omega, by omega, nofun⟩

theorem readCodes?_writtenChar (c : Char) (read : readCodes? tail = some (codes, after)) :
    readCodes? (writtenChar c ++ tail) = some (unitsOf c.toNat ++ codes, after) := by
  unfold writtenChar
  split
  -- what has no short escape stands for itself if it is printable, or else for its units
  case h_8 _ noQuote noSlash _ _ _ _ _ =>
    split_ifs with printable
    · have unescaped : c ≠ '\\' := noSlash
      have plain : (decide (0x20 ≤ c.toNat) && decide (c ≠ '\\')) = true := by
        simp [printable.1, unescaped]
      have unit : unitsOf c.toNat = [c.toNat] := if_pos (by omega)
      rw [List.singleton_append, unit]
      unfold readCodes?
      split <;> simp_all
    · exact readCodes?_units (unitsOf_lt c) read
  all_goals
    simp [readCodes?, escaped?, read, unitsOf]

theorem joinUnits_unitsOf (c : Char) (codes : List Nat) :
    joinUnits (unitsOf c.toNat ++ codes) = c :: joinUnits codes := by
  unfold unitsOf
  split_ifs with single
  · have alone : isHighUnit c.toNat = false ∧ isLowUnit c.toNat = false := by
      have valid : c.toNat < 0xD800 ∨ 0xDFFF < c.toNat := c.valid.imp id And.left
      simp only [isHighUnit, isLowUnit, Bool.and_eq_false_iff, decide_eq_false_iff_not]
      omega
    have char : charOf c.toNat = c := by
      simp [charOf, alone]
    cases codes with
    | nil => rw [List.append_nil, joinUnits, char, joinUnits]
    | cons next codes =>
      rw [List.singleton_append, joinUnits, alone.1, char]
      rfl
  · have bound := toNat_lt c
    have high : isHighUnit (0xD800 + (c.toNat - 0x10000) / 0x400) = true := by
      simp only [isHighUnit, Bool.and_eq_true, decide_eq_true_eq]
      omega
    have low : isLowUnit (0xDC00 + (c.toNat - 0x10000) % 0x400) = true := by
      simp only [isLowUnit, Bool.and_eq_true, decide_eq_true_eq]
      omega
    have code : 0x10000 + (0xD800 + (c.toNat - 0x10000) / 0x400 - 0xD800) * 0x400 +
        (0xDC00 + (c.toNat - 0x10000) % 0x400 - 0xDC00) = c.toNat := by
      omega
    rw [List.cons_append, List.cons_append, joinUnits, high, low, code, Char.ofNat_toNat]
    rfl

theorem readText_written (s : String) (rest : List Char) :
    readText (s.toList.flatMap writtenChar ++ '"' :: rest) = .ok (s, rest) := by
  have read (chars : List Char) : readCodes? (chars.flatMap writtenChar ++ '"' :: rest) =
      some (chars.flatMap fun c => unitsOf c.toNat, rest) := by
    induction chars with
    | nil => rfl
    | cons c chars ih =>
      rw [List.flatMap_cons, List.flatMap_cons, List.append_assoc]
      exact readCodes?_writtenChar c ih
  have join (chars : List Char) : joinUnits (chars.flatMap fun c => unitsOf c.toNat) = chars := by
    induction chars with
    | nil => rfl
    | cons c chars ih => rw [List.flatMap_cons, joinUnits_unitsOf, ih]
  rw [readText, read]
  dsimp only
  rw [join, String.ofList_toList]

end Texts

/-! ## Documents -/

def StartsSimple (c : Char) : Prop := c.isDigit = true ∨ c ∈ ['-', 'n', 't', 'f', 'N', 'I']

def StartsValue (c : Char) : Prop := StartsSimple c ∨ c ∈ ['"', '[', '{']

section Simple

variable {c letter : Char} {s : List Char}

theorem StartsSimple.ne (starts : StartsSimple c) (noDigit : letter.isDigit = false)
    (other : letter ∉ ['-', 'n', 't', 'f', 'N', 'I']) : c ≠ letter := by
  rintro rfl
  exact starts.elim (fun digit => ne_of_isDigit digit noDigit rfl) other

theorem readValue_simple (starts : StartsSimple c) (depth : Nat) :
    readValue (depth + 1) (c :: s) = readSimple (c :: s) := by
  have noText : c ≠ '"' := starts.ne rfl (by decide)
  have noList : c ≠ '[' := starts.ne rfl (by decide)
  have noObject : c ≠ '\x7b' := starts.ne rfl (by decide)
  simp [readValue, noText, noList, noObject]

theorem exists_cons_writtenInt (n : Int) : ∃ c s, writtenInt n = c :: s ∧ StartsSimple c := by
  have isWhole := isWhole_decimalDigits n.natAbs
  obtain ⟨first, others, digits⟩ := List.exists_cons_of_ne_nil isWhole.ne_nil
  unfold writtenInt
  split_ifs
  · exact ⟨'-', _, rfl, .inr (by decide)⟩
  · exact ⟨first, others, digits, .inl (isWhole.isDigit first (by simp [digits]))⟩

theorem exists_cons_writtenNumber (x : Binary64) :
    ∃ c s, writtenNumber x = c :: s ∧ StartsSimple c := by
  cases x with
  | nan => exact ⟨'N', _, rfl, .inr (by decide)⟩
  | infinite negative =>
    cases negative with
    | false => exact ⟨'I', _, rfl, .inr (by decide)⟩
    | true => exact ⟨'-', _, rfl, .inr (by decide)⟩
  | finite negative mantissa exponent =>
    obtain ⟨first, others, text, digit⟩ := (isMagnitude_magnitudeText mantissa exponent).exists_cons
    cases negative with
    | false => exact ⟨first, others, by simp [writtenNumber, Binary64.writtenWith, text], .inl digit⟩
    | true =>
      exact ⟨'-', first :: others, by simp [writtenNumber, Binary64.writtenWith, text], .inr (by decide)⟩

theorem StartsValue.ne (starts : StartsValue c) (noDigit : letter.isDigit = false)
    (other : letter ∉ ['-', 'n', 't', 'f', 'N', 'I', '"', '[', '{']) : c ≠ letter := by
  rintro rfl
  rcases starts with simple | complex
  · exact simple.ne noDigit (fun member => other (List.mem_append_left ['"', '[', '{'] member)) rfl
  · exact other (List.mem_append_right ['-', 'n', 't', 'f', 'N', 'I'] complex)

theorem StartsValue.not_isSpace (starts : StartsValue c) : isSpace c = false := by
  have blank : c ≠ ' ' ∧ c ≠ '\t' ∧ c ≠ '\n' ∧ c ≠ '\r' :=
    ⟨starts.ne rfl (by decide), starts.ne rfl (by decide), starts.ne rfl (by decide),
      starts.ne rfl (by decide)⟩
  simp [isSpace, blank]

theorem exists_cons_written (d : Document) : ∃ c s, d.written = c :: s ∧ StartsValue c := by
  cases d with
  | null => exact ⟨'n', _, rfl, .inl (.inr (by decide))⟩
  | bool value =>
    cases value with
    | false => exact ⟨'f', _, rfl, .inl (.inr (by decide))⟩
    | true => exact ⟨'t', _, rfl, .inl (.inr (by decide))⟩
  | int n =>
    obtain ⟨c, s, text, starts⟩ := exists_cons_writtenInt n
    exact ⟨c, s, by rw [written, text], .inl starts⟩
  | number x =>
    obtain ⟨c, s, text, starts⟩ := exists_cons_writtenNumber x
    exact ⟨c, s, by rw [written, text], .inl starts⟩
  | text value => exact ⟨'"', _, by rw [written, writtenText, List.cons_append], .inr (by decide)⟩
  | list items => exact ⟨'[', _, by rw [written, List.cons_append], .inr (by decide)⟩
  | object members => exact ⟨'{', _, by rw [written, List.cons_append], .inr (by decide)⟩

end Simple

def Opens (s : List Char) : Prop := ∃ c tail, s = c :: tail ∧ StartsValue c

section Steps

variable {s next rest : List Char} {depth : Nat} {value : Document}

theorem skipSpace_of_opens (opens : Opens s) : skipSpace s = s := by
  obtain ⟨c, tail, rfl, starts⟩ := opens
  simp [skipSpace, starts.not_isSpace]

theorem skipSpace_blank (opens : Opens s) : skipSpace (' ' :: s) = s := by
  rw [skipSpace, List.dropWhile_cons_of_pos rfl]
  exact skipSpace_of_opens opens

theorem opens_written (d : Document) (rest : List Char) : Opens (d.written ++ rest) := by
  obtain ⟨c, s, text, starts⟩ := exists_cons_written d
  exact ⟨c, s ++ rest, by rw [text, List.cons_append], starts⟩

theorem exists_cons_writtenItems {items : List Document} (nonempty : items ≠ []) :
    ∃ c s, writtenItems items = c :: s ∧ StartsValue c := by
  match items with
  | [] => exact absurd rfl nonempty
  | [item] => exact exists_cons_written item
  | item :: next :: others =>
    obtain ⟨c, s, text, starts⟩ := exists_cons_written item
    exact ⟨c, s ++ ',' :: ' ' :: writtenItems (next :: others), by simp [writtenItems, text], starts⟩

theorem exists_cons_writtenMembers {members : List (String × Document)} (nonempty : members ≠ []) :
    ∃ s, writtenMembers members = '"' :: s := by
  match members with
  | [] => exact absurd rfl nonempty
  | [(key, value)] => exact ⟨_, rfl⟩
  | (key, value) :: next :: others => exact ⟨_, rfl⟩

theorem opens_writtenItems {items : List Document} (nonempty : items ≠ []) (rest : List Char) :
    Opens (writtenItems items ++ rest) := by
  obtain ⟨c, s, text, starts⟩ := exists_cons_writtenItems nonempty
  exact ⟨c, s ++ rest, by rw [text, List.cons_append], starts⟩

theorem opens_writtenMembers {members : List (String × Document)} (nonempty : members ≠ [])
    (rest : List Char) : Opens (writtenMembers members ++ rest) := by
  obtain ⟨s, text⟩ := exists_cons_writtenMembers nonempty
  exact ⟨'"', s ++ rest, by rw [text, List.cons_append], .inr (by decide)⟩

theorem readItems_last (read : readValue depth s = .ok (value, ']' :: rest)) :
    readItems (depth + 1) s = .ok ([value], rest) := by
  simp [readItems, read, skipSpace, isSpace]

theorem readItems_cons {items : List Document}
    (read : readValue depth s = .ok (value, ',' :: ' ' :: next)) (opens : Opens next)
    (others : readItems depth next = .ok (items, rest)) :
    readItems (depth + 1) s = .ok (value :: items, rest) := by
  have comma : skipSpace (',' :: ' ' :: next) = ',' :: ' ' :: next := rfl
  simp [readItems, read, comma, skipSpace_blank opens, others]

theorem readValue_list {items : List Document} (opens : Opens (skipSpace s))
    (read : readItems depth (skipSpace s) = .ok (items, rest)) :
    readValue (depth + 1) ('[' :: s) = .ok (.list items, rest) := by
  obtain ⟨c, tail, first, starts⟩ := opens
  have some : c ≠ ']' := starts.ne rfl (by decide)
  rw [first] at read
  simp [readValue, first, some, read]

theorem readMembers_last (key : String) (opens : Opens s)
    (read : readValue depth s = .ok (value, '}' :: rest)) :
    readMembers (depth + 1) (writtenText key ++ ':' :: ' ' :: s) = .ok ([(key, value)], rest) := by
  have readKey := readText_written key (':' :: ' ' :: s)
  have colon : skipSpace (':' :: ' ' :: s) = ':' :: ' ' :: s := rfl
  have brace : skipSpace ('}' :: rest) = '}' :: rest := rfl
  simp [writtenText, readMembers, readKey, colon, skipSpace_blank opens, read,
    brace]

theorem readMembers_cons (key : String) {members : List (String × Document)} (opens : Opens s)
    (read : readValue depth s = .ok (value, ',' :: ' ' :: next)) (opens' : Opens next)
    (others : readMembers depth next = .ok (members, rest)) :
    readMembers (depth + 1) (writtenText key ++ ':' :: ' ' :: s) =
      .ok ((key, value) :: members, rest) := by
  have readKey := readText_written key (':' :: ' ' :: s)
  have colon : skipSpace (':' :: ' ' :: s) = ':' :: ' ' :: s := rfl
  have comma : skipSpace (',' :: ' ' :: next) = ',' :: ' ' :: next := rfl
  simp [writtenText, readMembers, readKey, colon, skipSpace_blank opens, read,
    comma, skipSpace_blank opens', others]

theorem readValue_object {members : List (String × Document)} {c : Char} (starts : StartsValue c)
    (read : readMembers depth (c :: s) = .ok (members, rest)) :
    readValue (depth + 1) ('{' :: c :: s) = .ok (.object (Fields.ofPairs members), rest) := by
  have first : skipSpace (c :: s) = c :: s := skipSpace_of_opens ⟨c, s, rfl, starts⟩
  have some : c ≠ '}' := starts.ne rfl (by decide)
  simp [readValue, first, some, read]

end Steps

/-- What the reader takes a written document for, up to what follows it. Two levels for each character
are deep enough: one for a value, one for the rest of the list or object around it. -/
def IsReadAs (d d' : Document) : Prop :=
  ∀ rest depth, Ends rest → 2 * d.written.length ≤ depth →
    readValue depth (d.written ++ rest) = .ok (d', rest)

namespace IsReadAs

variable {d d' : Document} {items items' : List Document} {members members' : Fields Document}

theorem of_step (step : ∀ rest depth, Ends rest → 2 * d.written.length ≤ depth + 1 →
    readValue (depth + 1) (d.written ++ rest) = .ok (d', rest)) : IsReadAs d d' := by
  intro rest depth ends deep
  obtain ⟨c, s, text, -⟩ := exists_cons_written d
  cases depth with
  | zero => simp [text] at deep
  | succ depth => exact step rest depth ends deep

theorem of_readSimple (starts : ∃ c s, d.written = c :: s ∧ StartsSimple c)
    (read : ∀ rest, Ends rest → readSimple (d.written ++ rest) = .ok (d', rest)) :
    IsReadAs d d' := by
  obtain ⟨c, s, text, starts⟩ := starts
  refine of_step fun rest depth ends _ => ?_
  have read := read rest ends
  rw [text, List.cons_append] at read ⊢
  rw [readValue_simple starts, read]

theorem null : IsReadAs .null .null :=
  of_readSimple ⟨'n', _, rfl, .inr (by decide)⟩ fun _ _ => rfl

theorem bool (value : Bool) : IsReadAs (.bool value) (.bool value) := by
  cases value with
  | true => exact of_readSimple ⟨'t', _, rfl, .inr (by decide)⟩ fun _ _ => rfl
  | false => exact of_readSimple ⟨'f', _, rfl, .inr (by decide)⟩ fun _ _ => rfl

theorem int {n : Int} (short : (Numeral.write? n).isSome = true) : IsReadAs (.int n) (.int n) :=
  of_readSimple (exists_cons_writtenInt n) fun _ ends => readSimple_writtenInt short ends

theorem text (value : String) : IsReadAs (.text value) (.text value) := by
  refine of_step fun rest depth _ _ => ?_
  have read := readText_written value rest
  simp [written, writtenText, readValue, read]

theorem readItems (read : List.Forall₂ IsReadAs items items') (nonempty : items ≠ [])
    (rest : List Char) (depth : Nat) (deep : 2 * (writtenItems items).length ≤ depth) :
    Document.readItems (depth + 1) (writtenItems items ++ ']' :: rest) = .ok (items', rest) := by
  induction read generalizing depth with
  | nil => exact absurd rfl nonempty
  | @cons item item' others others' here later ih =>
    cases others with
    | nil =>
      cases later
      exact readItems_last (here (']' :: rest) depth (ends_cons (by decide) rest) deep)
    | cons next others =>
      simp only [writtenItems, List.length_append, List.length_cons, List.append_assoc,
        List.cons_append] at deep ⊢
      cases depth with
      | zero => omega
      | succ depth =>
        exact readItems_cons (here _ (depth + 1) (ends_cons (by decide) _) (by omega))
          (opens_writtenItems (List.cons_ne_nil _ _) _) (ih (List.cons_ne_nil _ _) depth (by omega))

theorem list (read : List.Forall₂ IsReadAs items items') : IsReadAs (.list items) (.list items') := by
  refine of_step fun rest depth _ deep => ?_
  cases items with
  | nil =>
    cases read
    rfl
  | cons item others =>
    have nonempty : item :: others ≠ [] := List.cons_ne_nil _ _
    have opens := opens_writtenItems nonempty (']' :: rest)
    simp only [written, List.length_append, List.length_cons, List.append_assoc, List.cons_append,
      List.nil_append] at deep ⊢
    cases depth with
    | zero => omega
    | succ depth =>
      have read := readItems read nonempty rest depth (by omega)
      refine readValue_list ?_ ?_ <;> rw [skipSpace_of_opens opens]
      · exact opens
      · exact read

theorem readMembers
    (read : List.Forall₂ (fun old new => new.1 = old.1 ∧ IsReadAs old.2 new.2) members members')
    (nonempty : members ≠ []) (rest : List Char) (depth : Nat)
    (deep : 2 * (writtenMembers members).length ≤ depth) :
    Document.readMembers (depth + 1) (writtenMembers members ++ '}' :: rest) =
      .ok (members', rest) := by
  induction read generalizing depth with
  | nil => exact absurd rfl nonempty
  | @cons old new others others' here later ih =>
    obtain ⟨key, value⟩ := old
    obtain ⟨key', value'⟩ := new
    obtain ⟨rfl, here⟩ := here
    cases others with
    | nil =>
      cases later
      simp only [writtenMembers, List.length_append, List.length_cons, List.append_assoc,
        List.cons_append] at deep ⊢
      exact readMembers_last key' (opens_written value _)
        (here ('}' :: rest) depth (ends_cons (by decide) rest) (by dsimp only; omega))
    | cons next others =>
      simp only [writtenMembers, List.length_append, List.length_cons, List.append_assoc,
        List.cons_append] at deep ⊢
      cases depth with
      | zero => omega
      | succ depth =>
        exact readMembers_cons key' (opens_written value _)
          (here _ (depth + 1) (ends_cons (by decide) _) (by dsimp only; omega))
          (opens_writtenMembers (List.cons_ne_nil _ _) _)
          (ih (List.cons_ne_nil _ _) depth (by omega))

theorem object
    (read : List.Forall₂ (fun old new => new.1 = old.1 ∧ IsReadAs old.2 new.2) members members') :
    IsReadAs (.object members) (.object (Fields.ofPairs members')) := by
  refine of_step fun rest depth _ deep => ?_
  cases members with
  | nil =>
    cases read
    rfl
  | cons member others =>
    have nonempty : member :: others ≠ [] := List.cons_ne_nil _ _
    obtain ⟨s, text⟩ := exists_cons_writtenMembers nonempty
    simp only [written, List.length_append, List.length_cons, List.append_assoc, List.cons_append,
      List.nil_append] at deep ⊢
    cases depth with
    | zero => omega
    | succ depth =>
      have read := readMembers read nonempty rest depth (by omega)
      rw [text, List.cons_append] at read ⊢
      exact readValue_object (.inr (by decide)) read

theorem read_write (read : IsReadAs d d') : Document.read d.write = .ok d' := by
  have value := read [] (2 * d.written.length + 1) ends_nil (Nat.le_succ _)
  rw [List.append_nil] at value
  obtain ⟨c, s, text, starts⟩ := exists_cons_written d
  have start : skipSpace d.written = d.written := skipSpace_of_opens ⟨c, s, text, starts⟩
  have noMark : d.written.head? ≠ some '\ufeff' := by
    rw [text]
    exact fun same => starts.ne rfl (by decide) (Option.some.inj same)
  rw [Document.read, write, String.toList_ofList, if_neg noMark, readChars, start, value]
  rfl

end IsReadAs

theorem exists_forall₂ {α β : Type} {R : α → β → Prop} {items : List α}
    (each : ∀ item ∈ items, ∃ item', R item item') : ∃ items', List.Forall₂ R items items' := by
  induction items with
  | nil => exact ⟨[], .nil⟩
  | cons item items ih =>
    obtain ⟨⟨item', here⟩, later⟩ := List.forall_mem_cons.1 each
    obtain ⟨items', others⟩ := ih later
    exact ⟨item' :: items', .cons here others⟩

theorem exists_isReadAs (d : Document) (writable : d.isWritable = true) :
    ∃ d', IsReadAs d d' ∧ (d.isObject = true → d'.isObject = true) := by
  cases d with
  | null => exact ⟨_, .null, nofun⟩
  | bool value => exact ⟨_, .bool value, nofun⟩
  | int n =>
    rw [isWritable] at writable
    exact ⟨_, .int writable, nofun⟩
  | number x =>
    obtain ⟨d', read⟩ := exists_readSimple_writtenNumber x
    exact ⟨d', .of_readSimple (exists_cons_writtenNumber x) read, nofun⟩
  | text value => exact ⟨_, .text value, nofun⟩
  | list items =>
    rw [isWritable, areWritable_iff] at writable
    obtain ⟨items', read⟩ := exists_forall₂ fun item member =>
      (exists_isReadAs item (writable item member)).imp fun _ => And.left
    exact ⟨_, .list read, nofun⟩
  | object members =>
    rw [isWritable, areMembersWritable_iff] at writable
    obtain ⟨members', read⟩ : ∃ members' : Fields Document,
        List.Forall₂ (fun old new => new.1 = old.1 ∧ IsReadAs old.2 new.2) members members' := by
      refine exists_forall₂ fun member listed => ?_
      have smaller : sizeOf member.2 < sizeOf (Document.object members) := by
        have listed := List.sizeOf_lt_of_mem listed
        obtain ⟨key, value⟩ := member
        simp only [Prod.mk.sizeOf_spec, object.sizeOf_spec] at listed ⊢
        omega
      obtain ⟨value', read, -⟩ := exists_isReadAs member.2 (writable member listed)
      exact ⟨(member.1, value'), rfl, read⟩
    exact ⟨_, .object read, fun _ => rfl⟩
termination_by sizeOf d

end ApplianceCloud.Document
