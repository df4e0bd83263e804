namespace ApplianceCloud.Text

def replace (word replacement : List Char) : List Char → List Char
  | [] => []
  | c :: rest =>
      if word.isPrefixOf (c :: rest) then
        replacement ++ replace word replacement (rest.drop (word.length - 1))
      else c :: replace word replacement rest
termination_by s => s.length
decreasing_by
  all_goals simp only [List.length_cons, List.length_drop]
  all_goals omega

theorem replace_cons_of_not_prefix {word replacement rest : List Char} {c : Char}
    (h : word.isPrefixOf (c :: rest) = false) :
    replace word replacement (c :: rest) = c :: replace word replacement rest := by
  rw [replace]
  simp [h]

theorem replace_append (word replacement rest : List Char) (h : word ≠ []) :
    replace word replacement (word ++ rest) = replacement ++ replace word replacement rest := by
  cases word with
  | nil => exact absurd rfl h
  | cons c tail =>
    have here : (c :: tail).isPrefixOf (c :: (tail ++ rest)) = true := by
      simp
    rw [List.cons_append, replace, if_pos here]
    simp

end ApplianceCloud.Text
