/-!
# Splitting at marks

A text is split at the last occurrence of a character, or at each. What stands behind the
last occurrence does not contain it, so joining two parts and splitting again gives them
back as long as the second part is free of it. Split at each occurrence, two parts that are
joined are split as they were before.
-/
namespace PredictiveScaling.Text

/-- The parts before and behind the last occurrence of a character. -/
def splitLastChars? (d : Char) (cs : List Char) : Option (List Char × List Char) :=
  match cs.reverse.dropWhile (· ≠ d) with
  | [] => none
  | _ :: before => some (before.reverse, (cs.reverse.takeWhile (· ≠ d)).reverse)

def splitLast? (d : Char) (s : String) : Option (String × String) :=
  (splitLastChars? d s.toList).map fun (a, b) => (String.ofList a, String.ofList b)

theorem splitLastChars?_append (d : Char) (a b : List Char) (h : d ∉ b) :
    splitLastChars? d (a ++ d :: b) = some (a, b) := by
  have hb : ∀ c ∈ b.reverse, decide (c ≠ d) = true := by
    intro c hc
    simp only [List.mem_reverse] at hc
    simpa using fun hcd : c = d => h (hcd ▸ hc)
  have hrev : (a ++ d :: b).reverse = b.reverse ++ d :: a.reverse := by simp
  unfold splitLastChars?
  rw [hrev, List.dropWhile_append_of_pos hb, List.takeWhile_append_of_pos hb]
  simp

theorem splitLastChars?_eq_none {d : Char} {cs : List Char} (h : d ∉ cs) :
    splitLastChars? d cs = none := by
  have hall : ∀ c ∈ cs.reverse, decide (c ≠ d) = true := by
    intro c hc
    simp only [List.mem_reverse] at hc
    simpa using fun hcd : c = d => h (hcd ▸ hc)
  have hd : cs.reverse.dropWhile (· ≠ d) = [] := by
    have happ : (cs.reverse ++ []).dropWhile (· ≠ d) = List.dropWhile (· ≠ d) [] :=
      List.dropWhile_append_of_pos hall
    simpa using happ
  simp only [splitLastChars?, hd]

/-! ## At each occurrence -/

/-- Put a character before the first part. -/
def extendFirst (c : Char) : List (List Char) → List (List Char)
  | [] => [[c]]
  | part :: parts => (c :: part) :: parts

/-- The parts between the occurrences of a character. -/
def splitChars (d : Char) : List Char → List (List Char)
  | [] => [[]]
  | c :: cs => if c = d then [] :: splitChars d cs else extendFirst c (splitChars d cs)

theorem splitChars_ne_nil (d : Char) (cs : List Char) : splitChars d cs ≠ [] := by
  cases cs with
  | nil => exact List.cons_ne_nil _ _
  | cons c cs =>
    rw [splitChars]
    split
    · exact List.cons_ne_nil _ _
    · cases splitChars d cs <;> exact List.cons_ne_nil _ _

theorem splitChars_append (d : Char) (a b : List Char) :
    splitChars d (a ++ d :: b) = splitChars d a ++ splitChars d b := by
  induction a with
  | nil => simp [splitChars]
  | cons c a ih =>
    rw [List.cons_append, splitChars, splitChars, ih]
    split
    · rfl
    · cases hparts : splitChars d a with
      | nil => exact absurd hparts (splitChars_ne_nil d a)
      | cons part parts => rfl

end PredictiveScaling.Text
