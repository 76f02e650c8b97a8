/-!
# Searching and replacing

Occurrences of one text in another. `cut?` finds the first one, `splitOn` cuts at all of them from
left to right without overlaps, and `replaceFirst` and `replaceAll` put another text in their place.
-/

namespace Colloquy.Text

/-- What follows a given beginning of a text. -/
def afterStart? : List Char → List Char → Option (List Char)
  | [], s => some s
  | _ :: _, [] => none
  | p :: ps, c :: cs => if p = c then afterStart? ps cs else none

/-- The texts before and after the first occurrence of a pattern; `seen` is what was passed. -/
def cutFrom? (p seen : List Char) : List Char → Option (List Char × List Char)
  | [] => if p = [] then some (seen.reverse, []) else none
  | c :: cs =>
    match afterStart? p (c :: cs) with
    | some rest => some (seen.reverse, rest)
    | none => cutFrom? p (c :: seen) cs

/-- The texts before and after the first occurrence of a pattern. -/
def cut? (p s : List Char) : Option (List Char × List Char) :=
  cutFrom? p [] s

/-- Whether a pattern occurs in a text. -/
def occursIn (p s : List Char) : Bool :=
  (cut? p s).isSome

/-- The pieces between the occurrences of a pattern, where `skip` characters still belong to the
last occurrence and `piece` holds the characters since it, the latest first. -/
def splitFrom (p : List Char) : Nat → List Char → List Char → List (List Char)
  | _, piece, [] => [piece.reverse]
  | skip + 1, piece, _ :: cs => splitFrom p skip piece cs
  | 0, piece, c :: cs =>
    if (afterStart? p (c :: cs)).isSome then
      piece.reverse :: splitFrom p (p.length - 1) [] cs
    else
      splitFrom p 0 (c :: piece) cs

/-- The pieces between the occurrences of a nonempty pattern, taken from left to right. -/
def splitOn (p s : List Char) : List (List Char) :=
  splitFrom p 0 [] s

/-- The text with its first occurrence of a pattern replaced. -/
def replaceFirst (p v s : List Char) : List Char :=
  match cut? p s with
  | some (before, after) => before ++ v ++ after
  | none => s

/-- The text with every occurrence of a nonempty pattern replaced. -/
def replaceAll (p v s : List Char) : List Char :=
  v.intercalate (splitOn p s)

/-! ## What a cut leaves -/

theorem afterStart?_eq_some {p s r : List Char} : afterStart? p s = some r ↔ s = p ++ r := by
  induction p generalizing s with
  | nil => simp [afterStart?]
  | cons c p ih =>
    cases s with
    | nil => simp [afterStart?]
    | cons d s =>
      by_cases h : c = d
      · simp [afterStart?, h, ih]
      · simp [afterStart?, h, Ne.symm h]

theorem cutFrom?_eq_some {p seen s a b : List Char} (h : cutFrom? p seen s = some (a, b)) :
    seen.reverse ++ s = a ++ p ++ b := by
  induction s generalizing seen with
  | nil =>
    simp only [cutFrom?] at h
    split at h <;> simp_all
  | cons c s ih =>
    simp only [cutFrom?] at h
    split at h
    · rename_i rest hr
      simp only [Option.some.injEq, Prod.mk.injEq] at h
      obtain ⟨rfl, rfl⟩ := h
      rw [afterStart?_eq_some.1 hr, List.append_assoc]
    · simpa using ih h

theorem cut?_eq_some {p s a b : List Char} (h : cut? p s = some (a, b)) : s = a ++ p ++ b := by
  simpa using cutFrom?_eq_some h

end Colloquy.Text
