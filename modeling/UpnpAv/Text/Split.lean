/-!
# Splitting a text

A text is split at every occurrence of a separator, so it has one part more
than it has separators.
-/

namespace UpnpAv
namespace Text

/-- The parts of a text between the occurrences of a separator. -/
def splitOn (separator : Char) : List Char -> List (List Char)
  | [] => [[]]
  | c :: rest =>
      if c = separator then [] :: splitOn separator rest
      else
        match splitOn separator rest with
        | [] => [[c]]
        | first :: more => (c :: first) :: more

/-- The parts joined again, with a separator between each two of them. -/
def join (separator : List Char) : List (List Char) -> List Char
  | [] => []
  | [part] => part
  | part :: rest => part ++ separator ++ join separator rest

/-- A text before the first occurrence of a separator; all of it when there is none. -/
def upTo (separator : Char) (text : List Char) : List Char :=
  text.takeWhile (· ≠ separator)

/-- The parts of a text around the first occurrence of a separator. -/
def splitOnce? (separator : Char) (text : List Char) : Option (List Char × List Char) :=
  match text.dropWhile (· ≠ separator) with
  | [] => none
  | _ :: after => some (upTo separator text, after)

@[simp] theorem splitOn_nil (separator : Char) : splitOn separator [] = [[]] :=
  rfl

theorem splitOn_ne_nil (separator : Char) (text : List Char) :
    splitOn separator text ≠ [] := by
  cases text with
  | nil =>
      simp
  | cons c rest =>
      unfold splitOn
      split
      · simp
      · split <;> simp

theorem splitOn_cons_self (separator : Char) (rest : List Char) :
    splitOn separator (separator :: rest) = [] :: splitOn separator rest := by
  simp [splitOn]

/-- Joining undoes splitting. -/
theorem join_splitOn (separator : Char) (text : List Char) :
    join [separator] (splitOn separator text) = text := by
  induction text with
  | nil =>
      rfl
  | cons c rest ih =>
      by_cases same : c = separator
      · subst same
        rw [splitOn_cons_self]
        cases parts : splitOn c rest with
        | nil =>
            exact absurd parts (splitOn_ne_nil c rest)
        | cons first more =>
            rw [parts] at ih
            simp [join, ih]
      · cases parts : splitOn separator rest with
        | nil =>
            exact absurd parts (splitOn_ne_nil separator rest)
        | cons first more =>
            rw [parts] at ih
            cases more with
            | nil =>
                simp_all [splitOn, join]
            | cons second others =>
                simp_all [splitOn, join]

end Text
end UpnpAv
