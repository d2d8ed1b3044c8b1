import RecordQuery.Unicode.WhiteSpace

/-!
# White space in patterns

While white space is ignored, white space and comments up to the end of a line may stand between
the characters of a pattern. The characters outside of it are the visible ones; without the flag
all are visible.
-/

namespace RecordQuery.Regex

/-- Reads visible characters that satisfy `p`, at most `limit` of them. What is left starts with a
visible character. -/
def readRun (ignore : Bool) (p : Char → Bool) (limit : Nat) (inComment : Bool) :
    List Char → List Char × List Char
  | [] => ([], [])
  | c :: rest =>
    if inComment then readRun ignore p limit (c != '\n') rest
    else if ignore && Unicode.isWhiteSpace c then readRun ignore p limit false rest
    else if ignore && c == '#' then readRun ignore p limit true rest
    else if limit == 0 || !p c then ([], c :: rest)
    else
      let (run, left) := readRun ignore p (limit - 1) false rest
      (c :: run, left)

/-- What follows from the next visible character on. -/
def skip (ignore : Bool) (s : List Char) : List Char :=
  (readRun ignore (fun _ => false) 0 false s).2

/-- The next character past the first of `s`: of the ones that are not white space, and past one
number sign, if white space is ignored; the very next one where none is left. -/
def peekPast (ignore : Bool) (s : List Char) : Option Char :=
  let rest := s.tail
  if ignore then
    let visible := rest.dropWhile Unicode.isWhiteSpace
    let visible := match visible with
      | '#' :: more => more.dropWhile Unicode.isWhiteSpace
      | _ => visible
    visible.head? <|> rest.head?
  else rest.head?

end RecordQuery.Regex
