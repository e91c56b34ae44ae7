/-!
# Line ends

A text that is read from outside has its line ends unified: a carriage return, alone or followed by
a line feed, counts as one line feed.
-/

namespace MarkupDsl.Text

def unifyLineEnds : List Char → List Char
  | [] => []
  | '\r' :: '\n' :: rest => '\n' :: unifyLineEnds rest
  | '\r' :: rest => '\n' :: unifyLineEnds rest
  | c :: rest => c :: unifyLineEnds rest

/-- A text without carriage returns stays as it is. -/
theorem unifyLineEnds_of_notMem {cs : List Char} (free : '\r' ∉ cs) : unifyLineEnds cs = cs := by
  fun_induction unifyLineEnds cs with
  | case1 => rfl
  | case2 | case3 => exact absurd List.mem_cons_self free
  | case4 c rest _ _ ih => rw [ih fun later => free (List.mem_cons_of_mem c later)]

end MarkupDsl.Text
