set_option autoImplicit false

/-! # Lexemes of address fields

The pieces that the address fields of a message are made of: atoms, quoted strings, comments and
domain literals. Each function here takes one piece off a list of characters and leaves the rest,
which is never longer: the lemmas `length_…_le` say so, and every loop over a field ends because of
them.

Comments nest, and end early at a carriage return, as quoted strings and domain literals do. A
backslash takes the next character into the piece whatever it is. -/

namespace Rapport.Mail

/-! ## Classes of characters -/

/-- A blank within a line. -/
def isSpace (c : Char) : Bool := c == ' ' || c == '\t'

/-- A blank or the end of a line. -/
def isFolding (c : Char) : Bool := isSpace c || c == '\r' || c == '\n'

/-- A character with a meaning of its own in an address. -/
def isSpecial (c : Char) : Bool := "()<>@,:;.\"[]".toList.contains c

/-- A character that ends an atom. -/
def endsAtom (c : Char) : Bool := isSpecial c || isFolding c

/-- A character that ends a word of a display name, where points are allowed. -/
def endsWord (c : Char) : Bool := endsAtom c && c != '.'

/-! ## Pieces between delimiters -/

/-- What follows a comment, of which `depth` parentheses are still open. -/
def afterComment : Nat → List Char → List Char
  | 0, cs => cs
  | _ + 1, [] => []
  | _ + 1, ['\\'] => []
  | depth + 1, '\\' :: _ :: rest => afterComment (depth + 1) rest
  | depth + 1, c :: rest =>
    if c = ')' ∨ c = '\r' then afterComment depth rest
    else if c = '(' then afterComment (depth + 2) rest
    else afterComment (depth + 1) rest

/-- The text up to the character `close`, which is taken as well, and what follows it. -/
def upTo (close : Char) : List Char → List Char × List Char
  | [] => ([], [])
  | ['\\'] => ([], [])
  | '\\' :: c :: rest =>
    let more := upTo close rest
    (c :: more.1, more.2)
  | c :: rest =>
    if c = close ∨ c = '\r' then ([], rest)
    else
      let more := upTo close rest
      (c :: more.1, more.2)

theorem length_afterComment_le (depth : Nat) (cs : List Char) :
    (afterComment depth cs).length ≤ cs.length := by
  fun_induction afterComment depth cs with
  | case1 => exact Nat.le_refl _
  | case2 => exact Nat.le_refl _
  | case3 => exact Nat.zero_le _
  | case4 depth c rest ih => simp only [List.length_cons]; omega
  | case5 => simp only [List.length_cons]; omega
  | case6 => simp only [List.length_cons]; omega
  | case7 => simp only [List.length_cons]; omega

theorem length_upTo_le (close : Char) (cs : List Char) :
    (upTo close cs).2.length ≤ cs.length := by
  fun_induction upTo close cs with
  | case1 => exact Nat.le_refl _
  | case2 => exact Nat.zero_le _
  | case3 c rest more ih =>
    have : more.2.length ≤ rest.length := ih
    simp only [List.length_cons]
    omega
  | case4 => simp only [List.length_cons]; omega
  | case5 c rest _ _ _ more ih =>
    have : more.2.length ≤ rest.length := ih
    simp only [List.length_cons]
    omega

theorem length_dropWhile_le (p : Char → Bool) (cs : List Char) :
    (cs.dropWhile p).length ≤ cs.length :=
  (List.dropWhile_sublist p).length_le

/-! ## Blanks and comments -/

/-- Skip blanks, line ends and comments. The blanks are kept: they may belong to an address. -/
def skip : List Char → List Char × List Char
  | [] => ([], [])
  | c :: rest =>
    if isSpace c then
      let more := skip rest
      (c :: more.1, more.2)
    else if isFolding c then skip rest
    else if c = '(' then skip (afterComment 1 rest)
    else ([], c :: rest)
termination_by cs => cs.length
decreasing_by
  all_goals simp only [List.length_cons]
  · omega
  · omega
  · have := length_afterComment_le 1 rest; omega

theorem length_skip_le (cs : List Char) : (skip cs).2.length ≤ cs.length := by
  fun_induction skip cs with
  | case1 => exact Nat.le_refl _
  | case2 c rest _ more ih =>
    have : more.2.length ≤ rest.length := ih
    simp only [List.length_cons]
    omega
  | case3 c rest _ _ ih => simp only [List.length_cons]; omega
  | case4 rest _ _ ih =>
    have := length_afterComment_le 1 rest
    simp only [List.length_cons]
    omega
  | case5 => exact Nat.le_refl _

/-! ## Whole-field checks -/

/-- The text without its quoted sections. A quotation that nobody closes is no section: it stays,
    with all that follows; the first argument holds it, last character first, while its end is
    sought. -/
def withoutQuotations : Option (List Char) → List Char → List Char
  | none, [] => []
  | some kept, [] => kept.reverse
  | none, '\\' :: c :: rest => '\\' :: c :: withoutQuotations none rest
  | some kept, '\\' :: c :: rest => withoutQuotations (some (c :: '\\' :: kept)) rest
  | none, c :: rest =>
    if c = '"' then withoutQuotations (some [c]) rest else c :: withoutQuotations none rest
  | some kept, c :: rest =>
    if c = '"' then withoutQuotations none rest else withoutQuotations (some (c :: kept)) rest

/-- Whether every parenthesis is closed, when `depth` are open already. -/
def balanced : Nat → List Char → Bool
  | depth, [] => depth == 0
  | depth, '\\' :: _ :: rest => balanced depth rest
  | depth, c :: rest =>
    if c = '(' then balanced (depth + 1) rest
    else if c = ')' then depth != 0 && balanced (depth - 1) rest
    else balanced depth rest

end Rapport.Mail
